import MiniGdbstub.LockStep
import MiniGdbstub.TwoRuns

/-!
# Corrupted packets have no effect

A packet that fails `packet_csum_verify` is discarded: all that is left of it is an
acknowledgement and the failure counter, which no handler reads.  So the run of `gdbstub_run`
on some packets and the run on those of them that are not corrupted go through states that
differ in the acknowledgements and in the counter only (`SameEffect`).

* `gdbstubTurn_corrupted` is the turn for a corrupted packet: it counts, and leaves the run
  when the count reaches `CONN_MAX_FAILURES`.
* `gdbstubTurn_intact` compares the turns of the two runs for any other packet; if they go
  on, the counter is zero.
* `gdbstubRun_same` follows the two runs to the end of the first, if it does not give up.
  `gdbstubRun_givesUp` says where it gives up: at the end of `CONN_MAX_FAILURES` corrupted
  packets in a row, which the counter has counted from zero.
-/

namespace MiniGdbstub

open CString

variable {σ : Type} (stub : Gdbstub σ)

/-! ## Runs -/

/-- How far `gdbstub_run` has come: it waits for another packet, or has returned, or a
handler faulted. -/
inductive Ended
  | waits
  | returned (ret : Bool)
  | faulted (fault : Fault)
  deriving DecidableEq, Repr

/-- The loop of `gdbstub_run` on the packets that the queue gives it.  Packets behind the
one that ends the run are not taken. -/
def gdbstubRun : List (Packet UInt8) → StubState σ → Ended × StubState σ
  | [], state => (.waits, state)
  | pkt :: pkts, state =>
      match gdbstubTurn stub pkt state with
      | (.ok none, after) => gdbstubRun pkts after
      | (.ok (some ret), after) => (.returned ret, after)
      | (.error fault, after) => (.faulted fault, after)

section

variable {stub}

theorem gdbstubRun_cons_of_none {pkt : Packet UInt8} {state after : StubState σ}
    (hturn : gdbstubTurn stub pkt state = (.ok none, after)) (pkts : List (Packet UInt8)) :
    gdbstubRun stub (pkt :: pkts) state = gdbstubRun stub pkts after := by
  rw [gdbstubRun, hturn]

theorem gdbstubRun_cons_of_some {pkt : Packet UInt8} {state after : StubState σ} {ret : Bool}
    (hturn : gdbstubTurn stub pkt state = (.ok (some ret), after))
    (pkts : List (Packet UInt8)) :
    gdbstubRun stub (pkt :: pkts) state = (.returned ret, after) := by
  rw [gdbstubRun, hturn]

theorem gdbstubRun_cons_of_error {pkt : Packet UInt8} {state after : StubState σ}
    {fault : Fault} (hturn : gdbstubTurn stub pkt state = (.error fault, after))
    (pkts : List (Packet UInt8)) :
    gdbstubRun stub (pkt :: pkts) state = (.faulted fault, after) := by
  rw [gdbstubRun, hturn]

end

theorem gdbstubRun_append_of_waits {served : List (Packet UInt8)} :
    ∀ {state after : StubState σ}, gdbstubRun stub served state = (.waits, after) →
      ∀ pkts, gdbstubRun stub (served ++ pkts) state = gdbstubRun stub pkts after := by
  induction served with
  | nil =>
      intro state after hserved pkts
      cases hserved
      rfl
  | cons pkt served ih =>
      intro state after hserved pkts
      rcases hturn : gdbstubTurn stub pkt state with ⟨fault | _ | ret, between⟩
      · rw [gdbstubRun_cons_of_error hturn] at hserved
        cases hserved
      · rw [gdbstubRun_cons_of_none hturn] at hserved
        rw [List.cons_append, gdbstubRun_cons_of_none hturn]
        exact ih hserved pkts
      · rw [gdbstubRun_cons_of_some hturn] at hserved
        cases hserved

/-- Once a run has ended, more packets change nothing. -/
theorem gdbstubRun_append_of_ended {served : List (Packet UInt8)} :
    ∀ {state : StubState σ}, (gdbstubRun stub served state).1 ≠ .waits →
      ∀ pkts, gdbstubRun stub (served ++ pkts) state = gdbstubRun stub served state := by
  induction served with
  | nil =>
      intro state hended pkts
      exact absurd rfl hended
  | cons pkt served ih =>
      intro state hended pkts
      rw [List.cons_append]
      rcases hturn : gdbstubTurn stub pkt state with ⟨fault | _ | ret, between⟩
      · rw [gdbstubRun_cons_of_error hturn, gdbstubRun_cons_of_error hturn]
      · rw [gdbstubRun_cons_of_none hturn] at hended ⊢
        rw [gdbstubRun_cons_of_none hturn]
        exact ih hended pkts
      · rw [gdbstubRun_cons_of_some hturn, gdbstubRun_cons_of_some hturn]

/-! ## States with the same effect -/

/-- The `'$'` replies sent so far: what was sent that is no acknowledgement. -/
def StubState.replies (state : StubState σ) : List (List UInt8) :=
  state.sent.filter fun str => str.head? = some dollar

/-- The states differ only in the acknowledgements sent and in the failure counter. -/
structure SameEffect (first second : StubState σ) : Prop where
  target : first.target = second.target
  regbuf : first.regbuf = second.regbuf
  noAckMode : first.noAckMode = second.noAckMode
  asyncIoEnable : first.asyncIoEnable = second.asyncIoEnable
  allocations : first.allocations = second.allocations
  transfers : first.transfers = second.transfers
  calls : first.calls = second.calls
  replies : first.replies = second.replies

theorem SameEffect.refl (state : StubState σ) : SameEffect state state :=
  ⟨rfl, rfl, rfl, rfl, rfl, rfl, rfl, rfl⟩

theorem SameEffect.symm {first second : StubState σ} (hsame : SameEffect first second) :
    SameEffect second first :=
  ⟨hsame.target.symm, hsame.regbuf.symm, hsame.noAckMode.symm, hsame.asyncIoEnable.symm,
    hsame.allocations.symm, hsame.transfers.symm, hsame.calls.symm, hsame.replies.symm⟩

theorem SameEffect.trans {first second third : StubState σ} (hfirst : SameEffect first second)
    (hsecond : SameEffect second third) : SameEffect first third :=
  ⟨hfirst.target.trans hsecond.target, hfirst.regbuf.trans hsecond.regbuf,
    hfirst.noAckMode.trans hsecond.noAckMode,
    hfirst.asyncIoEnable.trans hsecond.asyncIoEnable,
    hfirst.allocations.trans hsecond.allocations, hfirst.transfers.trans hsecond.transfers,
    hfirst.calls.trans hsecond.calls, hfirst.replies.trans hsecond.replies⟩

theorem replies_sentStr {first second : StubState σ} (hreplies : first.replies = second.replies)
    (str : List UInt8) :
    (first.sent ++ [str]).filter (fun str => str.head? = some dollar) =
      (second.sent ++ [str]).filter fun str => str.head? = some dollar := by
  rw [List.filter_append, List.filter_append]
  exact congrArg (· ++ _) hreplies

/-- Two runs between packets: the same effect, and the same failure counter. -/
structure InStep (failures : ℕ) (first second : StubState σ) : Prop where
  same : SameEffect first second
  first_count : first.failureCount = failures
  second_count : second.failureCount = failures

/-- No handler reads the acknowledgements or touches the counter. -/
theorem unread_inStep (failures : ℕ) :
    Unread (InStep failures : StubState σ → StubState σ → Prop) where
  target hstates := hstates.same.target
  regbuf hstates := hstates.same.regbuf
  allocations hstates := hstates.same.allocations
  transfers hstates := hstates.same.transfers
  called hstates call _ :=
    { hstates with
      same :=
        { hstates.same with
          target := rfl
          calls := congrArg (· ++ [call]) hstates.same.calls } }
  allocated hstates :=
    { hstates with
      same := { hstates.same with allocations := congrArg (· + 1) hstates.same.allocations } }
  begun hstates :=
    { hstates with
      same := { hstates.same with transfers := congrArg (· + 1) hstates.same.transfers } }
  grown hstates _ := { hstates with same := { hstates.same with regbuf := rfl } }
  sentStr hstates str :=
    { hstates with
      same := { hstates.same with replies := replies_sentStr hstates.same.replies str } }
  noAck hstates := { hstates with same := { hstates.same with noAckMode := rfl } }
  asyncIo hstates _ := { hstates with same := { hstates.same with asyncIoEnable := rfl } }

/-! ## One turn -/

/-- `packet_csum_verify` fails. -/
abbrev Corrupted (pkt : Packet UInt8) : Prop :=
  packetCsumVerify pkt = .ok false

/-- An acknowledgement is no reply. -/
theorem gdbstubAcknowledge_same (csumOk : Bool) (state : StubState σ) :
    ∃ after, gdbstubAcknowledge csumOk state = (.ok (), after) ∧ SameEffect after state ∧
      after.failureCount = state.failureCount := by
  unfold gdbstubAcknowledge
  rw [Program.get_bind]
  by_cases hmode : state.noAckMode = true
  · rw [if_pos hmode]
    exact ⟨state, rfl, SameEffect.refl state, rfl⟩
  · rw [if_neg hmode]
    let acked : StubState σ :=
      { state with sent := state.sent ++ [if csumOk then ascii "+" else ascii "-"] }
    have hnone : [if csumOk then ascii "+" else ascii "-"].filter
        (fun str => str.head? = some dollar) = [] := by
      cases csumOk <;> decide
    refine ⟨acked, rfl, { SameEffect.refl state with replies := ?_ }, rfl⟩
    show (state.sent ++ [_]).filter _ = state.sent.filter _
    rw [List.filter_append, hnone, List.append_nil]

/-- A corrupted packet is counted, and it is the count alone that decides whether the run
goes on. -/
theorem gdbstubTurn_corrupted {pkt : Packet UInt8} (hpkt : Corrupted pkt)
    (state : StubState σ) :
    ∃ after, gdbstubTurn stub pkt state =
        (.ok (if connMaxFailures ≤ state.failureCount + 1 then some false else none), after) ∧
      SameEffect after state ∧ after.failureCount = state.failureCount + 1 := by
  obtain ⟨acked, hacknowledge, hsame, hcount⟩ := gdbstubAcknowledge_same false state
  let counted : StubState σ := { acked with failureCount := acked.failureCount + 1 }
  refine ⟨counted, ?_, { hsame with }, congrArg (· + 1) hcount⟩
  unfold gdbstubTurn
  rw [hpkt, Program.lift_ok_bind, Program.bind_of_ok hacknowledge, ← hcount]
  rfl

/-- A packet that cannot be verified faults before anything is sent. -/
theorem gdbstubTurn_unverified {pkt : Packet UInt8} {fault : Fault}
    (hpkt : packetCsumVerify pkt = .error fault) (state : StubState σ) :
    gdbstubTurn stub pkt state = (.error fault, state) := by
  unfold gdbstubTurn
  rw [hpkt, Program.lift_error_bind]

/-- What `gdbstub_run` does with a packet that is not corrupted, once the counter is reset. -/
theorem respects_serve {rel : StubState σ → StubState σ → Prop} (hrel : Unread rel)
    (pkt : Packet UInt8) :
    Program.Respects
      (do
        let event ← gdbstubProcessPacket stub pkt
        let act ← gdbstubHandleEvent stub event
        match act with
        | .resume => do
            gdbstubActResume
            return none
        | .shutdown => return some true
        | .none => return none : StubM σ (Option Bool)) rel := by
  apply Program.Respects.bind (respects_gdbstubProcessPacket stub hrel pkt)
  intro event
  apply Program.Respects.bind (respects_gdbstubHandleEvent stub hrel event)
  intro act
  cases act with
  | none => exact Program.Respects.of_pure
  | resume =>
      apply Program.Respects.bind (respects_connSendPktstr hrel _)
      intro _
      exact Program.Respects.of_pure
  | shutdown => exact Program.Respects.of_pure

/-- From states with the same effect a packet with a good checksum is served in the same way,
whatever the counters were; then both are zero. -/
theorem gdbstubTurn_good {pkt : Packet UInt8} (hgood : packetCsumVerify pkt = .ok true)
    {first second : StubState σ} (hsame : SameEffect first second) :
    (gdbstubTurn stub pkt first).1 = (gdbstubTurn stub pkt second).1 ∧
      InStep 0 (gdbstubTurn stub pkt first).2 (gdbstubTurn stub pkt second).2 := by
  obtain ⟨ackedFirst, hfirst, hsameFirst, -⟩ := gdbstubAcknowledge_same true first
  obtain ⟨ackedSecond, hsecond, hsameSecond, -⟩ := gdbstubAcknowledge_same true second
  have hacked : SameEffect ackedFirst ackedSecond :=
    (hsameFirst.trans hsame).trans hsameSecond.symm
  unfold gdbstubTurn
  rw [hgood, Program.lift_ok_bind, Program.lift_ok_bind, Program.bind_of_ok hfirst,
    Program.bind_of_ok hsecond]
  unfold gdbstubServe
  rw [if_pos rfl, Program.update_bind, Program.update_bind]
  exact respects_serve stub (unread_inStep 0) pkt ⟨{ hacked with }, rfl, rfl⟩

/-- A packet that is not corrupted never makes the run give up. -/
theorem gdbstubTurn_good_ne {pkt : Packet UInt8} (hgood : packetCsumVerify pkt = .ok true)
    (state after : StubState σ) : gdbstubTurn stub pkt state ≠ (.ok (some false), after) := by
  intro hturn
  obtain ⟨acked, hacknowledge, -, -⟩ := gdbstubAcknowledge_same true state
  unfold gdbstubTurn at hturn
  rw [hgood, Program.lift_ok_bind, Program.bind_of_ok hacknowledge] at hturn
  obtain ⟨event, processed, act, handled, -, -, hafter⟩ := gdbstubServe_ok stub hturn
  rcases hafter with ⟨-, hret, -⟩ | ⟨-, hret, -⟩ | ⟨-, hret, -⟩ <;> cases hret

/-- **One turn of the two runs** for a packet that is not corrupted: the same outcome, and
the counters at zero when the runs go on. -/
theorem gdbstubTurn_intact {pkt : Packet UInt8} (hpkt : ¬ Corrupted pkt)
    {first second : StubState σ} (hsame : SameEffect first second) :
    ∃ afterFirst afterSecond, SameEffect afterFirst afterSecond ∧
      ((∃ fault, gdbstubTurn stub pkt first = (.error fault, afterFirst) ∧
          gdbstubTurn stub pkt second = (.error fault, afterSecond)) ∨
        (gdbstubTurn stub pkt first = (.ok (some true), afterFirst) ∧
          gdbstubTurn stub pkt second = (.ok (some true), afterSecond)) ∨
        (gdbstubTurn stub pkt first = (.ok none, afterFirst) ∧
          gdbstubTurn stub pkt second = (.ok none, afterSecond) ∧
          afterFirst.failureCount = 0)) := by
  rcases hverify : packetCsumVerify pkt with fault | _ | _
  · exact ⟨first, second, hsame, .inl ⟨fault, gdbstubTurn_unverified stub hverify first,
      gdbstubTurn_unverified stub hverify second⟩⟩
  · exact absurd hverify hpkt
  · obtain ⟨hresult, hstates⟩ := gdbstubTurn_good stub hverify hsame
    rcases hfirst : gdbstubTurn stub pkt first with ⟨result, afterFirst⟩
    rcases hsecond : gdbstubTurn stub pkt second with ⟨result', afterSecond⟩
    rw [hfirst, hsecond] at hresult hstates
    obtain rfl : result = result' := hresult
    refine ⟨afterFirst, afterSecond, hstates.same, ?_⟩
    rcases result with fault | _ | _ | _
    · exact .inl ⟨fault, rfl, rfl⟩
    · exact .inr (.inr ⟨rfl, rfl, hstates.first_count⟩)
    · exact absurd hfirst (gdbstubTurn_good_ne stub hverify first afterFirst)
    · exact .inr (.inl ⟨rfl, rfl⟩)

/-! ## The two runs -/

/-- The packets that are not corrupted. -/
def intactPackets (pkts : List (Packet UInt8)) : List (Packet UInt8) :=
  pkts.filter fun pkt => ¬ Corrupted pkt

theorem intactPackets_cons_of_corrupted {pkt : Packet UInt8} (hpkt : Corrupted pkt)
    (pkts : List (Packet UInt8)) : intactPackets (pkt :: pkts) = intactPackets pkts := by
  rw [intactPackets, List.filter_cons_of_neg (by simpa using hpkt)]
  rfl

theorem intactPackets_cons {pkt : Packet UInt8} (hpkt : ¬ Corrupted pkt)
    (pkts : List (Packet UInt8)) :
    intactPackets (pkt :: pkts) = pkt :: intactPackets pkts := by
  rw [intactPackets, List.filter_cons_of_pos (by simpa using hpkt)]
  rfl

/-- As long as the run on all packets does not give up, it ends like the run on those that are
not corrupted, and has the same effect. -/
theorem gdbstubRun_same (pkts : List (Packet UInt8)) :
    ∀ {first second : StubState σ}, SameEffect first second →
      (gdbstubRun stub pkts first).1 ≠ .returned false →
      (gdbstubRun stub pkts first).1 = (gdbstubRun stub (intactPackets pkts) second).1 ∧
        SameEffect (gdbstubRun stub pkts first).2
          (gdbstubRun stub (intactPackets pkts) second).2 := by
  induction pkts with
  | nil =>
      intro first second hsame _
      exact ⟨rfl, hsame⟩
  | cons pkt pkts ih =>
      intro first second hsame hkeeps
      by_cases hpkt : Corrupted pkt
      · -- only the first run takes this packet
        obtain ⟨after, hturn, hafter, -⟩ := gdbstubTurn_corrupted stub hpkt first
        rw [intactPackets_cons_of_corrupted hpkt]
        by_cases hmany : connMaxFailures ≤ first.failureCount + 1
        · rw [if_pos hmany] at hturn
          rw [gdbstubRun_cons_of_some hturn] at hkeeps
          exact absurd rfl hkeeps
        · rw [if_neg hmany] at hturn
          rw [gdbstubRun_cons_of_none hturn] at hkeeps ⊢
          exact ih (hafter.trans hsame) hkeeps
      · rw [intactPackets_cons hpkt]
        obtain ⟨afterFirst, afterSecond, hafter, ⟨fault, hfirst, hsecond⟩ | ⟨hfirst, hsecond⟩ |
          ⟨hfirst, hsecond, -⟩⟩ := gdbstubTurn_intact stub hpkt hsame
        · rw [gdbstubRun_cons_of_error hfirst, gdbstubRun_cons_of_error hsecond]
          exact ⟨rfl, hafter⟩
        · rw [gdbstubRun_cons_of_some hfirst, gdbstubRun_cons_of_some hsecond]
          exact ⟨rfl, hafter⟩
        · rw [gdbstubRun_cons_of_none hfirst] at hkeeps ⊢
          rw [gdbstubRun_cons_of_none hsecond]
          exact ih hafter hkeeps

/-- Enough corrupted packets in a row end the run, whatever follows. -/
theorem gdbstubRun_window (window : List (Packet UInt8)) :
    ∀ {state : StubState σ}, (∀ pkt ∈ window, Corrupted pkt) →
      connMaxFailures ≤ state.failureCount + window.length → window ≠ [] → ∀ pkts,
      (gdbstubRun stub (window ++ pkts) state).1 = .returned false := by
  induction window with
  | nil =>
      intro state _ _ hne
      exact absurd rfl hne
  | cons pkt window ih =>
      intro state hwindow hmany _ pkts
      obtain ⟨after, hturn, -, hcount⟩ :=
        gdbstubTurn_corrupted stub (hwindow pkt List.mem_cons_self) state
      rw [List.cons_append]
      -- this packet brings the counter to its limit, or the rest of the row does
      by_cases hnow : connMaxFailures ≤ state.failureCount + 1
      · rw [if_pos hnow] at hturn
        rw [gdbstubRun_cons_of_some hturn]
      · rw [if_neg hnow] at hturn
        rw [gdbstubRun_cons_of_none hturn]
        rw [List.length_cons] at hmany
        apply ih (fun later hlater => hwindow later (List.mem_cons_of_mem _ hlater))
        · rw [hcount]
          omega
        · -- one packet alone would have been enough
          intro hnil
          rw [hnil, List.length_nil] at hmany
          exact hnow hmany

/-- A run that gives up has just served so many corrupted packets in a row that the counter
has reached its limit; up to there it has the effect of the run on the other packets.  The
counter started from zero, unless these packets are the first of the run. -/
theorem gdbstubRun_givesUp (pkts : List (Packet UInt8)) :
    ∀ {first second : StubState σ}, SameEffect first second →
      first.failureCount < connMaxFailures →
      (gdbstubRun stub pkts first).1 = .returned false →
      ∃ served window after, pkts = served ++ window ++ after ∧
        (∀ pkt ∈ window, Corrupted pkt) ∧
        (window.length = connMaxFailures ∨
          served = [] ∧ first.failureCount + window.length = connMaxFailures) ∧
        gdbstubRun stub pkts first = gdbstubRun stub (served ++ window) first ∧
        (gdbstubRun stub (intactPackets served) second).1 = .waits ∧
        SameEffect (gdbstubRun stub pkts first).2
          (gdbstubRun stub (intactPackets served) second).2 := by
  induction pkts with
  | nil =>
      intro first second _ _ hgivesUp
      cases hgivesUp
  | cons pkt pkts ih =>
      intro first second hsame hfew hgivesUp
      by_cases hpkt : Corrupted pkt
      · obtain ⟨between, hturn, hbetween, hcount⟩ := gdbstubTurn_corrupted stub hpkt first
        by_cases hmany : connMaxFailures ≤ first.failureCount + 1
        · -- this packet is the last that is taken
          rw [if_pos hmany] at hturn
          refine ⟨[], [pkt], pkts, rfl, ?_, .inr ⟨rfl, ?_⟩, ?_, rfl, ?_⟩
          · intro other hother
            rwa [List.mem_singleton.mp hother]
          · rw [List.length_singleton]
            omega
          · rw [gdbstubRun_cons_of_some hturn, List.nil_append, gdbstubRun_cons_of_some hturn]
          · rw [gdbstubRun_cons_of_some hturn]
            exact hbetween.trans hsame
        · rw [if_neg hmany] at hturn
          rw [gdbstubRun_cons_of_none hturn] at hgivesUp ⊢
          obtain ⟨served, window, after, hpkts, hwindow, hlength, hrun, hwaits, heffect⟩ :=
            ih (hbetween.trans hsame) (by omega) hgivesUp
          rcases hlength with hlength | ⟨rfl, hlength⟩
          · refine ⟨pkt :: served, window, after, by rw [hpkts]; rfl, hwindow, .inl hlength,
              ?_, ?_, ?_⟩
            · rw [List.cons_append, gdbstubRun_cons_of_none hturn]
              exact hrun
            · rwa [intactPackets_cons_of_corrupted hpkt]
            · rwa [intactPackets_cons_of_corrupted hpkt]
          · -- the packets in a row begin here, or before
            refine ⟨[], pkt :: window, after, by rw [hpkts]; rfl, ?_, .inr ⟨rfl, ?_⟩, ?_, hwaits,
              heffect⟩
            · exact List.forall_mem_cons.mpr ⟨hpkt, hwindow⟩
            · rw [List.length_cons]
              omega
            · rw [List.nil_append, gdbstubRun_cons_of_none hturn]
              exact hrun
      · obtain ⟨afterFirst, afterSecond, hafter, ⟨fault, hfirst, -⟩ | ⟨hfirst, -⟩ |
          ⟨hfirst, hsecond, hzero⟩⟩ := gdbstubTurn_intact stub hpkt hsame
        · rw [gdbstubRun_cons_of_error hfirst] at hgivesUp
          cases hgivesUp
        · rw [gdbstubRun_cons_of_some hfirst] at hgivesUp
          cases hgivesUp
        · rw [gdbstubRun_cons_of_none hfirst] at hgivesUp ⊢
          obtain ⟨served, window, after, hpkts, hwindow, hlength, hrun, hwaits, heffect⟩ :=
            ih hafter (by rw [hzero]; decide) hgivesUp
          -- the counter is zero here, so the packets in a row begin behind this one
          have hlength : window.length = connMaxFailures := by
            rcases hlength with hlength | ⟨-, hlength⟩
            · exact hlength
            · rwa [hzero, Nat.zero_add] at hlength
          refine ⟨pkt :: served, window, after, by rw [hpkts]; rfl, hwindow, .inl hlength,
            ?_, ?_, ?_⟩
          · rw [List.cons_append, gdbstubRun_cons_of_none hfirst]
            exact hrun
          · rwa [intactPackets_cons hpkt, gdbstubRun_cons_of_none hsecond]
          · rwa [intactPackets_cons hpkt, gdbstubRun_cons_of_none hsecond]

/-- **Corrupted packets have no effect.**  A run that starts with the counter at zero, as
`conn_init` leaves it and every intact packet does:

* returns `false` exactly when the packets contain `CONN_MAX_FAILURES` corrupted ones in a
  row, and the intact packets before them do not end the run;
* if it does not, it ends like the run on the intact packets alone, and has the same effect;
* if it does, it has taken the packets up to the end of such a row, and has the effect of
  the run on the intact packets before the row. -/
theorem corruptedPackets_noEffect {state : StubState σ} (hcount : state.failureCount = 0)
    (pkts : List (Packet UInt8)) :
    ((gdbstubRun stub pkts state).1 = .returned false ↔
      ∃ before window after, pkts = before ++ window ++ after ∧
        window.length = connMaxFailures ∧ (∀ pkt ∈ window, Corrupted pkt) ∧
        (gdbstubRun stub (intactPackets before) state).1 = .waits) ∧
      ((gdbstubRun stub pkts state).1 ≠ .returned false →
        (gdbstubRun stub pkts state).1 = (gdbstubRun stub (intactPackets pkts) state).1 ∧
          SameEffect (gdbstubRun stub pkts state).2
            (gdbstubRun stub (intactPackets pkts) state).2) ∧
      ((gdbstubRun stub pkts state).1 = .returned false →
        ∃ served window after, pkts = served ++ window ++ after ∧
          window.length = connMaxFailures ∧ (∀ pkt ∈ window, Corrupted pkt) ∧
          gdbstubRun stub pkts state = gdbstubRun stub (served ++ window) state ∧
          (gdbstubRun stub (intactPackets served) state).1 = .waits ∧
          SameEffect (gdbstubRun stub pkts state).2
            (gdbstubRun stub (intactPackets served) state).2) := by
  -- at the start the count is zero, so the row is a whole one
  have hgivesUp : (gdbstubRun stub pkts state).1 = .returned false →
      ∃ served window after, pkts = served ++ window ++ after ∧
        window.length = connMaxFailures ∧ (∀ pkt ∈ window, Corrupted pkt) ∧
        gdbstubRun stub pkts state = gdbstubRun stub (served ++ window) state ∧
        (gdbstubRun stub (intactPackets served) state).1 = .waits ∧
        SameEffect (gdbstubRun stub pkts state).2
          (gdbstubRun stub (intactPackets served) state).2 := by
    intro hfalse
    obtain ⟨served, window, after, hpkts, hwindow, hlength, hrun, hwaits, heffect⟩ :=
      gdbstubRun_givesUp stub pkts (SameEffect.refl state) (by rw [hcount]; decide) hfalse
    refine ⟨served, window, after, hpkts, ?_, hwindow, hrun, hwaits, heffect⟩
    rcases hlength with hlength | ⟨-, hlength⟩
    · exact hlength
    · rwa [hcount, Nat.zero_add] at hlength
  refine ⟨⟨?_, ?_⟩, gdbstubRun_same stub pkts (SameEffect.refl state), hgivesUp⟩
  · intro hfalse
    obtain ⟨served, window, after, hpkts, hlength, hwindow, -, hwaits, -⟩ := hgivesUp hfalse
    exact ⟨served, window, after, hpkts, hlength, hwindow, hwaits⟩
  · rintro ⟨before, window, after, rfl, hlength, hwindow, hwaits⟩
    rw [List.append_assoc]
    by_cases hbefore : (gdbstubRun stub before state).1 = .returned false
    · -- an earlier row has already ended the run
      rw [gdbstubRun_append_of_ended stub (by rw [hbefore]; decide), hbefore]
    · have hgoesOn : (gdbstubRun stub before state).1 = .waits := by
        rw [(gdbstubRun_same stub before (SameEffect.refl state) hbefore).1, hwaits]
      rcases hserved : gdbstubRun stub before state with ⟨ended, between⟩
      rw [hserved] at hgoesOn
      obtain rfl : ended = .waits := hgoesOn
      rw [gdbstubRun_append_of_waits stub hserved]
      apply gdbstubRun_window stub window hwindow
      · rw [hlength]
        exact Nat.le_add_left _ _
      · intro hnil
        rw [hnil] at hlength
        cases hlength

/-- A corrupted packet before a good one. -/
theorem corruptedPackets_noEffect_oneBefore :
    SameEffect
      (gdbstubRun oneByteStub
        [Packet.ofFrame (ascii "$c#00"), Packet.ofFrame (ascii "$?#3f")]
        (StubState.init fun _ => [0x11])).2
      (gdbstubRun oneByteStub [Packet.ofFrame (ascii "$?#3f")]
        (StubState.init fun _ => [0x11])).2 := by
  have hcount : (StubState.init (fun _ => [0x11]) : StubState (ℕ → List UInt8)).failureCount = 0 :=
    rfl
  obtain ⟨-, hsame, -⟩ := corruptedPackets_noEffect oneByteStub hcount
    [Packet.ofFrame (ascii "$c#00"), Packet.ofFrame (ascii "$?#3f")]
  exact (hsame (by decide +kernel)).2

end MiniGdbstub
