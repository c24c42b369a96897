import MiniGdbstub.RegisterWrite
import MiniGdbstub.Session

/-!
# Who acknowledges a packet

The main thread acknowledges a packet after it has verified the checksum, and only while
`no_ack_mode` is off.  The reader sends a `+` for every packet it has pushed, before
anybody verified it and whatever the mode, unless its `trylock` fails.

`Session.Acked` is the invariant of every run: the acknowledgements of a packet are those
of the reader and those of the main thread.  So the protocol is kept as long as no
`trylock` of the reader succeeds for a packet that the main thread acknowledges too, or for
one that should have none.
-/

namespace MiniGdbstub

open CString

variable {σ : Type} {stub : Gdbstub σ} {target : σ}

/-! ## The protocol -/

/-- What was sent to acknowledge packet `i`. -/
def Session.acksFor (session : Session σ) (i : ℕ) : List (List UInt8) :=
  (session.acks.filter fun ack => ack.1 = i).map Prod.snd

/-- Both threads are past their acknowledgement of packet `i`. -/
def Session.Settled (session : Session σ) (i : ℕ) : Prop :=
  i < session.tried.length ∧ i < session.acknowledged

/-- A packet before packet `i` has turned `no_ack_mode` on. -/
def Session.AfterSwitch (session : Session σ) (i : ℕ) : Prop :=
  ∃ j ∈ session.switchedBy, j < i

/-- Does the checksum of the packet verify? -/
def csumVerifies (pkt : Packet UInt8) : Bool :=
  match packetCsumVerify pkt with
  | .ok csumOk => csumOk
  | .error _ => false

/-- A packet taken while `no_ack_mode` was off has one acknowledgement, `+` if its
checksum verifies and `-` otherwise, and a packet after the one that turned the mode on has
none. -/
def AckProtocol (session : Session σ) : Prop :=
  (∀ i taken, session.Settled i → session.taken[i]? = some taken → taken.noAckMode = false →
    session.acksFor i = [ackText (csumVerifies taken.pkt)]) ∧
  ∀ i, session.AfterSwitch i → session.acksFor i = []

/-! ## The acknowledgements of each thread -/

/-- The acknowledgements of packet `i` by the reader. -/
def Session.readerAcks (session : Session σ) (i : ℕ) : List (List UInt8) :=
  if session.tried[i]? = some true then [ascii "+"] else []

/-- The acknowledgements of packet `i` by the main thread. -/
def Session.mainAcks (session : Session σ) (i : ℕ) : List (List UInt8) :=
  match session.taken[i]? with
  | some taken =>
      if i < session.acknowledged ∧ taken.noAckMode = false then
        [ackText (csumVerifies taken.pkt)]
      else []
  | none => []

/-- The packet that the main thread has taken and not yet acknowledged. -/
def MainTurn.unacknowledged : MainTurn → Option (Packet UInt8)
  | .verify pkt => some pkt
  | .acknowledge pkt _ => some pkt
  | _ => none

/-- Has the checksum that the main thread acts on been computed from its packet? -/
def MainTurn.Verified : MainTurn → Prop
  | .acknowledge pkt csumOk => packetCsumVerify pkt = .ok csumOk
  | _ => True

/-- The modes: what the main thread knows about the packet it has taken, and from which
packet on `no_ack_mode` is on. -/
structure Session.Moded (session : Session σ) : Prop where
  verified : session.main.Verified
  switched : session.main.running = true →
    session.stub.noAckMode = session.switchedBy.isSome
  pending : session.main.running = true →
    session.acknowledged + session.main.unacknowledged.toList.length = session.taken.length
  acknowledged_le : session.acknowledged ≤ session.taken.length
  latest : ∀ pkt ∈ session.main.unacknowledged,
    session.taken[session.acknowledged]? = some ⟨pkt, session.stub.noAckMode⟩
  mode : ∀ i taken, session.taken[i]? = some taken →
    (taken.noAckMode = true ↔ session.AfterSwitch i)
  switchedBy_lt : ∀ j ∈ session.switchedBy, j < session.served

/-- A step that leaves the packets, the mode and what is still to be acknowledged as they
were. -/
theorem Session.Moded.of_same {session next : Session σ} (hmoded : session.Moded)
    (hrunning : session.main.running = true) (hverified : next.main.Verified)
    (hmain : next.main.unacknowledged = session.main.unacknowledged)
    (hmode : next.stub.noAckMode = session.stub.noAckMode)
    (hswitchedBy : next.switchedBy = session.switchedBy) (htaken : next.taken = session.taken)
    (hacknowledged : next.acknowledged = session.acknowledged)
    (hserved : next.served = session.served) : next.Moded := by
  constructor
  · exact hverified
  · intro _
    rw [hmode, hswitchedBy, hmoded.switched hrunning]
  · intro _
    rw [hacknowledged, hmain, htaken, hmoded.pending hrunning]
  · rw [hacknowledged, htaken]
    exact hmoded.acknowledged_le
  · rw [hmain, htaken, hacknowledged, hmode]
    exact hmoded.latest
  · unfold Session.AfterSwitch
    rw [htaken, hswitchedBy]
    exact hmoded.mode
  · rw [hswitchedBy, hserved]
    exact hmoded.switchedBy_lt

/-- The main thread is past its acknowledgement of the packet it has taken. -/
theorem Session.Moded.acknowledge {session : Session σ} (hmoded : session.Moded)
    (hrunning : session.main.running = true) {pkt : Packet UInt8} {csumOk : Bool}
    (hmain : session.main = .acknowledge pkt csumOk) (sent : List (List UInt8))
    (acks : List (ℕ × List UInt8)) :
    Session.Moded { session with
      stub := { session.stub with sent := sent }
      main := .serve pkt csumOk
      acknowledged := session.acknowledged + 1
      acks := acks } := by
  have hpending := hmoded.pending hrunning
  rw [hmain] at hpending
  have hlength : session.acknowledged + 1 = session.taken.length := hpending
  exact ⟨trivial, fun _ => hmoded.switched hrunning, fun _ => hlength, hlength.le,
    fun _ hnone => absurd hnone (by simp [MainTurn.unacknowledged]), hmoded.mode,
    hmoded.switchedBy_lt⟩

/-- The main thread takes a packet, which is behind every switch so far. -/
theorem Session.Moded.take {session : Session σ} (hmoded : session.Moded)
    (hswitched : session.stub.noAckMode = session.switchedBy.isSome)
    (hacknowledged : session.acknowledged = session.taken.length)
    (hserved : session.served = session.taken.length) (pkt : Packet UInt8)
    (queue : Pktqueue (Packet UInt8)) :
    Session.Moded { session with
      queue := queue
      main := .verify pkt
      taken := session.taken ++ [⟨pkt, session.stub.noAckMode⟩] } := by
  constructor
  · trivial
  · exact fun _ => hswitched
  · intro _
    rw [List.length_append]
    exact congrArg (· + 1) hacknowledged
  · exact (List.length_append ▸ hacknowledged ▸ Nat.le_succ _)
  · intro first hfirst
    cases hfirst
    show (session.taken ++ [⟨pkt, session.stub.noAckMode⟩])[session.acknowledged]? = _
    rw [hacknowledged, List.getElem?_concat_length]
  · intro i taken htaken
    -- the packet that is taken sees the mode as the packets before it have left it
    rcases Nat.lt_or_ge i session.taken.length with hlt | hge
    · rw [List.getElem?_append_left hlt] at htaken
      exact hmoded.mode i taken htaken
    · have hi : i = session.taken.length := by
        have hinside := (List.getElem?_eq_some_iff.mp htaken).1
        rw [List.length_append, List.length_singleton] at hinside
        omega
      rw [hi, List.getElem?_concat_length] at htaken
      cases htaken
      show session.stub.noAckMode = true ↔ ∃ j ∈ session.switchedBy, j < i
      rw [hswitched, Option.isSome_iff_exists]
      constructor
      · rintro ⟨j, hj⟩
        have hbefore := hmoded.switchedBy_lt j hj
        exact ⟨j, hj, by omega⟩
      · rintro ⟨j, hj, -⟩
        exact ⟨j, hj⟩
  · exact hmoded.switchedBy_lt

/-- The main thread has served the packet it has taken. -/
theorem Session.Moded.serve {session : Session σ} (hmoded : session.Moded)
    (hswitched : session.stub.noAckMode = session.switchedBy.isSome)
    (hlength : session.acknowledged = session.taken.length)
    (hlast : session.served + 1 = session.taken.length) {after : StubState σ}
    (hkept : session.stub.noAckMode = true → after.noAckMode = true) (ret : Option Bool) :
    Session.Moded { session with
      stub := after
      main := .afterServe ret
      served := session.served + 1
      switchedBy :=
        if session.stub.noAckMode = false ∧ after.noAckMode = true then some session.served
        else session.switchedBy } := by
  have hverified : (MainTurn.afterServe ret).Verified := by cases ret <;> trivial
  have hnothing : (MainTurn.afterServe ret).unacknowledged = none := by cases ret <;> rfl
  have hpending : session.acknowledged + (MainTurn.afterServe ret).unacknowledged.toList.length =
      session.taken.length := by
    rw [hnothing]
    exact hlength
  have hlatest : ∀ pkt ∈ (MainTurn.afterServe ret).unacknowledged,
      session.taken[session.acknowledged]? = some ⟨pkt, after.noAckMode⟩ := by
    rw [hnothing]
    simp
  by_cases hturned : session.stub.noAckMode = false ∧ after.noAckMode = true
  · -- this packet has turned the mode on, and it is the last one taken
    have hnone : session.switchedBy = none := by
      rw [← Option.not_isSome_iff_eq_none, ← hswitched, hturned.1]
      decide
    rw [if_pos hturned]
    refine ⟨hverified, fun _ => hturned.2, fun _ => hpending, hlength.le, hlatest, ?_, ?_⟩
    · intro i taken htaken
      have hi : i < session.taken.length := (List.getElem?_eq_some_iff.mp htaken).1
      rw [hmoded.mode i taken htaken]
      simp only [Session.AfterSwitch, hnone]
      simp
      omega
    · simp
  · have hsame : after.noAckMode = session.stub.noAckMode := by
      cases hmode : session.stub.noAckMode with
      | true => exact hkept hmode
      | false =>
        by_contra hne
        exact hturned ⟨hmode, Bool.eq_true_of_not_eq_false hne⟩
    rw [if_neg hturned]
    exact ⟨hverified, fun _ => hsame.trans hswitched, fun _ => hpending, hlength.le, hlatest,
      hmoded.mode, fun j hj => Nat.lt_succ_of_lt (hmoded.switchedBy_lt j hj)⟩

/-- A main thread that has crashed knows nothing any more. -/
theorem Session.Moded.crash {session : Session σ} (hmoded : session.Moded) (fault : Fault)
    (after : StubState σ) :
    Session.Moded { session with stub := after, main := .crashed fault } :=
  ⟨trivial, fun hcrashed => absurd hcrashed (by simp [MainTurn.running]),
    fun hcrashed => absurd hcrashed (by simp [MainTurn.running]), hmoded.acknowledged_le,
    fun _ hnone => absurd hnone (by simp [MainTurn.unacknowledged]), hmoded.mode,
    hmoded.switchedBy_lt⟩

theorem Session.Moded.step {session next : Session σ} {label : SessionLabel σ}
    (hmoded : session.Moded) (hordered : session.Ordered)
    (hrunning : session.main.running = true)
    (hstep : SessionStep stub session label next) : next.Moded := by
  have hswitched := hmoded.switched hrunning
  have hpending := hmoded.pending hrunning
  have hserved := hordered.served hrunning
  cases hstep with
  | interrupt _ => exact hmoded.of_same hrunning hmoded.verified rfl rfl rfl rfl rfl rfl
  | push _ _ => exact hmoded.of_same hrunning hmoded.verified rfl rfl rfl rfl rfl rfl
  | pushFailed _ => exact hmoded
  | ack _ => exact hmoded.of_same hrunning hmoded.verified rfl rfl rfl rfl rfl rfl
  | ackSkipped _ => exact hmoded.of_same hrunning hmoded.verified rfl rfl rfl rfl rfl rfl
  | shutdown _ => exact hmoded.of_same hrunning hmoded.verified rfl rfl rfl rfl rfl rfl
  | target _ => exact hmoded.of_same hrunning hmoded.verified rfl rfl rfl rfl rfl rfl
  | popNull hmain _ =>
      exact hmoded.of_same hrunning trivial (by rw [hmain]; rfl) rfl rfl rfl rfl rfl
  | popPacket pkt packets hmain hpackets =>
      rw [hmain] at hpending hserved
      exact hmoded.take hswitched hpending hserved pkt _
  | shutdownSeen hmain _ =>
      exact hmoded.of_same hrunning trivial (by rw [hmain]; rfl) rfl rfl rfl rfl rfl
  | notShutdown hmain _ =>
      exact hmoded.of_same hrunning trivial (by rw [hmain]; rfl) rfl rfl rfl rfl rfl
  | checkInterrupt hmain =>
      exact hmoded.of_same hrunning trivial (by rw [hmain]; rfl) rfl rfl rfl rfl rfl
  | verified pkt csumOk hmain hverify =>
      exact hmoded.of_same hrunning hverify (by rw [hmain]; rfl) rfl rfl rfl rfl rfl
  | acknowledged pkt csumOk hmain _ => exact hmoded.acknowledge hrunning hmain _ _
  | notAcknowledged pkt csumOk hmain _ => exact hmoded.acknowledge hrunning hmain _ _
  | served pkt csumOk ret after hmain hserve =>
      rw [hmain] at hpending hserved
      exact hmoded.serve hswitched hpending hserved (gdbstubServe_noAckMode stub hserve) ret
  | crashed fault after hbusy => exact hmoded.crash fault after

/-! ## Every acknowledgement is accounted for -/

/-- The acknowledgements of a packet are those of the two threads. -/
def Session.Accounted (session : Session σ) : Prop :=
  ∀ i, (session.acksFor i).Perm (session.readerAcks i ++ session.mainAcks i)

/-- One acknowledgement more. -/
theorem acksFor_concat {session next : Session σ} {packet : ℕ} {str : List UInt8}
    (hacks : next.acks = session.acks ++ [(packet, str)]) (i : ℕ) :
    next.acksFor i = session.acksFor i ++ if packet = i then [str] else [] := by
  unfold Session.acksFor
  rw [hacks, List.filter_append, List.map_append]
  by_cases hpacket : packet = i
  · simp [hpacket]
  · simp [hpacket]

/-- The reader is past its acknowledgement of one packet more. -/
theorem readerAcks_concat {session next : Session σ} {acquired : Bool}
    (htried : next.tried = session.tried ++ [acquired]) (i : ℕ) :
    next.readerAcks i = session.readerAcks i ++
      if session.tried.length = i ∧ acquired = true then [ascii "+"] else [] := by
  unfold Session.readerAcks
  rw [htried]
  rcases Nat.lt_trichotomy i session.tried.length with hlt | heq | hgt
  · have hne : ¬ (session.tried.length = i ∧ acquired = true) := by omega
    rw [List.getElem?_append_left hlt, if_neg hne, List.append_nil]
  · rw [heq, List.getElem?_concat_length, List.getElem?_eq_none le_rfl]
    cases acquired <;> simp
  · have hne : ¬ (session.tried.length = i ∧ acquired = true) := by omega
    have hlength : (session.tried ++ [acquired]).length ≤ i := by
      rw [List.length_append]
      exact hgt
    rw [List.getElem?_eq_none hlength, List.getElem?_eq_none hgt.le, if_neg hne]
    rfl

/-- A packet just taken has no acknowledgement by the main thread. -/
theorem mainAcks_take {session next : Session σ} {taken : Taken}
    (hle : session.acknowledged ≤ session.taken.length)
    (htaken : next.taken = session.taken ++ [taken])
    (hacknowledged : next.acknowledged = session.acknowledged) (i : ℕ) :
    next.mainAcks i = session.mainAcks i := by
  unfold Session.mainAcks
  rw [htaken, hacknowledged]
  rcases Nat.lt_trichotomy i session.taken.length with hlt | heq | hgt
  · rw [List.getElem?_append_left hlt]
  · rw [heq, List.getElem?_concat_length, List.getElem?_eq_none le_rfl]
    exact if_neg (by omega)
  · have hlength : (session.taken ++ [taken]).length ≤ i := by
      rw [List.length_append]
      exact hgt
    rw [List.getElem?_eq_none hlength, List.getElem?_eq_none hgt.le]

/-- The main thread is past its acknowledgement of one packet more. -/
theorem mainAcks_acknowledge {session : Session σ} (hmoded : session.Moded)
    {pkt : Packet UInt8} {csumOk : Bool} (hmain : session.main = .acknowledge pkt csumOk)
    {next : Session σ} (htaken : next.taken = session.taken)
    (hacknowledged : next.acknowledged = session.acknowledged + 1) (i : ℕ) :
    next.mainAcks i = session.mainAcks i ++
      if session.acknowledged = i ∧ session.stub.noAckMode = false then [ackText csumOk]
      else [] := by
  have hverified := hmoded.verified
  have hlatest := hmoded.latest
  rw [hmain] at hverified hlatest
  have hcsum : csumVerifies pkt = csumOk := by
    rw [csumVerifies, show packetCsumVerify pkt = .ok csumOk from hverified]
  unfold Session.mainAcks
  rw [htaken, hacknowledged]
  by_cases hi : session.acknowledged = i
  · rw [← hi, hlatest pkt rfl]
    dsimp only
    rw [hcsum, if_neg (show ¬ (session.acknowledged < session.acknowledged ∧
      session.stub.noAckMode = false) by omega), List.nil_append]
    simp
  · rw [if_neg (show ¬ (session.acknowledged = i ∧ session.stub.noAckMode = false) by omega),
      List.append_nil]
    have hlt : i < session.acknowledged + 1 ↔ i < session.acknowledged := by omega
    simp only [hlt]

theorem accounted_of_eq {next : Session σ} {i : ℕ} {acks reader main : List (List UInt8)}
    (hacks : next.acksFor i = acks) (hreader : next.readerAcks i = reader)
    (hmain : next.mainAcks i = main) (hperm : acks.Perm (reader ++ main)) :
    (next.acksFor i).Perm (next.readerAcks i ++ next.mainAcks i) := by
  rwa [hacks, hreader, hmain]

theorem Session.Accounted.step {session next : Session σ} {label : SessionLabel σ}
    (haccounted : session.Accounted) (hmoded : session.Moded)
    (hstep : SessionStep stub session label next) : next.Accounted := by
  intro i
  have hi := haccounted i
  cases hstep with
  | ack _ =>
      refine accounted_of_eq (acksFor_concat rfl i) (readerAcks_concat rfl i) rfl ?_
      simp only [and_true, List.append_assoc]
      calc session.acksFor i ++ (if session.tried.length = i then [ascii "+"] else [])
        _ |>.Perm ((session.readerAcks i ++ session.mainAcks i) ++
            if session.tried.length = i then [ascii "+"] else []) := hi.append_right _
        _ |>.Perm _ := by
          rw [List.append_assoc]
          exact List.perm_append_comm.append_left _
  | ackSkipped _ =>
      refine accounted_of_eq rfl (readerAcks_concat rfl i) rfl ?_
      simp only [Bool.false_eq_true, and_false, if_false, List.append_nil]
      exact hi
  | popPacket pkt packets hmain hpackets =>
      exact accounted_of_eq rfl rfl (mainAcks_take hmoded.acknowledged_le (by rfl) (by rfl) i) hi
  | acknowledged pkt csumOk hmain hmode =>
      refine accounted_of_eq (acksFor_concat rfl i) rfl
        (mainAcks_acknowledge hmoded hmain (by rfl) (by rfl) i) ?_
      simp only [hmode, and_true, ← List.append_assoc]
      exact hi.append_right _
  | notAcknowledged pkt csumOk hmain hmode =>
      refine accounted_of_eq rfl rfl (mainAcks_acknowledge hmoded hmain (by rfl) (by rfl) i) ?_
      simp only [hmode, Bool.true_eq_false, and_false, if_false, List.append_nil]
      exact hi
  | _ => exact hi

theorem session_acked {labels : List (SessionLabel σ)} {session : Session σ}
    (hrun : (gdbstubSession stub target).run labels = some session) :
    session.Moded ∧ session.Accounted := by
  refine Machine.run_induction (motive := fun _ session => session.Moded ∧ session.Accounted)
    ?_ ?_ hrun
  · refine ⟨⟨trivial, fun _ => rfl, fun _ => rfl, le_rfl, ?_, ?_, ?_⟩, fun i => List.Perm.nil⟩
    · simp [gdbstubSession, MainTurn.unacknowledged]
    · simp [gdbstubSession]
    · simp [gdbstubSession]
  · rintro labels label session next hrun ⟨hmoded, haccounted⟩ hstep
    obtain ⟨hrunning, hstep⟩ := gdbstubSession_step stub hstep
    exact ⟨hmoded.step (session_ordered hrun) hrunning hstep, haccounted.step hmoded hstep⟩

/-! ## When the protocol is kept -/

/-- The reader's `trylock` has succeeded for no packet that the main thread acknowledges
too, and for none after the switch to `no_ack_mode`. -/
def ReaderHeldOff (session : Session σ) : Prop :=
  ∀ i, session.tried[i]? = some true → ¬ session.Settled i ∧ ¬ session.AfterSwitch i

/-- **The acknowledgement protocol is kept exactly when the reader is held off.**  For
every interleaving: every packet that both threads are done with, and every packet after
the one that turned `no_ack_mode` on, has the acknowledgements that the protocol asks for
if and only if the reader's `trylock` failed for it. -/
theorem ackProtocol_iff {labels : List (SessionLabel σ)} {session : Session σ}
    (hrun : (gdbstubSession stub target).run labels = some session) :
    AckProtocol session ↔ ReaderHeldOff session := by
  obtain ⟨hmoded, haccounted⟩ := session_acked hrun
  have htakenOf : ∀ i, session.Settled i → ∃ taken, session.taken[i]? = some taken := by
    intro i hsettled
    have hlength := hmoded.acknowledged_le
    exact ⟨_, List.getElem?_eq_getElem (Nat.lt_of_lt_of_le hsettled.2 hlength)⟩
  constructor
  · rintro ⟨hsettledLaw, hswitchLaw⟩ i htried
    have hreader : session.readerAcks i = [ascii "+"] := if_pos htried
    have hperm := haccounted i
    rw [hreader] at hperm
    -- a `+` of the reader is one acknowledgement too many in either case
    have hswitch : ¬ session.AfterSwitch i := by
      intro hafter
      rw [hswitchLaw i hafter] at hperm
      exact absurd hperm.length_eq (by simp)
    refine ⟨fun hsettled => ?_, hswitch⟩
    obtain ⟨taken, htaken⟩ := htakenOf i hsettled
    have hmode : taken.noAckMode = false :=
      Bool.eq_false_of_not_eq_true fun hon => hswitch ((hmoded.mode i taken htaken).mp hon)
    have hmain : session.mainAcks i = [ackText (csumVerifies taken.pkt)] := by
      rw [Session.mainAcks, htaken]
      exact if_pos ⟨hsettled.2, hmode⟩
    rw [hmain, hsettledLaw i taken hsettled htaken hmode] at hperm
    exact absurd hperm.length_eq (by simp)
  · intro hheld
    refine ⟨?_, ?_⟩
    · intro i taken hsettled htaken hmode
      have hreader : session.readerAcks i = [] := if_neg fun htried => (hheld i htried).1 hsettled
      have hmain : session.mainAcks i = [ackText (csumVerifies taken.pkt)] := by
        rw [Session.mainAcks, htaken]
        exact if_pos ⟨hsettled.2, hmode⟩
      have hperm := haccounted i
      rw [hreader, hmain, List.nil_append] at hperm
      exact List.perm_singleton.mp hperm
    · intro i hafter
      have hreader : session.readerAcks i = [] := if_neg fun htried => (hheld i htried).2 hafter
      have hmain : session.mainAcks i = [] := by
        rw [Session.mainAcks]
        cases htaken : session.taken[i]? with
        | none => rfl
        | some taken =>
            refine if_neg fun hacked => ?_
            rw [(hmoded.mode i taken htaken).mpr hafter] at hacked
            exact absurd hacked.2 (by decide)
      have hperm := haccounted i
      rw [hreader, hmain, List.append_nil] at hperm
      exact List.perm_nil.mp hperm

/-- `QStartNoAckMode`, and `?` with a wrong checksum. -/
def startNoAckMode : Packet UInt8 :=
  Packet.ofFrame (ascii "$QStartNoAckMode#b0")

def corruptedHaltReason : Packet UInt8 :=
  Packet.ofFrame (ascii "$?#00")

/-- A packet is pushed and served; `acquired` is how the reader's `trylock` ends. -/
def pushAndServe (pkt : Packet UInt8) (acquired : Bool) :
    List (SessionLabel (ℕ → List UInt8)) :=
  [.push pkt true, .ack acquired, .main, .main, .main, .main]

/-- The reader is held off for both packets. -/
theorem ackProtocol_iff_heldOff :
    ∃ session, (gdbstubSession oneByteStub fun _ => [0x11]).run
        (pushAndServe corruptedHaltReason false ++ pushAndServe startNoAckMode false) =
      some session ∧ AckProtocol session := by
  obtain ⟨session, hrun, htried⟩ :
      ∃ session, (gdbstubSession oneByteStub fun _ => [0x11]).run
        (pushAndServe corruptedHaltReason false ++ pushAndServe startNoAckMode false) =
          some session ∧ session.tried = [false, false] :=
    ⟨_, rfl, rfl⟩
  refine ⟨session, hrun, (ackProtocol_iff hrun).mpr ?_⟩
  intro i hi
  have hmem := List.mem_of_getElem? hi
  rw [htried] at hmem
  exact absurd hmem (by decide)

/-- The reader sends `+` for a packet with a wrong checksum, which the main thread answers
with `-`, and `+` for a packet after `QStartNoAckMode`. -/
theorem reader_acknowledges_everything :
    ∃ session, (gdbstubSession oneByteStub fun _ => [0x11]).run
        (pushAndServe corruptedHaltReason true ++ pushAndServe startNoAckMode true ++
          pushAndServe startNoAckMode true) = some session ∧
      session.acksFor 0 = [ascii "+", ascii "-"] ∧ session.acksFor 2 = [ascii "+"] ∧
      session.AfterSwitch 2 ∧ ¬ AckProtocol session := by
  obtain ⟨session, hrun, hfirst, hlast, hswitched⟩ :
      ∃ session, (gdbstubSession oneByteStub fun _ => [0x11]).run
        (pushAndServe corruptedHaltReason true ++ pushAndServe startNoAckMode true ++
          pushAndServe startNoAckMode true) = some session ∧
        session.acksFor 0 = [ascii "+", ascii "-"] ∧ session.acksFor 2 = [ascii "+"] ∧
        session.switchedBy = some 1 :=
    ⟨_, rfl, by decide, by decide, rfl⟩
  have hafter : session.AfterSwitch 2 := ⟨1, hswitched, by decide⟩
  refine ⟨session, hrun, hfirst, hlast, hafter, ?_⟩
  rintro ⟨-, hswitchLaw⟩
  rw [hswitchLaw 2 hafter] at hlast
  cases hlast

end MiniGdbstub
