import MiniGdbstub.CorruptedPackets
import MiniGdbstub.Session

/-!
# What the main thread has served

Beside a reader that pushes whatever it likes, the main thread does to the stub what the loop of
`gdbstub_run` does to it on the packets taken, one after another (`session_follows`): between two
turns the states differ in nothing but the reader's acknowledgements.  The invariant is
`Session.Follows`; in the middle of a turn the packet in hand has not been counted yet.
-/

namespace MiniGdbstub

open CString

variable {σ : Type} (stub : Gdbstub σ)

/-! ## Where the main thread is -/

/-- The packet that has been taken and not yet served. -/
def MainTurn.inHand : MainTurn → List (Packet UInt8)
  | .verify pkt => [pkt]
  | .acknowledge pkt _ => [pkt]
  | .serve pkt _ => [pkt]
  | _ => []

/-- How far the loop has come with the packets served. -/
def MainTurn.ended : MainTurn → Ended
  | .returned value => .returned value
  | .crashed fault => .faulted fault
  | _ => .waits

/-- The verdict on the packet in hand. -/
def MainTurn.Checked : MainTurn → Prop
  | .acknowledge pkt csumOk => packetCsumVerify pkt = .ok csumOk
  | .serve pkt csumOk => packetCsumVerify pkt = .ok csumOk
  | _ => True

/-- The main thread has done what the loop does on the packets it has taken. -/
structure Session.Follows (target : σ) (session : Session σ) : Prop where
  serves : ∃ served after, session.taken.map Taken.pkt = served ++ session.main.inHand ∧
    gdbstubRun stub served (StubState.init target) = (session.main.ended, after) ∧
    InStep session.stub.failureCount session.stub after
  verified : session.main.Checked

variable {stub}

/-! ## Steps of the loop -/

theorem InStep.acked {failures : ℕ} {first second : StubState σ}
    (hstates : InStep failures first second) {ack : List UInt8} (hack : ack.head? ≠ some dollar) :
    InStep failures { first with sent := first.sent ++ [ack] } second := by
  refine { hstates with same := { hstates.same with replies := ?_ } }
  rw [← hstates.same.replies]
  show (first.sent ++ [ack]).filter _ = first.sent.filter _
  rw [List.filter_append, List.filter_cons_of_neg (by simpa using hack), List.filter_nil,
    List.append_nil]

variable (stub) in
/-- A packet is served in a turn of the loop as it is by the main thread. -/
theorem gdbstubServe_inStep {pkt : Packet UInt8} {csumOk : Bool}
    (hverify : packetCsumVerify pkt = .ok csumOk) {failures : ℕ} {first second : StubState σ}
    (hstates : InStep failures first second) :
    (gdbstubServe stub pkt csumOk first).1 = (gdbstubTurn stub pkt second).1 ∧
      ∃ failures, InStep failures (gdbstubServe stub pkt csumOk first).2
        (gdbstubTurn stub pkt second).2 := by
  obtain ⟨acked, hacknowledge, hsame, hcount⟩ := gdbstubAcknowledge_same csumOk second
  have hacked : SameEffect first acked := hstates.same.trans hsame.symm
  have hcounts : acked.failureCount = first.failureCount := by
    rw [hcount, hstates.second_count, hstates.first_count]
  unfold gdbstubTurn
  rw [hverify, Program.lift_ok_bind, Program.bind_of_ok hacknowledge]
  unfold gdbstubServe
  cases csumOk with
  | true =>
      rw [if_pos rfl, Program.update_bind, Program.update_bind]
      have hreset : InStep 0 { first with failureCount := 0 } { acked with failureCount := 0 } :=
        ⟨{ hacked with }, rfl, rfl⟩
      obtain ⟨hresult, hafter⟩ := respects_serve stub (unread_inStep 0) pkt hreset
      exact ⟨hresult, 0, hafter⟩
  | false =>
      rw [if_neg (by decide), Program.update_bind, Program.update_bind, Program.get_bind,
        Program.get_bind]
      dsimp only
      rw [hcounts]
      exact ⟨rfl, first.failureCount + 1, { hacked with }, rfl, rfl⟩

/-! ## Steps of the main thread -/

theorem MainTurn.ended_afterServe (ret : Option Bool) :
    (MainTurn.afterServe ret).ended = ret.elim .waits .returned := by
  cases ret with
  | none => rfl
  | some value => rfl

theorem MainTurn.inHand_afterServe (ret : Option Bool) :
    (MainTurn.afterServe ret).inHand = [] := by
  cases ret with
  | none => rfl
  | some value => rfl

theorem MainTurn.checked_afterServe (ret : Option Bool) :
    (MainTurn.afterServe ret).Checked := by
  cases ret with
  | none => trivial
  | some value => trivial

/-- The state of the stub and the packets taken stay as they are. -/
theorem Session.Follows.same {target : σ} {session next : Session σ}
    (hfollows : session.Follows stub target) (hstub : next.stub = session.stub)
    (htaken : next.taken = session.taken) (hinHand : next.main.inHand = session.main.inHand)
    (hended : next.main.ended = session.main.ended) (hverified : next.main.Checked) :
    next.Follows stub target := by
  obtain ⟨served, after, hserved, hrun, hstates⟩ := hfollows.serves
  refine ⟨⟨served, after, ?_, ?_, ?_⟩, hverified⟩
  · rw [htaken, hinHand, hserved]
  · rw [hended, hrun]
  · rw [hstub]
    exact hstates

/-- An acknowledgement was sent. -/
theorem Session.Follows.acked {target : σ} {session next : Session σ}
    (hfollows : session.Follows stub target) {ack : List UInt8} (hack : ack.head? ≠ some dollar)
    (hstub : next.stub = { session.stub with sent := session.stub.sent ++ [ack] })
    (htaken : next.taken = session.taken) (hinHand : next.main.inHand = session.main.inHand)
    (hended : next.main.ended = session.main.ended) (hverified : next.main.Checked) :
    next.Follows stub target := by
  obtain ⟨served, after, hserved, hrun, hstates⟩ := hfollows.serves
  refine ⟨⟨served, after, ?_, ?_, ?_⟩, hverified⟩
  · rw [htaken, hinHand, hserved]
  · rw [hended, hrun]
  · rw [hstub]
    exact hstates.acked hack

/-- The packet in hand is what the loop takes next. -/
theorem Session.Follows.turn {target : σ} {session : Session σ}
    (hfollows : session.Follows stub target) {pkt : Packet UInt8}
    (hinHand : session.main.inHand = [pkt]) (hwaits : session.main.ended = .waits) :
    ∃ served between, session.taken.map Taken.pkt = served ++ [pkt] ∧
      (∀ pkts, gdbstubRun stub (served ++ pkts) (StubState.init target) =
        gdbstubRun stub pkts between) ∧
      InStep session.stub.failureCount session.stub between := by
  obtain ⟨served, between, hserved, hrun, hstates⟩ := hfollows.serves
  rw [hwaits] at hrun
  exact ⟨served, between, hinHand ▸ hserved, gdbstubRun_append_of_waits stub hrun, hstates⟩

/-- The packet in hand has been served. -/
theorem Session.Follows.served {target : σ} {session : Session σ}
    (hfollows : session.Follows stub target) {pkt : Packet UInt8} {csumOk : Bool}
    {ret : Option Bool} {after : StubState σ} (hmain : session.main = .serve pkt csumOk)
    (hserve : gdbstubServe stub pkt csumOk session.stub = (.ok ret, after)) (served : ℕ)
    (switchedBy : Option ℕ) :
    Session.Follows stub target { session with
      stub := after
      main := .afterServe ret
      served := served
      switchedBy := switchedBy } := by
  have hverify := hfollows.verified
  rw [hmain] at hverify
  obtain ⟨earlier, between, htaken, hrun, hstates⟩ :=
    hfollows.turn (by rw [hmain]; rfl) (by rw [hmain]; rfl)
  obtain ⟨hresult, failures, hafter⟩ := gdbstubServe_inStep stub hverify hstates
  rw [hserve] at hresult hafter
  rcases hturn : gdbstubTurn stub pkt between with ⟨result, final⟩
  rw [hturn] at hresult hafter
  obtain rfl : .ok ret = result := hresult
  refine ⟨⟨earlier ++ [pkt], final, ?_, ?_, ?_⟩, MainTurn.checked_afterServe ret⟩
  · rw [MainTurn.inHand_afterServe, List.append_nil]
    exact htaken
  · rw [hrun, MainTurn.ended_afterServe]
    cases ret with
    | none => rw [gdbstubRun_cons_of_none hturn]; rfl
    | some value => rw [gdbstubRun_cons_of_some hturn]; rfl
  · have hcount := hafter.first_count
    subst hcount
    exact hafter

/-- The packet in hand has ended the process. -/
theorem Session.Follows.crashed {target : σ} {session : Session σ}
    (hfollows : session.Follows stub target) {pkt : Packet UInt8} {fault : Fault}
    {after : StubState σ} (hinHand : session.main.inHand = [pkt])
    (hwaits : session.main.ended = .waits)
    (hturn : ∀ {between}, InStep session.stub.failureCount session.stub between →
      ∃ final failures, gdbstubTurn stub pkt between = (.error fault, final) ∧
        InStep failures after final) :
    Session.Follows stub target { session with stub := after, main := .crashed fault } := by
  obtain ⟨earlier, between, htaken, hrun, hstates⟩ := hfollows.turn hinHand hwaits
  obtain ⟨final, failures, hturn, hafter⟩ := hturn hstates
  refine ⟨⟨earlier ++ [pkt], final, ?_, ?_, ?_⟩, trivial⟩
  · rw [htaken]
    exact (List.append_nil _).symm
  · rw [hrun, gdbstubRun_cons_of_error hturn]
    rfl
  · have hcount := hafter.first_count
    subst hcount
    exact hafter

/-- A step that ends the process is a packet that cannot be verified or served. -/
theorem sessionMain_crashed {session next : Session σ} {fault : Fault}
    (hstep : sessionMain stub session = some next) (hcrashed : next.main = .crashed fault) :
    (∃ pkt, session.main = .verify pkt ∧ packetCsumVerify pkt = .error fault ∧
        next = { session with main := .crashed fault }) ∨
      ∃ pkt csumOk after, session.main = .serve pkt csumOk ∧
        gdbstubServe stub pkt csumOk session.stub = (.error fault, after) ∧
        next = { session with stub := after, main := .crashed fault } := by
  unfold sessionMain at hstep
  cases hmain : session.main with
  | pop =>
      rw [hmain] at hstep
      dsimp only at hstep
      split at hstep
      · cases hstep
      · cases hstep
        cases hcrashed
      · cases hstep
        cases hcrashed
  | isShutdown =>
      rw [hmain] at hstep
      cases hstep
      dsimp only at hcrashed
      split at hcrashed <;> cases hcrashed
  | checkInterrupt =>
      rw [hmain] at hstep
      cases hstep
      cases hcrashed
  | verify pkt =>
      rw [hmain] at hstep
      dsimp only at hstep
      split at hstep
      · rename_i other hverify
        cases hstep
        cases hcrashed
        exact .inl ⟨pkt, rfl, hverify, rfl⟩
      · cases hstep
        cases hcrashed
  | acknowledge pkt csumOk =>
      rw [hmain] at hstep
      dsimp only at hstep
      obtain ⟨acked, hacknowledge, -, -⟩ := gdbstubAcknowledge_same csumOk session.stub
      rw [hacknowledge] at hstep
      cases hstep
      cases hcrashed
  | serve pkt csumOk =>
      rw [hmain] at hstep
      dsimp only at hstep
      split at hstep
      · rename_i other after hserve
        cases hstep
        cases hcrashed
        exact .inr ⟨pkt, csumOk, after, rfl, hserve, rfl⟩
      · rename_i ret after hserve
        cases hstep
        cases ret <;> cases hcrashed
  | shutdownSeen =>
      rw [hmain] at hstep
      cases hstep
  | returned value =>
      rw [hmain] at hstep
      cases hstep
  | crashed fault =>
      rw [hmain] at hstep
      cases hstep

theorem plus_head? : (ascii "+").head? ≠ some dollar := by
  decide

theorem ackText_head? (csumOk : Bool) : (ackText csumOk).head? ≠ some dollar := by
  cases csumOk <;> decide

/-- The target is changed by nobody else. -/
def SessionLabel.Quiet : SessionLabel σ → Prop
  | .target _ => False
  | _ => True

/-- **A step of the two threads.** -/
theorem Session.Follows.step {target : σ} {session next : Session σ} {label : SessionLabel σ}
    (hfollows : session.Follows stub target) (hquiet : label.Quiet)
    (hstep : (gdbstubSession stub target).step session label = some next) :
    next.Follows stub target := by
  obtain ⟨-, hcases⟩ := gdbstubSession_step stub hstep
  have hverified := hfollows.verified
  cases hcases with
  | interrupt _ => exact hfollows.same rfl rfl rfl rfl hverified
  | push pkt _ => exact hfollows.same rfl rfl rfl rfl hverified
  | pushFailed pkt => exact hfollows
  | ack _ => exact hfollows.acked plus_head? rfl rfl rfl rfl hverified
  | ackSkipped _ => exact hfollows.same rfl rfl rfl rfl hverified
  | shutdown _ => exact hfollows.same rfl rfl rfl rfl hverified
  | target next => exact hquiet.elim
  | popNull hmain _ => exact hfollows.same rfl rfl (by rw [hmain]; rfl) (by rw [hmain]; rfl) trivial
  | popPacket pkt packets hmain hpackets =>
      -- the packet in hand is the next one of the run, and has not been served yet
      obtain ⟨served, after, hserved, hrun, hstates⟩ := hfollows.serves
      rw [hmain] at hserved hrun
      refine ⟨⟨served, after, ?_, hrun, hstates⟩, trivial⟩
      show (session.taken ++ [_]).map Taken.pkt = _
      rw [List.map_append, hserved]
      exact congrArg (· ++ [pkt]) (List.append_nil served)
  | shutdownSeen hmain _ =>
      exact hfollows.same rfl rfl (by rw [hmain]; rfl) (by rw [hmain]; rfl) trivial
  | notShutdown hmain _ =>
      exact hfollows.same rfl rfl (by rw [hmain]; rfl) (by rw [hmain]; rfl) trivial
  | checkInterrupt hmain =>
      exact hfollows.same rfl rfl (by rw [hmain]; rfl) (by rw [hmain]; rfl) trivial
  | verified pkt csumOk hmain hverify =>
      exact hfollows.same rfl rfl (by rw [hmain]; rfl) (by rw [hmain]; rfl) hverify
  | acknowledged pkt csumOk hmain _ =>
      rw [hmain] at hverified
      exact hfollows.acked (ackText_head? csumOk) rfl rfl (by rw [hmain]; rfl) (by rw [hmain]; rfl)
        hverified
  | notAcknowledged pkt csumOk hmain _ =>
      rw [hmain] at hverified
      exact hfollows.same rfl rfl (by rw [hmain]; rfl) (by rw [hmain]; rfl) hverified
  | served pkt csumOk ret after hmain hserve => exact hfollows.served hmain hserve _ _
  | crashed fault after _ =>
      -- the turn of the loop has the same fault, in the checksum or in what is served
      have hmainStep := (Option.ite_none_right_eq_some.mp hstep).2
      rcases sessionMain_crashed hmainStep rfl with
        ⟨pkt, hmain, hverify, hnext⟩ | ⟨pkt, csumOk, final, hmain, hserve, hnext⟩
      · rw [hnext]
        show Session.Follows stub target { session with stub := session.stub, main := _ }
        refine hfollows.crashed (by rw [hmain]; rfl) (by rw [hmain]; rfl) ?_
        intro between hstates
        exact ⟨between, _, gdbstubTurn_unverified stub hverify between, hstates⟩
      · rw [hnext]
        rw [hmain] at hverified
        refine hfollows.crashed (by rw [hmain]; rfl) (by rw [hmain]; rfl) ?_
        intro between hstates
        obtain ⟨hresult, failures, hafter⟩ := gdbstubServe_inStep stub hverified hstates
        rw [hserve] at hresult hafter
        rcases hturn : gdbstubTurn stub pkt between with ⟨result, ended⟩
        rw [hturn] at hresult hafter
        obtain rfl : .error fault = result := hresult
        exact ⟨ended, failures, rfl, hafter⟩

/-- **The main thread and the loop of `gdbstub_run`**, as long as nobody else touches the target. -/
theorem session_follows {target : σ} {labels : List (SessionLabel σ)} {session : Session σ}
    (hquiet : ∀ label ∈ labels, label.Quiet)
    (hrun : (gdbstubSession stub target).run labels = some session) :
    session.Follows stub target := by
  refine Machine.run_induction (motive := fun labels session =>
    (∀ label ∈ labels, label.Quiet) → session.Follows stub target) ?_ ?_ hrun hquiet
  · intro _
    exact ⟨⟨[], StubState.init target, rfl, rfl, SameEffect.refl _, rfl, rfl⟩, trivial⟩
  · intro labels label session next _ ih hstep hquiet
    have hearlier := ih fun earlier hmem => hquiet earlier (List.mem_append_left _ hmem)
    exact hearlier.step (hquiet label (List.mem_append_right _ (List.mem_singleton_self _))) hstep

end MiniGdbstub
