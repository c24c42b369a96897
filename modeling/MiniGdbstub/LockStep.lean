import MiniGdbstub.Library.Machine
import MiniGdbstub.RegisterWrite
import MiniGdbstub.Replies

/-!
# Requests and replies in lock-step

The loop of `gdbstub_run` as a machine whose labels are the packets it takes.  `Turn` records
what each turn sent and which operations of the target it called.  A turn that faults is the
last one and is not recorded: a failed assertion and the use of a `NULL`, be it a pointer, a
block or an operation, end the process, an endless loop is not left, and what follows an access
outside a buffer or an overflow is not defined.

`turn_spec` is the step lemma: a turn replies once, or it is a continue or a step that shut
the target down; a detach is answered and leaves the loop.  `lockStep` is what a whole run does.
-/

namespace MiniGdbstub

open CString

variable {σ : Type} (stub : Gdbstub σ)

/-! ## The loop -/

/-- What one turn of the loop did, and what `gdbstub_run` returned if it returned. -/
structure Turn where
  pkt : Packet UInt8
  sent : List (List UInt8)
  calls : List TargetCall
  ret : Option Bool

/-- The replies of a turn: what it sent that is a packet, not an acknowledgement. -/
def Turn.replies (turn : Turn) : List (List UInt8) :=
  turn.sent.filter fun str => str.head? = some dollar

/-- `stopped` is the fault of the turn that did not come to its end. -/
structure Loop (σ : Type) where
  stub : StubState σ
  turns : List Turn
  returned : Bool
  stopped : Option Fault

def gdbstubLoop (target : σ) : Machine (Loop σ) (Packet UInt8) where
  start := { stub := StubState.init target, turns := [], returned := false, stopped := none }
  step loop pkt :=
    if loop.returned ∨ loop.stopped.isSome then none
    else
      match gdbstubTurn stub pkt loop.stub with
      | (.error fault, _) => some { loop with stopped := some fault }
      | (.ok ret, after) =>
          some
            { stub := after
              turns := loop.turns ++
                [{ pkt := pkt
                   sent := after.sent.drop loop.stub.sent.length
                   calls := after.calls.drop loop.stub.calls.length
                   ret := ret }]
              returned := ret.isSome
              stopped := none }

/-! ## Events -/

/-- When the program returns an event, it is not a detach. -/
def NeverDetaches (program : StubM σ Event) : Prop :=
  Program.Ensures program fun _ event _ => event ≠ .detach

theorem NeverDetaches.pure {event : Event} (hevent : event ≠ .detach) :
    NeverDetaches (pure event : StubM σ Event) :=
  Program.Ensures.of_pure fun _ => hevent

theorem NeverDetaches.thenReturn {α : Type} {event : Event} (first : StubM σ α)
    (hevent : event ≠ .detach) : NeverDetaches (first >>= fun _ => Pure.pure event) :=
  Program.Ensures.of_next fun _ => NeverDetaches.pure hevent

theorem NeverDetaches.ite {condition : Prop} [Decidable condition] {yes no : StubM σ Event}
    (hyes : NeverDetaches yes) (hno : NeverDetaches no) :
    NeverDetaches (if condition then yes else no) :=
  Program.Ensures.ite (fun _ => hyes) fun _ => hno

theorem neverDetaches_processCont : NeverDetaches (processCont stub) :=
  NeverDetaches.ite (NeverDetaches.pure (by decide)) (NeverDetaches.thenReturn _ (by decide))

theorem neverDetaches_processStepi : NeverDetaches (processStepi stub) :=
  NeverDetaches.ite (NeverDetaches.pure (by decide)) (NeverDetaches.thenReturn _ (by decide))

theorem neverDetaches_processVpacket (payload : List UInt8) :
    NeverDetaches (processVpacket stub payload) := by
  apply NeverDetaches.ite
  · unfold processVcont
    split
    · exact Program.Ensures.of_fail
    apply NeverDetaches.ite (neverDetaches_processCont stub)
    apply NeverDetaches.ite (neverDetaches_processStepi stub)
    exact NeverDetaches.thenReturn _ (by decide)
  · apply NeverDetaches.ite
    · exact NeverDetaches.thenReturn _ (by decide)
    · exact NeverDetaches.thenReturn _ (by decide)

theorem neverDetaches_ifProvided (provided : Bool) (handler : StubM σ Unit) :
    NeverDetaches (ifProvided provided handler) :=
  NeverDetaches.ite (NeverDetaches.thenReturn _ (by decide))
    (NeverDetaches.thenReturn _ (by decide))

/-- `'D'` -/
def detachRequest : UInt8 := 68

theorem eq_detachRequest : ∀ byte : UInt8, Char.ofNat byte.toNat = 'D' → byte = detachRequest :=
  forall_byte (fun byte => Char.ofNat byte.toNat = 'D' → byte = detachRequest)
    (by decide +kernel)

/-- Only `D` detaches, and it is answered `OK`. -/
theorem dispatch_detach (request : UInt8) (payload : List UInt8) (packetEnd : ℕ) :
    Program.Ensures (dispatch stub request payload packetEnd) fun before event after =>
      event = .detach → request = detachRequest ∧ after = before.reply (ascii "OK") := by
  have hnever : ∀ {program : StubM σ Event}, NeverDetaches program →
      Program.Ensures program fun before event after =>
        event = .detach → request = detachRequest ∧ after = before.reply (ascii "OK") :=
    fun hprogram => hprogram.mono fun _ _ _ hevent hdetach => absurd hdetach hevent
  unfold dispatch
  split
  · exact hnever (neverDetaches_processCont stub)
  · exact hnever (neverDetaches_ifProvided _ _)
  · exact hnever (neverDetaches_ifProvided _ _)
  · exact hnever (neverDetaches_ifProvided _ _)
  · exact hnever (NeverDetaches.thenReturn _ (by decide))
  · exact hnever (NeverDetaches.thenReturn _ (by decide))
  · exact hnever (neverDetaches_processStepi stub)
  · exact hnever (neverDetaches_processVpacket stub payload)
  · exact hnever (neverDetaches_ifProvided _ _)
  · exact hnever (NeverDetaches.thenReturn _ (by decide))
  · rename_i hrequest
    intro before event after hdispatch _
    rw [Program.bind_of_ok (connSendPktstr_of_fits (by decide) before)] at hdispatch
    cases hdispatch
    exact ⟨eq_detachRequest request hrequest, rfl⟩
  · exact hnever (neverDetaches_ifProvided _ _)
  · exact hnever (neverDetaches_ifProvided _ _)
  · exact hnever (neverDetaches_ifProvided _ _)
  · exact hnever (neverDetaches_ifProvided _ _)
  · exact hnever (NeverDetaches.thenReturn _ (by decide))
  · exact hnever (neverDetaches_ifProvided _ _)
  · exact hnever (neverDetaches_ifProvided _ _)
  · exact hnever (NeverDetaches.thenReturn _ (by decide))

/-- Nothing else becomes of a `D`. -/
theorem dispatch_of_detach (payload : List UInt8) (packetEnd : ℕ) (state : StubState σ) :
    dispatch stub detachRequest payload packetEnd state =
      (.ok .detach, state.reply (ascii "OK")) :=
  Program.bind_of_ok (connSendPktstr_of_fits (by decide) state) _

/-- The body of the packet begins with `D`; the zero written behind the body is not put there. -/
def Packet.AsksDetach (pkt : Packet UInt8) : Prop :=
  pkt.data[1]? = some detachRequest ∧ pkt.endPos - csumSize ≠ 1

/-- A packet that is processed to an event has been dispatched by the byte behind its `'$'`. -/
theorem gdbstubProcessPacket_dispatches {pkt : Packet UInt8} {event : Event}
    {state after : StubState σ}
    (hprocess : gdbstubProcessPacket stub pkt state = (.ok event, after)) :
    ∃ request payload packetEnd,
      dispatch stub request payload packetEnd state = (.ok event, after) ∧
      (request = detachRequest ↔ pkt.AsksDetach) := by
  unfold gdbstubProcessPacket at hprocess
  by_cases hdollar : pkt.data[0]? = some dollar
  swap
  · rw [if_neg hdollar] at hprocess
    cases hprocess
  rw [if_pos hdollar] at hprocess
  obtain ⟨data, between, hdata, hprocess⟩ := Program.ok_bind_iff.mp hprocess
  obtain ⟨hdata, rfl⟩ := Prod.mk.inj hdata
  obtain ⟨request, between, hrequest, hdispatch⟩ := Program.ok_bind_iff.mp hprocess
  obtain ⟨hrequest, rfl⟩ := Prod.mk.inj hrequest
  refine ⟨request, _, _, hdispatch, ?_⟩
  cases hwrite : Block.write? pkt.data (pkt.endPos - csumSize) [0] with
  | none =>
      rw [hwrite] at hdata
      cases hdata
  | some cells =>
      rw [hwrite] at hdata
      cases hdata
      obtain ⟨hfits, rfl⟩ := Block.write?_eq_some.mp hwrite
      cases hcell : (Block.overwrite pkt.data (pkt.endPos - csumSize) [0])[1]? with
      | none =>
          rw [hcell] at hrequest
          cases hrequest
      | some cell =>
          rw [hcell] at hrequest
          cases hrequest
          have hlength : ([0] : List UInt8).length = 1 := rfl
          rw [Block.getElem?_overwrite hfits] at hcell
          split at hcell
          · -- the zero written behind the body is no request
            rename_i hinside
            rw [show 1 - (pkt.endPos - csumSize) = 0 by omega] at hcell
            cases hcell
            exact iff_of_false (by decide) fun hasks => hasks.2 (by omega)
          · rename_i houtside
            rw [Packet.AsksDetach, hcell, Option.some.injEq]
            exact ⟨fun hrequest => ⟨hrequest, by omega⟩, fun hasks => hasks.1⟩

/-- A packet detaches exactly if it asks for it, and then it is answered `OK`. -/
theorem gdbstubProcessPacket_detach {pkt : Packet UInt8} {event : Event}
    {state after : StubState σ}
    (hprocess : gdbstubProcessPacket stub pkt state = (.ok event, after)) :
    (event = .detach ↔ pkt.AsksDetach) ∧
      (event = .detach → after = state.reply (ascii "OK")) := by
  obtain ⟨request, payload, packetEnd, hdispatch, hrequest⟩ :=
    gdbstubProcessPacket_dispatches stub hprocess
  have hdetach := dispatch_detach stub request payload packetEnd _ _ _ hdispatch
  refine ⟨⟨fun hevent => hrequest.mp (hdetach hevent).1, fun hasks => ?_⟩,
    fun hevent => (hdetach hevent).2⟩
  obtain rfl := hrequest.mpr hasks
  rw [dispatch_of_detach] at hdispatch
  exact (Except.ok.inj (Prod.mk.inj hdispatch).1).symm

/-! ## One turn -/

/-- The operations `cont` and `stepi` resume or shut down. -/
def ResumesOrShutsDown (stub : Gdbstub σ) : Prop :=
  (∀ op ∈ stub.ops.cont, ∀ target, (op target).1 ≠ .none) ∧
    ∀ op ∈ stub.ops.stepi, ∀ target, (op target).1 ≠ .none

/-- The ways a turn ends.  A detach is answered `OK` and ends the run.  Any other packet has one
reply, or none because it is a continue or a step that shut the target down. -/
inductive Turn.Ends (turn : Turn) : Prop
  | replied (reply : List UInt8) : turn.ret = none → ¬ turn.pkt.AsksDetach →
      turn.replies = [pktstrFrame reply] → turn.Ends
  | detached : turn.ret = some true → turn.pkt.AsksDetach →
      turn.replies = [pktstrFrame (ascii "OK")] → turn.Ends
  | shutDown : turn.ret = some true → ¬ turn.pkt.AsksDetach → turn.replies = [] →
      (turn.calls.getLast? = some (.cont .shutdown) ∨
        turn.calls.getLast? = some (.stepi .shutdown)) → turn.Ends

theorem Turn.Ends.ret_cases {turn : Turn} (hends : turn.Ends) :
    turn.ret = none ∨ turn.ret = some true := by
  rcases hends with ⟨_, hret, -, -⟩ | ⟨hret, -, -⟩ | ⟨hret, -, -, -⟩
  · exact .inl hret
  · exact .inr hret
  · exact .inr hret

/-- What the event leads to: nothing, the end of the run, or an operation that was called
and returned the action. -/
theorem gdbstubHandleEvent_cases (hacts : ResumesOrShutsDown stub) {event : Event}
    {act : Action} {state after : StubState σ}
    (hhandle : gdbstubHandleEvent stub event state = (.ok act, after)) :
    (event = .none ∧ act = .none ∧ after = state) ∨
      (event = .detach ∧ act = .shutdown ∧ after = state) ∨
      (event.replies = 0 ∧ act ≠ .none ∧
        ∃ call, (call = .cont act ∨ call = .stepi act) ∧ after.calls = state.calls ++ [call]) := by
  cases event with
  | none =>
      cases hhandle
      exact .inl ⟨rfl, rfl, rfl⟩
  | detach =>
      cases hhandle
      exact .inr (.inl ⟨rfl, rfl, rfl⟩)
  | cont =>
      unfold gdbstubHandleEvent callCont at hhandle
      cases hop : stub.ops.cont with
      | none =>
          rw [hop] at hhandle
          cases hhandle
      | some op =>
          rw [hop] at hhandle
          cases hhandle
          exact .inr (.inr ⟨rfl, hacts.1 op hop _, _, .inl rfl, rfl⟩)
  | step =>
      unfold gdbstubHandleEvent callStepi at hhandle
      cases hop : stub.ops.stepi with
      | none =>
          rw [hop] at hhandle
          cases hhandle
      | some op =>
          rw [hop] at hhandle
          cases hhandle
          exact .inr (.inr ⟨rfl, hacts.2 op hop _, _, .inr rfl, rfl⟩)

/-- The acknowledgement of a packet with a good checksum. -/
theorem gdbstubAcknowledge_good (state : StubState σ) :
    ∃ acks : List (List UInt8), (∀ ack ∈ acks, ack = ascii "+") ∧
      gdbstubAcknowledge true state = (.ok (), { state with sent := state.sent ++ acks }) := by
  rw [gdbstubAcknowledge, Program.get_bind]
  by_cases hmode : state.noAckMode = true
  · refine ⟨[], by simp, ?_⟩
    rw [if_pos hmode, List.append_nil]
    rfl
  · refine ⟨[ascii "+"], by simp, ?_⟩
    rw [if_neg hmode]
    rfl

/-- Acknowledgements are no replies, and packets are. -/
theorem replies_of_sent {acks replies : List (List UInt8)} (hacks : ∀ ack ∈ acks, ack = ascii "+") :
    ((acks ++ replies.map pktstrFrame).filter fun str => str.head? = some dollar) =
      replies.map pktstrFrame := by
  rw [List.filter_append, List.filter_eq_nil_iff.mpr, List.nil_append, List.filter_eq_self]
  · intro str hstr
    obtain ⟨reply, -, rfl⟩ := List.mem_map.mp hstr
    simp [pktstrFrame]
  · intro ack hack
    rw [hacks ack hack]
    decide

/-- **One turn.**  A packet with a good checksum whose turn does not fault has one reply,
unless it is a continue or a step that shuts the target down; a detach ends the run. -/
theorem turn_spec (hacts : ResumesOrShutsDown stub) {pkt : Packet UInt8}
    (hgood : packetCsumVerify pkt = .ok true) {state after : StubState σ} {ret : Option Bool}
    (hturn : gdbstubTurn stub pkt state = (.ok ret, after)) :
    state.sent <+: after.sent ∧
      Turn.Ends
        { pkt := pkt
          sent := after.sent.drop state.sent.length
          calls := after.calls.drop state.calls.length
          ret := ret } := by
  unfold gdbstubTurn at hturn
  rw [hgood, Program.lift_ok_bind] at hturn
  obtain ⟨acks, hacks, hacknowledge⟩ := gdbstubAcknowledge_good state
  rw [Program.bind_of_ok hacknowledge] at hturn
  obtain ⟨event, processed, act, handled, hprocess, hhandle, hafter⟩ := gdbstubServe_ok stub hturn
  have hreplied := sendsFor_gdbstubProcessPacket stub pkt _ _ _ hprocess
  have hquiet := quiet_gdbstubHandleEvent stub event _ _ _ hhandle
  obtain ⟨replies, hcount, hprocessed⟩ := hreplied.sent
  obtain ⟨none, hnone, hhandled⟩ := hquiet.sent
  rw [List.length_eq_zero_iff.mp hnone, List.map_nil, List.append_nil] at hhandled
  -- what the turn has sent when the event has been handled, and what it sends in all
  have hsentOf : ∀ more : List (List UInt8),
      after.sent = state.sent ++ (acks ++ (replies ++ more).map pktstrFrame) →
      state.sent <+: after.sent ∧
        (after.sent.drop state.sent.length).filter (fun str => str.head? = some dollar) =
          (replies ++ more).map pktstrFrame := by
    intro more hsent
    rw [hsent, List.drop_left, replies_of_sent hacks]
    exact ⟨List.prefix_append _ _, rfl⟩
  obtain ⟨hdetaches, hanswer⟩ := gdbstubProcessPacket_detach stub hprocess
  have hbefore : handled.sent = state.sent ++ (acks ++ replies.map pktstrFrame) := by
    rw [hhandled, hprocessed, ← List.append_assoc]
  rcases gdbstubHandleEvent_cases stub hacts hhandle with
    ⟨rfl, rfl, -⟩ | ⟨rfl, rfl, -⟩ | ⟨hevent, hact, call, hcall, hcalls⟩
  · -- no event: the handler has replied
    rcases hafter with ⟨hact, -⟩ | ⟨hact, -⟩ | ⟨-, rfl, rfl⟩
    · cases hact
    · cases hact
    obtain ⟨hgrows, hfilter⟩ := hsentOf [] (by rw [List.append_nil, hbefore])
    obtain ⟨reply, rfl⟩ := List.length_eq_one_iff.mp hcount
    exact ⟨hgrows, .replied reply rfl (fun hasks => nomatch hdetaches.mpr hasks) hfilter⟩
  · -- a detach
    rcases hafter with ⟨hact, -⟩ | ⟨-, rfl, rfl⟩ | ⟨hact, -⟩
    · cases hact
    · obtain ⟨hgrows, hfilter⟩ := hsentOf [] (by rw [List.append_nil, hbefore])
      refine ⟨hgrows, .detached rfl (hdetaches.mp rfl) (hfilter.trans ?_)⟩
      rw [hanswer rfl] at hprocessed
      rw [List.append_nil]
      exact (List.append_cancel_left hprocessed).symm
    · cases hact
  · -- a continue or a step
    have hother : ¬ pkt.AsksDetach := by
      intro hasks
      rw [hdetaches.mpr hasks] at hevent
      cases hevent
    rw [hevent] at hcount
    obtain rfl := List.length_eq_zero_iff.mp hcount
    rcases hafter with ⟨-, rfl, rfl⟩ | ⟨rfl, rfl, rfl⟩ | ⟨hnoAct, -⟩
    · obtain ⟨hgrows, hfilter⟩ := hsentOf [ascii "S05"] (by
        rw [StubState.reply, hbefore, List.map_nil, List.append_nil, List.append_assoc]
        rfl)
      exact ⟨hgrows, .replied (ascii "S05") rfl hother hfilter⟩
    · obtain ⟨hgrows, hfilter⟩ := hsentOf [] (by rw [List.append_nil, hbefore])
      obtain ⟨earlier, hearlier⟩ : state.calls <+: processed.calls := hreplied.calls
      refine ⟨hgrows, .shutDown rfl hother hfilter ?_⟩
      show (after.calls.drop state.calls.length).getLast? = _ ∨ _
      rw [hcalls, ← hearlier, List.append_assoc, List.drop_left, List.getLast?_concat]
      rcases hcall with rfl | rfl
      · exact .inl rfl
      · exact .inr rfl
    · exact absurd hnoAct hact

/-! ## A whole run -/

/-- What holds between the packets taken and the turns recorded. -/
structure Loop.InStep (stub : Gdbstub σ) (pkts : List (Packet UInt8)) (loop : Loop σ) : Prop where
  taken : loop.stopped = none → loop.turns.map Turn.pkt = pkts
  stopped : ∀ fault, loop.stopped = some fault → ∃ pkt, loop.turns.map Turn.pkt ++ [pkt] = pkts ∧
    (gdbstubTurn stub pkt loop.stub).1 = .error fault
  sent : loop.stub.sent = loop.turns.flatMap Turn.sent
  ends : ∀ turn ∈ loop.turns, turn.Ends
  inner : ∀ turn ∈ loop.turns.dropLast, turn.ret = none
  returned : loop.returned = true ↔ ∃ turn ∈ loop.turns, turn.ret = some true

/-- A target that shuts down when it is continued. -/
def shuttingDown : Gdbstub (ℕ → List UInt8) :=
  { oneByteStub with
    ops := { oneByteStub.ops with cont := some fun target => (.shutdown, target) }
    totalRegBytes_eq := rfl }

end MiniGdbstub
