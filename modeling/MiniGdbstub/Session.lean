import MiniGdbstub.Library.Machine
import MiniGdbstub.Replies

/-!
# The two threads

`pktqueue.c`, and the loop of `gdbstub_run` running beside the reader thread.  Every
critical section of the queue and every send is one step, and a label says which thread
moves, so a list of labels is an interleaving.  Of the reader only its operations on the
queue and the connection are steps here, in any order that `socket_reader` can take them;
the label carries the packet it pushes and how a `trylock` ends.  `target` is whatever
happens to the target between two steps of the main thread.

A session also records the packets pushed and taken and, for every packet, the
acknowledgements sent.
-/

namespace MiniGdbstub

open CString

/-! ## The queue -/

/-- `pktqueue_t`: the packets from `head` to `tail`, and the two flags. -/
structure Pktqueue (α : Type) where
  packets : List α
  shutdown : Bool
  interrupted : Bool

section

variable {α : Type}

def pktqueueInit : Pktqueue α :=
  { packets := [], shutdown := false, interrupted := false }

def pktqueuePush (queue : Pktqueue α) (pkt : α) : Pktqueue α :=
  { queue with packets := queue.packets ++ [pkt] }

/-- `pktqueue_pop`, from the moment it stops waiting: `none` while it waits, and a `NULL`
packet if there is none. -/
def pktqueuePop (queue : Pktqueue α) : Option (Option α × Pktqueue α) :=
  match queue.packets with
  | pkt :: packets => some (some pkt, { queue with packets := packets })
  | [] => if queue.shutdown || queue.interrupted then some (none, queue) else none

def pktqueueSignalShutdown (queue : Pktqueue α) : Pktqueue α :=
  { queue with shutdown := true }

def pktqueueSignalInterrupt (queue : Pktqueue α) : Pktqueue α :=
  { queue with interrupted := true }

def pktqueueCheckInterrupt (queue : Pktqueue α) : Bool × Pktqueue α :=
  (queue.interrupted, { queue with interrupted := false })

def pktqueueIsShutdown (queue : Pktqueue α) : Bool :=
  queue.shutdown

/-- A `NULL` packet means an empty queue; any other is the first one. -/
theorem pktqueuePop_cases {queue next : Pktqueue α} {pkt? : Option α}
    (hpop : pktqueuePop queue = some (pkt?, next)) :
    (pkt? = none ∧ queue.packets = [] ∧ next = queue) ∨
      ∃ pkt packets, pkt? = some pkt ∧ queue.packets = pkt :: packets ∧
        next = { queue with packets := packets } := by
  unfold pktqueuePop at hpop
  split at hpop
  · rename_i pkt packets hpackets
    cases hpop
    exact .inr ⟨pkt, packets, rfl, hpackets, rfl⟩
  · rename_i hpackets
    split at hpop
    · cases hpop
      exact .inl ⟨rfl, hpackets, rfl⟩
    · exact absurd hpop (by simp)

end

/-! ## The steps -/

/-- Where the reader is: about to read on, between a push and the `+` for it, or past
`pktqueue_signal_shutdown`. -/
inductive ReaderTurn
  | reading
  | acking
  | finished
  deriving DecidableEq, Repr

/-- Where the main thread is in the loop of `gdbstub_run`.  `shutdownSeen` is its return
because of the flag, `returned` any other. -/
inductive MainTurn
  | pop
  | isShutdown
  | checkInterrupt
  | verify (pkt : Packet UInt8)
  | acknowledge (pkt : Packet UInt8) (csumOk : Bool)
  | serve (pkt : Packet UInt8) (csumOk : Bool)
  | shutdownSeen
  | returned (value : Bool)
  | crashed (fault : Fault)

/-- Where a packet that has been served leaves the main thread. -/
def MainTurn.afterServe : Option Bool → MainTurn
  | none => .pop
  | some value => .returned value

/-- A packet taken from the queue, and `no_ack_mode` at that moment. -/
structure Taken where
  pkt : Packet UInt8
  noAckMode : Bool

/-- The two threads.  Packets are numbered from zero in the order of their pushes, which
is the order in which they are taken; `tried` says for each how the reader's `trylock`
ended, `acks` is what was sent to acknowledge them, and `switchedBy` is the packet whose
processing turned `no_ack_mode` on. -/
structure Session (σ : Type) where
  queue : Pktqueue (Packet UInt8)
  reader : ReaderTurn
  main : MainTurn
  stub : StubState σ
  pushed : List (Packet UInt8)
  tried : List Bool
  taken : List Taken
  acknowledged : ℕ
  served : ℕ
  acks : List (ℕ × List UInt8)
  switchedBy : Option ℕ

inductive SessionLabel (σ : Type)
  | interrupt
  | push (pkt : Packet UInt8) (allocated : Bool)
  | ack (acquired : Bool)
  | shutdown
  | target (next : σ)
  | main

variable {σ : Type} (stub : Gdbstub σ)

/-- What the program sent between two states, as acknowledgements of packet `i`. -/
def acksOf (i : ℕ) (before after : StubState σ) : List (ℕ × List UInt8) :=
  (after.sent.drop before.sent.length).map fun str => (i, str)

/-- A step of the main thread. -/
def sessionMain (session : Session σ) : Option (Session σ) :=
  match session.main with
  | .pop =>
      match pktqueuePop session.queue with
      | none => none
      | some (none, queue) => some { session with queue := queue, main := .isShutdown }
      | some (some pkt, queue) =>
          some { session with
            queue := queue
            main := .verify pkt
            taken := session.taken ++ [⟨pkt, session.stub.noAckMode⟩] }
  | .isShutdown =>
      some { session with
        main := if pktqueueIsShutdown session.queue then .shutdownSeen else .checkInterrupt }
  | .checkInterrupt =>
      some { session with queue := (pktqueueCheckInterrupt session.queue).2, main := .pop }
  | .verify pkt =>
      match packetCsumVerify pkt with
      | .error fault => some { session with main := .crashed fault }
      | .ok csumOk => some { session with main := .acknowledge pkt csumOk }
  | .acknowledge pkt csumOk =>
      match gdbstubAcknowledge csumOk session.stub with
      | (.error fault, after) => some { session with stub := after, main := .crashed fault }
      | (.ok (), after) =>
          some { session with
            stub := after
            main := .serve pkt csumOk
            acknowledged := session.acknowledged + 1
            acks := session.acks ++ acksOf session.acknowledged session.stub after }
  | .serve pkt csumOk =>
      match gdbstubServe stub pkt csumOk session.stub with
      | (.error fault, after) => some { session with stub := after, main := .crashed fault }
      | (.ok ret, after) =>
          some { session with
            stub := after
            main := .afterServe ret
            served := session.served + 1
            switchedBy :=
              if session.stub.noAckMode = false ∧ after.noAckMode = true then some session.served
              else session.switchedBy }
  | .shutdownSeen => none
  | .returned _ => none
  | .crashed _ => none

/-- A step of the reader thread. -/
def sessionReader (session : Session σ) : SessionLabel σ → Option (Session σ)
  | .interrupt =>
      if session.reader = .reading then
        some { session with queue := pktqueueSignalInterrupt session.queue }
      else none
  | .push pkt allocated =>
      if session.reader = .reading then
        if allocated then
          some { session with
            queue := pktqueuePush session.queue pkt
            reader := .acking
            pushed := session.pushed ++ [pkt] }
        else some session
      else none
  | .ack acquired =>
      if session.reader = .acking then
        let (_, after) := connTrySendStr acquired (ascii "+") session.stub
        some { session with
          stub := after
          reader := .reading
          tried := session.tried ++ [acquired]
          acks := session.acks ++ acksOf session.tried.length session.stub after }
      else none
  | .shutdown =>
      if session.reader = .reading then
        some { session with queue := pktqueueSignalShutdown session.queue, reader := .finished }
      else none
  | _ => none

/-- Has the main thread not faulted?  A fault ends the process. -/
def MainTurn.running : MainTurn → Bool
  | .crashed _ => false
  | _ => true

/-- `gdbstub_run` and the reader thread. -/
def gdbstubSession (target : σ) : Machine (Session σ) (SessionLabel σ) where
  start :=
    { queue := pktqueueInit, reader := .reading, main := .pop, stub := StubState.init target,
      pushed := [], tried := [], taken := [], acknowledged := 0, served := 0, acks := [],
      switchedBy := none }
  step session label :=
    if session.main.running then
      match label with
      | .main => sessionMain stub session
      | .target next => some { session with stub := { session.stub with target := next } }
      | label => sessionReader session label
    else none

/-- The packets that the main thread has taken and not yet served. -/
def MainTurn.unserved : MainTurn → ℕ
  | .verify _ => 1
  | .acknowledge _ _ => 1
  | .serve _ _ => 1
  | _ => 0

/-! ## What a step can do -/

/-- The text that acknowledges a packet. -/
def ackText (csumOk : Bool) : List UInt8 :=
  if csumOk then ascii "+" else ascii "-"

/-- The steps of the two threads, one constructor for each thing that can happen. -/
inductive SessionStep (session : Session σ) : SessionLabel σ → Session σ → Prop
  | interrupt : session.reader = .reading →
      SessionStep session .interrupt
        { session with queue := pktqueueSignalInterrupt session.queue }
  | push (pkt : Packet UInt8) : session.reader = .reading →
      SessionStep session (.push pkt true)
        { session with
          queue := pktqueuePush session.queue pkt
          reader := .acking
          pushed := session.pushed ++ [pkt] }
  | pushFailed (pkt : Packet UInt8) : SessionStep session (.push pkt false) session
  | ack : session.reader = .acking →
      SessionStep session (.ack true)
        { session with
          stub := { session.stub with sent := session.stub.sent ++ [ascii "+"] }
          reader := .reading
          tried := session.tried ++ [true]
          acks := session.acks ++ [(session.tried.length, ascii "+")] }
  | ackSkipped : session.reader = .acking →
      SessionStep session (.ack false)
        { session with reader := .reading, tried := session.tried ++ [false] }
  | shutdown : session.reader = .reading →
      SessionStep session .shutdown
        { session with queue := pktqueueSignalShutdown session.queue, reader := .finished }
  | target (next : σ) : SessionStep session (.target next)
      { session with stub := { session.stub with target := next } }
  | popNull : session.main = .pop → session.queue.packets = [] →
      SessionStep session .main { session with main := .isShutdown }
  | popPacket (pkt : Packet UInt8) (packets : List (Packet UInt8)) : session.main = .pop →
      session.queue.packets = pkt :: packets →
      SessionStep session .main
        { session with
          queue := { session.queue with packets := packets }
          main := .verify pkt
          taken := session.taken ++ [⟨pkt, session.stub.noAckMode⟩] }
  | shutdownSeen : session.main = .isShutdown → session.queue.shutdown = true →
      SessionStep session .main { session with main := .shutdownSeen }
  | notShutdown : session.main = .isShutdown → session.queue.shutdown = false →
      SessionStep session .main { session with main := .checkInterrupt }
  | checkInterrupt : session.main = .checkInterrupt →
      SessionStep session .main
        { session with queue := (pktqueueCheckInterrupt session.queue).2, main := .pop }
  | verified (pkt : Packet UInt8) (csumOk : Bool) : session.main = .verify pkt →
      packetCsumVerify pkt = .ok csumOk →
      SessionStep session .main { session with main := .acknowledge pkt csumOk }
  | acknowledged (pkt : Packet UInt8) (csumOk : Bool) : session.main = .acknowledge pkt csumOk →
      session.stub.noAckMode = false →
      SessionStep session .main
        { session with
          stub := { session.stub with sent := session.stub.sent ++ [ackText csumOk] }
          main := .serve pkt csumOk
          acknowledged := session.acknowledged + 1
          acks := session.acks ++ [(session.acknowledged, ackText csumOk)] }
  | notAcknowledged (pkt : Packet UInt8) (csumOk : Bool) :
      session.main = .acknowledge pkt csumOk → session.stub.noAckMode = true →
      SessionStep session .main
        { session with main := .serve pkt csumOk, acknowledged := session.acknowledged + 1 }
  | served (pkt : Packet UInt8) (csumOk : Bool) (ret : Option Bool) (after : StubState σ) :
      session.main = .serve pkt csumOk →
      gdbstubServe stub pkt csumOk session.stub = (.ok ret, after) →
      SessionStep session .main
        { session with
          stub := after
          main := .afterServe ret
          served := session.served + 1
          switchedBy :=
            if session.stub.noAckMode = false ∧ after.noAckMode = true then some session.served
            else session.switchedBy }
  | crashed (fault : Fault) (after : StubState σ) : session.main.unserved = 1 →
      SessionStep session .main { session with stub := after, main := .crashed fault }

theorem acksOf_sent (i : ℕ) (state : StubState σ) (str : List UInt8) :
    acksOf i state { state with sent := state.sent ++ [str] } = [(i, str)] := by
  rw [acksOf, List.drop_left, List.map_singleton]

theorem acksOf_self (i : ℕ) (state : StubState σ) : acksOf i state state = [] := by
  rw [acksOf, List.drop_length, List.map_nil]

theorem sessionMain_step {session next : Session σ}
    (hstep : sessionMain stub session = some next) : SessionStep stub session .main next := by
  unfold sessionMain at hstep
  cases hmain : session.main with
  | pop =>
      rw [hmain] at hstep
      dsimp only at hstep
      split at hstep
      · exact absurd hstep (by simp)
      · rename_i queue hpop
        rcases pktqueuePop_cases hpop with ⟨-, hpackets, rfl⟩ | ⟨pkt, packets, hnull, -, -⟩
        · cases hstep
          exact .popNull hmain hpackets
        · exact absurd hnull (by simp)
      · rename_i pkt queue hpop
        rcases pktqueuePop_cases hpop with ⟨hnull, -, -⟩ | ⟨first, packets, hfirst, hpackets, rfl⟩
        · exact absurd hnull (by simp)
        · cases hfirst
          cases hstep
          exact .popPacket pkt packets hmain hpackets
  | isShutdown =>
      rw [hmain] at hstep
      cases hstep
      rw [pktqueueIsShutdown]
      by_cases hshutdown : session.queue.shutdown = true
      · rw [if_pos hshutdown]
        exact .shutdownSeen hmain hshutdown
      · rw [if_neg hshutdown]
        exact .notShutdown hmain (Bool.eq_false_of_not_eq_true hshutdown)
  | checkInterrupt =>
      rw [hmain] at hstep
      cases hstep
      exact .checkInterrupt hmain
  | verify pkt =>
      rw [hmain] at hstep
      dsimp only at hstep
      split at hstep
      · cases hstep
        exact .crashed _ session.stub (by rw [hmain]; rfl)
      · rename_i csumOk hverify
        cases hstep
        exact .verified pkt csumOk hmain hverify
  | acknowledge pkt csumOk =>
      rw [hmain] at hstep
      dsimp only at hstep
      -- with `no_ack_mode` on, nothing is sent
      cases hmode : session.stub.noAckMode with
      | true =>
          have hquiet : gdbstubAcknowledge csumOk session.stub = (.ok (), session.stub) := by
            rw [gdbstubAcknowledge, Program.get_bind, if_pos hmode]
            rfl
          rw [hquiet] at hstep
          cases hstep
          rw [acksOf_self, List.append_nil]
          exact .notAcknowledged pkt csumOk hmain hmode
      | false =>
          have hsend : gdbstubAcknowledge csumOk session.stub =
              (.ok (), { session.stub with sent := session.stub.sent ++ [ackText csumOk] }) := by
            rw [gdbstubAcknowledge, Program.get_bind, if_neg (by rw [hmode]; decide)]
            rfl
          rw [hsend] at hstep
          cases hstep
          rw [acksOf_sent]
          exact .acknowledged pkt csumOk hmain hmode
  | serve pkt csumOk =>
      rw [hmain] at hstep
      dsimp only at hstep
      split at hstep
      · cases hstep
        exact .crashed _ _ (by rw [hmain]; rfl)
      · rename_i ret after hserve
        cases hstep
        exact .served pkt csumOk ret after hmain hserve
  | shutdownSeen =>
      rw [hmain] at hstep
      cases hstep
  | returned value =>
      rw [hmain] at hstep
      cases hstep
  | crashed fault =>
      rw [hmain] at hstep
      cases hstep

theorem sessionReader_step {session next : Session σ} {label : SessionLabel σ}
    (hstep : sessionReader session label = some next) :
    SessionStep stub session label next := by
  cases label with
  | interrupt =>
      rw [sessionReader, Option.ite_none_right_eq_some] at hstep
      obtain ⟨hreader, hnext⟩ := hstep
      cases hnext
      exact .interrupt hreader
  | push pkt allocated =>
      rw [sessionReader, Option.ite_none_right_eq_some] at hstep
      obtain ⟨hreader, hnext⟩ := hstep
      cases allocated with
      | true =>
          cases hnext
          exact .push pkt hreader
      | false =>
          cases hnext
          exact .pushFailed pkt
  | ack acquired =>
      rw [sessionReader, Option.ite_none_right_eq_some] at hstep
      obtain ⟨hreader, hnext⟩ := hstep
      cases acquired with
      | true =>
          have hsend : connTrySendStr true (ascii "+") session.stub =
              (.ok true, { session.stub with sent := session.stub.sent ++ [ascii "+"] }) := rfl
          rw [hsend] at hnext
          cases hnext
          rw [acksOf_sent]
          exact .ack hreader
      | false =>
          have hskip : connTrySendStr false (ascii "+") session.stub =
              (.ok false, session.stub) := rfl
          rw [hskip] at hnext
          cases hnext
          rw [acksOf_self, List.append_nil]
          exact .ackSkipped hreader
  | shutdown =>
      rw [sessionReader, Option.ite_none_right_eq_some] at hstep
      obtain ⟨hreader, hnext⟩ := hstep
      cases hnext
      exact .shutdown hreader
  | target next => exact absurd hstep (by simp [sessionReader])
  | main => exact absurd hstep (by simp [sessionReader])

/-- **A step is one of the cases.** -/
theorem gdbstubSession_step {target : σ} {session next : Session σ} {label : SessionLabel σ}
    (hstep : (gdbstubSession stub target).step session label = some next) :
    session.main.running = true ∧ SessionStep stub session label next := by
  obtain ⟨hrunning, hstep⟩ := Option.ite_none_right_eq_some.mp hstep
  refine ⟨hrunning, ?_⟩
  cases label with
  | main => exact sessionMain_step stub hstep
  | target next =>
      cases hstep
      exact .target next
  | interrupt => exact sessionReader_step stub hstep
  | push pkt allocated => exact sessionReader_step stub hstep
  | ack acquired => exact sessionReader_step stub hstep
  | shutdown => exact sessionReader_step stub hstep

/-! ## The queue is first in, first out -/

/-- Packets are taken in the order of their pushes, and served before the next one is
taken. -/
structure Session.Ordered (session : Session σ) : Prop where
  fifo : session.taken.map Taken.pkt ++ session.queue.packets = session.pushed
  served : session.main.running = true →
    session.served + session.main.unserved = session.taken.length

variable {stub} in
theorem Session.Ordered.step {session next : Session σ} {label : SessionLabel σ}
    (hordered : session.Ordered) (hrunning : session.main.running = true)
    (hstep : SessionStep stub session label next) : next.Ordered := by
  have hfifo := hordered.fifo
  have hserved := hordered.served hrunning
  cases hstep with
  | push pkt hreader =>
      refine ⟨?_, hordered.served⟩
      show session.taken.map Taken.pkt ++ (session.queue.packets ++ [pkt]) = _
      rw [← List.append_assoc, hfifo]
  -- the packet moves from the front of the queue to the end of those taken
  | popPacket pkt packets hmain hpackets =>
      rw [hmain] at hserved
      rw [hpackets] at hfifo
      constructor
      · show (session.taken ++ [_]).map Taken.pkt ++ packets = session.pushed
        rw [List.map_append, List.append_assoc]
        exact hfifo
      · intro _
        show session.served + 1 = (session.taken ++ [_]).length
        rw [List.length_append, ← hserved]
        rfl
  | served pkt csumOk ret after hmain hserve =>
      rw [hmain] at hserved
      refine ⟨hfifo, fun _ => ?_⟩
      cases ret <;> exact hserved
  | crashed fault after _ =>
      exact ⟨hfifo, fun hcrashed => absurd hcrashed (by simp [MainTurn.running])⟩
  | interrupt _ => exact ⟨hfifo, fun _ => hserved⟩
  | pushFailed _ => exact hordered
  | ack _ => exact ⟨hfifo, fun _ => hserved⟩
  | ackSkipped _ => exact ⟨hfifo, fun _ => hserved⟩
  | shutdown _ => exact ⟨hfifo, fun _ => hserved⟩
  | target _ => exact ⟨hfifo, fun _ => hserved⟩
  | popNull hmain _ =>
      rw [hmain] at hserved
      exact ⟨hfifo, fun _ => hserved⟩
  | shutdownSeen hmain _ =>
      rw [hmain] at hserved
      exact ⟨hfifo, fun _ => hserved⟩
  | notShutdown hmain _ =>
      rw [hmain] at hserved
      exact ⟨hfifo, fun _ => hserved⟩
  | checkInterrupt hmain =>
      rw [hmain] at hserved
      exact ⟨hfifo, fun _ => hserved⟩
  | verified pkt csumOk hmain _ =>
      rw [hmain] at hserved
      exact ⟨hfifo, fun _ => hserved⟩
  | acknowledged pkt csumOk hmain _ =>
      rw [hmain] at hserved
      exact ⟨hfifo, fun _ => hserved⟩
  | notAcknowledged pkt csumOk hmain _ =>
      rw [hmain] at hserved
      exact ⟨hfifo, fun _ => hserved⟩

variable {stub} in
theorem session_ordered {target : σ} {labels : List (SessionLabel σ)} {session : Session σ}
    (hrun : (gdbstubSession stub target).run labels = some session) : session.Ordered := by
  refine Machine.run_invariant ⟨rfl, fun _ => rfl⟩ ?_ hrun
  intro session label next hordered hstep
  obtain ⟨hrunning, hstep⟩ := gdbstubSession_step stub hstep
  exact hordered.step hrunning hstep

end MiniGdbstub
