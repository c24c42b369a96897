import MiniGdbstub.Library.LinkedList
import MiniGdbstub.Library.Machine
import MiniGdbstub.Session

/-!
# The queue as it lies in memory

`pktqueue.c` on its linked list: `head` and `tail` point to nodes that a push allocates and
a pop frees.  `Session` uses the list of the packets instead; `Represents` says that the
nodes from `head` on are such a list, and every operation here does to the nodes what the
operation of the same name there does to the list (`represents_push`, `represents_take`).

`handoff` runs the reader's operations and the main thread's beside each other.  The
critical section of a pop and the release of the node behind it are two steps.
-/

namespace MiniGdbstub

open LinkedList

variable {α : Type}

/-! ## The operations -/

/-- `pktqueue_t` and the nodes that are allocated. -/
structure LinkedPktqueue (α : Type) where
  nodes : Memory α
  head : Option ℕ
  tail : Option ℕ
  shutdown : Bool
  interrupted : Bool

def linkedInit : LinkedPktqueue α :=
  { nodes := fun _ => none, head := none, tail := none, shutdown := false,
    interrupted := false }

/-- A node behind a pointer; what is not allocated cannot be read. -/
def nodeAt (nodes : Memory α) (addr : ℕ) : Except Fault (Node α) :=
  inBounds (nodes addr)

/-- `pktqueue_push`; `node` is what `malloc` returned. -/
def linkedPush (node : Option ℕ) (pkt : α) (queue : LinkedPktqueue α) :
    Except Fault (Bool × LinkedPktqueue α) :=
  match node with
  | none => return (false, queue)
  | some addr => do
      let nodes := Function.update queue.nodes addr (some ⟨pkt, none⟩)
      match queue.tail with
      | some tail => do
          let last ← nodeAt nodes tail
          return (true, { queue with
            nodes := Function.update nodes tail (some { last with next := some addr })
            tail := some addr })
      | none =>
          return (true, { queue with nodes := nodes, head := some addr, tail := some addr })

/-- The critical section of `pktqueue_pop`, from the moment it stops waiting: `none` while
it waits, and no node if it returns `NULL`. -/
def linkedTake (queue : LinkedPktqueue α) :
    Option (Except Fault (Option ℕ × LinkedPktqueue α)) :=
  match queue.head with
  | none => if queue.shutdown || queue.interrupted then some (.ok (none, queue)) else none
  | some addr => some do
      let node ← nodeAt queue.nodes addr
      return (some addr, { queue with
        head := node.next
        tail := if node.next = none then none else queue.tail })

/-- The rest of `pktqueue_pop`: the packet of the node is returned, the node is freed. -/
def linkedRelease (addr : ℕ) (queue : LinkedPktqueue α) : Except Fault (α × LinkedPktqueue α) := do
  let node ← nodeAt queue.nodes addr
  return (node.value, { queue with nodes := Function.update queue.nodes addr none })

theorem linkedRelease_eq {addr : ℕ} {queue : LinkedPktqueue α} {node : Node α}
    (hnode : queue.nodes addr = some node) :
    linkedRelease addr queue =
      .ok (node.value, { queue with nodes := Function.update queue.nodes addr none }) := by
  simp [linkedRelease, nodeAt, hnode, bind, Except.bind, pure, Except.pure]

def linkedSignalShutdown (queue : LinkedPktqueue α) : LinkedPktqueue α :=
  { queue with shutdown := true }

def linkedSignalInterrupt (queue : LinkedPktqueue α) : LinkedPktqueue α :=
  { queue with interrupted := true }

def linkedCheckInterrupt (queue : LinkedPktqueue α) : LinkedPktqueue α :=
  { queue with interrupted := false }

/-! ## What the nodes stand for -/

/-- The nodes from `head` on, at these addresses, are the packets of the queue, and `tail`
is the last of them. -/
structure Represents (queue : LinkedPktqueue α) (addrs : List ℕ) (packets : Pktqueue α) :
    Prop where
  chain : Chain queue.nodes queue.head addrs packets.packets
  tail : queue.tail = addrs.getLast?
  shutdown : queue.shutdown = packets.shutdown
  interrupted : queue.interrupted = packets.interrupted

theorem represents_init : Represents (linkedInit : LinkedPktqueue α) [] pktqueueInit :=
  ⟨.nil, rfl, rfl, rfl⟩

namespace Represents

variable {queue : LinkedPktqueue α} {addrs : List ℕ} {packets : Pktqueue α}

/-- A push with a node that was not in use. -/
theorem push (hqueue : Represents queue addrs packets) {addr : ℕ}
    (hfresh : queue.nodes addr = none) (pkt : α) :
    ∃ next, linkedPush (some addr) pkt queue = .ok (true, next) ∧
      Represents next (addrs ++ [addr]) (pktqueuePush packets pkt) ∧
      ∀ other ∉ addrs, other ≠ addr → next.nodes other = queue.nodes other := by
  have hnew : addr ∉ addrs := by
    intro hmem
    obtain ⟨node, hnode⟩ := hqueue.chain.allocated hmem
    rw [hfresh] at hnode
    cases hnode
  have hchain := hqueue.chain.update_of_notMem hnew (some ⟨pkt, none⟩)
  have htail := hqueue.tail
  -- an empty queue takes the node as its head, another links it behind its tail
  cases hlast : addrs.getLast? with
  | none =>
      rw [hlast] at htail
      obtain rfl := List.getLast?_eq_none_iff.mp hlast
      have hempty : packets.packets = [] := hqueue.chain.values_nil_iff.mpr rfl
      refine ⟨{ queue with
        nodes := Function.update queue.nodes addr (some ⟨pkt, none⟩)
        head := some addr
        tail := some addr }, ?_, ⟨?_, rfl, hqueue.shutdown, hqueue.interrupted⟩, ?_⟩
      · simp [linkedPush, htail, pure, Except.pure]
      · have hend : Chain (Function.update queue.nodes addr (some ⟨pkt, none⟩)) (some addr)
            [addr] [pkt] := .cons (Function.update_self ..) .nil
        rw [pktqueuePush, hempty]
        exact hend
      · exact fun other _ hother => Function.update_of_ne hother ..
  | some last =>
      rw [hlast] at htail
      have hmem : last ∈ addrs := List.mem_of_getLast? hlast
      obtain ⟨node, hnode⟩ := hchain.allocated hmem
      refine ⟨{ queue with
        nodes := Function.update (Function.update queue.nodes addr (some ⟨pkt, none⟩)) last
          (some { node with next := some addr })
        tail := some addr }, ?_, ⟨?_, ?_, hqueue.shutdown, hqueue.interrupted⟩, ?_⟩
      · simp [linkedPush, htail, nodeAt, hnode, bind, Except.bind, pure, Except.pure]
      · exact hchain.link hlast hnode (Function.update_self ..) hnew
      · exact List.getLast?_concat.symm
      · intro other hother hne
        show Function.update (Function.update queue.nodes addr _) last _ other = _
        have hlastNe : other ≠ last := by
          rintro rfl
          exact hother hmem
        rw [Function.update_of_ne hlastNe, Function.update_of_ne hne]

/-- The critical section of a pop waits, returns `NULL` or takes the first node as
`pktqueuePop` does. -/
theorem take (hqueue : Represents queue addrs packets) :
    (linkedTake queue = none ∧ pktqueuePop packets = none) ∨
      (linkedTake queue = some (.ok (none, queue)) ∧
        pktqueuePop packets = some (none, packets) ∧ packets.packets = [] ∧
        (packets.shutdown || packets.interrupted) = true) ∨
      ∃ addr others node next rest, addrs = addr :: others ∧
        queue.nodes addr = some node ∧ linkedTake queue = some (.ok (some addr, next)) ∧
        next.nodes = queue.nodes ∧ packets.packets = node.value :: rest ∧
        pktqueuePop packets = some (some node.value, { packets with packets := rest }) ∧
        Represents next others { packets with packets := rest } := by
  obtain ⟨hchain, htail, hshutdown, hinterrupted⟩ := hqueue
  obtain ⟨values, shutdown, interrupted⟩ := packets
  dsimp only at hchain hshutdown hinterrupted
  unfold linkedTake
  generalize hhead : queue.head = head at hchain
  cases hchain with
  | nil =>
      by_cases hflags : (shutdown || interrupted) = true
      · refine .inr (.inl ⟨?_, ?_, rfl, hflags⟩)
        · dsimp only
          rw [hshutdown, hinterrupted, if_pos hflags]
        · simp only [pktqueuePop]
          rw [if_pos hflags]
      · refine .inl ⟨?_, ?_⟩
        · dsimp only
          rw [hshutdown, hinterrupted, if_neg hflags]
        · simp only [pktqueuePop]
          rw [if_neg hflags]
  | @cons addr node others values hnode hrest =>
      refine .inr (.inr ⟨addr, others, node, { queue with
        head := node.next
        tail := if node.next = none then none else queue.tail }, values, rfl, hnode, ?_, rfl,
        rfl, rfl, ⟨hrest, ?_, hshutdown, hinterrupted⟩⟩)
      · simp [nodeAt, hnode, bind, Except.bind, pure, Except.pure]
      · have hstart := hrest.start_eq
        -- with the last node the tail goes as well
        cases others with
        | nil => exact if_pos hstart
        | cons second others =>
            have hsome : node.next ≠ none := by
              rw [hstart]
              simp
            show (if node.next = none then none else queue.tail) = _
            rw [if_neg hsome, htail, List.getLast?_cons_cons]

/-- A node that is not in the list can be freed. -/
theorem release (hqueue : Represents queue addrs packets) {addr : ℕ} (hnot : addr ∉ addrs) :
    Represents { queue with nodes := Function.update queue.nodes addr none } addrs packets :=
  ⟨hqueue.chain.update_of_notMem hnot none, hqueue.tail, hqueue.shutdown, hqueue.interrupted⟩

theorem head_eq_none_iff (hqueue : Represents queue addrs packets) :
    queue.head = none ↔ queue.tail = none := by
  rw [hqueue.chain.start_eq, hqueue.tail, List.head?_eq_none_iff, List.getLast?_eq_none_iff]

end Represents

/-! ## Two threads -/

/-- The queue between the two threads.  `inHand` is the node that a pop of the main thread
has taken and not yet freed, `returned` is what its pops returned, `pushed` the packets of
the successful pushes. -/
structure Handoff (α : Type) where
  queue : LinkedPktqueue α
  inHand : Option ℕ
  pushed : List α
  returned : List (Option α)
  fault : Option Fault

/-- The critical sections of the two threads.  `node` is what `malloc` returned in the
push. -/
inductive HandoffLabel (α : Type)
  | push (pkt : α) (node : Option ℕ)
  | interrupt
  | shutdown
  | take
  | release
  | checkInterrupt

/-- A step that faults ends the process. -/
def Handoff.after {β : Type} (state : Handoff α) (result : Except Fault β)
    (next : β → Handoff α) : Handoff α :=
  match result with
  | .ok value => next value
  | .error fault => { state with fault := some fault }

def handoffStep (state : Handoff α) : HandoffLabel α → Option (Handoff α)
  | .push pkt node =>
      -- `malloc` returns no memory that is in use
      if ∀ addr ∈ node, (state.queue.nodes addr).isNone then
        some (state.after (linkedPush node pkt state.queue) fun (pushed, queue) =>
          { state with
            queue := queue
            pushed := if pushed then state.pushed ++ [pkt] else state.pushed })
      else none
  | .interrupt => some { state with queue := linkedSignalInterrupt state.queue }
  | .shutdown => some { state with queue := linkedSignalShutdown state.queue }
  | .take =>
      if state.inHand.isNone then
        (linkedTake state.queue).map fun result => state.after result fun (node, queue) =>
          { state with
            queue := queue
            inHand := node
            returned := if node.isNone then state.returned ++ [none] else state.returned }
      else none
  | .release =>
      state.inHand.map fun addr => state.after (linkedRelease addr state.queue)
        fun (pkt, queue) =>
          { state with
            queue := queue
            inHand := none
            returned := state.returned ++ [some pkt] }
  | .checkInterrupt =>
      if state.inHand.isNone then
        some { state with queue := linkedCheckInterrupt state.queue }
      else none

def handoff (α : Type) : Machine (Handoff α) (HandoffLabel α) where
  start :=
    { queue := linkedInit, inHand := none, pushed := [], returned := [], fault := none }
  step state label := if state.fault.isNone then handoffStep state label else none

/-- The packets popped so far. -/
def Handoff.popped (state : Handoff α) : List α :=
  state.returned.filterMap id

/-- The packet of the node that is in the main thread's hand. -/
def Handoff.held (state : Handoff α) : List α :=
  ((state.inHand.bind state.queue.nodes).map Node.value).toList

/-! ## The invariant -/

/-- The nodes are a queue, and no packet is lost, doubled or moved. -/
structure Handoff.Lossless (state : Handoff α) (addrs : List ℕ) (packets : Pktqueue α) :
    Prop where
  running : state.fault = none
  queue : Represents state.queue addrs packets
  inHand : ∀ addr ∈ state.inHand, addr ∉ addrs ∧ ∃ node, state.queue.nodes addr = some node
  history : state.popped ++ state.held ++ packets.packets = state.pushed

theorem handoff_start : (handoff α).start.Lossless [] pktqueueInit :=
  ⟨rfl, represents_init, by simp [handoff], rfl⟩

/-- What is in the hand does not change when other nodes do. -/
theorem Handoff.held_congr {state next : Handoff α} (hhand : next.inHand = state.inHand)
    (hnodes : ∀ addr ∈ state.inHand, next.queue.nodes addr = state.queue.nodes addr) :
    next.held = state.held := by
  unfold Handoff.held
  rw [hhand]
  cases hcase : state.inHand with
  | none => rfl
  | some addr => rw [Option.bind_some, Option.bind_some, hnodes addr hcase]

/-- A push that fails to allocate, a flag that is set or cleared. -/
theorem Handoff.Lossless.flags {state : Handoff α} {addrs : List ℕ} {packets : Pktqueue α}
    (hstate : state.Lossless addrs packets) {queue : LinkedPktqueue α} {next : Pktqueue α}
    (hnodes : queue.nodes = state.queue.nodes) (hpackets : next.packets = packets.packets)
    (hqueue : Represents queue addrs next) :
    Handoff.Lossless { state with queue := queue } addrs next := by
  refine ⟨hstate.running, hqueue, ?_, ?_⟩
  · intro addr hmem
    obtain ⟨hnot, node, hnode⟩ := hstate.inHand addr hmem
    exact ⟨hnot, node, by rw [hnodes]; exact hnode⟩
  · have hheld : Handoff.held { state with queue := queue } = state.held :=
      Handoff.held_congr rfl fun addr _ => congrFun hnodes addr
    show state.popped ++ Handoff.held { state with queue := queue } ++ next.packets = _
    rw [hheld, hpackets]
    exact hstate.history

/-- A free hand: the packets are all popped or on the list. -/
theorem Handoff.Lossless.history_of_free {state : Handoff α} {addrs : List ℕ}
    {packets : Pktqueue α} (hstate : state.Lossless addrs packets) (hhand : state.inHand = none) :
    state.popped ++ packets.packets = state.pushed := by
  rw [← hstate.history, Handoff.held, hhand]
  simp

/-- A push that appends a fresh node. -/
theorem Handoff.Lossless.append {state : Handoff α} {addrs : List ℕ} {packets : Pktqueue α}
    (hstate : state.Lossless addrs packets) {addr : ℕ} (hfree : state.queue.nodes addr = none)
    {pkt : α} {queue : LinkedPktqueue α}
    (hqueue : Represents queue (addrs ++ [addr]) (pktqueuePush packets pkt))
    (hother : ∀ other ∉ addrs, other ≠ addr → queue.nodes other = state.queue.nodes other) :
    Handoff.Lossless { state with queue := queue, pushed := state.pushed ++ [pkt] }
      (addrs ++ [addr]) (pktqueuePush packets pkt) := by
  -- the node in the hand is allocated, so it is another one
  have hne : ∀ held ∈ state.inHand, held ≠ addr := by
    rintro held hmem rfl
    obtain ⟨-, node, hnode⟩ := hstate.inHand held hmem
    rw [hfree] at hnode
    cases hnode
  have hnodes : ∀ held ∈ state.inHand, queue.nodes held = state.queue.nodes held :=
    fun held hmem => hother held (hstate.inHand held hmem).1 (hne held hmem)
  refine ⟨hstate.running, hqueue, ?_, ?_⟩
  · intro held hmem
    obtain ⟨hnot, node, hnode⟩ := hstate.inHand held hmem
    refine ⟨?_, node, (hnodes held hmem).trans hnode⟩
    rw [List.mem_append, List.mem_singleton, not_or]
    exact ⟨hnot, hne held hmem⟩
  · have hheld : Handoff.held { state with
        queue := queue
        pushed := state.pushed ++ [pkt] } = state.held := Handoff.held_congr rfl hnodes
    calc state.popped ++ Handoff.held { state with
            queue := queue
            pushed := state.pushed ++ [pkt] } ++ (packets.packets ++ [pkt])
        = (state.popped ++ state.held ++ packets.packets) ++ [pkt] := by
          rw [hheld, List.append_assoc _ packets.packets]
      _ = state.pushed ++ [pkt] := by rw [hstate.history]

/-- A pop that unlinks the first node and has it in its hand. -/
theorem Handoff.Lossless.unlink {state : Handoff α} {addr : ℕ} {others : List ℕ}
    {packets : Pktqueue α} (hstate : state.Lossless (addr :: others) packets)
    (hhand : state.inHand = none) {node : Node α} (hnode : state.queue.nodes addr = some node)
    {queue : LinkedPktqueue α} (hnodes : queue.nodes = state.queue.nodes) {rest : List α}
    (hpackets : packets.packets = node.value :: rest)
    (hqueue : Represents queue others { packets with packets := rest }) :
    Handoff.Lossless { state with queue := queue, inHand := some addr } others
      { packets with packets := rest } := by
  refine ⟨hstate.running, hqueue, ?_, ?_⟩
  · intro held hmem
    cases hmem
    exact ⟨(List.nodup_cons.mp hstate.queue.chain.nodup).1, node,
      (congrFun hnodes addr).trans hnode⟩
  · show state.popped ++ ((queue.nodes addr).map Node.value).toList ++ rest = state.pushed
    rw [hnodes, hnode, ← hstate.history_of_free hhand, hpackets]
    simp

/-- A pop that frees the node in its hand and returns the packet. -/
theorem Handoff.Lossless.release {state : Handoff α} {addrs : List ℕ} {packets : Pktqueue α}
    (hstate : state.Lossless addrs packets) {addr : ℕ} (hhand : state.inHand = some addr)
    {node : Node α} (hnode : state.queue.nodes addr = some node) :
    Handoff.Lossless { state with
      queue := { state.queue with nodes := Function.update state.queue.nodes addr none }
      inHand := none
      returned := state.returned ++ [some node.value] } addrs packets := by
  have hnot := (hstate.inHand addr hhand).1
  refine ⟨hstate.running, hstate.queue.release hnot, by simp, ?_⟩
  rw [← hstate.history, Handoff.popped, List.filterMap_append]
  simp [Handoff.popped, Handoff.held, hhand, hnode]

theorem handoff_step_eq {state : Handoff α} (hrunning : state.fault = none)
    (label : HandoffLabel α) : (handoff α).step state label = handoffStep state label := by
  show (if state.fault.isNone then handoffStep state label else none) = _
  rw [hrunning]
  rfl

/-- **One step.** -/
theorem Handoff.Lossless.step {state next : Handoff α} {addrs : List ℕ} {packets : Pktqueue α}
    (hstate : state.Lossless addrs packets) {label : HandoffLabel α}
    (hstep : (handoff α).step state label = some next) :
    ∃ addrs packets, next.Lossless addrs packets := by
  have hqueue := hstate.queue
  rw [handoff_step_eq hstate.running] at hstep
  cases label with
  | interrupt =>
      cases hstep
      exact ⟨addrs, pktqueueSignalInterrupt packets, hstate.flags rfl rfl
        ⟨hqueue.chain, hqueue.tail, hqueue.shutdown, rfl⟩⟩
  | shutdown =>
      cases hstep
      exact ⟨addrs, pktqueueSignalShutdown packets, hstate.flags rfl rfl
        ⟨hqueue.chain, hqueue.tail, rfl, hqueue.interrupted⟩⟩
  | checkInterrupt =>
      obtain ⟨-, hstep⟩ := Option.ite_none_right_eq_some.mp hstep
      cases hstep
      exact ⟨addrs, (pktqueueCheckInterrupt packets).2, hstate.flags rfl rfl
        ⟨hqueue.chain, hqueue.tail, hqueue.shutdown, rfl⟩⟩
  | push pkt node =>
      obtain ⟨hfresh, hstep⟩ := Option.ite_none_right_eq_some.mp hstep
      cases node with
      | none =>
          cases hstep
          exact ⟨addrs, packets, hstate.flags rfl rfl hqueue⟩
      | some addr =>
          have hfree : state.queue.nodes addr = none :=
            Option.isNone_iff_eq_none.mp (hfresh addr rfl)
          obtain ⟨queue, hpush, hnext, hother⟩ := hqueue.push hfree pkt
          rw [hpush] at hstep
          cases hstep
          exact ⟨_, _, hstate.append hfree hnext hother⟩
  | take =>
      obtain ⟨hfree, hstep⟩ := Option.ite_none_right_eq_some.mp hstep
      have hhand : state.inHand = none := Option.isNone_iff_eq_none.mp hfree
      -- it waits, it is let go with `NULL`, or the first node is unlinked
      rcases hqueue.take with ⟨hwaits, -⟩ | ⟨hnull, -, -, -⟩ |
          ⟨addr, others, node, queue, rest, rfl, hnode, htake, hnodes, hpackets, -, hnext⟩
      · rw [hwaits] at hstep
        cases hstep
      · rw [hnull] at hstep
        have hafter : next = { state with
            inHand := none
            returned := state.returned ++ [none] } := (Option.some.inj hstep).symm
        subst hafter
        refine ⟨addrs, packets, hstate.running, hqueue, by simp, ?_⟩
        rw [← hstate.history_of_free hhand, Handoff.popped, List.filterMap_append]
        simp [Handoff.popped, Handoff.held]
      · rw [htake] at hstep
        have hafter : next = { state with queue := queue, inHand := some addr } :=
          (Option.some.inj hstep).symm
        subst hafter
        exact ⟨others, _, hstate.unlink hhand hnode hnodes hpackets hnext⟩
  | release =>
      obtain ⟨addr, hhand, hstep⟩ := Option.map_eq_some_iff.mp hstep
      obtain ⟨hnot, node, hnode⟩ := hstate.inHand addr hhand
      rw [linkedRelease_eq hnode] at hstep
      have hafter : next = { state with
          queue := { state.queue with nodes := Function.update state.queue.nodes addr none }
          inHand := none
          returned := state.returned ++ [some node.value] } := hstep.symm
      subst hafter
      exact ⟨addrs, packets, hstate.release hhand hnode⟩

theorem handoff_lossless {labels : List (HandoffLabel α)} {state : Handoff α}
    (hrun : (handoff α).run labels = some state) : ∃ addrs packets,
      state.Lossless addrs packets := by
  let lossless : Handoff α → Prop := fun state => ∃ addrs packets, state.Lossless addrs packets
  have hlossless : lossless state := by
    refine Machine.run_invariant ⟨[], pktqueueInit, handoff_start⟩ ?_ hrun
    rintro state label next ⟨addrs, packets, hstate⟩ hstep
    exact hstate.step hstep
  exact hlossless

/-! ## Delivery -/

/-- A step that is a pop's: its critical section or the release behind it. -/
def HandoffLabel.isPop : HandoffLabel α → Bool
  | .take => true
  | .release => true
  | _ => false

/-- A pop with packets in the queue returns the first, whatever the flags are. -/
theorem Handoff.Lossless.pop {state : Handoff α} {addrs : List ℕ} {packets : Pktqueue α}
    (hstate : state.Lossless addrs packets) (hhand : state.inHand = none) {pkt : α}
    {rest : List α} (hpackets : packets.packets = pkt :: rest) :
    ∃ next, (handoff α).runFrom state [.take, .release] = some next ∧ next.inHand = none ∧
      next.pushed = state.pushed ∧ next.returned = state.returned ++ [some pkt] := by
  rcases hstate.queue.take with ⟨-, hwaits⟩ | ⟨-, -, hempty, -⟩ |
      ⟨addr, others, node, queue, values, rfl, hnode, htake, hnodes, hvalues, -, -⟩
  · rw [pktqueuePop, hpackets] at hwaits
    cases hwaits
  · rw [hempty] at hpackets
    cases hpackets
  · rw [hpackets] at hvalues
    obtain ⟨rfl, rfl⟩ := List.cons.inj hvalues
    let taken : Handoff α := { state with queue := queue, inHand := some addr }
    have htaken : (handoff α).step state .take = some taken := by
      rw [handoff_step_eq hstate.running, handoffStep, if_pos (by rw [hhand]; rfl), htake]
      rfl
    have hreleased : (handoff α).step taken .release = some { taken with
        queue := { queue with nodes := Function.update queue.nodes addr none }
        inHand := none
        returned := state.returned ++ [some node.value] } := by
      have hheld : taken.queue.nodes addr = some node := (congrFun hnodes addr).trans hnode
      have hrunning : taken.fault = none := hstate.running
      rw [handoff_step_eq hrunning]
      show some (taken.after (linkedRelease addr taken.queue) _) = _
      rw [linkedRelease_eq hheld]
      rfl
    refine ⟨{ taken with
        queue := { queue with nodes := Function.update queue.nodes addr none }
        inHand := none
        returned := state.returned ++ [some node.value] }, ?_, rfl, rfl, rfl⟩
    rw [Machine.runFrom_cons, htaken, Option.bind_some, Machine.runFrom_cons, hreleased]
    rfl

/-- Pops alone deliver everything that was pushed. -/
theorem handoff_delivers (count : ℕ) : ∀ state : Handoff α,
    (∃ addrs packets, state.Lossless addrs packets) → state.inHand = none →
    state.pushed.length = state.popped.length + count →
    ∃ pops final, (handoff α).runFrom state pops = some final ∧
      (∀ label ∈ pops, label.isPop = true) ∧ final.popped = state.pushed := by
  induction count with
  | zero =>
      rintro state ⟨addrs, packets, hstate⟩ hhand hcount
      refine ⟨[], state, rfl, by simp, ?_⟩
      have hhistory := hstate.history_of_free hhand
      have hnil : packets.packets = [] := by
        rw [← hhistory, List.length_append] at hcount
        exact List.length_eq_zero_iff.mp (by omega)
      rw [← hhistory, hnil, List.append_nil]
  | succ count ih =>
      rintro state ⟨addrs, packets, hstate⟩ hhand hcount
      have hhistory := hstate.history_of_free hhand
      have hlength : packets.packets.length = count + 1 := by
        have htotal := congrArg List.length hhistory
        rw [List.length_append] at htotal
        omega
      obtain ⟨pkt, rest, hpackets⟩ := List.exists_cons_of_length_eq_add_one hlength
      obtain ⟨next, hpop, hnextHand, hpushed, hreturned⟩ := hstate.pop hhand hpackets
      -- a pop is two steps, each of which keeps the invariant
      have hnext : ∃ addrs packets, next.Lossless addrs packets := by
        rw [Machine.runFrom_cons] at hpop
        obtain ⟨taken, htaken, hrest⟩ := Option.bind_eq_some_iff.mp hpop
        rw [Machine.runFrom_cons] at hrest
        obtain ⟨released, hreleased, hend⟩ := Option.bind_eq_some_iff.mp hrest
        cases hend
        obtain ⟨takenAddrs, takenPackets, htakenState⟩ := hstate.step htaken
        exact htakenState.step hreleased
      have hpopped : next.popped = state.popped ++ [pkt] := by
        rw [Handoff.popped, hreturned, List.filterMap_append]
        rfl
      obtain ⟨pops, final, hrun, hpops, hfinal⟩ := ih next hnext hnextHand (by
        rw [hpushed, hpopped, List.length_append, List.length_singleton]
        omega)
      refine ⟨.take :: .release :: pops, final, ?_, ?_, hfinal.trans hpushed⟩
      · rw [show HandoffLabel.take :: .release :: pops = [.take, .release] ++ pops from rfl,
          Machine.runFrom_append, hpop, Option.bind_some, hrun]
      · intro label hmem
        rcases List.mem_cons.mp hmem with rfl | hmem
        · rfl
        · rcases List.mem_cons.mp hmem with rfl | hmem
          · rfl
          · exact hpops label hmem

/-- **The hand-off is a lossless FIFO.**  In every state that an interleaving of the two
threads leads to, no pointer was followed to a freed node; the nodes from `head` are a list
that ends, that visits no node twice and whose last node is `tail`; the packets popped, the
one in the hand of a pop that has not returned yet, and the packets on the list are the
packets pushed, in their order; a pop returns `NULL` only with an empty list and a flag
set; and pops alone deliver what is left, whatever the flags are. -/
theorem handoff_fifo {labels : List (HandoffLabel α)} {state : Handoff α}
    (hrun : (handoff α).run labels = some state) :
    state.fault = none ∧
      ∃ addrs values, Chain state.queue.nodes state.queue.head addrs values ∧ addrs.Nodup ∧
        state.queue.tail = addrs.getLast? ∧
        (state.queue.head = none ↔ state.queue.tail = none) ∧
        state.popped ++ state.held ++ values = state.pushed ∧
        (∀ next, (handoff α).step state .take = some next →
          next.returned = state.returned ++ [none] →
          values = [] ∧ (state.queue.shutdown || state.queue.interrupted) = true) ∧
        (state.inHand = none → ∃ pops final, (handoff α).run (labels ++ pops) = some final ∧
          (∀ label ∈ pops, label.isPop = true) ∧ final.popped = state.pushed) := by
  obtain ⟨addrs, packets, hstate⟩ := handoff_lossless hrun
  have hqueue := hstate.queue
  refine ⟨hstate.running, addrs, packets.packets, hqueue.chain, hqueue.chain.nodup,
    hqueue.tail, hqueue.head_eq_none_iff, hstate.history, ?_, ?_⟩
  · intro next hstep hnull
    rw [handoff_step_eq hstate.running] at hstep
    obtain ⟨-, hstep⟩ := Option.ite_none_right_eq_some.mp hstep
    rcases hqueue.take with ⟨hwaits, -⟩ | ⟨-, -, hempty, hflags⟩ |
        ⟨addr, others, node, queue, rest, -, -, htake, -⟩
    · rw [hwaits] at hstep
      cases hstep
    · rw [hqueue.shutdown, hqueue.interrupted]
      exact ⟨hempty, hflags⟩
    · rw [htake] at hstep
      have hafter : next = { state with queue := queue, inHand := some addr } :=
        (Option.some.inj hstep).symm
      subst hafter
      have hlength := congrArg List.length hnull
      rw [List.length_append, List.length_singleton] at hlength
      exact absurd hlength (by simp)
  · -- as many pops as there are packets on the list
    intro hhand
    obtain ⟨pops, final, hpops, hall, hfinal⟩ := handoff_delivers packets.packets.length state
      ⟨addrs, packets, hstate⟩ hhand (by
        rw [← hstate.history_of_free hhand, List.length_append])
    exact ⟨pops, final, by rw [Machine.run_append, hrun]; exact hpops, hall, hfinal⟩

/-- Two packets, a shutdown and a failed push; the first packet is in the hand of a pop. -/
theorem handoff_fifo_twoPackets :
    ∃ state, (handoff ℕ).run [.push 10 (some 0), .push 11 (some 5), .shutdown, .push 12 none,
        .take] = some state ∧
      state.pushed = [10, 11] ∧ state.fault = none ∧
      (state.queue.head = none ↔ state.queue.tail = none) := by
  obtain ⟨state, hrun, hpushed⟩ : ∃ state, (handoff ℕ).run [.push 10 (some 0),
      .push 11 (some 5), .shutdown, .push 12 none, .take] = some state ∧
      state.pushed = [10, 11] := ⟨_, rfl, rfl⟩
  obtain ⟨hfault, addrs, values, -, -, -, hends, -⟩ := handoff_fifo hrun
  exact ⟨state, hrun, hpushed, hfault, hends⟩

end MiniGdbstub
