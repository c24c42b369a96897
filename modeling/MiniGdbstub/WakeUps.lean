import MiniGdbstub.Library.Monitor
import MiniGdbstub.Session

/-!
# No lost wake-up

The queue between the two threads as a monitor: every lock, every update, every signal and every
unlock of `pktqueue.c` is a step, and `pthread_cond_wait` of `pktqueue_pop` releases the mutex and
sleeps in one.  The main thread is the one that pops.  Either thread may call any of the other
operations, at any time, so the order in which `gdbstub_run` calls them is one of many.

What the loop of `pktqueue_pop` waits for is that `pktqueuePop` has something to return.
-/

namespace MiniGdbstub

variable {α : Type}

/-- The operations that lock the mutex of the queue, without `pktqueue_pop`.  A push that finds no
memory for its node locks nothing. -/
inductive QueueOp (α : Type)
  | push (pkt : α)
  | signalInterrupt
  | signalShutdown
  | checkInterrupt
  | isShutdown
  deriving DecidableEq, Repr

def QueueOp.update : QueueOp α → Pktqueue α → Pktqueue α
  | .push pkt, queue => pktqueuePush queue pkt
  | .signalInterrupt, queue => pktqueueSignalInterrupt queue
  | .signalShutdown, queue => pktqueueSignalShutdown queue
  | .checkInterrupt, queue => (pktqueueCheckInterrupt queue).2
  | .isShutdown, queue => queue

def QueueOp.notice : QueueOp α → Monitor.Notice
  | .push _ => .signal
  | .signalInterrupt => .signal
  | .signalShutdown => .broadcast
  | .checkInterrupt => .none
  | .isShutdown => .none

/-- A pop waits for a packet or a flag. -/
theorem pktqueuePop_eq_none_iff (queue : Pktqueue α) :
    pktqueuePop queue = none ↔
      queue.packets = [] ∧ queue.shutdown = false ∧ queue.interrupted = false := by
  unfold pktqueuePop
  split
  · rename_i pkt packets hpackets
    rw [hpackets]
    exact iff_of_false (fun heq => by cases heq) fun hnone => by cases hnone.1
  · rename_i hpackets
    rw [hpackets]
    simp

/-- What an operation makes ready it signals. -/
theorem QueueOp.notifies (op : QueueOp α) (queue : Pktqueue α)
    (hbefore : (pktqueuePop queue).isSome = false)
    (hafter : (pktqueuePop (op.update queue)).isSome = true) : op.notice ≠ .none := by
  obtain ⟨hpackets, hshutdown, -⟩ := (pktqueuePop_eq_none_iff queue).mp (by simpa using hbefore)
  cases op with
  | push pkt => exact fun heq => by cases heq
  | signalInterrupt => exact fun heq => by cases heq
  | signalShutdown => exact fun heq => by cases heq
  | checkInterrupt =>
      -- a flag that is cleared makes nothing ready
      have hnone : pktqueuePop (pktqueueCheckInterrupt queue).2 = none :=
        (pktqueuePop_eq_none_iff _).mpr ⟨hpackets, hshutdown, rfl⟩
      rw [QueueOp.update, hnone] at hafter
      cases hafter
  | isShutdown =>
      rw [QueueOp.update, hbefore] at hafter
      cases hafter

/-- The queue, its mutex and its condition variable. -/
def queueMonitor (α : Type) : Monitor.Guarded (Pktqueue α) (QueueOp α) where
  update := QueueOp.update
  notice := QueueOp.notice
  ready := fun queue => (pktqueuePop queue).isSome
  take := fun queue => ((pktqueuePop queue).map Prod.snd).getD queue
  notifies := QueueOp.notifies

/-- The two threads. -/
inductive QueueThread
  | main
  | reader
  deriving DecidableEq, Repr

abbrev QueueThreads (α : Type) := Monitor.State (Pktqueue α) (QueueOp α) QueueThread

def queueThreads (α : Type) :
    Machine (QueueThreads α) (Monitor.Label (QueueOp α) QueueThread) :=
  Monitor.machine (queueMonitor α) .main pktqueueInit

/-- A thread has updated the queue and is about to wake the main thread. -/
def QueueThreads.WakeUpPending (state : QueueThreads α) : Prop :=
  ∃ thread, state.Notifies (queueMonitor α) thread

/-- **No lost wake-up.**  After any run, when the main thread sleeps in `pktqueue_pop` and no
wake-up is pending, the queue is empty and neither flag is set; a wake-up that is pending comes
with the next step of the thread that holds the mutex. -/
theorem pop_sleepsOnNothing {labels : List (Monitor.Label (QueueOp α) QueueThread)}
    {state : QueueThreads α} (hrun : (queueThreads α).run labels = some state)
    (hasleep : state.points .main = .asleep) :
    (¬ state.WakeUpPending → state.shared.packets = [] ∧ state.shared.shutdown = false ∧
        state.shared.interrupted = false) ∧
      (state.WakeUpPending → ∃ thread next, state.holder = some thread ∧
        (queueThreads α).step state (.move thread) = some next ∧
          next.points .main = .woken) := by
  constructor
  · intro hpending
    have hready := Monitor.no_lost_wakeUp hrun hasleep fun thread hthread =>
      hpending ⟨thread, hthread⟩
    exact (pktqueuePop_eq_none_iff state.shared).mp (Option.not_isSome_iff_eq_none.mp
      (Bool.eq_false_iff.mp hready))
  · rintro ⟨thread, hthread⟩
    obtain ⟨hholder, next, hstep, hwoken⟩ := Monitor.wakeUp_comes hrun hasleep hthread
    exact ⟨thread, next, hholder, hstep, hwoken⟩

/-- An interrupt is popped and cleared, and the main thread pops again. -/
theorem pop_sleepsOnNothing_cleared :
    ∃ state : QueueThreads ℕ,
      (queueThreads ℕ).run [.call .reader .signalInterrupt, .wait, .move .main, .move .main,
        .move .reader, .move .reader, .move .reader, .move .reader, .move .main, .move .main,
        .move .main, .move .main, .call .main .checkInterrupt, .move .main, .move .main,
        .move .main, .move .main, .wait, .move .main, .move .main] = some state ∧
      state.points .main = .asleep ∧ state.shared.interrupted = false := by
  obtain ⟨state, hrun, hasleep, hreader⟩ : ∃ state : QueueThreads ℕ,
      (queueThreads ℕ).run [.call .reader .signalInterrupt, .wait, .move .main, .move .main,
        .move .reader, .move .reader, .move .reader, .move .reader, .move .main, .move .main,
        .move .main, .move .main, .call .main .checkInterrupt, .move .main, .move .main,
        .move .main, .move .main, .wait, .move .main, .move .main] = some state ∧
      state.points .main = .asleep ∧ state.points .reader = .idle := ⟨_, rfl, rfl, rfl⟩
  refine ⟨state, hrun, hasleep, ((pop_sleepsOnNothing hrun hasleep).1 ?_).2.2⟩
  rintro ⟨thread, op, hop, -⟩
  cases thread with
  | main =>
      rw [hasleep] at hop
      cases hop
  | reader =>
      rw [hreader] at hop
      cases hop

end MiniGdbstub
