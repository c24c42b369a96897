import MiniGdbstub.SavedPointer

/-!
# `gdbstub_close` comes back

`gdbstub_close` waits for the reader thread, and the reader thread looks at `thread_stop` only
between two turns of its loop.  But a turn is finite: `poll` has a timeout, a `read` brings no more
than the buffer has room for, and every packet that is popped leaves less behind.  So the thread
comes to its end (`ReaderThread.ahead` bounds its steps), the join succeeds, and the loop over the
packets that are left ends with the list.  There is no schedule in which `gdbstub_close` waits for
ever (`close_returns`).
-/

namespace MiniGdbstub.Lifecycle

open Ledger LinkedList

variable {process : Process} {addrs packets : List ℕ} {node : Option ℕ}

/-! ## The reader thread comes to its end -/

/-- How many steps the reader thread has at most ahead of it when it has been told to stop. -/
def ReaderThread.ahead (thread : ReaderThread) : ℕ :=
  match thread.point with
  | .finished => 0
  | .signalling => 1
  | .leaving => 2
  | .testing => 3
  | .starting => 4
  | .assembling => 4 + 3 * thread.size
  | .acking => 5 + 3 * thread.size
  | .pushing _ => 6 + 3 * thread.size
  | .scanning left => 5 + left + 3 * thread.size
  | .filling =>
      if 2 ^ thread.cap = thread.size then 7 + 4 * 2 ^ (thread.cap + 1) else 6 + 4 * 2 ^ thread.cap
  | .polling => 8 + 4 * 2 ^ (thread.cap + 1)

/-- The reader thread has come nearer to its end; or there was no memory for a packet. -/
def Process.Nears (process : Process) (thread : ReaderThread) (next : Process) : Prop :=
  next.crashed = true ∨ ∃ after, next.thread = some after ∧ after.ahead < thread.ahead ∧
    next.main = process.main

theorem withPriv_yields {uses : Private → List ℕ} {body : Private → Effect Process}
    {property : Process → Prop} (hbody : ∀ priv, Yields (body priv) property) :
    Yields (process.withPriv uses body) property := by
  rw [Process.withPriv]
  cases process.priv with
  | none =>
      rintro ledger value next hrun
      cases hrun
  | some priv => exact Yields.after fun _ => hbody priv

/-- The reader thread goes on at a place that is nearer to its end. -/
theorem nears_of {thread after : ReaderThread} (hahead : after.ahead < thread.ahead) :
    process.Nears thread { process with thread := some after } :=
  .inr ⟨after, rfl, hahead, rfl⟩

section

variable {thread : ReaderThread}

theorem start_nears (hpoint : thread.point = .starting) (available : Bool) :
    Yields (process.start thread available) (process.Nears thread) := by
  refine withPriv_yields fun _ => Yields.after fun data => .pure (nears_of ?_)
  simp [ReaderThread.ahead, hpoint]

theorem test_nears (hpoint : thread.point = .testing) (hstop : process.threadStop = true) :
    Yields (process.test thread) (process.Nears thread) := by
  refine withPriv_yields fun _ => .pure (nears_of ?_)
  simp [ReaderThread.ahead, hpoint, hstop]

theorem poll_nears (hpoint : thread.point = .polling) (outcome : PollOutcome) :
    Yields (process.poll thread outcome) (process.Nears thread) := by
  refine withPriv_yields fun _ => .pure (nears_of ?_)
  cases outcome with
  | readable =>
      simp only [ReaderThread.ahead, hpoint, Nat.pow_succ]
      split <;> omega
  | again =>
      simp only [ReaderThread.ahead, hpoint]
      omega
  | failed =>
      simp only [ReaderThread.ahead, hpoint]
      omega

/-- The larger buffer has room. -/
theorem enlarge_nears (hpoint : thread.point = .filling) (hfull : 2 ^ thread.cap = thread.size)
    (available : Bool) : Yields (process.enlarge thread available) (process.Nears thread) := by
  have hahead : ∀ data, ReaderThread.ahead { thread with data := data, cap := thread.cap + 1 } <
      thread.ahead := by
    intro data
    have hmore : 2 ^ (thread.cap + 1) ≠ thread.size := by
      rw [← hfull, Nat.pow_succ]
      have := Nat.two_pow_pos thread.cap
      omega
    simp only [ReaderThread.ahead, hpoint]
    rw [if_pos hfull, if_neg hmore]
    omega
  refine Yields.after fun data => ?_
  cases data with
  | some data => exact Yields.after fun _ => .pure (nears_of (hahead _))
  | none => exact .pure (.inr ⟨_, rfl, hahead _, rfl⟩)

/-- What a read brings has room in the buffer. -/
theorem read_nears (hpoint : thread.point = .filling) (hroom : 2 ^ thread.cap ≠ thread.size)
    {outcome : ReadOutcome} (hread : thread.canRead outcome = true) :
    Yields (process.read thread outcome) (process.Nears thread) := by
  have hahead : thread.ahead = 6 + 4 * 2 ^ thread.cap := by
    simp only [ReaderThread.ahead, hpoint]
    exact if_neg hroom
  refine withPriv_yields fun _ => Yields.after fun _ => ?_
  cases outcome with
  | bytes nread =>
      simp only [ReaderThread.canRead, Bool.and_eq_true, decide_eq_true_eq] at hread
      refine .pure (nears_of ?_)
      rw [hahead]
      simp only [ReaderThread.ahead]
      omega
  | again =>
      refine .pure (nears_of ?_)
      rw [hahead]
      simp only [ReaderThread.ahead]
      omega
  | ended =>
      refine .pure (nears_of ?_)
      rw [hahead]
      simp only [ReaderThread.ahead]
      omega

theorem scan_nears {left : ℕ} (hpoint : thread.point = .scanning left) (hit : Bool) :
    Yields (process.scan thread left hit) (process.Nears thread) := by
  refine withPriv_yields fun _ => Yields.after fun _ => .pure (.inr ⟨_, rfl, ?_, rfl⟩)
  simp only [ReaderThread.ahead, hpoint]
  by_cases hlast : left ≤ 1
  · rw [if_pos hlast]
    simp only
    omega
  · rw [if_neg hlast]
    simp only
    omega

theorem incomplete_nears {left : ℕ} (hpoint : thread.point = .assembling) :
    Yields (process.incomplete thread left) (process.Nears thread) := by
  refine Yields.after fun _ => .pure (nears_of ?_)
  simp only [ReaderThread.ahead, hpoint]
  omega

/-- A packet that is popped leaves less behind. -/
theorem pop_nears {left : ℕ} (hpoint : thread.point = .assembling) (hleft : left < thread.size)
    (available : Bool) : Yields (process.pop thread left available) (process.Nears thread) := by
  refine Yields.after fun _ => Yields.after fun pkt => ?_
  cases pkt with
  | none => exact .pure (.inl rfl)
  | some pkt =>
      refine .pure (nears_of ?_)
      simp only [ReaderThread.ahead, hpoint]
      omega

theorem push_nears {pkt : ℕ} (hpoint : thread.point = .pushing pkt) (node : Option ℕ) :
    Yields (process.push thread pkt node) (process.Nears thread) := by
  refine withPriv_yields fun _ => Yields.after fun ⟨pushed, queue⟩ => ?_
  cases pushed with
  | true =>
      refine .pure (.inr ⟨_, rfl, ?_, rfl⟩)
      simp only [ReaderThread.ahead, hpoint]
      omega
  | false =>
      refine Yields.after fun _ => .pure (nears_of ?_)
      simp only [ReaderThread.ahead, hpoint]
      omega

theorem ack_nears (hpoint : thread.point = .acking) :
    Yields (process.ack thread) (process.Nears thread) := by
  refine withPriv_yields fun _ => .pure (nears_of ?_)
  simp only [ReaderThread.ahead, hpoint]
  omega

theorem leave_nears (hpoint : thread.point = .leaving) :
    Yields (process.leave thread) (process.Nears thread) := by
  refine Yields.after fun _ => .pure (nears_of ?_)
  simp only [ReaderThread.ahead, hpoint]
  omega

theorem signal_nears (hpoint : thread.point = .signalling) :
    Yields (process.signal thread) (process.Nears thread) := by
  refine withPriv_yields fun _ => .pure (.inr ⟨_, rfl, ?_, rfl⟩)
  simp only [ReaderThread.ahead, hpoint]
  omega

/-- **A step of the reader thread.** -/
theorem threadStep_nears {label : ThreadLabel} {effect : Effect Process}
    (hstop : process.threadStop = true) (hstep : threadStep process thread label = some effect) :
    Yields effect (process.Nears thread) := by
  cases threadMove_of_step hstep with
  | start available hpoint => exact start_nears hpoint available
  | test hpoint => exact test_nears hpoint hstop
  | poll outcome hpoint => exact poll_nears hpoint outcome
  | enlarge available hpoint hfull => exact enlarge_nears hpoint hfull available
  | read outcome hpoint hroom hread => exact read_nears hpoint hroom hread
  | scan left hit hpoint => exact scan_nears hpoint hit
  | incomplete left hpoint hleft => exact incomplete_nears hpoint
  | pop left available hpoint hleft => exact pop_nears hpoint hleft available
  | push pkt node hpoint _ => exact push_nears hpoint node
  | ack hpoint => exact ack_nears hpoint
  | leave hpoint => exact leave_nears hpoint
  | signal hpoint => exact signal_nears hpoint

end

/-- Until it has come to its end, the reader thread can go on. -/
theorem exists_threadStep (process : Process) {thread : ReaderThread}
    (hpoint : thread.point.isFinished = false) :
    ∃ label effect, threadStep process thread label = some effect := by
  obtain ⟨tid, point, data, cap, size⟩ := thread
  cases point with
  | starting => exact ⟨.start true, _, rfl⟩
  | testing => exact ⟨.test, _, rfl⟩
  | polling => exact ⟨.poll .again, _, rfl⟩
  | filling =>
      by_cases hfull : 2 ^ cap = size
      · exact ⟨.enlarge true, _, if_pos hfull⟩
      · exact ⟨.read .ended, _, if_pos ⟨hfull, rfl⟩⟩
  | scanning left => exact ⟨.scan false, _, rfl⟩
  | assembling => exact ⟨.incomplete size, _, if_pos le_rfl⟩
  | pushing pkt =>
      have hfresh : ∀ addr ∈ (none : Option ℕ), (process.queue.nodes addr).isNone = true :=
        fun _ hmem => (by cases hmem)
      let thread : ReaderThread := ⟨tid, .pushing pkt, data, cap, size⟩
      have hstep : threadStep process thread (.push none) =
          if ∀ addr ∈ (none : Option ℕ), (process.queue.nodes addr).isNone then
            some (process.push thread pkt none)
          else none := rfl
      exact ⟨.push none, _, hstep.trans (if_pos hfresh)⟩
  | acking => exact ⟨.ack, _, rfl⟩
  | leaving => exact ⟨.leave, _, rfl⟩
  | signalling => exact ⟨.signal, _, rfl⟩
  | finished => cases hpoint

/-! ## `gdbstub_close` comes back -/

/-- Is the main thread in `gdbstub_close`? -/
def MainPoint.closing : MainPoint → Bool
  | .joining => true
  | .destroying _ => true
  | _ => false

/-- `gdbstub_close` has come back, or the process is over: there was no memory for a packet. -/
def Process.Back (process : Process) : Prop :=
  process.main = .outside ∨ process.crashed = true

/-- What an effect makes of a process, beside the ledger. -/
theorem perform_yields {effect : Effect Process} {property : Process → Prop}
    {post : Process → Multiset ℕ → Prop}
    (haccounts : process.ledger.Accounts (process.owned packets))
    (hends : Ends effect (process.owned packets) post) (hyields : Yields effect property) :
    ∃ next ledger, process.perform effect = { next with ledger := ledger } ∧ property next := by
  obtain ⟨next, ledger, -, hrun, -, -, hproperty⟩ := hends.yields hyields process.ledger haccounts
  exact ⟨next, ledger, by rw [Process.perform, hrun], hproperty⟩

/-- A step that is possible. -/
theorem exists_step {label : Label} {effect : Effect Process} (hcrashed : ¬ process.crashed = true)
    (hused : process.misused = false) (heffect : processStep process label = some effect) :
    ∃ label next, lifecycle.step process label = some next := by
  refine ⟨label, process.perform effect, ?_⟩
  show (if process.crashed || process.misused then none else _) = _
  rw [Bool.eq_false_iff.mpr hcrashed, hused, heffect]
  rfl

/-- In the loop of `pktqueue_destroy` the main thread has only this to do. -/
theorem processStep_destroying (hthread : process.thread = none)
    (hmain : process.main = .destroying node) {label : Label} {effect : Effect Process}
    (hstep : processStep process label = some effect) :
    effect = node.elim process.destroy process.destroyNode := by
  cases label with
  | thread inner =>
      rw [processStep, hthread] at hstep
      cases hstep
  | main inner =>
      rw [processStep] at hstep
      unfold mainStep at hstep
      rw [hmain] at hstep
      cases node with
      | none =>
          cases inner with
          | destroy => exact (Option.some.inj hstep).symm
          | _ => cases hstep
      | some addr =>
          cases inner with
          | destroyNode => exact (Option.some.inj hstep).symm
          | _ => cases hstep

theorem exists_destroying (hmain : process.main = .destroying node) :
    ∃ label, processStep process label = some (node.elim process.destroy process.destroyNode) := by
  cases node with
  | none =>
      refine ⟨.main .destroy, ?_⟩
      rw [processStep]
      unfold mainStep
      rw [hmain]
      rfl
  | some addr =>
      refine ⟨.main .destroyNode, ?_⟩
      rw [processStep]
      unfold mainStep
      rw [hmain]
      rfl

/-- In that loop everything goes the way of the one step there is. -/
theorem Process.Controlled.destroying_back (hcontrolled : process.Controlled addrs packets)
    (haccounts : process.ledger.Accounts (process.owned packets))
    (hmain : process.main = .destroying node) {property : Process → Prop}
    (hyields : Yields (node.elim process.destroy process.destroyNode) property)
    (hnext : ∀ (next : Process) (ledger : Ledger), property next →
      Process.Sound { next with ledger := ledger } →
      lifecycle.Inevitable Process.Back { next with ledger := ledger }) :
    lifecycle.Inevitable Process.Back process := by
  have hthread := hcontrolled.thread_eq_none (by rw [hmain]; rfl)
  by_cases hcrashed : process.crashed = true
  · exact .now (.inr hcrashed)
  refine .later ?_ fun label next hstep => ?_
  · obtain ⟨label, heffect⟩ := exists_destroying hmain
    exact exists_step hcrashed hcontrolled.used heffect
  · obtain ⟨effect, heffect, rfl⟩ := lifecycle_step hstep
    have hends := processStep_ends hcontrolled heffect
    have hsound := (perform_sound haccounts hends).1
    obtain rfl := processStep_destroying hthread hmain heffect
    obtain ⟨next, ledger, hperform, hproperty⟩ := perform_yields haccounts hends hyields
    rw [hperform] at hsound ⊢
    exact hnext next ledger hproperty hsound

theorem destroyNode_yields {addr : ℕ} {found : Node ℕ}
    (hfound : process.queue.nodes addr = some found) :
    Yields (process.destroyNode addr) fun next => next.main = .destroying found.next ∧
      next.queue.nodes = Function.update process.queue.nodes addr none := by
  refine withPriv_yields fun _ => ?_
  have hnode : nodeAt process.queue.nodes addr = .ok found := by rw [nodeAt, hfound, inBounds]
  rw [hnode, checked_ok, pure_bind]
  refine Yields.after fun _ => .pure ?_
  exact ⟨rfl, rfl⟩

/-- The loop over the packets that are left ends with the list. -/
theorem Process.Sound.destroying_back (hsound : process.Sound)
    (hmain : process.main = .destroying node) :
    lifecycle.Inevitable Process.Back process := by
  obtain ⟨addrs, packets, hcontrolled, haccounts⟩ := hsound
  induction addrs generalizing process packets node with
  | nil =>
      have hchain := hcontrolled.destroying node hmain
      obtain rfl : node = none := hchain.start_eq
      have hyields : Yields process.destroy fun next => next.main = .outside :=
        withPriv_yields fun priv => Yields.after fun _ => .pure rfl
      refine hcontrolled.destroying_back haccounts hmain hyields fun next ledger hback _ => ?_
      exact .now (.inl hback)
  | cons addr addrs ih =>
      have hchain := hcontrolled.destroying node hmain
      have hnodup := hchain.nodup
      cases hchain with
      | @cons _ found _ rest hfound hrest =>
      refine hcontrolled.destroying_back haccounts hmain (destroyNode_yields hfound)
        fun next ledger hnext hsound => ?_
      obtain ⟨hdestroying, hnodes⟩ := hnext
      obtain ⟨addrs', packets', hcontrolled', haccounts'⟩ := hsound
      have hleft := hcontrolled'.destroying found.next hdestroying
      have hnot : addr ∉ addrs := (List.nodup_cons.mp hnodup).1
      have hkept := hrest.update_of_notMem hnot none
      rw [← hnodes] at hkept
      obtain ⟨rfl, -⟩ := hleft.unique hkept
      exact ih hdestroying packets' hcontrolled' haccounts'

/-- While it waits for the reader thread, the main thread does nothing but join it. -/
theorem processStep_joining {thread : ReaderThread} (hthread : process.thread = some thread)
    (hmain : process.main = .joining) {label : Label} {effect : Effect Process}
    (hstep : processStep process label = some effect) :
    (thread.point.isFinished = true ∧ effect = process.join thread) ∨
      ∃ inner, threadStep process thread inner = some effect := by
  cases label with
  | thread inner =>
      rw [processStep, hthread] at hstep
      exact .inr ⟨inner, hstep⟩
  | main inner =>
      rw [processStep] at hstep
      unfold mainStep at hstep
      rw [hmain] at hstep
      cases inner with
      | join =>
          simp only [hthread, Option.bind_eq_bind, Option.bind_some] at hstep
          obtain ⟨hfinished, hstep⟩ := Option.ite_none_right_eq_some.mp hstep
          exact .inl ⟨hfinished, (Option.some.inj hstep).symm⟩
      | _ => cases hstep

/-- Either the reader thread can go on, or the main thread can join it. -/
theorem exists_joining {thread : ReaderThread} (hthread : process.thread = some thread)
    (hmain : process.main = .joining) :
    ∃ label effect, processStep process label = some effect := by
  cases hfinished : thread.point.isFinished with
  | true =>
      refine ⟨.main .join, process.join thread, ?_⟩
      rw [processStep]
      unfold mainStep
      rw [hmain]
      simp only [hthread, Option.bind_eq_bind, Option.bind_some]
      exact if_pos hfinished
  | false =>
      obtain ⟨inner, effect, hstep⟩ := exists_threadStep process hfinished
      refine ⟨.thread inner, effect, ?_⟩
      rw [processStep, hthread]
      exact hstep

theorem join_yields (thread : ReaderThread) :
    Yields (process.join thread) fun next => ∃ node, next.main = .destroying node :=
  withPriv_yields fun _ => Yields.after fun _ => .pure ⟨_, rfl⟩

/-- The reader thread comes to its end, and the join succeeds. -/
theorem Process.Sound.joining_back {thread : ReaderThread} (hsound : process.Sound)
    (hthread : process.thread = some thread) (hmain : process.main = .joining) :
    lifecycle.Inevitable Process.Back process := by
  induction hahead : thread.ahead using Nat.strong_induction_on generalizing process thread with
  | _ ahead ih =>
  obtain ⟨addrs, packets, hcontrolled, haccounts⟩ := hsound
  by_cases hcrashed : process.crashed = true
  · exact .now (.inr hcrashed)
  refine .later ?_ fun label next hstep => ?_
  · obtain ⟨label, effect, heffect⟩ := exists_joining hthread hmain
    exact exists_step hcrashed hcontrolled.used heffect
  obtain ⟨effect, heffect, rfl⟩ := lifecycle_step hstep
  have hends := processStep_ends hcontrolled heffect
  have hsound := (perform_sound haccounts hends).1
  rcases processStep_joining hthread hmain heffect with ⟨-, rfl⟩ | ⟨inner, hinner⟩
  · obtain ⟨next, ledger, hperform, node, hdestroying⟩ :=
      perform_yields haccounts hends (join_yields thread)
    rw [hperform] at hsound ⊢
    exact hsound.destroying_back hdestroying
  · have hstop := (hcontrolled.joining hmain).2
    obtain ⟨next, ledger, hperform, hnears⟩ :=
      perform_yields haccounts hends (threadStep_nears hstop hinner)
    rw [hperform] at hsound ⊢
    rcases hnears with hcrashed | ⟨after, hafter, hless, hsame⟩
    · exact .now (.inr hcrashed)
    · rw [hahead] at hless
      exact ih after.ahead hless hsound hafter (hsame.trans hmain) rfl

theorem Process.Sound.closing_back (hsound : process.Sound)
    (hclosing : process.main.closing = true) : lifecycle.Inevitable Process.Back process := by
  cases hmain : process.main with
  | joining =>
      obtain ⟨addrs, packets, hcontrolled, -⟩ := id hsound
      obtain ⟨thread, hthread⟩ := Option.isSome_iff_exists.mp (hcontrolled.joining hmain).1
      exact hsound.joining_back hthread hmain
  | destroying node => exact hsound.destroying_back hmain
  | _ =>
      rw [hmain] at hclosing
      cases hclosing

/-- **`gdbstub_close` comes back.**  Once a program is in `gdbstub_close`, every way in which the
two threads and the library may go on leads out of it; there is none that stops inside, and none
that goes on for ever.  (A process that has no memory for a packet is over.) -/
theorem close_returns {labels : List Label} (hrun : lifecycle.run labels = some process)
    (hclosing : process.main.closing = true) : lifecycle.Inevitable Process.Back process :=
  (run_sound hrun).1.closing_back hclosing

/-- The second packet has been pushed, and the main thread waits for the reader thread. -/
theorem close_returns_oneSession :
    ∃ process, lifecycle.run (oneSession.take 19) = some process ∧ process.main = .joining ∧
      lifecycle.Inevitable Process.Back process := by
  have hends : (lifecycle.run (oneSession.take 19)).map Process.main = some .joining := by
    decide +kernel
  obtain ⟨process, hrun, hmain⟩ := Option.map_eq_some_iff.mp hends
  exact ⟨process, hrun, hmain, close_returns hrun (by rw [hmain]; rfl)⟩

end MiniGdbstub.Lifecycle
