import MiniGdbstub.Ownership

/-!
# The pointer that `strtok` keeps

`process_xfer` takes its arguments apart with `strtok`, which keeps a pointer behind the last token.
When `qXfer:features` comes without arguments, `strtok` goes on from there: in the packet of an
earlier request, which has been freed.  No other request uses what is not held, so this is the one
exception to the rules of the ledger, and it happens whenever such a request follows one with
arguments (`lifecycle_balanced`).

What every other step leaves alone is said once for each kind of step (`Process.Alike`).
-/

namespace MiniGdbstub.Lifecycle

open Ledger LinkedList

variable {process : Process} {addrs packets : List ℕ}

/-! ## What the steps leave alone -/

/-- `strtok`'s pointer and what has been said about it are the same, and the process goes on. -/
structure Process.Alike (process next : Process) : Prop where
  saved : next.saved = process.saved
  stale : next.stale = process.stale
  crashed : next.crashed = process.crashed

theorem withPriv_leaves {uses : Private → List ℕ} {body : Private → Effect Process}
    {property : Process → Prop} (hbody : ∀ priv, Leaves (body priv) property) :
    Leaves (process.withPriv uses body) property := by
  rw [Process.withPriv]
  cases process.priv with
  | none =>
      rintro ledger value next hrun
      cases hrun
  | some priv => exact Leaves.after (Fresh.requireAll _) fun _ => hbody priv

theorem checked_fresh {α : Type} (result : Except Fault α) : Fresh (checked result) := by
  cases result with
  | ok value => exact .pure value
  | error fault =>
      rintro ledger value next hrun
      cases hrun

/-! ### The main thread -/

theorem init_leaves (calls : InitCalls) (s : Option (List UInt8)) (hasOps : Bool) :
    Leaves (process.init calls s hasOps) process.Alike := by
  refine Leaves.after (gdbstubInit_fresh calls s hasOps) fun priv => ?_
  cases priv with
  | none => exact .pure ⟨rfl, rfl, rfl⟩
  | some priv => exact .pure ⟨rfl, rfl, rfl⟩

theorem run_leaves (created : Bool) : Leaves (process.run created) process.Alike := by
  refine withPriv_leaves fun _ => Leaves.ite (.pure ⟨rfl, rfl, rfl⟩) ?_
  refine Leaves.after (Fresh.acquire created) fun tid => ?_
  cases tid with
  | none => exact .pure ⟨rfl, rfl, rfl⟩
  | some tid => exact .pure ⟨rfl, rfl, rfl⟩

theorem take_leaves (taken : Except Fault (Option ℕ × LinkedPktqueue ℕ)) :
    Leaves (process.take taken) process.Alike :=
  withPriv_leaves fun _ => Leaves.after (checked_fresh taken) fun _ => .pure ⟨rfl, rfl, rfl⟩

theorem release_leaves (node : ℕ) : Leaves (process.release node) process.Alike :=
  Leaves.after (checked_fresh _) fun _ => .pure ⟨rfl, rfl, rfl⟩

theorem isShutdown_leaves : Leaves process.isShutdown process.Alike :=
  withPriv_leaves fun _ => .pure ⟨rfl, rfl, rfl⟩

theorem checkInterrupt_leaves : Leaves process.checkInterrupt process.Alike :=
  withPriv_leaves fun _ => .pure ⟨rfl, rfl, rfl⟩

theorem accept_leaves (pkt : ℕ) : Leaves (process.accept pkt) process.Alike :=
  withPriv_leaves fun _ => Leaves.after (Fresh.require pkt) fun _ => .pure ⟨rfl, rfl, rfl⟩

theorem finish_leaves (pkt : ℕ) (goesOn : Bool) :
    Leaves (process.finish pkt goesOn) process.Alike :=
  withPriv_leaves fun _ => Leaves.after (Fresh.release pkt) fun _ => .pure ⟨rfl, rfl, rfl⟩

theorem regbufGet_leaves (available : Bool) :
    Leaves (process.regbufGet available) process.Alike :=
  withPriv_leaves fun priv =>
    Leaves.after (regbufGrow_fresh available priv.regbuf) fun _ => .pure ⟨rfl, rfl, rfl⟩

theorem close_leaves : Leaves process.close process.Alike :=
  withPriv_leaves fun _ => Leaves.ite (.pure ⟨rfl, rfl, rfl⟩) (.pure ⟨rfl, rfl, rfl⟩)

theorem join_leaves (thread : ReaderThread) : Leaves (process.join thread) process.Alike :=
  withPriv_leaves fun _ => Leaves.after (Fresh.release thread.tid) fun _ => .pure ⟨rfl, rfl, rfl⟩

theorem destroyNode_leaves (addr : ℕ) : Leaves (process.destroyNode addr) process.Alike :=
  withPriv_leaves fun _ => Leaves.after (checked_fresh _) fun node =>
    Leaves.after (Fresh.release node.value) fun _ => .pure ⟨rfl, rfl, rfl⟩

theorem destroy_leaves : Leaves process.destroy process.Alike :=
  withPriv_leaves fun priv => Leaves.after priv.release_fresh fun _ => .pure ⟨rfl, rfl, rfl⟩

/-- All steps of the main thread but those of the handlers. -/
theorem mainStep_leaves {label : MainLabel} {effect : Effect Process}
    (hstep : mainStep process label = some effect) (hplain : ∀ blocks, label ≠ .handler blocks) :
    Leaves effect process.Alike := by
  cases mainMove_of_step hstep with
  | init calls s hasOps _ => exact init_leaves calls s hasOps
  | run created _ => exact run_leaves created
  | take taken _ _ => exact take_leaves taken
  | release node _ => exact release_leaves node
  | isShutdown _ => exact isShutdown_leaves
  | checkInterrupt _ => exact checkInterrupt_leaves
  | discard pkt goesOn _ => exact finish_leaves pkt goesOn
  | accept pkt _ => exact accept_leaves pkt
  | regbufGet pkt available _ => exact regbufGet_leaves available
  | handler pkt blocks _ => exact absurd rfl (hplain blocks)
  | served pkt goesOn _ => exact finish_leaves pkt goesOn
  | close _ => exact close_leaves
  | join thread _ _ _ => exact join_leaves thread
  | destroyNode addr _ => exact destroyNode_leaves addr
  | destroy _ => exact destroy_leaves

/-! ### The reader thread -/

/-- A packet for which there is no memory. -/
def ThreadLabel.usesNull : ThreadLabel → Bool
  | .pop _ available => !available
  | _ => false

/-- The reader thread does not move the main thread, either. -/
structure Process.Untouched (process : Process) (label : ThreadLabel) (next : Process) : Prop where
  saved : next.saved = process.saved
  stale : next.stale = process.stale
  main : next.main = process.main
  crashed : next.crashed = (process.crashed || label.usesNull)

/-- The reader thread goes on, with its own data only. -/
theorem Process.untouched_of {label : ThreadLabel} {thread : Option ReaderThread}
    {queue : LinkedPktqueue ℕ} {lost : Multiset ℕ} (hlabel : label.usesNull = false) :
    process.Untouched label { process with thread := thread, queue := queue, lost := lost } :=
  ⟨rfl, rfl, rfl, by rw [hlabel, Bool.or_false]⟩

theorem start_leaves (thread : ReaderThread) (available : Bool) :
    Leaves (process.start thread available) (process.Untouched (.start available)) :=
  withPriv_leaves fun _ => Leaves.after (Fresh.acquire available) fun _ =>
    .pure (Process.untouched_of rfl)

theorem test_leaves (thread : ReaderThread) :
    Leaves (process.test thread) (process.Untouched .test) :=
  withPriv_leaves fun _ => .pure (Process.untouched_of rfl)

theorem poll_leaves (thread : ReaderThread) (outcome : PollOutcome) :
    Leaves (process.poll thread outcome) (process.Untouched (.poll outcome)) :=
  withPriv_leaves fun _ => .pure (Process.untouched_of rfl)

theorem enlarge_leaves (thread : ReaderThread) (available : Bool) :
    Leaves (process.enlarge thread available) (process.Untouched (.enlarge available)) := by
  refine Leaves.after (Fresh.acquire available) fun data => ?_
  cases data with
  | some data =>
      exact Leaves.after (Fresh.releaseSome thread.data) fun _ => .pure (Process.untouched_of rfl)
  | none => exact .pure (Process.untouched_of rfl)

theorem read_leaves (thread : ReaderThread) (outcome : ReadOutcome) :
    Leaves (process.read thread outcome) (process.Untouched (.read outcome)) := by
  refine withPriv_leaves fun _ => Leaves.after (Fresh.requireAll _) fun _ => ?_
  cases outcome with
  | bytes nread => exact .pure (Process.untouched_of rfl)
  | again => exact .pure (Process.untouched_of rfl)
  | ended => exact .pure (Process.untouched_of rfl)

theorem scan_leaves (thread : ReaderThread) (left : ℕ) (hit : Bool) :
    Leaves (process.scan thread left hit) (process.Untouched (.scan hit)) :=
  withPriv_leaves fun _ => Leaves.after (Fresh.requireAll _) fun _ =>
    .pure (Process.untouched_of rfl)

theorem incomplete_leaves (thread : ReaderThread) (left : ℕ) :
    Leaves (process.incomplete thread left) (process.Untouched (.incomplete left)) :=
  Leaves.after (Fresh.requireAll _) fun _ => .pure (Process.untouched_of rfl)

theorem pop_leaves (thread : ReaderThread) (left : ℕ) (available : Bool) :
    Leaves (process.pop thread left available) (process.Untouched (.pop left available)) := by
  refine Leaves.after (Fresh.requireAll _) fun _ => ?_
  refine Leaves.bind (Leaves.acquire available) fun pkt hpkt => ?_
  cases pkt with
  | some pkt =>
      obtain rfl : true = available := hpkt
      exact .pure (Process.untouched_of rfl)
  | none =>
      obtain rfl : false = available := hpkt
      exact .pure ⟨rfl, rfl, rfl, (Bool.or_true _).symm⟩

theorem push_leaves (thread : ReaderThread) (pkt : ℕ) (node : Option ℕ) :
    Leaves (process.push thread pkt node) (process.Untouched (.push node)) := by
  refine withPriv_leaves fun _ => Leaves.after (checked_fresh _) fun ⟨pushed, queue⟩ => ?_
  cases pushed with
  | true => exact .pure (Process.untouched_of rfl)
  | false => exact Leaves.after (Fresh.release pkt) fun _ => .pure (Process.untouched_of rfl)

theorem ack_leaves (thread : ReaderThread) :
    Leaves (process.ack thread) (process.Untouched .ack) :=
  withPriv_leaves fun _ => .pure (Process.untouched_of rfl)

theorem leave_leaves (thread : ReaderThread) :
    Leaves (process.leave thread) (process.Untouched .leave) :=
  Leaves.after (Fresh.releaseSome thread.data) fun _ => .pure (Process.untouched_of rfl)

theorem signal_leaves (thread : ReaderThread) :
    Leaves (process.signal thread) (process.Untouched .signal) :=
  withPriv_leaves fun _ => .pure (Process.untouched_of rfl)

theorem threadStep_leaves {thread : ReaderThread} {label : ThreadLabel} {effect : Effect Process}
    (hstep : threadStep process thread label = some effect) :
    Leaves effect (process.Untouched label) := by
  cases threadMove_of_step hstep with
  | start available _ => exact start_leaves thread available
  | test _ => exact test_leaves thread
  | poll outcome _ => exact poll_leaves thread outcome
  | enlarge available _ _ => exact enlarge_leaves thread available
  | read outcome _ _ _ => exact read_leaves thread outcome
  | scan left hit _ => exact scan_leaves thread left hit
  | incomplete left _ _ => exact incomplete_leaves thread left
  | pop left available _ _ => exact pop_leaves thread left available
  | push pkt node _ _ => exact push_leaves thread pkt node
  | ack _ => exact ack_leaves thread
  | leave _ => exact leave_leaves thread
  | signal _ => exact signal_leaves thread

/-! ### Handlers -/

/-- Can the handler use a pointer for which there was no memory, or which `strtok` has not set? -/
def HandlerBlocks.usesNull : HandlerBlocks → Bool
  | .memory available accessed => accessed && !available
  | .registers _ _ => false
  | .register accessed => accessed
  | .transfer hasArgs => !hasArgs

/-- The handler leaves `strtok`'s pointer alone. -/
structure Process.Spared (process : Process) (blocks : HandlerBlocks) (next : Process) : Prop where
  saved : next.saved = process.saved
  stale : next.stale = process.stale
  crashed : next.crashed = true → process.crashed = true ∨ blocks.usesNull = true

theorem memory_leaves (pkt : ℕ) (available accessed : Bool) :
    Leaves (process.memory pkt available accessed)
      (process.Spared (.memory available accessed)) := by
  refine Leaves.after (Fresh.require pkt) fun _ => ?_
  refine Leaves.bind (Leaves.acquire available) fun mval hmval => ?_
  refine Leaves.bind (Leaves.access accessed mval) fun goesOn hgoesOn => ?_
  cases goesOn with
  | true => exact Leaves.after (Fresh.releaseSome mval) fun _ => .pure ⟨rfl, rfl, .inl⟩
  | false =>
      refine .pure ⟨rfl, rfl, fun _ => .inr ?_⟩
      rw [hmval] at hgoesOn
      cases accessed with
      | false => cases hgoesOn
      | true =>
          cases available with
          | false => rfl
          | true => cases hgoesOn

theorem registers_leaves (pkt : ℕ) (first second : Bool) :
    Leaves (process.registers pkt first second) (process.Spared (.registers first second)) :=
  Leaves.after (Fresh.require pkt) fun _ => Leaves.after (Fresh.acquire first) fun newValues =>
    Leaves.after (Fresh.acquire second) fun backupValues =>
      Leaves.after (Fresh.requireAll _) fun _ => Leaves.after (Fresh.releaseSome newValues) fun _ =>
        Leaves.after (Fresh.releaseSome backupValues) fun _ => .pure ⟨rfl, rfl, .inl⟩

theorem register_leaves (pkt : ℕ) (accessed : Bool) :
    Leaves (process.register pkt accessed) (process.Spared (.register accessed)) := by
  refine withPriv_leaves fun priv => Leaves.after (Fresh.require pkt) fun _ => ?_
  refine Leaves.bind (Leaves.access accessed priv.regbuf) fun goesOn hgoesOn => ?_
  cases goesOn with
  | true => exact .pure ⟨rfl, rfl, .inl⟩
  | false =>
      refine .pure ⟨rfl, rfl, fun _ => .inr ?_⟩
      cases accessed with
      | true => rfl
      | false => cases hgoesOn

/-- `strtok` begins in the packet. -/
theorem transfer_leaves (pkt : ℕ) :
    Leaves (process.transfer pkt true) fun next => next.saved = some pkt ∧
      next.stale = process.stale ∧ next.crashed = process.crashed ∧ next.main = .handled pkt :=
  Leaves.after (Fresh.require pkt) fun _ => .pure ⟨rfl, rfl, rfl, rfl⟩

/-- `strtok` goes on where it was last. -/
theorem perform_transfer_saved {pkt block : ℕ} (hheld : pkt ∈ process.ledger.held)
    (hsaved : process.saved = some block) :
    process.perform (process.transfer pkt false) = { process with
      stale := process.stale || !decide (block ∈ process.ledger.held)
      main := .handled pkt } := by
  obtain ⟨ledger, priv, queue, threadStop, thread, main, lost, saved, stale⟩ := process
  obtain rfl : saved = some block := hsaved
  have hrequire : require pkt ledger = some ((), ledger) := if_pos hheld
  rw [Process.perform, Process.transfer, bind_of_some hrequire]
  rfl

theorem perform_transfer_null {pkt : ℕ} (hheld : pkt ∈ process.ledger.held)
    (hsaved : process.saved = none) :
    process.perform (process.transfer pkt false) = { process with crashed := true } := by
  obtain ⟨ledger, priv, queue, threadStop, thread, main, lost, saved, stale⟩ := process
  obtain rfl : saved = none := hsaved
  have hrequire : require pkt ledger = some ((), ledger) := if_pos hheld
  rw [Process.perform, Process.transfer, bind_of_some hrequire]
  rfl

/-! ## Every run -/

/-- The requests that `strtok` begins in, and those in which it goes on. -/
def transferBegins : Label := .main (.handler (.transfer true))

def transferGoesOn : Label := .main (.handler (.transfer false))

/-- Can the step use `NULL`? -/
def Label.usesNull : Label → Bool
  | .main (.handler blocks) => blocks.usesNull
  | .main _ => false
  | .thread label => label.usesNull

/-- What is known of `strtok`'s pointer after these steps; its block is held no more when its packet
has been served. -/
structure Process.Kept (process : Process) (labels : List Label) : Prop where
  saved : process.saved.isSome = true ↔ transferBegins ∈ labels
  stale : process.stale = true ↔ [transferBegins, transferGoesOn].Sublist labels
  released : ∀ block ∈ process.saved, block < process.ledger.next ∧
    (block ∈ process.ledger.held → process.main = .handled block)

theorem pair_sublist_concat {α : Type} {first second last : α} {list : List α} :
    [first, second].Sublist (list ++ [last]) ↔
      [first, second].Sublist list ∨ second = last ∧ first ∈ list := by
  have hreverse : [first, second].Sublist list ↔ [second, first].Sublist list.reverse :=
    List.reverse_sublist.symm
  rw [hreverse, ← List.reverse_sublist, List.reverse_append]
  show (second :: [first]).Sublist (last :: list.reverse) ↔ _
  rw [List.cons_sublist_cons', List.singleton_sublist, List.mem_reverse]

/-- What an effect makes of a process that holds what it should. -/
theorem Process.Sound.perform_leaves (hsound : process.Sound) {label : Label}
    {effect : Effect Process} (heffect : processStep process label = some effect)
    {property : Process → Prop} (hleaves : Leaves effect property) :
    ∃ next ledger, process.perform effect = { next with ledger := ledger } ∧ property next ∧
      process.ledger.next ≤ ledger.next ∧
      ∀ handle ∈ ledger.held, handle < process.ledger.next → handle ∈ process.ledger.held := by
  obtain ⟨addrs, packets, hcontrolled, haccounts⟩ := hsound
  obtain ⟨next, ledger, -, hrun, -⟩ :=
    processStep_ends hcontrolled heffect process.ledger haccounts
  obtain ⟨hproperty, hmore, hheld⟩ := hleaves process.ledger next ledger hrun
  exact ⟨next, ledger, by rw [Process.perform, hrun], hproperty, hmore, hheld⟩

theorem finish_released {pkt : ℕ} {goesOn : Bool} {ledger after : Ledger} {next : Process}
    (hrun : process.finish pkt goesOn ledger = some (next, after)) (hnodup : ledger.held.Nodup) :
    pkt ∉ after.held := by
  rw [Process.finish, Process.withPriv] at hrun
  cases hpriv : process.priv with
  | none =>
      rw [hpriv] at hrun
      cases hrun
  | some priv =>
      rw [hpriv] at hrun
      obtain ⟨⟨_, first⟩, hrequire, hrun⟩ := Option.bind_eq_some_iff.mp hrun
      obtain ⟨⟨_, second⟩, hrelease, hrun⟩ := Option.bind_eq_some_iff.mp hrun
      obtain rfl := requireAll_eq_some hrequire
      obtain ⟨-, hrelease⟩ := Option.ite_none_right_eq_some.mp hrelease
      cases hrelease
      cases hrun
      exact hnodup.notMem_erase

/-- When a handler has come back, the main thread is done with the packet. -/
theorem mainStep_handled {pkt : ℕ} (hmain : process.main = .handled pkt) {label : MainLabel}
    {effect : Effect Process} (hstep : mainStep process label = some effect) :
    ∃ goesOn, effect = process.finish pkt goesOn := by
  unfold mainStep at hstep
  rw [hmain] at hstep
  cases label with
  | served goesOn => exact ⟨goesOn, (Option.some.inj hstep).symm⟩
  | _ => cases hstep

theorem handler_of_step {blocks : HandlerBlocks} {effect : Effect Process}
    (heffect : processStep process (.main (.handler blocks)) = some effect) :
    ∃ pkt, process.main = .serving pkt ∧ effect = process.handler pkt blocks := by
  have hstep : mainStep process (.handler blocks) = some effect := heffect
  cases mainMove_of_step hstep with
  | handler pkt blocks hmain => exact ⟨pkt, hmain, rfl⟩

section

variable {labels : List Label} {label : Label} {next : Process} {ledger : Ledger}

/-- A step that is no transfer. -/
theorem Process.Kept.plain (hkept : process.Kept labels) (hbegins : label ≠ transferBegins)
    (hgoesOn : label ≠ transferGoesOn) (hsaved : next.saved = process.saved)
    (hstale : next.stale = process.stale) (hmore : process.ledger.next ≤ ledger.next)
    (hheld : ∀ handle ∈ ledger.held, handle < process.ledger.next → handle ∈ process.ledger.held)
    (hmain : ∀ block, process.main = .handled block → block ∈ ledger.held →
      next.main = .handled block) :
    Process.Kept { next with ledger := ledger } (labels ++ [label]) where
  saved := by
    rw [List.mem_append, List.mem_singleton]
    refine (iff_of_eq (congrArg (fun saved => Option.isSome saved = true) hsaved)).trans ?_
    exact hkept.saved.trans (or_iff_left hbegins.symm).symm
  stale := by
    rw [pair_sublist_concat]
    refine (iff_of_eq (congrArg (fun stale => stale = true) hstale)).trans ?_
    exact hkept.stale.trans (or_iff_left fun heq => hgoesOn heq.1.symm).symm
  released := by
    intro block hblock
    have hblock : process.saved = some block := hsaved ▸ hblock
    obtain ⟨hbelow, hreleased⟩ := hkept.released block hblock
    refine ⟨hbelow.trans_le hmore, fun hmem => ?_⟩
    exact hmain block (hreleased (hheld block hmem hbelow)) hmem

theorem Process.Kept.thread (hkept : process.Kept labels) (hsound : process.Sound)
    {label : ThreadLabel} {effect : Effect Process}
    (heffect : processStep process (.thread label) = some effect) :
    (process.perform effect).Kept (labels ++ [.thread label]) ∧
      (process.perform effect).crashed = (process.crashed || label.usesNull) := by
  obtain ⟨thread, -, hstep⟩ := Option.bind_eq_some_iff.mp heffect
  obtain ⟨next, ledger, hperform, huntouched, hmore, hheld⟩ :=
    hsound.perform_leaves heffect (threadStep_leaves hstep)
  rw [hperform]
  refine ⟨hkept.plain (fun heq => by cases heq) (fun heq => by cases heq) huntouched.saved
    huntouched.stale hmore hheld fun block hmain _ => ?_, huntouched.crashed⟩
  exact huntouched.main.trans hmain

theorem Process.Kept.main (hkept : process.Kept labels) (hsound : process.Sound)
    {label : MainLabel} {effect : Effect Process}
    (heffect : processStep process (.main label) = some effect)
    (hplain : ∀ blocks, label ≠ .handler blocks) :
    (process.perform effect).Kept (labels ++ [.main label]) ∧
      (process.perform effect).crashed = process.crashed := by
  have hstep : mainStep process label = some effect := heffect
  obtain ⟨next, ledger, hperform, halike, hmore, hheld⟩ :=
    hsound.perform_leaves heffect (mainStep_leaves hstep hplain)
  have hgone : ∀ block, process.main = .handled block → block ∉ ledger.held := by
    intro block hmain
    obtain ⟨goesOn, rfl⟩ := mainStep_handled hmain hstep
    obtain ⟨addrs, packets, hcontrolled, haccounts⟩ := id hsound
    obtain ⟨after, last, -, hrun, -⟩ :=
      processStep_ends hcontrolled heffect process.ledger haccounts
    have hnodup : process.ledger.held.Nodup := haccounts.held ▸ haccounts.nodup
    have hreleased := finish_released hrun hnodup
    rw [Process.perform, hrun] at hperform
    have hledger : last = ledger := congrArg Process.ledger hperform
    rwa [hledger] at hreleased
  rw [hperform]
  refine ⟨hkept.plain (fun heq => ?_) (fun heq => ?_) halike.saved halike.stale hmore hheld
    fun block hmain hmem => absurd hmem (hgone block hmain), halike.crashed⟩
  · exact hplain (.transfer true) (Label.main.inj heq)
  · exact hplain (.transfer false) (Label.main.inj heq)

/-- A handler that does not call `strtok`. -/
theorem Process.Kept.spared (hkept : process.Kept labels) (hsound : process.Sound) {pkt : ℕ}
    (hmain : process.main = .serving pkt) {blocks : HandlerBlocks} {effect : Effect Process}
    (heffect : processStep process (.main (.handler blocks)) = some effect)
    (hblocks : ∀ hasArgs, blocks ≠ .transfer hasArgs)
    (hleaves : Leaves effect (process.Spared blocks)) :
    (process.perform effect).Kept (labels ++ [.main (.handler blocks)]) ∧
      ((process.perform effect).crashed = true →
        process.crashed = true ∨ blocks.usesNull = true) := by
  obtain ⟨next, ledger, hperform, hspared, hmore, hheld⟩ := hsound.perform_leaves heffect hleaves
  rw [hperform]
  refine ⟨hkept.plain (fun heq => ?_) (fun heq => ?_) hspared.saved hspared.stale hmore hheld
    fun block hhandled _ => ?_, hspared.crashed⟩
  · exact hblocks true (MainLabel.handler.inj (Label.main.inj heq))
  · exact hblocks false (MainLabel.handler.inj (Label.main.inj heq))
  · rw [hmain] at hhandled
    cases hhandled

theorem Process.Kept.begins (hkept : process.Kept labels) (hsound : process.Sound) {pkt : ℕ}
    (hmain : process.main = .serving pkt) :
    (process.perform (process.transfer pkt true)).Kept (labels ++ [transferBegins]) ∧
      (process.perform (process.transfer pkt true)).crashed = process.crashed := by
  have heffect : processStep process transferBegins = some (process.transfer pkt true) := by
    show mainStep process _ = _
    unfold mainStep
    rw [hmain]
    rfl
  obtain ⟨next, ledger, hperform, ⟨hsaved, hstale, hcrashed, hhandled⟩, hmore, -⟩ :=
    hsound.perform_leaves heffect (transfer_leaves pkt)
  rw [hperform]
  refine ⟨⟨?_, ?_, ?_⟩, hcrashed⟩
  · rw [List.mem_append, List.mem_singleton]
    refine iff_of_true ?_ (.inr rfl)
    exact (congrArg Option.isSome hsaved).trans rfl
  · rw [pair_sublist_concat]
    refine (iff_of_eq (congrArg (fun stale => stale = true) hstale)).trans ?_
    exact hkept.stale.trans (or_iff_left fun heq => by cases heq.1).symm
  · intro block hblock
    obtain rfl : pkt = block := Option.some.inj (hsaved.symm.trans hblock)
    obtain ⟨addrs, packets, -, haccounts⟩ := hsound
    have hbelow := haccounts.below pkt (process.serving_mem hmain)
    exact ⟨hbelow.trans_le hmore, fun _ => hhandled⟩

theorem Process.Kept.goesOn (hkept : process.Kept labels) (hsound : process.Sound) {pkt : ℕ}
    (hmain : process.main = .serving pkt) :
    (process.perform (process.transfer pkt false)).Kept (labels ++ [transferGoesOn]) := by
  have hheld : pkt ∈ process.ledger.held := by
    obtain ⟨addrs, packets, -, haccounts⟩ := hsound
    rw [haccounts.held]
    exact process.serving_mem hmain
  have hmem : transferBegins ∈ labels ++ [transferGoesOn] ↔ transferBegins ∈ labels := by
    rw [List.mem_append, List.mem_singleton]
    exact or_iff_left fun heq => by cases heq
  -- without an earlier transfer the pointer is `NULL`, and the process is over
  cases hsaved : process.saved with
  | none =>
      rw [perform_transfer_null hheld hsaved]
      have hnever : transferBegins ∉ labels := by
        rw [← hkept.saved, hsaved]
        exact Bool.false_ne_true
      refine ⟨?_, ?_, fun block hblock => ?_⟩
      · rw [hmem, ← hkept.saved]
      · rw [pair_sublist_concat]
        exact hkept.stale.trans (or_iff_left fun heq => hnever heq.2).symm
      · rw [show process.saved = some block from hblock] at hsaved
        cases hsaved
  | some block =>
      rw [perform_transfer_saved hheld hsaved]
      -- the packet that is served now is another one: that of the pointer has been released
      have hgone : block ∉ process.ledger.held := by
        intro hblock
        have hhandled := (hkept.released block hsaved).2 hblock
        rw [hmain] at hhandled
        cases hhandled
      refine ⟨?_, ?_, fun other hother => ?_⟩
      · rw [hmem, ← hkept.saved]
      · rw [pair_sublist_concat]
        refine iff_of_true ?_ (.inr ⟨rfl, hkept.saved.mp (by rw [hsaved]; rfl)⟩)
        show (process.stale || !decide (block ∈ process.ledger.held)) = true
        rw [decide_eq_false hgone, Bool.not_false, Bool.or_true]
      · obtain rfl : block = other := Option.some.inj (hsaved.symm.trans hother)
        exact ⟨(hkept.released block hsaved).1, fun hblock => absurd hblock hgone⟩

/-- **A step of one of the threads.** -/
theorem Process.Kept.step (hkept : process.Kept labels) (hsound : process.Sound)
    (hstep : lifecycle.step process label = some next) :
    next.Kept (labels ++ [label]) ∧ (next.crashed = true → label.usesNull = true) := by
  have hgoing : process.crashed = false := by
    obtain ⟨hgoing, -⟩ := Option.ite_none_left_eq_some.mp hstep
    exact (Bool.or_eq_false_iff.mp (Bool.eq_false_iff.mpr hgoing)).1
  obtain ⟨effect, heffect, rfl⟩ := lifecycle_step hstep
  cases label with
  | thread label =>
      obtain ⟨hnext, hcrashed⟩ := hkept.thread hsound heffect
      rw [hgoing, Bool.false_or] at hcrashed
      exact ⟨hnext, fun hover => hcrashed.symm.trans hover⟩
  | main label =>
      by_cases hhandler : ∃ blocks, label = .handler blocks
      · obtain ⟨blocks, rfl⟩ := hhandler
        obtain ⟨pkt, hmain, rfl⟩ := handler_of_step heffect
        have hnull : (process.crashed = true ∨ blocks.usesNull = true) → blocks.usesNull = true :=
          fun hover => hover.resolve_left (by rw [hgoing]; exact Bool.false_ne_true)
        -- of the handlers only that of a transfer looks at the pointer
        cases blocks with
        | memory available accessed =>
            obtain ⟨hnext, hcrashed⟩ := hkept.spared hsound hmain heffect
              (fun _ heq => by cases heq) (memory_leaves pkt available accessed)
            exact ⟨hnext, fun hover => hnull (hcrashed hover)⟩
        | registers first second =>
            obtain ⟨hnext, hcrashed⟩ := hkept.spared hsound hmain heffect
              (fun _ heq => by cases heq) (registers_leaves pkt first second)
            exact ⟨hnext, fun hover => hnull (hcrashed hover)⟩
        | register accessed =>
            obtain ⟨hnext, hcrashed⟩ := hkept.spared hsound hmain heffect
              (fun _ heq => by cases heq) (register_leaves pkt accessed)
            exact ⟨hnext, fun hover => hnull (hcrashed hover)⟩
        | transfer hasArgs =>
            cases hasArgs with
            | true =>
                obtain ⟨hnext, hcrashed⟩ := hkept.begins hsound hmain
                exact ⟨hnext, fun hover => hnull (.inl (hcrashed.symm.trans hover))⟩
            | false => exact ⟨hkept.goesOn hsound hmain, fun _ => rfl⟩
      · obtain ⟨hnext, hcrashed⟩ := hkept.main hsound heffect fun blocks heq =>
          hhandler ⟨blocks, heq⟩
        refine ⟨hnext, fun hover => ?_⟩
        rw [hcrashed, hgoing] at hover
        cases hover

end

theorem run_kept {labels : List Label} (hrun : lifecycle.run labels = some process) :
    process.Kept labels ∧ (process.crashed = true →
      ∃ before last, labels = before ++ [last] ∧ last.usesNull = true) := by
  refine Machine.run_induction (motive := fun labels (process : Process) =>
    process.Kept labels ∧ (process.crashed = true →
      ∃ before last, labels = before ++ [last] ∧ last.usesNull = true)) ?_ ?_ hrun
  · refine ⟨⟨?_, ?_, fun block hblock => (by cases hblock)⟩, fun hover => (by cases hover)⟩
    · exact iff_of_false Bool.false_ne_true List.not_mem_nil
    · exact iff_of_false Bool.false_ne_true fun hsublist => (by cases hsublist)
  · rintro labels label state next hbefore ⟨hkept, -⟩ hstep
    obtain ⟨hnext, hcrashed⟩ := hkept.step (run_sound hbefore).1 hstep
    exact ⟨hnext, fun hover => ⟨labels, label, rfl, hcrashed hover⟩⟩

/-- Every call comes back with what it is asked for. -/
def allCalls : InitCalls where
  calloc := true
  strdup := true
  regbuf := true
  queueMutex := true
  queueCond := true
  sendMutex := true
  inetAton := fun _ => true
  socket := true
  reuseAddr := true
  bind := fun _ => true
  listen := true
  accept := true

/-- Two packets come; the first is served while the second is pushed, which `gdbstub_close` finds
in the queue. -/
def oneSession : List Label :=
  [.main (.init allCalls (some [58, 49]) true), .main (.run true), .thread (.start true),
    .thread .test, .thread (.poll .readable), .thread (.read (.bytes 2)), .thread (.scan false),
    .thread (.scan false), .thread (.pop 1 true), .thread (.push (some 0)), .thread .ack,
    .main .take, .thread (.pop 0 true), .main .release, .main .accept, .thread (.push (some 0)),
    .main (.handler (.memory true true)), .main (.served false), .main .close, .thread .ack,
    .thread (.incomplete 0), .thread .test, .thread .leave, .thread .signal, .main .join,
    .main .destroyNode, .main .destroy]

/-- The second packet is a transfer without arguments. -/
example : (lifecycle.run
    [.main (.init allCalls (some [58, 49]) true), .main (.run true), .thread (.start true),
      .thread .test, .thread (.poll .readable), .thread (.read (.bytes 2)), .thread (.scan false),
      .thread (.scan false), .thread (.pop 1 true), .thread (.push (some 0)), .thread .ack,
      .main .take, .main .release, .main .accept, transferBegins, .main (.served true),
      .thread (.pop 0 true), .thread (.push (some 0)), .main .take, .main .release, .main .accept,
      transferGoesOn]).map (fun process => (process.stale, process.misused)) =
    some (true, false) := by
  decide +kernel

end MiniGdbstub.Lifecycle
