import Mathlib.Algebra.Order.Group.Multiset
import Mathlib.Tactic.Abel

/-!
# What a program holds

Blocks, descriptors, locks, threads: whatever has to be given back.  A ledger numbers what is
acquired in the order of the acquisitions and keeps the numbers of what has not been released.
No number is used twice, so a handle that was released stays different from every later one, and to
release or use it again is an error.

`Trades action before after` says what an action does to the holdings: from a ledger with `before`
and anything else it comes to an end without an error, and leaves `after` and the rest.  The rest
is in the definition, so these facts compose (`Trades.bind`) and can be framed (`Trades.frame`).
`Fresh action` says that what was released stays released.
-/

/-- The handles that are held, out of those numbered below `next`. -/
structure Ledger where
  next : ℕ
  held : Multiset ℕ
  deriving DecidableEq

namespace Ledger

def empty : Ledger :=
  { next := 0, held := 0 }

/-- Actions on a ledger; no result if a handle is released or used that is not held. -/
abbrev Effect (α : Type) := StateT Ledger Option α

/-- An action that comes to an end, and what is behind it. -/
theorem bind_of_some {α β : Type} {action : Effect α} {next : α → Effect β}
    {ledger after : Ledger} {value : α} (hrun : action ledger = some (value, after)) :
    (action >>= next) ledger = next value after := by
  show (action ledger).bind (fun result => next result.1 result.2) = _
  rw [hrun, Option.bind_some]

/-- A new handle, or none. -/
def acquire (available : Bool) : Effect (Option ℕ) := fun ledger =>
  if available then
    some (some ledger.next, { next := ledger.next + 1, held := {ledger.next} + ledger.held })
  else some (none, ledger)

def release (handle : ℕ) : Effect Unit := fun ledger =>
  if handle ∈ ledger.held then some ((), { ledger with held := ledger.held.erase handle }) else none

/-- What is used must be held. -/
def require (handle : ℕ) : Effect Unit := fun ledger =>
  if handle ∈ ledger.held then some ((), ledger) else none

/-- Is it held?  This only looks. -/
def holds (handle : ℕ) : Effect Bool := fun ledger =>
  some (decide (handle ∈ ledger.held), ledger)

/-- `NULL` is released without an effect. -/
def releaseSome : Option ℕ → Effect Unit
  | some handle => release handle
  | none => pure ()

def requireAll : List ℕ → Effect Unit
  | [] => pure ()
  | handle :: handles => do
      require handle
      requireAll handles

theorem requireAll_eq_some {handles : List ℕ} {ledger next : Ledger}
    (hrun : requireAll handles ledger = some ((), next)) : next = ledger := by
  induction handles with
  | nil =>
      cases hrun
      rfl
  | cons handle handles ih =>
      obtain ⟨⟨_, middle⟩, hfirst, hrest⟩ := Option.bind_eq_some_iff.mp hrun
      obtain ⟨-, hfirst⟩ := Option.ite_none_right_eq_some.mp hfirst
      cases hfirst
      exact ih hrest

/-- What is behind a pointer is accessed, if it is at all; false if the pointer is `NULL`. -/
def access (accessed : Bool) (pointer : Option ℕ) : Effect Bool := do
  requireAll (if accessed then pointer.toList else [])
  return !accessed || pointer.isSome

/-- The handle behind a pointer. -/
def handles : Option ℕ → Multiset ℕ
  | some handle => {handle}
  | none => 0

@[simp] theorem handles_some (handle : ℕ) : handles (some handle) = {handle} := rfl

@[simp] theorem handles_none : handles none = 0 := rfl

/-- The ledger holds just these handles, each once. -/
structure Accounts (ledger : Ledger) (owned : Multiset ℕ) : Prop where
  held : ledger.held = owned
  nodup : owned.Nodup
  below : ∀ handle ∈ owned, handle < ledger.next

theorem accounts_empty : empty.Accounts 0 :=
  ⟨rfl, Multiset.nodup_zero, fun _ hmem => absurd hmem (Multiset.notMem_zero _)⟩

/-- The next number is new. -/
theorem Accounts.acquired {ledger : Ledger} {owned : Multiset ℕ}
    (haccounts : ledger.Accounts owned) :
    Accounts { next := ledger.next + 1, held := {ledger.next} + ledger.held }
      ({ledger.next} + owned) := by
  refine ⟨by rw [haccounts.held], ?_, ?_⟩
  · rw [Multiset.singleton_add, Multiset.nodup_cons]
    exact ⟨fun hmem => Nat.lt_irrefl _ (haccounts.below _ hmem), haccounts.nodup⟩
  · intro handle hmem
    rw [Multiset.singleton_add, Multiset.mem_cons] at hmem
    rcases hmem with rfl | hmem
    · exact Nat.lt_succ_self _
    · exact Nat.lt_succ_of_lt (haccounts.below handle hmem)

/-! ## What an action does to the holdings -/

/-- The action comes to an end, and trades `before` for `after` of its result. -/
def Trades {α : Type} (action : Effect α) (before : Multiset ℕ) (after : α → Multiset ℕ) : Prop :=
  ∀ rest ledger, ledger.Accounts (before + rest) → ∃ value next,
    action ledger = some (value, next) ∧ next.Accounts (after value + rest)

namespace Trades

variable {α β : Type} {before : Multiset ℕ}

theorem pure {value : α} {after : α → Multiset ℕ} (hsame : before = after value) :
    Trades (pure value : Effect α) before after := by
  intro rest ledger haccounts
  exact ⟨value, ledger, rfl, hsame ▸ haccounts⟩

theorem bind {action : Effect α} {between : α → Multiset ℕ} {next : α → Effect β}
    {after : β → Multiset ℕ} (haction : Trades action before between)
    (hnext : ∀ value, Trades (next value) (between value) after) :
    Trades (action >>= next) before after := by
  intro rest ledger haccounts
  obtain ⟨value, middle, hrun, hmiddle⟩ := haction rest ledger haccounts
  obtain ⟨result, last, hlast, hafter⟩ := hnext value rest middle hmiddle
  exact ⟨result, last, by rw [bind_of_some hrun, hlast], hafter⟩

/-- Actions without a result, one after the other. -/
theorem next {action : Effect Unit} {between : Multiset ℕ} {next : Effect β}
    {after : β → Multiset ℕ} (haction : Trades action before fun _ => between)
    (hnext : Trades next between after) : Trades (action >>= fun _ => next) before after :=
  haction.bind fun _ => hnext

/-- Whatever else is held stays held. -/
theorem frame {action : Effect α} {after : α → Multiset ℕ} (haction : Trades action before after)
    (others : Multiset ℕ) : Trades action (before + others) fun value => after value + others := by
  intro rest ledger haccounts
  rw [add_assoc] at haccounts
  obtain ⟨value, next, hrun, hnext⟩ := haction (others + rest) ledger haccounts
  exact ⟨value, next, hrun, by rw [add_assoc]; exact hnext⟩

/-- An action that needs only part of what is held, and then another. -/
theorem andThen {action : Effect α} {part : Multiset ℕ} {between : α → Multiset ℕ}
    {next : α → Effect β} {after : β → Multiset ℕ} (haction : Trades action part between)
    (others : Multiset ℕ) (hbefore : before = part + others)
    (hnext : ∀ value, Trades (next value) (between value + others) after) :
    Trades (action >>= next) before after := by
  rw [hbefore]
  exact (haction.frame others).bind hnext

/-- The holdings are counted in another order. -/
theorem rearrange {action : Effect α} {other : Multiset ℕ} {after : α → Multiset ℕ}
    {final : α → Multiset ℕ} (haction : Trades action before after) (hbefore : other = before)
    (hafter : ∀ value, after value = final value) : Trades action other final := by
  obtain rfl := hbefore
  obtain rfl : after = final := funext hafter
  exact haction

theorem ite {condition : Prop} [Decidable condition] {first second : Effect α}
    {after : α → Multiset ℕ} (hfirst : condition → Trades first before after)
    (hsecond : ¬ condition → Trades second before after) :
    Trades (if condition then first else second) before after := by
  by_cases hcondition : condition
  · rw [if_pos hcondition]
    exact hfirst hcondition
  · rw [if_neg hcondition]
    exact hsecond hcondition

theorem acquire (available : Bool) : Trades (acquire available) 0 handles := by
  intro rest ledger haccounts
  rw [zero_add] at haccounts
  cases available with
  | false => exact ⟨none, ledger, rfl, by rw [handles_none, zero_add]; exact haccounts⟩
  | true => exact ⟨some ledger.next, _, rfl, haccounts.acquired⟩

theorem release (handle : ℕ) : Trades (release handle) {handle} fun _ => 0 := by
  intro rest ledger haccounts
  rw [Multiset.singleton_add] at haccounts
  have hheld : handle ∈ ledger.held := by
    rw [haccounts.held]
    exact Multiset.mem_cons_self handle rest
  refine ⟨(), { ledger with held := ledger.held.erase handle }, if_pos hheld, ?_, ?_, ?_⟩
  · rw [zero_add, haccounts.held, Multiset.erase_cons_head]
  · rw [zero_add]
    exact (Multiset.nodup_cons.mp haccounts.nodup).2
  · intro other hmem
    rw [zero_add] at hmem
    exact haccounts.below other (Multiset.mem_cons_of_mem hmem)

theorem releaseSome (pointer : Option ℕ) :
    Trades (releaseSome pointer) (handles pointer) fun _ => 0 := by
  cases pointer with
  | none => exact pure rfl
  | some handle => exact release handle

theorem require {handle : ℕ} (hmem : handle ∈ before) :
    Trades (require handle) before fun _ => before := by
  intro rest ledger haccounts
  have hheld : handle ∈ ledger.held := by
    rw [haccounts.held]
    exact Multiset.mem_add.mpr (.inl hmem)
  exact ⟨(), ledger, if_pos hheld, haccounts⟩

theorem requireAll {handles : List ℕ} (hmem : ∀ handle ∈ handles, handle ∈ before) :
    Trades (requireAll handles) before fun _ => before := by
  induction handles with
  | nil => exact pure rfl
  | cons handle handles ih =>
      exact (require (hmem handle List.mem_cons_self)).next
        (ih fun other hother => hmem other (List.mem_cons_of_mem handle hother))

end Trades

/-! ## How an action ends -/

/-- The action comes to an end, and what holds then of its result and of the holdings. -/
def Ends {α : Type} (action : Effect α) (before : Multiset ℕ)
    (post : α → Multiset ℕ → Prop) : Prop :=
  ∀ ledger, ledger.Accounts before → ∃ value next owned,
    action ledger = some (value, next) ∧ next.Accounts owned ∧ post value owned

namespace Ends

variable {α β : Type} {before : Multiset ℕ}

theorem pure {value : α} {post : α → Multiset ℕ → Prop} (hpost : post value before) :
    Ends (pure value : Effect α) before post :=
  fun ledger haccounts => ⟨value, ledger, before, rfl, haccounts, hpost⟩

/-- An action that needs only part of what is held, and then another. -/
theorem andThen {action : Effect α} {part : Multiset ℕ} {between : α → Multiset ℕ}
    {next : α → Effect β} {post : β → Multiset ℕ → Prop} (haction : Trades action part between)
    (others : Multiset ℕ) (hbefore : before = part + others)
    (hnext : ∀ value, Ends (next value) (between value + others) post) :
    Ends (action >>= next) before post := by
  intro ledger haccounts
  rw [hbefore] at haccounts
  obtain ⟨value, middle, hrun, hmiddle⟩ := haction others ledger haccounts
  obtain ⟨result, last, owned, hlast, hafter⟩ := hnext value middle hmiddle
  exact ⟨result, last, owned, by rw [bind_of_some hrun, hlast], hafter⟩

theorem acquired {next : Option ℕ → Effect β} {post : β → Multiset ℕ → Prop}
    (hnext : ∀ handle, Ends (next (some handle)) ({handle} + before) post) :
    Ends (acquire true >>= next) before post :=
  fun ledger haccounts => hnext ledger.next _ haccounts.acquired

theorem refused {next : Option ℕ → Effect β} {post : β → Multiset ℕ → Prop}
    (hnext : Ends (next none) before post) : Ends (acquire false >>= next) before post :=
  fun ledger haccounts => hnext ledger haccounts

/-- What is used is held. -/
theorem uses {handles : List ℕ} {next : Effect β} {post : β → Multiset ℕ → Prop}
    (hmem : ∀ handle ∈ handles, handle ∈ before) (hnext : Ends next before post) :
    Ends (requireAll handles >>= fun _ => next) before post :=
  andThen (Trades.requireAll hmem) 0 (add_zero before).symm fun _ => by
    rw [add_zero]
    exact hnext

/-- What is accessed is held, or the pointer is `NULL`. -/
theorem access {accessed : Bool} {pointer : Option ℕ} {next : Bool → Effect β}
    {post : β → Multiset ℕ → Prop} (hmem : ∀ handle ∈ pointer, handle ∈ before)
    (hnext : Ends (next true) before post)
    (hnull : accessed = true → pointer = none → Ends (next false) before post) :
    Ends (access accessed pointer >>= next) before post := by
  rw [Ledger.access, bind_assoc]
  cases accessed with
  | false => exact hnext
  | true =>
      refine uses (fun handle hhandle => hmem handle (Option.mem_toList.mp hhandle)) ?_
      cases pointer with
      | none => exact hnull rfl rfl
      | some handle => exact hnext

theorem holds {handle : ℕ} {next : Bool → Effect β} {post : β → Multiset ℕ → Prop}
    (hnext : ∀ held, Ends (next held) before post) :
    Ends (holds handle >>= next) before post :=
  fun ledger haccounts => hnext _ ledger haccounts

end Ends

/-! ## What an action comes back with -/

/-- Whatever the action comes back with has the property. -/
def Yields {α : Type} (action : Effect α) (property : α → Prop) : Prop :=
  ∀ ledger value next, action ledger = some (value, next) → property value

namespace Yields

variable {α β : Type} {property : β → Prop}

theorem pure {value : β} (hproperty : property value) :
    Yields (pure value : Effect β) property := by
  rintro ledger result next hrun
  cases hrun
  exact hproperty

theorem bind {action : Effect α} {next : α → Effect β} {between : α → Prop}
    (haction : Yields action between)
    (hnext : ∀ value, between value → Yields (next value) property) :
    Yields (action >>= next) property := by
  intro ledger value last hrun
  obtain ⟨⟨result, middle⟩, hfirst, hsecond⟩ := Option.bind_eq_some_iff.mp hrun
  exact hnext result (haction ledger result middle hfirst) middle value last hsecond

/-- An action about whose result nothing is known. -/
theorem any (action : Effect α) : Yields action fun _ => True :=
  fun _ _ _ _ => trivial

/-- The property of what is behind an action, whatever that comes back with. -/
theorem after {action : Effect α} {next : α → Effect β}
    (hnext : ∀ value, Yields (next value) property) : Yields (action >>= next) property :=
  (any action).bind fun value _ => hnext value

end Yields

/-- An action that comes to an end comes back with what it yields. -/
theorem Ends.yields {α : Type} {action : Effect α} {before : Multiset ℕ}
    {post : α → Multiset ℕ → Prop} {property : α → Prop} (hends : Ends action before post)
    (hyields : Yields action property) :
    Ends action before fun value owned => post value owned ∧ property value := by
  intro ledger haccounts
  obtain ⟨value, next, owned, hrun, hnext, hpost⟩ := hends ledger haccounts
  exact ⟨value, next, owned, hrun, hnext, hpost, hyields ledger value next hrun⟩

/-! ## What stays released -/

/-- What the action comes back with has the property, and what it holds then it has held before or
acquired: nothing that was released is held again. -/
def Leaves {α : Type} (action : Effect α) (property : α → Prop) : Prop :=
  ∀ ledger value next, action ledger = some (value, next) → property value ∧
    ledger.next ≤ next.next ∧ ∀ handle ∈ next.held, handle < ledger.next → handle ∈ ledger.held

/-- Nothing that was released is held again. -/
def Fresh {α : Type} (action : Effect α) : Prop :=
  Leaves action fun _ => True

namespace Leaves

variable {α β : Type} {property : β → Prop}

theorem pure {value : β} (hproperty : property value) :
    Leaves (pure value : Effect β) property := by
  rintro ledger result next hrun
  cases hrun
  exact ⟨hproperty, le_rfl, fun _ hmem _ => hmem⟩

theorem bind {action : Effect α} {next : α → Effect β} {between : α → Prop}
    (haction : Leaves action between)
    (hnext : ∀ value, between value → Leaves (next value) property) :
    Leaves (action >>= next) property := by
  intro ledger value last hrun
  obtain ⟨⟨result, middle⟩, hfirst, hsecond⟩ := Option.bind_eq_some_iff.mp hrun
  obtain ⟨hbetween, hmiddle, hheld⟩ := haction ledger result middle hfirst
  obtain ⟨hproperty, hlast, hheldLast⟩ := hnext result hbetween middle value last hsecond
  refine ⟨hproperty, hmiddle.trans hlast, fun handle hmem hold => ?_⟩
  exact hheld handle (hheldLast handle hmem (hold.trans_le hmiddle)) hold

/-- The property of what is behind an action, whatever that comes back with. -/
theorem after {action : Effect α} {next : α → Effect β} (haction : Fresh action)
    (hnext : ∀ value, Leaves (next value) property) : Leaves (action >>= next) property :=
  bind haction fun value _ => hnext value

theorem ite {condition : Prop} [Decidable condition] {first second : Effect β}
    (hfirst : Leaves first property) (hsecond : Leaves second property) :
    Leaves (if condition then first else second) property := by
  split
  · exact hfirst
  · exact hsecond

/-- A handle comes back just if it is available. -/
theorem acquire (available : Bool) :
    Leaves (acquire available) fun handle => handle.isSome = available := by
  intro ledger value next hrun
  cases available with
  | false =>
      cases hrun
      exact ⟨rfl, le_rfl, fun _ hmem _ => hmem⟩
  | true =>
      cases hrun
      refine ⟨rfl, Nat.le_succ _, fun handle hmem hold => ?_⟩
      rcases Multiset.mem_add.mp hmem with hnew | hmem
      · rw [Multiset.mem_singleton.mp hnew] at hold
        exact absurd hold (Nat.lt_irrefl _)
      · exact hmem

theorem mono {action : Effect β} {weaker : β → Prop} (haction : Leaves action property)
    (hweaker : ∀ value, property value → weaker value) : Leaves action weaker := by
  intro ledger value next hrun
  obtain ⟨hproperty, hrest⟩ := haction ledger value next hrun
  exact ⟨hweaker value hproperty, hrest⟩

end Leaves

namespace Fresh

variable {α β : Type}

theorem pure (value : α) : Fresh (pure value : Effect α) :=
  Leaves.pure trivial

theorem bind {action : Effect α} {next : α → Effect β} (haction : Fresh action)
    (hnext : ∀ value, Fresh (next value)) : Fresh (action >>= next) :=
  Leaves.after haction hnext

theorem acquire (available : Bool) : Fresh (acquire available) :=
  (Leaves.acquire available).mono fun _ _ => trivial

theorem release (handle : ℕ) : Fresh (release handle) := by
  intro ledger value next hrun
  obtain ⟨-, hrun⟩ := Option.ite_none_right_eq_some.mp hrun
  cases hrun
  exact ⟨trivial, le_rfl, fun _ hmem _ => Multiset.mem_of_mem_erase hmem⟩

theorem require (handle : ℕ) : Fresh (require handle) := by
  intro ledger value next hrun
  obtain ⟨-, hrun⟩ := Option.ite_none_right_eq_some.mp hrun
  cases hrun
  exact ⟨trivial, le_rfl, fun _ hmem _ => hmem⟩

theorem releaseSome (pointer : Option ℕ) : Fresh (releaseSome pointer) := by
  cases pointer with
  | none => exact pure ()
  | some handle => exact release handle

theorem requireAll (handles : List ℕ) : Fresh (requireAll handles) := by
  induction handles with
  | nil => exact pure ()
  | cons handle handles ih => exact (require handle).bind fun _ => ih

end Fresh

/-- An access goes wrong just at `NULL`. -/
theorem Leaves.access (accessed : Bool) (pointer : Option ℕ) :
    Leaves (access accessed pointer) fun goesOn => goesOn = (!accessed || pointer.isSome) :=
  Leaves.after (Fresh.requireAll _) fun _ => Leaves.pure rfl

end Ledger
