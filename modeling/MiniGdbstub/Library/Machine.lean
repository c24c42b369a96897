import Mathlib.Algebra.GroupWithZero.Nat
import Mathlib.Data.List.Basic
import Mathlib.Data.List.Induction

/-!
# Machines driven by labels

A machine has a start state and a partial step function.  The label of a step
carries everything the machine does not decide itself: which of its processes
moves, what the environment delivers, how a race ends.  A run is a list of
labels, so "every interleaving" is "every list of labels", and a run can be
evaluated.

`run_induction` is the rule every run lemma is proved by: a property of the
labels taken so far and the state they lead to holds of every run if it holds
at the start and survives one more step.  `Guarded guard labels` says that each
step of the run is taken in a state that meets `guard`; `run_guarded` is the
rule for what holds in guarded runs only, and `run_iff_guarded` and
`throughout_iff_guarded` for what holds in these and in no others, at the end and
in every state on the way.  `Inevitable goal state` says that every run from `state` comes to
`goal`, whatever its steps are, and none stops before; it does if a potential falls
(`Inevitable.of_potential`).  `length_le_of_potential` bounds the length of a run by what its
labels bring.  `run_simulated` is the rule for two machines: if each step of one is matched by
steps of the other, so is each run.
-/

/-- A start state and a step function; `none` means that the label's step is not
possible in that state. -/
structure Machine (State Label : Type*) where
  start : State
  step : State → Label → Option State

namespace Machine

variable {State Label : Type*} (m : Machine State Label)

/-- The state that a list of steps leads to from `state`. -/
def runFrom (state : State) (labels : List Label) : Option State :=
  labels.foldlM m.step state

/-- The state that a list of steps leads to from the start. -/
def run (labels : List Label) : Option State :=
  m.runFrom m.start labels

@[simp] theorem runFrom_nil (state : State) : m.runFrom state [] = some state := rfl

@[simp] theorem runFrom_cons (state : State) (label : Label) (labels : List Label) :
    m.runFrom state (label :: labels) =
      (m.step state label).bind fun next => m.runFrom next labels := rfl

theorem runFrom_append (state : State) (first second : List Label) :
    m.runFrom state (first ++ second) =
      (m.runFrom state first).bind fun next => m.runFrom next second :=
  List.foldlM_append ..

@[simp] theorem run_nil : m.run [] = some m.start := rfl

theorem run_append (first second : List Label) :
    m.run (first ++ second) = (m.run first).bind fun next => m.runFrom next second :=
  m.runFrom_append m.start first second

/-- From `state`, every step is taken in a state that meets `guard`. -/
def GuardedFrom (guard : State → Label → Prop) : State → List Label → Prop
  | _, [] => True
  | state, label :: labels =>
      guard state label ∧ ∀ next ∈ m.step state label, GuardedFrom guard next labels

/-- Every step of the run is taken in a state that meets `guard`. -/
def Guarded (guard : State → Label → Prop) (labels : List Label) : Prop :=
  m.GuardedFrom guard m.start labels

/-- A guard that can be decided can be decided along a run. -/
def decidableGuardedFrom (guard : State → Label → Prop)
    [∀ state label, Decidable (guard state label)] :
    ∀ (state : State) (labels : List Label), Decidable (m.GuardedFrom guard state labels)
  | _, [] => inferInstanceAs (Decidable True)
  | state, label :: labels =>
      have := fun next => decidableGuardedFrom guard next labels
      inferInstanceAs (Decidable
        (guard state label ∧ ∀ next ∈ m.step state label, m.GuardedFrom guard next labels))

instance (guard : State → Label → Prop) [∀ state label, Decidable (guard state label)]
    (labels : List Label) : Decidable (m.Guarded guard labels) :=
  m.decidableGuardedFrom guard m.start labels

variable {m}

theorem run_concat_eq_some {labels : List Label} {label : Label} {state : State}
    (hrun : m.run (labels ++ [label]) = some state) :
    ∃ previous, m.run labels = some previous ∧ m.step previous label = some state := by
  rw [run_append] at hrun
  obtain ⟨previous, hprevious, hlast⟩ := Option.bind_eq_some_iff.mp hrun
  refine ⟨previous, hprevious, ?_⟩
  rw [runFrom_cons] at hlast
  obtain ⟨next, hnext, hdone⟩ := Option.bind_eq_some_iff.mp hlast
  cases hdone
  exact hnext

theorem run_concat {labels : List Label} {label : Label} {state next : State}
    (hrun : m.run labels = some state) (hstep : m.step state label = some next) :
    m.run (labels ++ [label]) = some next := by
  rw [run_append, hrun, Option.bind_some, runFrom_cons, hstep, Option.bind_some, runFrom_nil]

/-- **The run rule.**  What holds at the start and survives every step holds of
every run. -/
theorem run_induction {motive : List Label → State → Prop} (start : motive [] m.start)
    (step : ∀ labels label state next, m.run labels = some state → motive labels state →
      m.step state label = some next → motive (labels ++ [label]) next)
    {labels : List Label} {state : State} (hrun : m.run labels = some state) :
    motive labels state := by
  induction labels using List.reverseRecOn generalizing state with
  | nil =>
      cases hrun
      exact start
  | append_singleton labels label ih =>
      obtain ⟨previous, hprevious, hstep⟩ := run_concat_eq_some hrun
      exact step labels label previous state hprevious (ih hprevious) hstep

/-- An invariant of the states alone. -/
theorem run_invariant {invariant : State → Prop} (start : invariant m.start)
    (step : ∀ state label next, invariant state → m.step state label = some next →
      invariant next)
    {labels : List Label} {state : State} (hrun : m.run labels = some state) :
    invariant state :=
  run_induction (motive := fun _ => invariant) start
    (fun _ label state next _ hstate hstep => step state label next hstate hstep) hrun

/-- **The rule for bounded runs.**  If every step takes one unit of a potential, up to the budget
that its label brings, a run is no longer than the budgets of its labels together. -/
theorem length_le_of_potential {potential : State → ℕ} {budget : Label → ℕ}
    (start : potential m.start = 0)
    (step : ∀ state label next, m.step state label = some next →
      potential next + 1 ≤ potential state + budget label)
    {labels : List Label} {state : State} (hrun : m.run labels = some state) :
    labels.length + potential state ≤ (labels.map budget).sum := by
  refine run_induction (motive := fun labels state =>
    labels.length + potential state ≤ (labels.map budget).sum) ?_ ?_ hrun
  · simp [start]
  · intro labels label state next _ ih hstep
    have hnext := step state label next hstep
    calc (labels ++ [label]).length + potential next
        = labels.length + (potential next + 1) := by
          rw [List.length_append, List.length_singleton]
          omega
      _ ≤ labels.length + (potential state + budget label) := Nat.add_le_add_left hnext _
      _ = labels.length + potential state + budget label := (Nat.add_assoc ..).symm
      _ ≤ (labels.map budget).sum + budget label := Nat.add_le_add_right ih _
      _ = ((labels ++ [label]).map budget).sum := by simp

theorem GuardedFrom.append_left {guard : State → Label → Prop} {first second : List Label}
    {state : State} (hguard : m.GuardedFrom guard state (first ++ second)) :
    m.GuardedFrom guard state first := by
  induction first generalizing state with
  | nil => trivial
  | cons label first ih => exact ⟨hguard.1, fun next hnext => ih (hguard.2 next hnext)⟩

theorem GuardedFrom.last {guard : State → Label → Prop} {labels : List Label} {label : Label}
    {state last : State} (hguard : m.GuardedFrom guard state (labels ++ [label]))
    (hrun : m.runFrom state labels = some last) : guard last label := by
  induction labels generalizing state with
  | nil =>
      cases hrun
      exact hguard.1
  | cons first labels ih =>
      rw [runFrom_cons] at hrun
      obtain ⟨next, hnext, hrest⟩ := Option.bind_eq_some_iff.mp hrun
      exact ih (hguard.2 next hnext) hrest

theorem GuardedFrom.concat {guard : State → Label → Prop} {labels : List Label} {label : Label}
    {state last : State} (hguard : m.GuardedFrom guard state labels)
    (hrun : m.runFrom state labels = some last) (hlast : guard last label) :
    m.GuardedFrom guard state (labels ++ [label]) := by
  induction labels generalizing state with
  | nil =>
      cases hrun
      exact ⟨hlast, fun _ _ => trivial⟩
  | cons first labels ih =>
      refine ⟨hguard.1, fun next hnext => ?_⟩
      rw [runFrom_cons, Option.mem_def.mp hnext] at hrun
      exact ih (hguard.2 next hnext) hrun

/-- **The rule for guarded runs.**  An invariant need only survive the steps that
meet the guard. -/
theorem run_guarded {guard : State → Label → Prop} {invariant : State → Prop}
    (start : invariant m.start)
    (step : ∀ state label next, invariant state → guard state label →
      m.step state label = some next → invariant next)
    {labels : List Label} {state : State} (hguard : m.Guarded guard labels)
    (hrun : m.run labels = some state) : invariant state := by
  refine run_induction (motive := fun labels state => m.Guarded guard labels → invariant state)
    (fun _ => start) ?_ hrun hguard
  intro labels label state next hrun ih hstep hguard
  have hbefore : m.Guarded guard labels := GuardedFrom.append_left hguard
  exact step state label next (ih hbefore) (GuardedFrom.last hguard hrun) hstep

/-- **The rule for exact guards.**  If each step keeps a property exactly when it meets the
guard, the property holds at the end of exactly the guarded runs. -/
theorem run_iff_guarded {guard : State → Label → Prop} {invariant property : State → Prop}
    (start : invariant m.start ∧ property m.start)
    (step : ∀ state label next, invariant state → m.step state label = some next →
      invariant next ∧ (property next ↔ property state ∧ guard state label))
    {labels : List Label} {state : State} (hrun : m.run labels = some state) :
    property state ↔ m.Guarded guard labels := by
  refine (run_induction (motive := fun labels state =>
    invariant state ∧ (property state ↔ m.Guarded guard labels))
    ⟨start.1, iff_of_true start.2 trivial⟩ ?_ hrun).2
  rintro labels label state next hbefore ⟨hinvariant, hproperty⟩ hstep
  obtain ⟨hnext, hkeeps⟩ := step state label next hinvariant hstep
  refine ⟨hnext, hkeeps.trans ?_⟩
  rw [hproperty]
  constructor
  · rintro ⟨hguarded, hmeets⟩
    exact hguarded.concat hbefore hmeets
  · intro hguarded
    exact ⟨GuardedFrom.append_left hguarded, GuardedFrom.last hguarded hbefore⟩

theorem GuardedFrom.congr {guard other : State → Label → Prop}
    (hsame : ∀ state label, guard state label ↔ other state label) (labels : List Label) :
    ∀ state, m.GuardedFrom guard state labels ↔ m.GuardedFrom other state labels := by
  induction labels with
  | nil => exact fun _ => Iff.rfl
  | cons label labels ih =>
      exact fun state => and_congr (hsame state label) (forall₂_congr fun next _ => ih next)

/-- **The rule for possible runs.**  A run is possible if and only if each of its steps is. -/
theorem isSome_run_iff {guard : State → Label → Prop}
    (hguard : ∀ state label, (m.step state label).isSome ↔ guard state label)
    (labels : List Label) : (m.run labels).isSome ↔ m.Guarded guard labels := by
  rw [Guarded, ← GuardedFrom.congr hguard]
  suffices hfrom : ∀ state, (m.runFrom state labels).isSome ↔
      m.GuardedFrom (fun state label => (m.step state label).isSome) state labels from
    hfrom m.start
  induction labels with
  | nil => exact fun _ => iff_of_true rfl trivial
  | cons label labels ih =>
      intro state
      rw [runFrom_cons, GuardedFrom]
      cases m.step state label with
      | none => simp
      | some next => simp [ih next]

/-- The property holds of every state that the run passes through. -/
def Throughout (m : Machine State Label) (property : State → Prop) (labels : List Label) :
    Prop :=
  ∀ first, first <+: labels → ∀ state ∈ m.run first, property state

theorem Throughout.of_prefix {property : State → Prop} {first labels : List Label}
    (hlabels : m.Throughout property labels) (hfirst : first <+: labels) :
    m.Throughout property first :=
  fun earlier hearlier => hlabels earlier (hearlier.trans hfirst)

theorem Guarded.of_prefix {guard : State → Label → Prop} {first labels : List Label}
    (hguard : m.Guarded guard labels) (hfirst : first <+: labels) : m.Guarded guard first := by
  obtain ⟨rest, rfl⟩ := hfirst
  exact GuardedFrom.append_left hguard

/-- **The rule for what holds throughout.**  If from a state with the property exactly the steps
that meet the guard lead to one with it, the runs that have it throughout are the guarded ones. -/
theorem throughout_iff_guarded {guard : State → Label → Prop} {invariant property : State → Prop}
    (start : invariant m.start ∧ property m.start)
    (step : ∀ state label next, invariant state → m.step state label = some next →
      invariant next ∧ (property state → (property next ↔ guard state label)))
    {labels : List Label} {state : State} (hrun : m.run labels = some state) :
    m.Throughout property labels ↔ m.Guarded guard labels := by
  constructor
  · refine run_induction (motive := fun labels _ =>
      m.Throughout property labels → m.Guarded guard labels) (fun _ => trivial) ?_ hrun
    intro labels label state next hbefore ih hstep hthroughout
    have hearlier := hthroughout.of_prefix (List.prefix_append labels [label])
    have hinvariant := run_invariant start.1
      (fun state label next hstate hstep => (step state label next hstate hstep).1) hbefore
    have hproperty := hearlier _ List.prefix_rfl state hbefore
    have hnext := hthroughout _ List.prefix_rfl next (run_concat hbefore hstep)
    have hexact := (step state label next hinvariant hstep).2 hproperty
    exact GuardedFrom.concat (ih hearlier) hbefore (hexact.mp hnext)
  · intro hguard first hfirst state hreached
    let both : State → Prop := fun state => invariant state ∧ property state
    have hboth : both state := by
      refine run_guarded start ?_ (hguard.of_prefix hfirst) hreached
      rintro state label next ⟨hinvariant, hproperty⟩ hmeets hstep
      obtain ⟨hnext, hexact⟩ := step state label next hinvariant hstep
      exact ⟨hnext, (hexact hproperty).mpr hmeets⟩
    exact hboth.2

/-- **The rule for simulations.**  If the start and each step of one machine are matched by steps
of another, so is each run. -/
theorem run_simulated {State' Label' : Type*} {other : Machine State' Label'}
    {relation : State → State' → Prop}
    (start : ∃ steps state', other.run steps = some state' ∧ relation m.start state')
    (step : ∀ state label next state', relation state state' → m.step state label = some next →
      ∃ steps next', other.runFrom state' steps = some next' ∧ relation next next')
    {labels : List Label} {state : State} (hrun : m.run labels = some state) :
    ∃ steps state', other.run steps = some state' ∧ relation state state' := by
  refine run_induction (motive := fun _ state =>
    ∃ steps state', other.run steps = some state' ∧ relation state state') start ?_ hrun
  rintro labels label state next - ⟨before, state', hbefore, hrelated⟩ hstep
  obtain ⟨steps, next', hsteps, hnext⟩ := step state label next state' hrelated hstep
  refine ⟨before ++ steps, next', ?_, hnext⟩
  rw [run_append, hbefore, Option.bind_some, hsteps]

/-- Every run from the state comes to the goal: none stops before, and none goes on for ever. -/
inductive Inevitable (m : Machine State Label) (goal : State → Prop) : State → Prop
  | now {state : State} : goal state → Inevitable m goal state
  | later {state : State} : (∃ label next, m.step state label = some next) →
      (∀ label next, m.step state label = some next → Inevitable m goal next) →
      Inevitable m goal state

/-- If a state that is not the goal has a step, and every step takes something of a potential, the
goal is inevitable. -/
theorem Inevitable.of_potential {invariant goal : State → Prop} (potential : State → ℕ)
    (progress : ∀ state, invariant state →
      goal state ∨ ∃ label next, m.step state label = some next)
    (step : ∀ state label next, invariant state → m.step state label = some next →
      invariant next ∧ potential next < potential state)
    {state : State} (hstate : invariant state) : m.Inevitable goal state := by
  induction hpotential : potential state using Nat.strongRecOn generalizing state with
  | _ bound ih =>
      rcases progress state hstate with hgoal | hsome
      · exact .now hgoal
      · refine .later hsome fun label next hstep => ?_
        obtain ⟨hnext, hless⟩ := step state label next hstate hstep
        exact ih (potential next) (hpotential ▸ hless) hnext rfl

end Machine
