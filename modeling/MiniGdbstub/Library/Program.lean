import Mathlib.Data.List.Basic

/-!
# Programs with a state and faults

A program takes a state and ends with a value or a fault, and with a state in
both cases: what a program did before it failed has happened.

`ok_bind_iff` is the rule by which a normal return is taken apart.  `Ensures` is
a postcondition for normal returns that relates the state before to the value and
the state after; its rules follow the constructors of programs.  `Avoids` rules out
some of the faults.  `Keeps` does both at once, for a relation of states that holds
also when the program faults.  `Respects` compares two runs of one program, from states
that need not be equal.
-/

/-- A computation without a state that goes on after a first part has ended with a value. -/
theorem Except.ok_bind_iff {ε α β : Type} {first : Except ε α} {next : α → Except ε β}
    {value : β} :
    (first >>= next) = .ok value ↔ ∃ between, first = .ok between ∧ next between = .ok value := by
  cases first with
  | error fault =>
      constructor
      · intro heq
        cases heq
      · rintro ⟨_, heq, -⟩
        cases heq
  | ok between =>
      constructor
      · intro heq
        exact ⟨between, rfl, heq⟩
      · rintro ⟨_, hbetween, heq⟩
        cases hbetween
        exact heq

/-- A program over states `σ` that returns an `α` or stops with a fault. -/
def Program (ε σ α : Type) : Type := σ → Except ε α × σ

namespace Program

variable {ε σ α β : Type}

instance : Monad (Program ε σ) where
  pure value := fun state => (.ok value, state)
  bind first next := fun state =>
    match first state with
    | (.ok value, state) => next value state
    | (.error fault, state) => (.error fault, state)

/-- Stop here. -/
def fail (fault : ε) : Program ε σ α := fun state => (.error fault, state)

/-- A computation that needs no state. -/
def lift (result : Except ε α) : Program ε σ α := fun state => (result, state)

def get : Program ε σ σ := fun state => (.ok state, state)

def update (change : σ → σ) : Program ε σ Unit := fun state => (.ok (), change state)

@[simp] theorem pure_apply (value : α) (state : σ) :
    (pure value : Program ε σ α) state = (.ok value, state) := rfl

@[simp] theorem fail_apply (fault : ε) (state : σ) :
    (fail fault : Program ε σ α) state = (.error fault, state) := rfl

@[simp] theorem lift_apply (result : Except ε α) (state : σ) :
    lift result state = (result, state) := rfl

@[simp] theorem update_apply (change : σ → σ) (state : σ) :
    (update change : Program ε σ Unit) state = (.ok (), change state) := rfl

@[simp] theorem get_bind (next : σ → Program ε σ β) (state : σ) :
    (get >>= next) state = next state state := rfl

@[simp] theorem update_bind (change : σ → σ) (next : Unit → Program ε σ β) (state : σ) :
    (update change >>= next) state = next () (change state) := rfl

@[simp] theorem fail_bind (fault : ε) (next : α → Program ε σ β) (state : σ) :
    ((fail fault : Program ε σ α) >>= next) state = (.error fault, state) := rfl

@[simp] theorem lift_ok_bind (value : α) (next : α → Program ε σ β) (state : σ) :
    ((lift (.ok value) : Program ε σ α) >>= next) state = next value state := rfl

@[simp] theorem lift_error_bind (fault : ε) (next : α → Program ε σ β) (state : σ) :
    ((lift (.error fault) : Program ε σ α) >>= next) state = (.error fault, state) := rfl

theorem bind_of_ok {first : Program ε σ α} {value : α} {state after : σ}
    (hfirst : first state = (.ok value, after)) (next : α → Program ε σ β) :
    (first >>= next) state = next value after := by
  show (match first state with
    | (.ok value, state) => next value state
    | (.error fault, state) => (.error fault, state)) = next value after
  rw [hfirst]

theorem bind_of_error {first : Program ε σ α} {fault : ε} {state after : σ}
    (hfirst : first state = (.error fault, after)) (next : α → Program ε σ β) :
    (first >>= next) state = (.error fault, after) := by
  show (match first state with
    | (.ok value, state) => next value state
    | (.error fault, state) => (.error fault, state)) = _
  rw [hfirst]

/-- Two first parts that end alike can be exchanged. -/
theorem bind_congr_left {first first' : Program ε σ α} {state state' : σ}
    (hfirst : first state = first' state') (next : α → Program ε σ β) :
    (first >>= next) state = (first' >>= next) state' := by
  show (match first state with
    | (.ok value, state) => next value state
    | (.error fault, state) => (.error fault, state)) = _
  rw [hfirst]
  rfl

/-- A sequence returns exactly when its first part returns and then its second. -/
theorem ok_bind_iff {first : Program ε σ α} {next : α → Program ε σ β} {value : β}
    {state after : σ} :
    (first >>= next) state = (.ok value, after) ↔
      ∃ middle between, first state = (.ok middle, between) ∧
        next middle between = (.ok value, after) := by
  constructor
  · intro hbind
    rcases hfirst : first state with ⟨fault | middle, between⟩
    · rw [bind_of_error hfirst] at hbind
      cases hbind
    · rw [bind_of_ok hfirst] at hbind
      exact ⟨middle, between, rfl, hbind⟩
  · rintro ⟨middle, between, hfirst, hnext⟩
    rw [bind_of_ok hfirst, hnext]

theorem assoc {γ : Type} (first : Program ε σ α) (second : α → Program ε σ β)
    (third : β → Program ε σ γ) :
    (first >>= second) >>= third = first >>= fun value => second value >>= third := by
  funext state
  rcases hfirst : first state with ⟨fault | value, between⟩
  · rw [bind_of_error hfirst, bind_of_error (bind_of_error hfirst second)]
  · rw [bind_of_ok hfirst]
    rcases hsecond : second value between with ⟨fault | result, after⟩
    · rw [bind_of_error hsecond, bind_of_error ((bind_of_ok hfirst second).trans hsecond)]
    · rw [bind_of_ok hsecond, bind_of_ok ((bind_of_ok hfirst second).trans hsecond)]

/-! ## Postconditions -/

/-- Every normal return satisfies `post`, a relation of the state before, the value
and the state after. -/
def Ensures (program : Program ε σ α) (post : σ → α → σ → Prop) : Prop :=
  ∀ state value after, program state = (.ok value, after) → post state value after

namespace Ensures

theorem of_pure {value : α} {post : σ → α → σ → Prop}
    (hpost : ∀ state, post state value state) :
    Ensures (pure value : Program ε σ α) post := by
  intro state value after heq
  cases heq
  exact hpost _

theorem of_fail {fault : ε} {post : σ → α → σ → Prop} :
    Ensures (fail fault : Program ε σ α) post := by
  intro state value after heq
  cases heq

theorem of_lift {result : Except ε α} {post : σ → α → σ → Prop}
    (hpost : ∀ state value, result = .ok value → post state value state) :
    Ensures (lift result : Program ε σ α) post := by
  intro state value after heq
  cases heq
  exact hpost _ _ rfl

theorem of_update {change : σ → σ} {post : σ → Unit → σ → Prop}
    (hpost : ∀ state, post state () (change state)) :
    Ensures (update change : Program ε σ Unit) post := by
  intro state value after heq
  cases heq
  exact hpost _

theorem of_get {post : σ → σ → σ → Prop} (hpost : ∀ state, post state state state) :
    Ensures (get : Program ε σ σ) post := by
  intro state value after heq
  cases heq
  exact hpost _

theorem mono {program : Program ε σ α} {post weaker : σ → α → σ → Prop}
    (hprogram : Ensures program post)
    (himp : ∀ state value after, post state value after → weaker state value after) :
    Ensures program weaker :=
  fun state value after heq => himp state value after (hprogram state value after heq)

/-- The rule of composition. -/
theorem bind {first : Program ε σ α} {next : α → Program ε σ β} {post : σ → α → σ → Prop}
    {goal : σ → β → σ → Prop} (hfirst : Ensures first post)
    (hnext : ∀ value, Ensures (next value) fun between result after =>
      ∀ state, post state value between → goal state result after) :
    Ensures (first >>= next) goal := by
  intro state result after heq
  obtain ⟨middle, between, hmiddle, hresult⟩ := ok_bind_iff.mp heq
  exact hnext middle between result after hresult state (hfirst state middle between hmiddle)

/-- A postcondition for the value alone is up to the last part. -/
theorem of_next {first : Program ε σ α} {next : α → Program ε σ β} {post : β → Prop}
    (hnext : ∀ value, Ensures (next value) fun _ result _ => post result) :
    Ensures (first >>= next) fun _ result _ => post result := by
  intro state result after heq
  obtain ⟨middle, between, -, hresult⟩ := ok_bind_iff.mp heq
  exact hnext middle between result after hresult

theorem ite {condition : Prop} [Decidable condition] {yes no : Program ε σ α}
    {post : σ → α → σ → Prop} (hyes : condition → Ensures yes post)
    (hno : ¬ condition → Ensures no post) :
    Ensures (if condition then yes else no) post := by
  split
  · rename_i hcondition
    exact hyes hcondition
  · rename_i hcondition
    exact hno hcondition

end Ensures

/-! ## Faults that do not happen -/

/-- The program never stops with one of these faults. -/
def Avoids (program : Program ε σ α) (bad : ε → Prop) : Prop :=
  ∀ state fault, (program state).1 = .error fault → ¬ bad fault

namespace Avoids

variable {bad : ε → Prop}

theorem of_pure {value : α} : Avoids (pure value : Program ε σ α) bad := by
  intro state fault heq
  cases heq

theorem of_fail {fault : ε} (hfault : ¬ bad fault) :
    Avoids (fail fault : Program ε σ α) bad := by
  intro state fault' heq
  cases heq
  exact hfault

theorem of_lift {result : Except ε α} (hresult : ∀ fault, result = .error fault → ¬ bad fault) :
    Avoids (lift result : Program ε σ α) bad :=
  fun _ fault heq => hresult fault heq

theorem of_update {change : σ → σ} : Avoids (update change : Program ε σ Unit) bad := by
  intro state fault heq
  cases heq

theorem of_get : Avoids (get : Program ε σ σ) bad := by
  intro state fault heq
  cases heq

theorem bind {first : Program ε σ α} {next : α → Program ε σ β} (hfirst : Avoids first bad)
    (hnext : ∀ value, Avoids (next value) bad) : Avoids (first >>= next) bad := by
  intro state fault heq
  rcases hrun : first state with ⟨fault' | value, between⟩
  · rw [bind_of_error hrun] at heq
    rw [← Except.error.inj heq]
    exact hfirst state fault' (congrArg Prod.fst hrun)
  · rw [bind_of_ok hrun] at heq
    exact hnext value between fault heq

theorem ite {condition : Prop} [Decidable condition] {yes no : Program ε σ α}
    (hyes : condition → Avoids yes bad) (hno : ¬ condition → Avoids no bad) :
    Avoids (if condition then yes else no) bad := by
  split
  · rename_i hcondition
    exact hyes hcondition
  · rename_i hcondition
    exact hno hcondition

end Avoids

/-! ## Faults and relations that are kept -/

/-- However a run ends, it does not end with one of these faults, and the states before and
after it are related. -/
def Keeps (program : Program ε σ α) (bad : ε → Prop) (rel : σ → σ → Prop) : Prop :=
  ∀ state, (∀ fault, (program state).1 = .error fault → ¬ bad fault) ∧
    rel state (program state).2

namespace Keeps

variable {bad : ε → Prop} {rel : σ → σ → Prop}

theorem of_pure (hrefl : ∀ state, rel state state) {value : α} :
    Keeps (pure value : Program ε σ α) bad rel := by
  intro state
  refine ⟨fun fault heq => ?_, hrefl state⟩
  cases heq

theorem of_fail (hrefl : ∀ state, rel state state) {fault : ε} (hfault : ¬ bad fault) :
    Keeps (fail fault : Program ε σ α) bad rel := by
  intro state
  refine ⟨fun fault' heq => ?_, hrefl state⟩
  cases heq
  exact hfault

theorem of_update {change : σ → σ} (hchange : ∀ state, rel state (change state)) :
    Keeps (update change : Program ε σ Unit) bad rel := by
  intro state
  refine ⟨fun fault heq => ?_, hchange state⟩
  cases heq

theorem of_get {next : σ → Program ε σ β} (hnext : ∀ seen, Keeps (next seen) bad rel) :
    Keeps (get >>= next) bad rel := by
  intro state
  rw [get_bind]
  exact hnext state state

/-- The rest knows which value was computed. -/
theorem of_lift (hrefl : ∀ state, rel state state) {result : Except ε α}
    {next : α → Program ε σ β} (hresult : ∀ fault, result = .error fault → ¬ bad fault)
    (hnext : ∀ value, result = .ok value → Keeps (next value) bad rel) :
    Keeps (lift result >>= next) bad rel := by
  intro state
  cases result with
  | error fault =>
      rw [lift_error_bind]
      refine ⟨fun fault' heq => ?_, hrefl state⟩
      cases heq
      exact hresult fault rfl
  | ok value =>
      rw [lift_ok_bind]
      exact hnext value rfl state

theorem bind (htrans : ∀ first second third, rel first second → rel second third → rel first third)
    {first : Program ε σ α} {next : α → Program ε σ β} (hfirst : Keeps first bad rel)
    (hnext : ∀ value, Keeps (next value) bad rel) : Keeps (first >>= next) bad rel := by
  intro state
  obtain ⟨hfault, hbetween⟩ := hfirst state
  rcases hrun : first state with ⟨fault | value, between⟩
  · rw [hrun] at hfault hbetween
    rw [bind_of_error hrun]
    refine ⟨fun fault' heq => ?_, hbetween⟩
    cases heq
    exact hfault fault rfl
  · rw [hrun] at hbetween
    rw [bind_of_ok hrun]
    obtain ⟨hlater, hafter⟩ := hnext value between
    exact ⟨hlater, htrans _ _ _ hbetween hafter⟩

theorem ite {condition : Prop} [Decidable condition] {yes no : Program ε σ α}
    (hyes : condition → Keeps yes bad rel) (hno : ¬ condition → Keeps no bad rel) :
    Keeps (if condition then yes else no) bad rel := by
  split
  · rename_i hcondition
    exact hyes hcondition
  · rename_i hcondition
    exact hno hcondition

end Keeps

/-! ## Two runs -/

/-- From related states the program ends in the same way, and in related states. -/
def Respects (program : Program ε σ α) (rel : σ → σ → Prop) : Prop :=
  ∀ ⦃first second⦄, rel first second →
    (program first).1 = (program second).1 ∧ rel (program first).2 (program second).2

namespace Respects

variable {rel : σ → σ → Prop}

theorem of_pure {value : α} : Respects (pure value : Program ε σ α) rel :=
  fun _ _ hrel => ⟨rfl, hrel⟩

theorem of_fail {fault : ε} : Respects (fail fault : Program ε σ α) rel :=
  fun _ _ hrel => ⟨rfl, hrel⟩

theorem of_lift {result : Except ε α} : Respects (lift result : Program ε σ α) rel :=
  fun _ _ hrel => ⟨rfl, hrel⟩

theorem of_update {change : σ → σ}
    (hchange : ∀ first second, rel first second → rel (change first) (change second)) :
    Respects (update change : Program ε σ Unit) rel :=
  fun first second hrel => ⟨rfl, hchange first second hrel⟩

/-- What the rest uses of the state is the same in related states. -/
theorem of_get {next : σ → Program ε σ β}
    (hsame : ∀ first second, rel first second → next first = next second)
    (hnext : ∀ seen, Respects (next seen) rel) : Respects (get >>= next) rel := by
  intro first second hrel
  rw [get_bind, get_bind, hsame first second hrel]
  exact hnext second hrel

theorem bind {first : Program ε σ α} {next : α → Program ε σ β} (hfirst : Respects first rel)
    (hnext : ∀ value, Respects (next value) rel) : Respects (first >>= next) rel := by
  intro one other hrel
  obtain ⟨hresult, hbetween⟩ := hfirst hrel
  rcases hone : first one with ⟨fault | value, between⟩
  all_goals
    rcases hother : first other with ⟨result, between'⟩
    rw [hone, hother] at hresult hbetween
    obtain rfl : _ = result := hresult
  · rw [bind_of_error hone, bind_of_error hother]
    exact ⟨rfl, hbetween⟩
  · rw [bind_of_ok hone, bind_of_ok hother]
    exact hnext value hbetween

theorem ite {condition : Prop} [Decidable condition] {yes no : Program ε σ α}
    (hyes : Respects yes rel) (hno : Respects no rel) :
    Respects (if condition then yes else no) rel := by
  split
  · exact hyes
  · exact hno

end Respects

end Program
