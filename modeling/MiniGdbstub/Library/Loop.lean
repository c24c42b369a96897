import MiniGdbstub.Library.Program

/-!
# Loops

A loop has a condition and a body.  A turn of the loop goes on, leaves it with a value, or
faults; if the condition fails the loop is left with a value of its own.  `run` takes at most so
many turns and says `none` if the loop is not over by then.

`GoesOn n` relates two states with `n` turns between them that all go on.  `run_iff` is the rule
by which a loop is taken apart: it is over with a result exactly if some number of turns go on and
the next one ends it.
-/

/-- `while (test) body`; `otherwise` is what the loop is left with when the test fails. -/
structure Loop (ε σ α : Type) where
  test : σ → Bool
  body : σ → Except ε (Option α × σ)
  otherwise : α

namespace Loop

variable {ε σ α : Type} (loop : Loop ε σ α)

/-- The test, and the body if the test passes. -/
def turn (state : σ) : Except ε (Option α × σ) :=
  if loop.test state then loop.body state else .ok (some loop.otherwise, state)

/-- At most so many turns. -/
def run : ℕ → σ → Option (Except ε (α × σ))
  | 0, _ => none
  | turns + 1, state =>
      match loop.turn state with
      | .error fault => some (.error fault)
      | .ok (some value, next) => some (.ok (value, next))
      | .ok (none, next) => run turns next

/-- How the loop is over after one more turn, if it is. -/
def ending (state : σ) : Option (Except ε (α × σ)) :=
  loop.run 1 state

/-- So many turns that go on. -/
inductive GoesOn : ℕ → σ → σ → Prop
  | refl (state : σ) : GoesOn 0 state state
  | head {turns : ℕ} {state between last : σ} : loop.turn state = .ok (none, between) →
      GoesOn turns between last → GoesOn (turns + 1) state last

variable {loop}

/-- The last of the turns. -/
theorem goesOn_succ_iff {turns : ℕ} {state last : σ} :
    loop.GoesOn (turns + 1) state last ↔
      ∃ before, loop.GoesOn turns state before ∧ loop.turn before = .ok (none, last) := by
  constructor
  · intro hturns
    induction turns generalizing state with
    | zero =>
        cases hturns with
        | head hturn hrest =>
            cases hrest
            exact ⟨state, .refl state, hturn⟩
    | succ turns ih =>
        cases hturns with
        | head hturn hrest =>
            obtain ⟨before, hbefore, hlast⟩ := ih hrest
            exact ⟨before, .head hturn hbefore, hlast⟩
  · rintro ⟨before, hbefore, hlast⟩
    induction hbefore with
    | refl state => exact .head hlast (.refl last)
    | head hturn _ ih => exact .head hturn (ih hlast)

theorem run_succ_of_goesOn {state next : σ} (hturn : loop.turn state = .ok (none, next))
    (turns : ℕ) : loop.run (turns + 1) state = loop.run turns next := by
  rw [run, hturn]

variable (loop) in
/-- A turn goes on, or the loop is over, and then more turns make no difference. -/
theorem turn_cases (state : σ) :
    (∃ next, loop.turn state = .ok (none, next) ∧ loop.ending state = none) ∨
      ∃ result, loop.ending state = some result ∧
        ∀ turns, loop.run (turns + 1) state = some result := by
  rcases hturn : loop.turn state with fault | ⟨_ | value, next⟩
  · exact .inr ⟨.error fault, by rw [ending, run, hturn], fun turns => by rw [run, hturn]⟩
  · exact .inl ⟨next, rfl, by rw [ending, run_succ_of_goesOn hturn, run]⟩
  · exact .inr ⟨.ok (value, next), by rw [ending, run, hturn], fun turns => by rw [run, hturn]⟩

theorem run_of_goesOn {turns : ℕ} {state last : σ} (hturns : loop.GoesOn turns state last)
    (more : ℕ) : loop.run (turns + more) state = loop.run more last := by
  induction hturns with
  | refl state => rw [Nat.zero_add]
  | @head turns state between last hturn _ ih =>
      rw [Nat.add_right_comm, run_succ_of_goesOn hturn, ih]

/-- **A loop that is over.**  Some turns go on, and the next one ends it. -/
theorem run_iff {turns : ℕ} {state : σ} {result : Except ε (α × σ)} :
    loop.run turns state = some result ↔
      ∃ before < turns, ∃ last, loop.GoesOn before state last ∧
        loop.ending last = some result := by
  constructor
  · intro hrun
    induction turns generalizing state with
    | zero => cases hrun
    | succ turns ih =>
        rcases turn_cases loop state with ⟨next, hturn, -⟩ | ⟨result', hending, hall⟩
        · rw [run_succ_of_goesOn hturn] at hrun
          obtain ⟨before, hbefore, last, hgoesOn, hending⟩ := ih hrun
          exact ⟨before + 1, Nat.succ_lt_succ hbefore, last, .head hturn hgoesOn, hending⟩
        · rw [hall] at hrun
          cases hrun
          exact ⟨0, Nat.succ_pos turns, state, .refl state, hending⟩
  · rintro ⟨before, hbefore, last, hgoesOn, hending⟩
    obtain ⟨more, rfl⟩ : ∃ more, turns = before + (more + 1) := ⟨turns - before - 1, by omega⟩
    rw [run_of_goesOn hgoesOn]
    rcases turn_cases loop last with ⟨next, -, hnone⟩ | ⟨result', hending', hall⟩
    · rw [hnone] at hending
      cases hending
    · rw [hending'] at hending
      cases hending
      exact hall more

/-- A loop that is over at some time. -/
theorem exists_run_iff {state : σ} {result : Except ε (α × σ)} :
    (∃ turns, loop.run turns state = some result) ↔
      ∃ before last, loop.GoesOn before state last ∧ loop.ending last = some result := by
  constructor
  · rintro ⟨turns, hrun⟩
    obtain ⟨before, -, last, hgoesOn, hending⟩ := run_iff.mp hrun
    exact ⟨before, last, hgoesOn, hending⟩
  · rintro ⟨before, last, hgoesOn, hending⟩
    exact ⟨before + 1, run_iff.mpr ⟨before, Nat.lt_succ_self before, last, hgoesOn, hending⟩⟩

end Loop
