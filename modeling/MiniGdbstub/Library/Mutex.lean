import Mathlib.Logic.Function.Basic

/-!
# Mutual exclusion

A mutex is the party that has locked it, if one has.  Every party is at a point of its
program, and `holds` says at which points the mutex is locked for it.  The invariant is that
the parties at such points are the holder; it survives a move that neither locks nor unlocks, a
lock of a free mutex and an unlock.
-/

namespace Mutex

variable {Party Point : Type} {holds : Point → Bool}

/-- The parties at points where the mutex is locked for them are the one that holds it. -/
def Exclusive (holds : Point → Bool) (holder : Option Party) (points : Party → Point) : Prop :=
  ∀ party, holds (points party) = true ↔ holder = some party

variable {holder : Option Party} {points : Party → Point} {party other : Party} {point : Point}

theorem exclusive_start (hpoint : holds point = false) :
    Exclusive holds (none : Option Party) fun _ => point := by
  intro party
  rw [hpoint]
  exact iff_of_false Bool.false_ne_true fun heq => by cases heq

/-- Two parties do not hold it at the same time. -/
theorem Exclusive.unique (hexclusive : Exclusive holds holder points)
    (hparty : holds (points party) = true) (hother : holds (points other) = true) :
    party = other :=
  Option.some.inj (((hexclusive party).mp hparty).symm.trans ((hexclusive other).mp hother))

variable [DecidableEq Party]

/-- A party moves without locking or unlocking. -/
theorem Exclusive.goto (hexclusive : Exclusive holds holder points)
    (hpoint : holds point = holds (points party)) :
    Exclusive holds holder (Function.update points party point) := by
  intro other
  by_cases hother : other = party
  · subst hother
    rw [Function.update_self, hpoint]
    exact hexclusive other
  · rw [Function.update_of_ne hother]
    exact hexclusive other

/-- A party locks the mutex when it is free. -/
theorem Exclusive.lock (hexclusive : Exclusive holds holder points)
    (hpoint : holds point = true) (hfree : holder = none) :
    Exclusive holds (some party) (Function.update points party point) := by
  intro other
  by_cases hother : other = party
  · subst hother
    rw [Function.update_self]
    exact iff_of_true hpoint rfl
  · rw [Function.update_of_ne hother, hexclusive other, hfree]
    exact iff_of_false (fun heq => by cases heq) fun heq => hother (Option.some.inj heq).symm

theorem Exclusive.unlock (hexclusive : Exclusive holds holder points)
    (hparty : holds (points party) = true) (hpoint : holds point = false) :
    Exclusive holds none (Function.update points party point) := by
  intro other
  by_cases hother : other = party
  · subst hother
    rw [Function.update_self, hpoint]
    exact iff_of_false Bool.false_ne_true fun heq => by cases heq
  · rw [Function.update_of_ne hother, hexclusive other, (hexclusive party).mp hparty]
    exact iff_of_false (fun heq => hother (Option.some.inj heq).symm) fun heq => by cases heq

end Mutex
