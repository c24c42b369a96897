import MiniGdbstub.Library.Machine
import MiniGdbstub.Library.Mutex

/-!
# Monitors with one waiting party

A mutex, a condition variable and something they guard.  An operation locks the mutex,
updates what is guarded, signals the condition variable if it is one that signals, and unlocks.
One party, the consumer, may also wait: with the mutex locked it tests whether what is guarded
is ready, and while it is not, it releases the mutex and sleeps, in one step.  A signal, a
broadcast or nothing at all wakes it, and then it has to lock the mutex again before it tests.

Every one of these is a step of its own, so a run interleaves the parties at every point.
`no_lost_wakeUp` is the safety of the pattern: if every operation that makes it ready signals,
the consumer does not sleep on it, except while the operation that made it ready is about to
signal.  Mutual exclusion carries the proof: only one operation can be that far.
-/

namespace Monitor

/-- What an operation does to the condition variable before it unlocks the mutex. -/
inductive Notice
  | none
  | signal
  | broadcast
  deriving DecidableEq, Repr

/-- What is guarded, its operations, and what the consumer waits for and then does. -/
structure Guarded (Shared Op : Type) where
  update : Op → Shared → Shared
  notice : Op → Notice
  ready : Shared → Bool
  take : Shared → Shared
  notifies : ∀ op shared, ready shared = false → ready (update op shared) = true →
    notice op ≠ .none

/-- Where a party is: in an operation, or in the waiting operation. -/
inductive Point (Op : Type)
  | idle
  | locking (op : Op)
  | updating (op : Op)
  | noticing (op : Op)
  | entering
  | testing
  | asleep
  | woken
  | taking
  | unlocking
  deriving DecidableEq, Repr

variable {Shared Op Party : Type}

/-- A party at this point has locked the mutex. -/
def Point.holds : Point Op → Bool
  | .updating _ | .noticing _ | .testing | .taking | .unlocking => true
  | .idle | .locking _ | .entering | .asleep | .woken => false

structure State (Shared Op Party : Type) where
  shared : Shared
  holder : Option Party
  points : Party → Point Op

/-- A call of an operation, the consumer's call of the waiting operation, the next step of a
party that is in one of them, and a wake-up without a cause. -/
inductive Label (Op Party : Type)
  | call (party : Party) (op : Op)
  | wait
  | move (party : Party)
  | spurious

variable [DecidableEq Party] (guarded : Guarded Shared Op) (consumer : Party)

def State.goto (state : State Shared Op Party) (party : Party) (point : Point Op) :
    State Shared Op Party :=
  { state with points := Function.update state.points party point }

/-- The mutex is locked, if it is free. -/
def State.lock (state : State Shared Op Party) (party : Party) (point : Point Op) :
    Option (State Shared Op Party) :=
  if state.holder.isNone then some { state.goto party point with holder := some party } else none

def State.unlock (state : State Shared Op Party) (party : Party) (point : Point Op) :
    State Shared Op Party :=
  { state.goto party point with holder := none }

/-- Wake the consumer, if it sleeps. -/
def State.wake (state : State Shared Op Party) : State Shared Op Party :=
  match state.points consumer with
  | .asleep => state.goto consumer .woken
  | _ => state

def move (state : State Shared Op Party) (party : Party) : Option (State Shared Op Party) :=
  match state.points party with
  | .idle => none
  | .locking op => state.lock party (.updating op)
  | .updating op =>
      some { state.goto party (.noticing op) with shared := guarded.update op state.shared }
  | .noticing op =>
      if guarded.notice op = .none then some (state.goto party .unlocking)
      else some ((state.wake consumer).goto party .unlocking)
  | .entering => state.lock party .testing
  | .testing =>
      if guarded.ready state.shared then some (state.goto party .taking)
      else some (state.unlock party .asleep)
  | .asleep => none
  | .woken => state.lock party .testing
  | .taking => some { state.goto party .unlocking with shared := guarded.take state.shared }
  | .unlocking => some (state.unlock party .idle)

def step (state : State Shared Op Party) : Label Op Party → Option (State Shared Op Party)
  | .call party op =>
      match state.points party with
      | .idle => some (state.goto party (.locking op))
      | _ => none
  | .wait =>
      match state.points consumer with
      | .idle => some (state.goto consumer .entering)
      | _ => none
  | .move party => move guarded consumer state party
  | .spurious =>
      match state.points consumer with
      | .asleep => some (state.wake consumer)
      | _ => none

/-- The parties on a monitor that nobody has used yet. -/
def machine (shared : Shared) : Machine (State Shared Op Party) (Label Op Party) where
  start := { shared := shared, holder := none, points := fun _ => .idle }
  step := step guarded consumer

section

variable {consumer}

@[simp] theorem State.goto_self (state : State Shared Op Party) (party : Party)
    (point : Point Op) : (state.goto party point).points party = point :=
  Function.update_self ..

theorem State.goto_of_ne (state : State Shared Op Party) {party other : Party}
    (hother : other ≠ party) (point : Point Op) :
    (state.goto party point).points other = state.points other :=
  Function.update_of_ne hother ..

theorem State.lock_eq_some {state next : State Shared Op Party} {party : Party}
    {point : Point Op} (hlock : state.lock party point = some next) :
    state.holder = none ∧ next = { state.goto party point with holder := some party } := by
  obtain ⟨hfree, hnext⟩ := Option.ite_none_right_eq_some.mp hlock
  exact ⟨Option.isNone_iff_eq_none.mp hfree, (Option.some.inj hnext).symm⟩

/-- Afterwards the consumer does not sleep, and nobody else has moved. -/
theorem State.wake_cases (state : State Shared Op Party) (consumer : Party) :
    state.points consumer = .asleep ∧ state.wake consumer = state.goto consumer .woken ∨
      state.points consumer ≠ .asleep ∧ state.wake consumer = state := by
  by_cases hasleep : state.points consumer = .asleep
  · exact .inl ⟨hasleep, by rw [State.wake, hasleep]⟩
  · refine .inr ⟨hasleep, ?_⟩
    unfold State.wake
    split
    · rename_i heq
      exact absurd heq hasleep
    · rfl

theorem State.wake_points_ne (state : State Shared Op Party) (consumer : Party) :
    (state.wake consumer).points consumer ≠ .asleep := by
  rcases state.wake_cases consumer with ⟨-, hwake⟩ | ⟨hawake, hwake⟩
  · rw [hwake, State.goto_self]
    exact fun heq => by cases heq
  · rwa [hwake]

end

/-! ## Mutual exclusion -/

/-- The parties that are where the mutex is locked are the one that holds it. -/
abbrev State.Exclusive (state : State Shared Op Party) : Prop :=
  Mutex.Exclusive Point.holds state.holder state.points

theorem State.Exclusive.wake {state : State Shared Op Party} (hstate : state.Exclusive)
    (consumer : Party) : (state.wake consumer).Exclusive := by
  rcases state.wake_cases consumer with ⟨hasleep, hwake⟩ | ⟨-, hwake⟩
  · rw [hwake]
    exact hstate.goto (by rw [hasleep]; rfl)
  · rwa [hwake]

/-! ## No lost wake-up -/

/-- A party at this point is in the waiting operation. -/
def Point.waits : Point Op → Bool
  | .entering | .testing | .asleep | .woken | .taking => true
  | .idle | .locking _ | .updating _ | .noticing _ | .unlocking => false

/-- The party is about to signal. -/
def State.Notifies (state : State Shared Op Party) (party : Party) : Prop :=
  ∃ op, state.points party = .noticing op ∧ guarded.notice op ≠ .none

/-- The invariant: mutual exclusion, only the consumer waits, and it does not sleep on something
ready unless a party is about to signal. -/
structure State.Sound (state : State Shared Op Party) : Prop where
  exclusive : state.Exclusive
  waits : ∀ party, (state.points party).waits = true → party = consumer
  asleep : state.points consumer = .asleep →
    guarded.ready state.shared = false ∨ ∃ party, state.Notifies guarded party

variable {guarded consumer}

section

variable {state next : State Shared Op Party} {party : Party}

/-- A party moves, and neither sleeps nor signals. -/
theorem State.Sound.goto (hstate : state.Sound guarded consumer) {point : Point Op}
    (hexclusive : next.Exclusive) (hshared : next.shared = state.shared)
    (hpoints : next.points = (state.goto party point).points)
    (hwaits : point.waits = true → party = consumer) (hasleep : point ≠ .asleep)
    (hnotifies : ¬ state.Notifies guarded party) : next.Sound guarded consumer := by
  have hparty : next.points party = point := by rw [hpoints, State.goto_self]
  have hothers : ∀ other, other ≠ party → next.points other = state.points other := by
    intro other hother
    rw [hpoints, State.goto_of_ne state hother]
  refine ⟨hexclusive, ?_, ?_⟩
  · intro other hother
    by_cases heq : other = party
    · subst heq
      exact hwaits (by rwa [hparty] at hother)
    · rw [hothers other heq] at hother
      exact hstate.waits other hother
  · intro hsleeps
    have hne : consumer ≠ party := by
      rintro rfl
      exact hasleep (hparty.symm.trans hsleeps)
    rw [hothers consumer hne] at hsleeps
    rcases hstate.asleep hsleeps with hready | ⟨other, op, hother, hop⟩
    · exact .inl (by rw [hshared, hready])
    · have hne : other ≠ party := by
        rintro rfl
        exact hnotifies ⟨op, hother, hop⟩
      exact .inr ⟨other, op, (hothers other hne).trans hother, hop⟩

/-- An update that makes it ready is followed by a signal. -/
theorem State.Sound.update (hstate : state.Sound guarded consumer) {op : Op}
    (hparty : state.points party = .updating op) :
    State.Sound guarded consumer
      { state.goto party (.noticing op) with shared := guarded.update op state.shared } := by
  have hholds : (state.points party).holds = true := by rw [hparty]; rfl
  refine ⟨hstate.exclusive.goto (by rw [hparty]; rfl), ?_, ?_⟩
  · intro other hother
    by_cases heq : other = party
    · subst heq
      have hself : ((state.goto other (.noticing op)).points other).waits = true := hother
      rw [State.goto_self] at hself
      cases hself
    · have hsame : ((state.goto party (.noticing op)).points other).waits = true := hother
      rw [State.goto_of_ne state heq] at hsame
      exact hstate.waits other hsame
  · intro hsleeps
    have hne : consumer ≠ party := by
      rintro rfl
      have hself : (state.goto consumer (.noticing op)).points consumer = .asleep := hsleeps
      rw [State.goto_self] at hself
      cases hself
    have hasleep : state.points consumer = .asleep :=
      (State.goto_of_ne state hne _).symm.trans hsleeps
    -- nobody else is past the lock, so it was not ready before
    have hready : guarded.ready state.shared = false := by
      rcases hstate.asleep hasleep with hready | ⟨other, otherOp, hother, -⟩
      · exact hready
      · obtain rfl := hstate.exclusive.unique hholds (by rw [hother]; rfl)
        rw [hparty] at hother
        cases hother
    by_cases hnow : guarded.ready (guarded.update op state.shared) = true
    · exact .inr ⟨party, op, State.goto_self state party _, guarded.notifies op _ hready hnow⟩
    · exact .inl (Bool.eq_false_iff.mpr hnow)

/-- After a signal the consumer does not sleep. -/
theorem State.Sound.notify (hstate : state.Sound guarded consumer) {op : Op}
    (hparty : state.points party = .noticing op) :
    State.Sound guarded consumer ((state.wake consumer).goto party .unlocking) := by
  -- the consumer is woken or was awake; either way the party itself does not move
  have hwakeParty : ((state.wake consumer).points party).holds = (state.points party).holds ∧
      ∀ other, ((state.wake consumer).points other).waits = (state.points other).waits := by
    rcases state.wake_cases consumer with ⟨hasleep, hwake⟩ | ⟨-, hwake⟩
    · have hne : party ≠ consumer := by
        rintro rfl
        rw [hparty] at hasleep
        cases hasleep
      refine ⟨by rw [hwake, State.goto_of_ne state hne], fun other => ?_⟩
      by_cases heq : other = consumer
      · subst heq
        rw [hwake, State.goto_self, hasleep]
        rfl
      · rw [hwake, State.goto_of_ne state heq]
    · rw [hwake]
      exact ⟨rfl, fun _ => rfl⟩
  refine ⟨(hstate.exclusive.wake consumer).goto (by rw [hwakeParty.1, hparty]; rfl), ?_, ?_⟩
  · intro other hother
    by_cases heq : other = party
    · subst heq
      rw [State.goto_self] at hother
      cases hother
    · rw [State.goto_of_ne _ heq, hwakeParty.2] at hother
      exact hstate.waits other hother
  · intro hsleeps
    by_cases heq : consumer = party
    · subst heq
      rw [State.goto_self] at hsleeps
      cases hsleeps
    · rw [State.goto_of_ne _ heq] at hsleeps
      exact absurd hsleeps (state.wake_points_ne consumer)

/-- The consumer goes to sleep on something that is not ready. -/
theorem State.Sound.sleep (hstate : state.Sound guarded consumer)
    (hparty : state.points party = .testing) (hready : guarded.ready state.shared = false) :
    State.Sound guarded consumer (state.unlock party .asleep) := by
  refine ⟨hstate.exclusive.unlock (by rw [hparty]; rfl) rfl, ?_, fun _ => .inl hready⟩
  intro other hother
  by_cases heq : other = party
  · exact hstate.waits other (by rw [heq, hparty]; rfl)
  · have hsame : ((state.goto party .asleep).points other).waits = true := hother
    rw [State.goto_of_ne state heq] at hsame
    exact hstate.waits other hsame

/-- What the consumer does with something ready it does awake. -/
theorem State.Sound.take (hstate : state.Sound guarded consumer)
    (hparty : state.points party = .taking) :
    State.Sound guarded consumer
      { state.goto party .unlocking with shared := guarded.take state.shared } := by
  obtain rfl := hstate.waits party (by rw [hparty]; rfl)
  refine ⟨hstate.exclusive.goto (by rw [hparty]; rfl), ?_, ?_⟩
  · intro other hother
    by_cases heq : other = party
    · exact heq
    · have hsame : ((state.goto party .unlocking).points other).waits = true := hother
      rw [State.goto_of_ne state heq] at hsame
      exact hstate.waits other hsame
  · intro hsleeps
    have hself : (state.goto party .unlocking).points party = .asleep := hsleeps
    rw [State.goto_self] at hself
    cases hself

/-- **The move of a party** keeps the invariant. -/
theorem State.Sound.move (hstate : state.Sound guarded consumer)
    (hmove : Monitor.move guarded consumer state party = some next) :
    next.Sound guarded consumer := by
  have hquiet : (∀ op, state.points party ≠ .noticing op) → ¬ state.Notifies guarded party := by
    rintro hne ⟨op, hop, -⟩
    exact hne op hop
  unfold Monitor.move at hmove
  split at hmove
  · cases hmove
  · rename_i op hparty
    obtain ⟨hfree, rfl⟩ := State.lock_eq_some hmove
    exact hstate.goto (hstate.exclusive.lock rfl hfree) rfl rfl (fun hwaits => by cases hwaits)
      (fun heq => by cases heq) (hquiet fun op => by rw [hparty]; exact fun heq => by cases heq)
  · rename_i op hparty
    obtain rfl := Option.some.inj hmove
    exact hstate.update hparty
  · rename_i op hparty
    split at hmove
    · rename_i hnone
      obtain rfl := Option.some.inj hmove
      refine hstate.goto (hstate.exclusive.goto (by rw [hparty]; rfl)) rfl rfl
        (fun hwaits => by cases hwaits) (fun heq => by cases heq) ?_
      rintro ⟨other, hother, hnotice⟩
      rw [hparty] at hother
      cases hother
      exact hnotice hnone
    · obtain rfl := Option.some.inj hmove
      exact hstate.notify hparty
  · rename_i hparty
    obtain ⟨hfree, rfl⟩ := State.lock_eq_some hmove
    exact hstate.goto (hstate.exclusive.lock rfl hfree) rfl rfl
      (fun _ => hstate.waits party (by rw [hparty]; rfl)) (fun heq => by cases heq)
      (hquiet fun op => by rw [hparty]; exact fun heq => by cases heq)
  · rename_i hparty
    split at hmove
    · obtain rfl := Option.some.inj hmove
      exact hstate.goto (hstate.exclusive.goto (by rw [hparty]; rfl)) rfl rfl
        (fun _ => hstate.waits party (by rw [hparty]; rfl)) (fun heq => by cases heq)
        (hquiet fun op => by rw [hparty]; exact fun heq => by cases heq)
    -- it goes to sleep with the guard false, which is what the notices are for
    · rename_i hready
      obtain rfl := Option.some.inj hmove
      exact hstate.sleep hparty (Bool.eq_false_iff.mpr hready)
  · cases hmove
  · rename_i hparty
    obtain ⟨hfree, rfl⟩ := State.lock_eq_some hmove
    exact hstate.goto (hstate.exclusive.lock rfl hfree) rfl rfl
      (fun _ => hstate.waits party (by rw [hparty]; rfl)) (fun heq => by cases heq)
      (hquiet fun op => by rw [hparty]; exact fun heq => by cases heq)
  · rename_i hparty
    obtain rfl := Option.some.inj hmove
    exact hstate.take hparty
  · rename_i hparty
    obtain rfl := Option.some.inj hmove
    exact hstate.goto (hstate.exclusive.unlock (by rw [hparty]; rfl) rfl) rfl rfl
      (fun hwaits => by cases hwaits) (fun heq => by cases heq)
      (hquiet fun op => by rw [hparty]; exact fun heq => by cases heq)

/-- A party calls an operation. -/
theorem State.Sound.call (hstate : state.Sound guarded consumer) {point : Point Op}
    (hparty : state.points party = .idle) (hholds : point.holds = false)
    (hwaits : point.waits = true → party = consumer) (hasleep : point ≠ .asleep) :
    (state.goto party point).Sound guarded consumer := by
  refine hstate.goto (hstate.exclusive.goto (by rw [hparty, hholds]; rfl)) rfl rfl hwaits hasleep ?_
  rintro ⟨op, hop, -⟩
  rw [hparty] at hop
  cases hop

/-- The consumer wakes up without a signal. -/
theorem State.Sound.spurious (hstate : state.Sound guarded consumer)
    (hasleep : state.points consumer = .asleep) :
    (state.goto consumer .woken).Sound guarded consumer := by
  refine hstate.goto (hstate.exclusive.goto (by rw [hasleep]; rfl)) rfl rfl (fun _ => rfl)
    (fun heq => by cases heq) ?_
  rintro ⟨op, hop, -⟩
  rw [hasleep] at hop
  cases hop

theorem State.Sound.step (hstate : state.Sound guarded consumer) {label : Label Op Party}
    (hstep : Monitor.step guarded consumer state label = some next) :
    next.Sound guarded consumer := by
  cases label with
  | call party op =>
      simp only [Monitor.step] at hstep
      split at hstep
      · rename_i hidle
        obtain rfl := Option.some.inj hstep
        exact hstate.call hidle rfl (fun hwaits => by cases hwaits) (fun heq => by cases heq)
      · cases hstep
  | wait =>
      simp only [Monitor.step] at hstep
      split at hstep
      · rename_i hidle
        obtain rfl := Option.some.inj hstep
        exact hstate.call hidle rfl (fun _ => rfl) (fun heq => by cases heq)
      · cases hstep
  | move party => exact hstate.move hstep
  | spurious =>
      simp only [Monitor.step] at hstep
      split at hstep
      · rename_i hasleep
        obtain rfl := Option.some.inj hstep
        rcases state.wake_cases consumer with ⟨-, hwake⟩ | ⟨hawake, -⟩
        · rw [hwake]
          exact hstate.spurious hasleep
        · exact absurd hasleep hawake
      · cases hstep

/-- The invariant holds after every run. -/
theorem run_sound {shared : Shared} {labels : List (Label Op Party)}
    (hrun : (machine guarded consumer shared).run labels = some state) :
    state.Sound guarded consumer := by
  let sound : State Shared Op Party → Prop := fun state => state.Sound guarded consumer
  have hsound : sound state := by
    refine Machine.run_invariant ⟨?_, ?_, ?_⟩ (fun _ _ _ hstate hstep => hstate.step hstep) hrun
    · intro party
      exact iff_of_false Bool.false_ne_true fun heq => by cases heq
    · intro party hwaits
      cases hwaits
    · intro hasleep
      cases hasleep
  exact hsound

/-- **No lost wake-up.**  The consumer sleeps on what is not ready, unless a party is about to
signal. -/
theorem no_lost_wakeUp {shared : Shared} {labels : List (Label Op Party)}
    (hrun : (machine guarded consumer shared).run labels = some state)
    (hasleep : state.points consumer = .asleep)
    (hpending : ∀ party, ¬ state.Notifies guarded party) : guarded.ready state.shared = false := by
  rcases (run_sound hrun).asleep hasleep with hready | ⟨party, hparty⟩
  · exact hready
  · exact absurd hparty (hpending party)

/-- A party that is about to signal holds the mutex, and its next step wakes the consumer. -/
theorem wakeUp_comes {shared : Shared} {labels : List (Label Op Party)}
    (hrun : (machine guarded consumer shared).run labels = some state)
    (hasleep : state.points consumer = .asleep) (hparty : state.Notifies guarded party) :
    state.holder = some party ∧ ∃ next,
      (machine guarded consumer shared).step state (.move party) = some next ∧
        next.points consumer = .woken := by
  obtain ⟨op, hop, hnotice⟩ := hparty
  have hne : consumer ≠ party := by
    rintro rfl
    rw [hop] at hasleep
    cases hasleep
  have hwake : state.wake consumer = state.goto consumer .woken := by
    rcases state.wake_cases consumer with ⟨-, hwake⟩ | ⟨hawake, -⟩
    · exact hwake
    · exact absurd hasleep hawake
  refine ⟨((run_sound hrun).exclusive party).mp (by rw [hop]; rfl),
    (state.wake consumer).goto party .unlocking, ?_, ?_⟩
  · show Monitor.move guarded consumer state party = _
    rw [Monitor.move, hop]
    exact if_neg hnotice
  · rw [State.goto_of_ne _ hne, hwake, State.goto_self]

end

end Monitor
