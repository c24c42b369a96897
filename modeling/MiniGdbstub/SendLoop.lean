import MiniGdbstub.Library.Machine
import MiniGdbstub.Library.Mutex

/-!
# The loop that sends a string

`__conn_send_str` under `conn_send_str`, which waits for the send mutex, and under
`conn_try_send_str`, which gives up when the mutex is held.  Every lock, every wait for the
socket and every `write` is a step, and the label carries how it ends, so a run is an
interleaving of the two threads with every pattern of outcomes.

`attempts` records the strings for which the mutex was locked, in that order, what of each has
been written, and what the loop returned.  The stream is framed when the attempts before the
last one that wrote something have written all or nothing.  A loop that returns false in the
middle of its string ends that, unless nothing is written afterwards: `conn_send_str` does not
look at what the loop returns.
-/

namespace MiniGdbstub

/-! ## The steps -/

/-- `CONN_SEND_TIMEOUT_MS` -/
def connSendTimeoutMs : ℕ := 5000

/-- `CONN_SEND_POLL_MS` -/
def connSendPollMs : ℕ := 100

/-- The main thread calls `conn_send_str`, the reader `conn_try_send_str`. -/
inductive SendThread
  | main
  | reader
  deriving DecidableEq, Repr

/-- The timeout that the thread's function passes to the loop. -/
def SendThread.timeout : SendThread → ℕ
  | .main => connSendTimeoutMs
  | .reader => 0

/-- A string for which the loop was entered. -/
structure SendAttempt where
  message : List UInt8
  written : List UInt8
  ret : Option Bool
  deriving DecidableEq, Repr

/-- Where a thread is: outside, at the lock, at the wait for the socket, at the `write`, or
behind the loop.  `id` is the number of its attempt and `str` what is left to be written. -/
inductive SendPoint
  | idle
  | locking (str : List UInt8)
  | polling (id : ℕ) (str : List UInt8) (totalWaited : ℕ)
  | writing (id : ℕ) (str : List UInt8) (totalWaited : ℕ)
  | unlocking (id : ℕ) (ret : Bool)
  deriving DecidableEq, Repr

def SendPoint.holds : SendPoint → Bool
  | .polling .. | .writing .. | .unlocking .. => true
  | .idle | .locking _ => false

structure Sending where
  holder : Option SendThread
  points : SendThread → SendPoint
  socket : List UInt8
  attempts : List SendAttempt

/-- What `write` returns: a number of bytes, or -1 and `errno`. -/
inductive SocketWrite
  | wrote (count : ℕ)
  | interrupted
  | again
  | fatal
  deriving DecidableEq, Repr

inductive SendLabel
  | call (thread : SendThread) (str : List UInt8)
  | lock (thread : SendThread)
  | poll (thread : SendThread) (writable : Bool)
  | write (thread : SendThread) (outcome : SocketWrite)
  | unlock (thread : SendThread)
  deriving DecidableEq, Repr

def Sending.goto (state : Sending) (thread : SendThread) (point : SendPoint) : Sending :=
  { state with points := Function.update state.points thread point }

/-- `while (len > 0)` -/
def sendTest (id : ℕ) (str : List UInt8) (totalWaited : ℕ) : SendPoint :=
  if str = [] then .unlocking id true else .polling id str totalWaited

/-- The mutex is locked and the loop entered. -/
def Sending.enter (state : Sending) (thread : SendThread) (str : List UInt8) : Sending :=
  { state.goto thread (sendTest state.attempts.length str 0) with
    holder := some thread
    attempts := state.attempts ++ [{ message := str, written := [], ret := none }] }

/-- Bytes of attempt `id` reach the socket. -/
def Sending.wrote (state : Sending) (id : ℕ) (bytes : List UInt8) : Sending :=
  { state with
    socket := state.socket ++ bytes
    attempts := state.attempts.modify id fun attempt =>
      { attempt with written := attempt.written ++ bytes } }

/-- The loop has returned and the mutex is unlocked. -/
def Sending.leave (state : Sending) (thread : SendThread) (id : ℕ) (ret : Bool) : Sending :=
  { state.goto thread .idle with
    holder := none
    attempts := state.attempts.modify id fun attempt => { attempt with ret := some ret } }

def connSendStep (state : Sending) : SendLabel → Option Sending
  | .call thread str =>
      match state.points thread with
      | .idle => some (state.goto thread (.locking str))
      | _ => none
  | .lock thread =>
      match state.points thread with
      | .locking str =>
          if state.holder.isNone then some (state.enter thread str)
          else match thread with
            | .main => none
            | .reader => some (state.goto .reader .idle)
      | _ => none
  | .poll thread writable =>
      match state.points thread with
      | .polling id str totalWaited =>
          if writable then some (state.goto thread (.writing id str totalWaited))
          else if thread.timeout ≤ totalWaited + connSendPollMs then
            some (state.goto thread (.unlocking id false))
          else some (state.goto thread (.polling id str (totalWaited + connSendPollMs)))
      | _ => none
  | .write thread outcome =>
      match state.points thread with
      | .writing id str totalWaited =>
          match outcome with
          | .wrote count =>
              if count ≤ str.length then
                some ((state.wrote id (str.take count)).goto thread
                  (sendTest id (str.drop count) 0))
              else none
          | .interrupted => some (state.goto thread (.polling id str totalWaited))
          | .again =>
              if thread.timeout = 0 then some (state.goto thread (.unlocking id false))
              else some (state.goto thread (.polling id str totalWaited))
          | .fatal => some (state.goto thread (.unlocking id false))
      | _ => none
  | .unlock thread =>
      match state.points thread with
      | .unlocking id ret => some (state.leave thread id ret)
      | _ => none

def connSending : Machine Sending SendLabel where
  start := { holder := none, points := fun _ => .idle, socket := [], attempts := [] }
  step := connSendStep

/-! ## Framing -/

/-- Nothing of the string has been written, or all of it. -/
def SendAttempt.AllOrNothing (attempt : SendAttempt) : Prop :=
  attempt.written = [] ∨ attempt.written = attempt.message

instance (attempt : SendAttempt) : Decidable attempt.AllOrNothing :=
  inferInstanceAs (Decidable (attempt.written = [] ∨ attempt.written = attempt.message))

/-- The earlier string is not left in the middle when the later one is begun. -/
def WholeBefore (earlier later : SendAttempt) : Prop :=
  later.written ≠ [] → earlier.AllOrNothing

/-- What the bytes on the socket should be. -/
structure Sending.Framed (state : Sending) : Prop where
  socket : state.socket = (state.attempts.map SendAttempt.written).flatten
  prefixes : ∀ attempt ∈ state.attempts, attempt.written <+: attempt.message
  whole : state.attempts.Pairwise WholeBefore
  success : ∀ attempt ∈ state.attempts, attempt.ret = some true →
    attempt.written = attempt.message

/-- A loop has returned false after some bytes of its string and before the last. -/
def Sending.GaveUp (state : Sending) : Prop :=
  ∃ attempt ∈ state.attempts, attempt.ret = some false ∧ ¬ attempt.AllOrNothing

instance (state : Sending) : Decidable state.GaveUp :=
  inferInstanceAs (Decidable (∃ attempt ∈ state.attempts, attempt.ret = some false ∧
    ¬ attempt.AllOrNothing))

/-- A `write` that takes at least one byte. -/
def SendLabel.Writes : SendLabel → Prop
  | .write _ (.wrote count) => 0 < count
  | _ => False

instance : ∀ label : SendLabel, Decidable label.Writes
  | .write _ (.wrote count) => inferInstanceAs (Decidable (0 < count))
  | .write _ .interrupted | .write _ .again | .write _ .fatal => inferInstanceAs (Decidable False)
  | .call .. | .lock _ | .poll .. | .unlock _ => inferInstanceAs (Decidable False)

/-! ## What a step can do -/

/-- The thread at this point is in the loop of attempt `id` with `str` left. -/
def SendPoint.InLoop (point : SendPoint) (id : ℕ) (str : List UInt8) : Prop :=
  ∃ totalWaited, point = .polling id str totalWaited ∨ point = .writing id str totalWaited

/-- The moves: of a thread outside the loop, into the loop, on in it without a byte written,
with bytes written, and out of it. -/
inductive SendMove (state : Sending) : SendLabel → Sending → Prop
  | outside {label : SendLabel} {thread : SendThread} {point : SendPoint} :
      ¬ label.Writes → (state.points thread).holds = false → point.holds = false →
      SendMove state label (state.goto thread point)
  | enter {label : SendLabel} (thread : SendThread) (str : List UInt8) :
      ¬ label.Writes → state.holder = none → SendMove state label (state.enter thread str)
  | inside {label : SendLabel} {thread : SendThread} {id : ℕ} {str : List UInt8}
      {point : SendPoint} :
      ¬ label.Writes → (state.points thread).InLoop id str →
      point.InLoop id str ∨ point = .unlocking id false →
      SendMove state label (state.goto thread point)
  | wrote {thread : SendThread} {id totalWaited : ℕ} {str : List UInt8} {count : ℕ} :
      state.points thread = .writing id str totalWaited → count ≤ str.length →
      SendMove state (.write thread (.wrote count))
        ((state.wrote id (str.take count)).goto thread (sendTest id (str.drop count) 0))
  | leave {label : SendLabel} {thread : SendThread} {id : ℕ} {ret : Bool} :
      ¬ label.Writes → state.points thread = .unlocking id ret →
      SendMove state label (state.leave thread id ret)

/-- Every step is one of the moves. -/
theorem sendMove_of_step {state next : Sending} {label : SendLabel}
    (hstep : connSendStep state label = some next) : SendMove state label next := by
  cases label with
  | call thread str =>
      simp only [connSendStep] at hstep
      split at hstep
      · rename_i hpoint
        obtain rfl := Option.some.inj hstep
        exact .outside id (by rw [hpoint]; rfl) rfl
      · cases hstep
  | lock thread =>
      simp only [connSendStep] at hstep
      split at hstep
      · rename_i str hpoint
        -- `conn_try_send_str` does not wait for the mutex
        split at hstep
        · rename_i hfree
          obtain rfl := Option.some.inj hstep
          exact .enter thread str id (Option.isNone_iff_eq_none.mp hfree)
        · cases thread with
          | main => cases hstep
          | reader =>
              obtain rfl := Option.some.inj hstep
              exact .outside id (by rw [hpoint]; rfl) rfl
      · cases hstep
  | poll thread writable =>
      simp only [connSendStep] at hstep
      split at hstep
      · rename_i attempt str totalWaited hpoint
        have hloop : (state.points thread).InLoop attempt str := ⟨totalWaited, .inl hpoint⟩
        split at hstep
        · obtain rfl := Option.some.inj hstep
          exact .inside id hloop (.inl ⟨_, .inr rfl⟩)
        · split at hstep
          · obtain rfl := Option.some.inj hstep
            exact .inside id hloop (.inr rfl)
          · obtain rfl := Option.some.inj hstep
            exact .inside id hloop (.inl ⟨_, .inl rfl⟩)
      · cases hstep
  | write thread outcome =>
      simp only [connSendStep] at hstep
      split at hstep
      · rename_i attempt str totalWaited hpoint
        have hloop : (state.points thread).InLoop attempt str := ⟨totalWaited, .inr hpoint⟩
        -- only a write that has written something puts bytes on the line
        cases outcome with
        | wrote count =>
            obtain ⟨hcount, hnext⟩ := Option.ite_none_right_eq_some.mp hstep
            obtain rfl := Option.some.inj hnext
            exact .wrote hpoint hcount
        | interrupted =>
            obtain rfl := Option.some.inj hstep
            exact .inside id hloop (.inl ⟨_, .inl rfl⟩)
        | again =>
            dsimp only at hstep
            split at hstep
            · obtain rfl := Option.some.inj hstep
              exact .inside id hloop (.inr rfl)
            · obtain rfl := Option.some.inj hstep
              exact .inside id hloop (.inl ⟨_, .inl rfl⟩)
        | fatal =>
            obtain rfl := Option.some.inj hstep
            exact .inside id hloop (.inr rfl)
      · cases hstep
  | unlock thread =>
      simp only [connSendStep] at hstep
      split at hstep
      · rename_i attempt ret hpoint
        obtain rfl := Option.some.inj hstep
        exact .leave id hpoint
      · cases hstep

/-! ## What holds of every run -/

/-- An attempt whose loop has returned. -/
structure SendAttempt.Finished (attempt : SendAttempt) : Prop where
  isPrefix : attempt.written <+: attempt.message
  returned : ∃ ret, attempt.ret = some ret ∧ (ret = true → attempt.written = attempt.message)

/-- The thread at this point is in the loop with this attempt. -/
def SendPoint.Serves (point : SendPoint) (id : ℕ) (attempt : SendAttempt) : Prop :=
  match point with
  | .polling i str _ => i = id ∧ attempt.written ++ str = attempt.message ∧ str ≠ []
  | .writing i str _ => i = id ∧ attempt.written ++ str = attempt.message ∧ str ≠ []
  | .unlocking i ret => i = id ∧ attempt.written <+: attempt.message ∧
      (ret = true → attempt.written = attempt.message)
  | .idle => False
  | .locking _ => False

/-- The attempt of the thread in the loop is the last one. -/
structure Sending.Current (state : Sending) (thread : SendThread) (before : List SendAttempt)
    (attempt : SendAttempt) : Prop where
  attempts : state.attempts = before ++ [attempt]
  serves : (state.points thread).Serves before.length attempt
  running : attempt.ret = none
  finished : ∀ earlier ∈ before, earlier.Finished

/-- The invariant: mutual exclusion, and all attempts are finished but the holder's. -/
structure Sending.Sound (state : Sending) : Prop where
  exclusive : Mutex.Exclusive SendPoint.holds state.holder state.points
  socket : state.socket = (state.attempts.map SendAttempt.written).flatten
  free : state.holder = none → ∀ attempt ∈ state.attempts, attempt.Finished
  held : ∀ thread, state.holder = some thread → ∃ before attempt,
    state.Current thread before attempt

theorem modify_last {α : Type} (before : List α) (last : α) (change : α → α) :
    (before ++ [last]).modify before.length change = before ++ [change last] := by
  induction before with
  | nil => rfl
  | cons first before ih => exact congrArg (first :: ·) ih

/-- A thread that enters the loop or comes back to its test. -/
theorem sendTest_serves {id : ℕ} {str : List UInt8} {attempt : SendAttempt}
    (hrest : attempt.written ++ str = attempt.message) (totalWaited : ℕ) :
    (sendTest id str totalWaited).holds = true ∧
      (sendTest id str totalWaited).Serves id attempt := by
  rw [sendTest]
  by_cases hstr : str = []
  · rw [hstr, List.append_nil] at hrest
    rw [if_pos hstr]
    exact ⟨rfl, rfl, hrest ▸ List.prefix_rfl, fun _ => hrest⟩
  · rw [if_neg hstr]
    exact ⟨rfl, rfl, hrest, hstr⟩

section

variable {state next : Sending} {thread : SendThread} {point : SendPoint}

/-- The thread at the lock or outside moves there. -/
theorem Sending.Sound.outside (hstate : state.Sound)
    (hbefore : (state.points thread).holds = false) (hafter : point.holds = false) :
    (state.goto thread point).Sound := by
  refine ⟨hstate.exclusive.goto (by rw [hbefore, hafter]), hstate.socket, hstate.free, ?_⟩
  intro holder hholder
  obtain ⟨before, attempt, hcurrent⟩ := hstate.held holder hholder
  have hne : holder ≠ thread := by
    rintro rfl
    rw [(hstate.exclusive holder).mpr hholder] at hbefore
    cases hbefore
  have hsame : (state.goto thread point).points holder = state.points holder :=
    Function.update_of_ne hne ..
  exact ⟨before, attempt, hcurrent.attempts, hsame ▸ hcurrent.serves, hcurrent.running,
    hcurrent.finished⟩

/-- The thread in the loop moves on with its attempt. -/
theorem Sending.Sound.inside (hstate : state.Sound) (hholder : state.holder = some thread)
    {before : List SendAttempt} {attempt : SendAttempt}
    (hfinished : ∀ earlier ∈ before, earlier.Finished) (hrunning : attempt.ret = none)
    (hpoint : point.holds = true ∧ point.Serves before.length attempt)
    (hnextHolder : next.holder = state.holder)
    (hnextPoints : next.points = Function.update state.points thread point)
    (hnextAttempts : next.attempts = before ++ [attempt])
    (hnextSocket : next.socket = (next.attempts.map SendAttempt.written).flatten) :
    next.Sound := by
  have hholds := (hstate.exclusive thread).mpr hholder
  refine ⟨?_, hnextSocket, ?_, ?_⟩
  · rw [hnextHolder, hnextPoints]
    exact hstate.exclusive.goto (by rw [hpoint.1, hholds])
  · intro hfree
    rw [hnextHolder, hholder] at hfree
    cases hfree
  · intro holder hsome
    rw [hnextHolder, hholder] at hsome
    obtain rfl := Option.some.inj hsome
    refine ⟨before, attempt, hnextAttempts, ?_, hrunning, hfinished⟩
    rw [hnextPoints, Function.update_self]
    exact hpoint.2

/-- A thread in the loop is the holder, and its attempt is the last one. -/
theorem Sending.Sound.current (hstate : state.Sound)
    (hholds : (state.points thread).holds = true) :
    state.holder = some thread ∧ ∃ before attempt, state.Current thread before attempt := by
  have hholder := (hstate.exclusive thread).mp hholds
  exact ⟨hholder, hstate.held thread hholder⟩

/-- What a write does to the attempts. -/
theorem Sending.Current.wrote_attempts {before : List SendAttempt} {attempt : SendAttempt}
    (hcurrent : state.Current thread before attempt) (bytes : List UInt8) :
    (state.wrote before.length bytes).attempts =
      before ++ [{ attempt with written := attempt.written ++ bytes }] := by
  rw [Sending.wrote, hcurrent.attempts]
  exact modify_last before attempt _

/-- What the return of a loop does to the attempts. -/
theorem Sending.Current.leave_attempts {before : List SendAttempt} {attempt : SendAttempt}
    (hcurrent : state.Current thread before attempt) (ret : Bool) :
    (state.leave thread before.length ret).attempts =
      before ++ [{ attempt with ret := some ret }] := by
  rw [Sending.leave, hcurrent.attempts]
  exact modify_last before attempt _

/-- A thread at the `write` has something left to be written. -/
theorem Sending.Sound.writing (hstate : state.Sound) {id totalWaited : ℕ} {str : List UInt8}
    (hpoint : state.points thread = .writing id str totalWaited) :
    state.holder = some thread ∧ ∃ before attempt, id = before.length ∧
      state.Current thread before attempt ∧ attempt.written ++ str = attempt.message ∧
      str ≠ [] := by
  have hholds : (state.points thread).holds = true := by rw [hpoint]; rfl
  obtain ⟨hholder, before, attempt, hcurrent⟩ := hstate.current hholds
  have hserves := hcurrent.serves
  rw [hpoint] at hserves
  exact ⟨hholder, before, attempt, hserves.1, hcurrent, hserves.2⟩

/-- A thread behind the loop knows how much has been written. -/
theorem Sending.Sound.unlocking (hstate : state.Sound) {id : ℕ} {ret : Bool}
    (hpoint : state.points thread = .unlocking id ret) :
    ∃ before attempt, id = before.length ∧ state.Current thread before attempt ∧
      attempt.written <+: attempt.message ∧ (ret = true → attempt.written = attempt.message) := by
  have hholds : (state.points thread).holds = true := by rw [hpoint]; rfl
  obtain ⟨-, before, attempt, hcurrent⟩ := hstate.current hholds
  have hserves := hcurrent.serves
  rw [hpoint] at hserves
  exact ⟨before, attempt, hserves.1, hcurrent, hserves.2⟩

/-- The loop goes on without a byte written. -/
theorem Sending.Sound.move (hstate : state.Sound) (hholds : (state.points thread).holds = true)
    (hpoint : ∀ before attempt, state.Current thread before attempt →
      point.holds = true ∧ point.Serves before.length attempt) :
    (state.goto thread point).Sound := by
  obtain ⟨hholder, before, attempt, hcurrent⟩ := hstate.current hholds
  exact hstate.inside hholder hcurrent.finished hcurrent.running (hpoint before attempt hcurrent)
    rfl rfl hcurrent.attempts hstate.socket

/-- A free mutex is locked for a new attempt. -/
theorem Sending.Sound.enter (hstate : state.Sound) (hfree : state.holder = none)
    (str : List UInt8) : (state.enter thread str).Sound := by
  let attempt : SendAttempt := { message := str, written := [], ret := none }
  obtain ⟨hholds, hserves⟩ : (sendTest state.attempts.length str 0).holds = true ∧
      (sendTest state.attempts.length str 0).Serves state.attempts.length attempt :=
    sendTest_serves (List.nil_append str) 0
  refine ⟨hstate.exclusive.lock hholds hfree, ?_, ?_, ?_⟩
  · show state.socket = ((state.attempts ++ [attempt]).map SendAttempt.written).flatten
    rw [List.map_append, List.flatten_append, ← hstate.socket]
    simp [attempt]
  · intro hnone
    cases hnone
  · intro holder hholder
    obtain rfl := Option.some.inj hholder
    have hself : (state.enter thread str).points thread = sendTest state.attempts.length str 0 :=
      Function.update_self ..
    exact ⟨state.attempts, attempt, rfl, hself ▸ hserves, rfl, hstate.free hfree⟩

/-- Bytes are written, and the loop goes on behind them. -/
theorem Sending.Sound.wrote (hstate : state.Sound) {id totalWaited count : ℕ}
    {str : List UInt8} (hpoint : state.points thread = .writing id str totalWaited) :
    ((state.wrote id (str.take count)).goto thread (sendTest id (str.drop count) 0)).Sound := by
  obtain ⟨hholder, before, attempt, rfl, hcurrent, hrest, -⟩ := hstate.writing hpoint
  let longer : SendAttempt := { attempt with written := attempt.written ++ str.take count }
  have hattempts : (state.wrote before.length (str.take count)).attempts = before ++ [longer] :=
    hcurrent.wrote_attempts _
  have hlonger : longer.written ++ str.drop count = longer.message := by
    rw [List.append_assoc, List.take_append_drop, hrest]
  refine hstate.inside hholder hcurrent.finished (show longer.ret = none from hcurrent.running)
    (sendTest_serves hlonger 0) rfl rfl hattempts ?_
  show state.socket ++ str.take count =
    ((state.wrote before.length (str.take count)).attempts.map SendAttempt.written).flatten
  rw [hattempts, hstate.socket, hcurrent.attempts]
  simp [longer]

/-- The loop has returned. -/
theorem Sending.Sound.leave (hstate : state.Sound) {id : ℕ} {ret : Bool}
    (hpoint : state.points thread = .unlocking id ret) :
    (state.leave thread id ret).Sound := by
  obtain ⟨before, attempt, rfl, hcurrent, hbegins, hret⟩ := hstate.unlocking hpoint
  have hattempts := hcurrent.leave_attempts ret
  refine ⟨hstate.exclusive.unlock (by rw [hpoint]; rfl) rfl, ?_, ?_, ?_⟩
  · rw [hattempts]
    show state.socket = _
    rw [hstate.socket, hcurrent.attempts]
    simp
  · intro _ other hother
    rw [hattempts, List.mem_append, List.mem_singleton] at hother
    rcases hother with hearlier | rfl
    · exact hcurrent.finished other hearlier
    · exact ⟨hbegins, ret, rfl, hret⟩
  · intro holder hholder
    cases hholder

/-- **One step** keeps the invariant. -/
theorem Sending.Sound.step (hstate : state.Sound) {label : SendLabel}
    (hstep : connSendStep state label = some next) : next.Sound := by
  cases sendMove_of_step hstep with
  | outside _ hbefore hafter => exact hstate.outside hbefore hafter
  | enter thread str _ hfree => exact hstate.enter hfree str
  | wrote hpoint _ => exact hstate.wrote hpoint
  | leave _ hpoint => exact hstate.leave hpoint
  | @inside label thread id str point _ hloop hpoint =>
      have hholds : (state.points thread).holds = true := by
        obtain ⟨totalWaited, hpolling | hwriting⟩ := hloop
        · rw [hpolling]; rfl
        · rw [hwriting]; rfl
      refine hstate.move hholds fun before attempt hcurrent => ?_
      have hserves : id = before.length ∧ attempt.written ++ str = attempt.message ∧ str ≠ [] := by
        have hserves := hcurrent.serves
        obtain ⟨totalWaited, hpolling | hwriting⟩ := hloop
        · rwa [hpolling] at hserves
        · rwa [hwriting] at hserves
      rcases hpoint with ⟨totalWaited, rfl | rfl⟩ | rfl
      · exact ⟨rfl, hserves⟩
      · exact ⟨rfl, hserves⟩
      · exact ⟨rfl, hserves.1, ⟨str, hserves.2.1⟩, fun heq => by cases heq⟩

/-- Every attempt has written the beginning of its string, and all of it when its loop has
returned true. -/
theorem Sending.Sound.attempt (hstate : state.Sound) {attempt : SendAttempt}
    (hmem : attempt ∈ state.attempts) : attempt.written <+: attempt.message ∧
      (attempt.ret = some true → attempt.written = attempt.message) := by
  have hfinished : attempt.Finished → attempt.written <+: attempt.message ∧
      (attempt.ret = some true → attempt.written = attempt.message) := by
    rintro ⟨hbegins, ret, hret, hwhole⟩
    exact ⟨hbegins, fun htrue => hwhole (Option.some.inj (hret.symm.trans htrue))⟩
  cases hholder : state.holder with
  | none => exact hfinished (hstate.free hholder attempt hmem)
  | some thread =>
      obtain ⟨before, last, hcurrent⟩ := hstate.held thread hholder
      rw [hcurrent.attempts, List.mem_append, List.mem_singleton] at hmem
      rcases hmem with hearlier | rfl
      · exact hfinished (hcurrent.finished attempt hearlier)
      · refine ⟨?_, fun htrue => by rw [hcurrent.running] at htrue; cases htrue⟩
        have hserves := hcurrent.serves
        unfold SendPoint.Serves at hserves
        split at hserves
        · exact ⟨_, hserves.2.1⟩
        · exact ⟨_, hserves.2.1⟩
        · exact hserves.2.1
        · cases hserves
        · cases hserves

/-- A write does not go to a stream that another loop has left in the middle of its string. -/
theorem Sending.Sound.whole_step (hstate : state.Sound)
    (hwhole : state.attempts.Pairwise WholeBefore) {label : SendLabel}
    (hguard : label.Writes → ¬ state.GaveUp)
    (hstep : connSendStep state label = some next) :
    next.attempts.Pairwise WholeBefore := by
  cases sendMove_of_step hstep with
  | outside _ _ _ => exact hwhole
  | inside _ _ _ => exact hwhole
  | enter thread str _ _ =>
      refine List.pairwise_append.mpr ⟨hwhole, List.pairwise_singleton .., ?_⟩
      intro earlier _ later hlater hwritten
      rw [List.mem_singleton.mp hlater] at hwritten
      exact absurd rfl hwritten
  | @wrote thread id totalWaited str count hpoint _ =>
      obtain ⟨-, before, attempt, rfl, hcurrent, -, -⟩ := hstate.writing hpoint
      have hattempts := hcurrent.wrote_attempts (str.take count)
      rw [hcurrent.attempts, List.pairwise_append] at hwhole
      show ((state.wrote before.length (str.take count)).attempts).Pairwise _
      rw [hattempts, List.pairwise_append]
      refine ⟨hwhole.1, List.pairwise_singleton .., ?_⟩
      intro earlier hearlier later hlater hwritten
      rw [List.mem_singleton.mp hlater] at hwritten
      by_cases hcount : count = 0
      · rw [hcount, List.take_zero, List.append_nil] at hwritten
        exact hwhole.2.2 earlier hearlier attempt (List.mem_singleton_self _) hwritten
      · -- the loops of the earlier attempts have returned, and none in the middle
        obtain ⟨-, ret, hret, hall⟩ := hcurrent.finished earlier hearlier
        by_contra hmiddle
        cases ret with
        | true => exact hmiddle (.inr (hall rfl))
        | false =>
            refine hguard (Nat.pos_of_ne_zero hcount) ⟨earlier, ?_, hret, hmiddle⟩
            rw [hcurrent.attempts]
            exact List.mem_append_left _ hearlier
  | @leave label thread id ret _ hpoint =>
      obtain ⟨before, attempt, rfl, hcurrent, -, -⟩ := hstate.unlocking hpoint
      rw [hcurrent.attempts, List.pairwise_append] at hwhole
      rw [hcurrent.leave_attempts ret, List.pairwise_append]
      refine ⟨hwhole.1, List.pairwise_singleton .., ?_⟩
      intro earlier hearlier later hlater hwritten
      rw [List.mem_singleton.mp hlater] at hwritten
      exact hwhole.2.2 earlier hearlier attempt (List.mem_singleton_self _) hwritten

/-- A write behind a loop that has given up breaks the framing. -/
theorem Sending.Sound.whole_breaks (hstate : state.Sound) {label : SendLabel}
    (hwrites : label.Writes) (hgaveUp : state.GaveUp)
    (hstep : connSendStep state label = some next) :
    ¬ next.attempts.Pairwise WholeBefore := by
  cases sendMove_of_step hstep with
  | outside hquiet _ _ => exact absurd hwrites hquiet
  | inside hquiet _ _ => exact absurd hwrites hquiet
  | enter _ _ hquiet _ => exact absurd hwrites hquiet
  | leave hquiet _ => exact absurd hwrites hquiet
  -- only the attempt that holds the lock writes, and it is behind the broken one
  | @wrote thread id totalWaited str count hpoint _ =>
      obtain ⟨-, before, attempt, rfl, hcurrent, -, hstr⟩ := hstate.writing hpoint
      obtain ⟨broken, hbroken, hret, hmiddle⟩ := hgaveUp
      have hcount : 0 < count := hwrites
      have hbytes : str.take count ≠ [] := by
        rw [Ne, List.take_eq_nil_iff, not_or]
        exact ⟨by omega, hstr⟩
      have hearlier : broken ∈ before := by
        rw [hcurrent.attempts, List.mem_append, List.mem_singleton] at hbroken
        rcases hbroken with hearlier | rfl
        · exact hearlier
        · rw [hcurrent.running] at hret
          cases hret
      intro hwhole
      have hnext : (before ++ [{ attempt with
          written := attempt.written ++ str.take count }]).Pairwise WholeBefore :=
        hcurrent.wrote_attempts (str.take count) ▸ hwhole
      refine hmiddle ((List.pairwise_append.mp hnext).2.2 broken hearlier _
        (List.mem_singleton_self _) ?_)
      exact fun hnil => hbytes (List.append_eq_nil_iff.mp hnil).2

theorem sending_sound {labels : List SendLabel} (hrun : connSending.run labels = some state) :
    state.Sound := by
  refine Machine.run_invariant ?_ (fun _ _ _ hstate hstep => hstate.step hstep) hrun
  refine ⟨Mutex.exclusive_start rfl, rfl, ?_, ?_⟩
  · intro _ attempt hmem
    cases hmem
  · intro thread hholder
    cases hholder

theorem Sending.Sound.framed (hstate : state.Sound)
    (hwhole : state.attempts.Pairwise WholeBefore) : state.Framed :=
  ⟨hstate.socket, fun _ hmem => (hstate.attempt hmem).1, hwhole,
    fun _ hmem => (hstate.attempt hmem).2⟩

/-- **The stream is framed throughout a run if and only if no byte is written after a loop has
given up in the middle of its string.** -/
theorem sends_framed_iff {labels : List SendLabel} (hrun : connSending.run labels = some state) :
    connSending.Throughout Sending.Framed labels ↔
      connSending.Guarded (fun state label => label.Writes → ¬ state.GaveUp) labels := by
  refine Machine.throughout_iff_guarded
    ⟨sending_sound connSending.run_nil, (sending_sound connSending.run_nil).framed .nil⟩ ?_ hrun
  intro state label next hstate hstep
  have hnext := hstate.step hstep
  refine ⟨hnext, fun hframed => ⟨fun hframed' hwrites hgaveUp => ?_, fun hguard => ?_⟩⟩
  · exact hstate.whole_breaks hwrites hgaveUp hstep hframed'.whole
  · exact hnext.framed (hstate.whole_step hframed.whole hguard hstep)

end

/-- A string in two parts, with an interruption and a full socket between them; the `trylock` of
the reader fails. -/
theorem sends_framed_iff_twoParts :
    connSending.Throughout Sending.Framed [.call .main [36, 79, 75], .lock .main, .poll .main true,
      .write .main (.wrote 2), .call .reader [43], .lock .reader, .poll .main false,
      .poll .main true, .write .main .interrupted, .poll .main true,
      .write .main (.wrote 1), .unlock .main] :=
  (sends_framed_iff rfl).mpr (by decide +kernel)

/-- The main thread sends `$OK#9a`.  The socket takes three bytes and then nothing for five
seconds; the loop gives up, and the next string follows in the middle of the packet. -/
theorem timeout_breaksFraming :
    let packet : List UInt8 := [36, 79, 75, 35, 57, 97]
    let labels := [SendLabel.call .main packet, .lock .main, .poll .main true,
      .write .main (.wrote 3)] ++ List.replicate 50 (.poll .main false) ++
      [.unlock .main, .call .main packet, .lock .main, .poll .main true, .write .main (.wrote 6)]
    ∃ state, connSending.run labels = some state ∧
      state.socket = [36, 79, 75, 36, 79, 75, 35, 57, 97] ∧
      ¬ connSending.Throughout Sending.Framed labels := by
  intro packet labels
  obtain ⟨state, hrun, hattempts, hsocket⟩ : ∃ state, connSending.run labels = some state ∧
      state.attempts = [⟨packet, [36, 79, 75], some false⟩, ⟨packet, packet, none⟩] ∧
      state.socket = [36, 79, 75, 36, 79, 75, 35, 57, 97] := ⟨_, rfl, rfl, rfl⟩
  refine ⟨state, hrun, hsocket, ?_⟩
  intro hframed
  have hwhole := (hframed labels List.prefix_rfl state hrun).whole
  rw [hattempts] at hwhole
  have hfirst := (List.pairwise_cons.mp hwhole).1 _ (List.mem_singleton_self _) (by decide)
  exact absurd hfirst (by decide)

end MiniGdbstub
