import MiniGdbstub.SendLoop

/-!
# The sends come back

`CONN_SEND_TIMEOUT_MS` is there so that a send does not block for ever on a connection that is
congested or broken.  The time waited is set back by every `write`, so the bound is one for each
byte: between two bytes of a string the loop takes at most `stepsPerByte` steps.  It does not hold
of a `write` that is tried again, because nothing was written (`EINTR`, `EAGAIN`, no bytes): the
loop goes back to the wait for the socket, and this has no bound.

So each call brings a budget, and each fruitless `write` another one, and no interleaving of the
two threads takes more steps than the budgets together (`sends_return`).  And there is no deadlock
over the mutex: when no further call is made and no `write` is fruitless, both threads come back,
whatever the scheduler and the socket do, as long as the writes return.  One that does not keeps
the mutex locked.
-/

namespace MiniGdbstub

/-! ## What the steps cost -/

/-- The waits for the socket up to the timeout, and the `write`. -/
def stepsPerByte : ℕ := connSendTimeoutMs / connSendPollMs + 1

/-- A `write` that has written nothing and is tried again. -/
def SendLabel.fruitless : SendLabel → Bool
  | .write _ (.wrote count) => count == 0
  | .write _ .interrupted => true
  | .write thread .again => thread.timeout != 0
  | .write _ .fatal | .call .. | .lock _ | .poll .. | .unlock _ => false

/-- The steps that a label makes possible: the calls with their strings, and the writes that are
tried again. -/
def SendLabel.budget : SendLabel → ℕ
  | .call _ str => stepsPerByte * str.length + 3
  | label => if label.fruitless then stepsPerByte else 0

def SendLabel.thread : SendLabel → SendThread
  | .call thread _ | .lock thread | .poll thread _ | .write thread _ | .unlock thread => thread

/-- The steps that a thread at this point takes at most, if its writes are not fruitless. -/
def SendPoint.potential : SendPoint → ℕ
  | .idle => 0
  | .locking str => stepsPerByte * str.length + 2
  | .polling _ str totalWaited => stepsPerByte * (str.length - 1) +
      (connSendTimeoutMs / connSendPollMs - 1 - totalWaited / connSendPollMs) + 3
  | .writing _ str _ => stepsPerByte * (str.length - 1) + 2
  | .unlocking .. => 1

def Sending.potential (state : Sending) : ℕ :=
  (state.points .main).potential + (state.points .reader).potential

/-! ## One step -/

variable {state next : Sending} {label : SendLabel} {thread : SendThread}

/-- The test of the loop, at its start and after bytes have been written. -/
theorem sendTest_potential_le (id : ℕ) (str : List UInt8) :
    (sendTest id str 0).potential ≤ stepsPerByte * str.length + 1 := by
  rw [sendTest]
  by_cases hstr : str = []
  · rw [if_pos hstr]
    exact Nat.le_add_left ..
  · have hlength := List.length_pos_iff.mpr hstr
    rw [if_neg hstr]
    simp only [SendPoint.potential, stepsPerByte, connSendTimeoutMs, connSendPollMs]
    omega

/-- A `write` that is tried again goes back to the wait, and its budget pays for this. -/
theorem polling_potential_le (id : ℕ) (str : List UInt8) (totalWaited : ℕ) :
    (SendPoint.polling id str totalWaited).potential + 1 ≤
      (SendPoint.writing id str totalWaited).potential + stepsPerByte := by
  simp only [SendPoint.potential, stepsPerByte, connSendTimeoutMs, connSendPollMs]
  omega

theorem one_lt_writing_potential (id : ℕ) (str : List UInt8) (totalWaited : ℕ) :
    1 < (SendPoint.writing id str totalWaited).potential :=
  Nat.lt_of_lt_of_le Nat.one_lt_two (Nat.le_add_left ..)

/-- A wait that is not the last one leaves one wait less. -/
theorem waited_potential_lt {id totalWaited : ℕ} {str : List UInt8}
    (hwaits : ¬ thread.timeout ≤ totalWaited + connSendPollMs) :
    (SendPoint.polling id str (totalWaited + connSendPollMs)).potential + 1 ≤
      (SendPoint.polling id str totalWaited).potential := by
  have htimeout : totalWaited + connSendPollMs < connSendTimeoutMs := by
    cases thread with
    | main => exact Nat.not_le.mp hwaits
    | reader => exact absurd (Nat.zero_le _) hwaits
  simp only [SendPoint.potential, connSendTimeoutMs, connSendPollMs] at htimeout ⊢
  omega

/-- A `write` that takes some of the bytes pays with them, and one that takes none has its own
budget. -/
theorem wrote_potential_le {id totalWaited count : ℕ} {str : List UInt8}
    (hcount : count ≤ str.length) :
    (sendTest id (str.drop count) 0).potential + 1 ≤
      (SendPoint.writing id str totalWaited).potential +
        (SendLabel.write thread (.wrote count)).budget := by
  have htest := sendTest_potential_le id (str.drop count)
  rw [List.length_drop] at htest
  by_cases hzero : count = 0
  · subst hzero
    have hbudget : (SendLabel.write thread (.wrote 0)).budget = stepsPerByte := rfl
    rw [hbudget]
    simp only [SendPoint.potential, stepsPerByte, connSendTimeoutMs, connSendPollMs] at htest ⊢
    omega
  · have hrest : stepsPerByte * (str.length - count) ≤ stepsPerByte * (str.length - 1) :=
      Nat.mul_le_mul_left _ (by omega)
    calc (sendTest id (str.drop count) 0).potential + 1
        ≤ stepsPerByte * (str.length - count) + 1 + 1 := Nat.succ_le_succ htest
      _ ≤ stepsPerByte * (str.length - 1) + 1 + 1 :=
          Nat.add_le_add_right (Nat.add_le_add_right hrest 1) 1
      _ = (SendPoint.writing id str totalWaited).potential := rfl
      _ ≤ _ := Nat.le_add_right ..

/-- A step moves the thread that takes it, and uses up some of its potential. -/
def Sending.Spends (state : Sending) (thread : SendThread) (budget : ℕ) (next : Sending) : Prop :=
  ∃ point, next.points = Function.update state.points thread point ∧
    point.potential + 1 ≤ (state.points thread).potential + budget

theorem call_spends {str : List UInt8}
    (hstep : connSendStep state (.call thread str) = some next) :
    state.Spends thread (stepsPerByte * str.length + 3) next := by
  simp only [connSendStep] at hstep
  split at hstep
  · obtain rfl := Option.some.inj hstep
    exact ⟨.locking str, rfl, Nat.le_add_left ..⟩
  · cases hstep

theorem lock_spends (hstep : connSendStep state (.lock thread) = some next) :
    state.Spends thread 0 next := by
  simp only [connSendStep] at hstep
  split at hstep
  · rename_i str hpoint
    rw [Sending.Spends, hpoint]
    split at hstep
    · obtain rfl := Option.some.inj hstep
      exact ⟨_, rfl, Nat.succ_le_succ (sendTest_potential_le ..)⟩
    · cases thread with
      | main => cases hstep
      | reader =>
          -- the `trylock` fails
          obtain rfl := Option.some.inj hstep
          exact ⟨.idle, rfl, Nat.le_add_left ..⟩
  · cases hstep

theorem poll_spends {writable : Bool}
    (hstep : connSendStep state (.poll thread writable) = some next) :
    state.Spends thread 0 next := by
  simp only [connSendStep] at hstep
  split at hstep
  · rename_i id str totalWaited hpoint
    rw [Sending.Spends, hpoint]
    split at hstep
    · obtain rfl := Option.some.inj hstep
      refine ⟨_, rfl, ?_⟩
      simp only [SendPoint.potential]
      omega
    · split at hstep
      · -- the timeout has passed: the loop is left
        obtain rfl := Option.some.inj hstep
        refine ⟨_, rfl, ?_⟩
        simp only [SendPoint.potential]
        omega
      · rename_i hwaits
        obtain rfl := Option.some.inj hstep
        exact ⟨_, rfl, waited_potential_lt hwaits⟩
  · cases hstep

theorem write_spends {outcome : SocketWrite}
    (hstep : connSendStep state (.write thread outcome) = some next) :
    state.Spends thread (SendLabel.write thread outcome).budget next := by
  simp only [connSendStep] at hstep
  split at hstep
  · rename_i id str totalWaited hpoint
    rw [Sending.Spends, hpoint]
    have hgivesUp := one_lt_writing_potential id str totalWaited
    cases outcome with
    | wrote count =>
        obtain ⟨hcount, hnext⟩ := Option.ite_none_right_eq_some.mp hstep
        obtain rfl := Option.some.inj hnext
        exact ⟨_, rfl, wrote_potential_le hcount⟩
    | interrupted =>
        obtain rfl := Option.some.inj hstep
        exact ⟨_, rfl, polling_potential_le id str totalWaited⟩
    | again =>
        -- only the main thread, which has a timeout, tries again
        dsimp only at hstep
        split at hstep
        · obtain rfl := Option.some.inj hstep
          exact ⟨_, rfl, Nat.le_add_right_of_le hgivesUp⟩
        · rename_i htimeout
          obtain rfl := Option.some.inj hstep
          have hbudget : (SendLabel.write thread .again).budget = stepsPerByte :=
            if_pos (bne_iff_ne.mpr htimeout)
          rw [hbudget]
          exact ⟨_, rfl, polling_potential_le id str totalWaited⟩
    | fatal =>
        obtain rfl := Option.some.inj hstep
        exact ⟨_, rfl, hgivesUp⟩
  · cases hstep

theorem unlock_spends (hstep : connSendStep state (.unlock thread) = some next) :
    state.Spends thread 0 next := by
  simp only [connSendStep] at hstep
  split at hstep
  · rename_i id ret hpoint
    rw [Sending.Spends, hpoint]
    obtain rfl := Option.some.inj hstep
    exact ⟨.idle, rfl, Nat.le_refl _⟩
  · cases hstep

theorem connSendStep_spends (hstep : connSendStep state label = some next) :
    state.Spends label.thread label.budget next := by
  cases label with
  | call thread str => exact call_spends hstep
  | lock thread => exact lock_spends hstep
  | poll thread writable => exact poll_spends hstep
  | write thread outcome => exact write_spends hstep
  | unlock thread => exact unlock_spends hstep

/-- The other thread keeps its point and its potential. -/
theorem connSendStep_potential (hstep : connSendStep state label = some next) :
    next.potential + 1 ≤ state.potential + label.budget := by
  obtain ⟨point, hpoints, hpoint⟩ := connSendStep_spends hstep
  unfold Sending.potential
  rw [hpoints]
  cases hthread : label.thread with
  | main =>
      rw [hthread] at hpoint
      rw [Function.update_self, Function.update_of_ne SendThread.noConfusion]
      omega
  | reader =>
      rw [hthread] at hpoint
      rw [Function.update_self, Function.update_of_ne SendThread.noConfusion]
      omega

/-! ## Every run -/

/-- The sends by themselves: no further call, and no `write` that has to be tried again. -/
def connSendFinishing : Machine Sending SendLabel where
  start := connSending.start
  step := fun state label => if label.budget = 0 then connSendStep state label else none

theorem exists_finishing (hbudget : label.budget = 0)
    (hstep : connSendStep state label = some next) :
    ∃ label next, connSendFinishing.step state label = some next :=
  ⟨label, next, (if_pos hbudget).trans hstep⟩

/-- A thread that holds the mutex can go on. -/
theorem exists_step_of_holds (hholds : (state.points thread).holds = true) :
    ∃ label next, connSendFinishing.step state label = some next := by
  cases hpoint : state.points thread with
  | idle | locking str =>
      rw [hpoint] at hholds
      cases hholds
  | polling id str totalWaited =>
      have hstep : connSendStep state (.poll thread true) =
          some (state.goto thread (.writing id str totalWaited)) := by
        simp only [connSendStep, hpoint, if_true]
      exact exists_finishing rfl hstep
  | writing id str totalWaited =>
      have hstep : connSendStep state (.write thread .fatal) =
          some (state.goto thread (.unlocking id false)) := by
        simp only [connSendStep, hpoint]
      exact exists_finishing rfl hstep
  | unlocking id ret =>
      have hstep : connSendStep state (.unlock thread) = some (state.leave thread id ret) := by
        simp only [connSendStep, hpoint]
      exact exists_finishing rfl hstep

/-- A thread at the lock gets it, or gives up, or waits for a thread that can go on. -/
theorem Sending.Sound.exists_step_of_locking (hstate : state.Sound) {str : List UInt8}
    (hpoint : state.points thread = .locking str) :
    ∃ label next, connSendFinishing.step state label = some next := by
  cases hholder : state.holder with
  | none =>
      have hstep : connSendStep state (.lock thread) = some (state.enter thread str) := by
        simp only [connSendStep, hpoint, hholder, Option.isNone_none, if_true]
      exact exists_finishing rfl hstep
  -- the reader could also give up, but the holder has a step for either thread
  | some holder => exact exists_step_of_holds ((hstate.exclusive holder).mpr hholder)

theorem Sending.Sound.progress (hstate : state.Sound) :
    (∀ thread, state.points thread = .idle) ∨
      ∃ label next, connSendFinishing.step state label = some next := by
  by_cases hidle : ∀ thread, state.points thread = .idle
  · exact .inl hidle
  · right
    obtain ⟨thread, hthread⟩ := not_forall.mp hidle
    cases hpoint : state.points thread with
    | idle => exact absurd hpoint hthread
    | locking str => exact hstate.exists_step_of_locking hpoint
    | polling _ _ _ | writing _ _ _ | unlocking _ _ =>
        have hholds : (state.points thread).holds = true := by rw [hpoint]; rfl
        exact exists_step_of_holds hholds

/-- When no call and no fruitless write follows, every way in which the threads and the socket may
go on ends with both threads back; there is none that stops before, and none that goes on for ever.
-/
theorem Sending.Sound.finishes (hstate : state.Sound) :
    connSendFinishing.Inevitable (fun state => ∀ thread, state.points thread = .idle) state := by
  refine Machine.Inevitable.of_potential Sending.potential (fun _ => Sending.Sound.progress) ?_
    hstate
  intro state label next hstate hstep
  obtain ⟨hbudget, hnext⟩ := Option.ite_none_right_eq_some.mp hstep
  have hpotential := connSendStep_potential hnext
  rw [hbudget] at hpotential
  exact ⟨hstate.step hnext, hpotential⟩

/-! ## Writes that do not return

The socket is blocking: a `write` that the client does not read may wait for ever, and the loop has
no timeout for that.  And a `write` to a connection that the client has closed ends the process,
which does not ignore `SIGPIPE`. -/

/-- The sends, and what a `write` can do beside returning: end the process, or stay. -/
structure SendProcess where
  sending : Sending
  killed : Bool
  blocked : Option SendThread

inductive SendProcessLabel
  | send (label : SendLabel)
  | sigpipe (thread : SendThread)
  | block (thread : SendThread)
  deriving DecidableEq, Repr

def SendPoint.isWriting : SendPoint → Bool
  | .writing .. => true
  | .idle | .locking _ | .polling .. | .unlocking .. => false

def sendProcessStep (process : SendProcess) (label : SendProcessLabel) : Option SendProcess :=
  if process.killed then none
  else match label with
    | .send label =>
        if process.blocked = some label.thread then none
        else (connSendStep process.sending label).map fun next => { process with sending := next }
    | .sigpipe thread =>
        if (process.sending.points thread).isWriting then some { process with killed := true }
        else none
    | .block thread =>
        if process.blocked = none ∧ (process.sending.points thread).isWriting then
          some { process with blocked := some thread }
        else none

def sendProcess : Machine SendProcess SendProcessLabel where
  start := { sending := connSending.start, killed := false, blocked := none }
  step := sendProcessStep

def SendProcessLabel.budget : SendProcessLabel → ℕ
  | .send label => label.budget
  | .sigpipe _ | .block _ => 0

/-- No further call, and no `write` that has to be tried again. -/
def sendProcessFinishing : Machine SendProcess SendProcessLabel where
  start := sendProcess.start
  step := fun process label => if label.budget = 0 then sendProcessStep process label else none

/-- Both threads are back; or the process is over; or one thread stays in a `write`, with the mutex
locked.  The reader does not wait for the mutex then, but the main thread may. -/
def SendProcess.Settled (process : SendProcess) : Prop :=
  process.killed = true ∨ (∀ thread, process.sending.points thread = .idle) ∨
    ∃ thread, process.blocked = some thread ∧
      (process.sending.points thread).isWriting = true ∧
      ∀ other, other ≠ thread → process.sending.points other = .idle ∨
        other = .main ∧ ∃ str, process.sending.points other = .locking str

/-- The steps that a thread takes at most; one that is blocked takes none but the last. -/
def SendProcess.threadPotential (process : SendProcess) (thread : SendThread) : ℕ :=
  if process.blocked = some thread then 1 else (process.sending.points thread).potential

def SendProcess.potential (process : SendProcess) : ℕ :=
  if process.killed then 0 else process.threadPotential .main + process.threadPotential .reader

variable {process after : SendProcess}

theorem one_lt_potential_of_isWriting {point : SendPoint} (hwriting : point.isWriting = true) :
    1 < point.potential := by
  cases point with
  | writing id str totalWaited => exact one_lt_writing_potential id str totalWaited
  | _ => cases hwriting

theorem SendProcess.threadPotential_le (process : SendProcess) (thread : SendThread) :
    process.threadPotential thread ≤
      process.threadPotential .main + process.threadPotential .reader := by
  cases thread with
  | main => exact Nat.le_add_right ..
  | reader => exact Nat.le_add_left ..

/-- Only one thread's potential changes. -/
theorem SendProcess.potential_le (thread : SendThread) {budget : ℕ}
    (hgoing : process.killed = false)
    (hsame : ∀ other, other ≠ thread →
      after.threadPotential other = process.threadPotential other)
    (hless : after.threadPotential thread + 1 ≤ process.threadPotential thread + budget) :
    after.potential + 1 ≤ process.potential + budget := by
  have hafter : after.potential ≤ after.threadPotential .main + after.threadPotential .reader := by
    unfold SendProcess.potential
    split
    · exact Nat.zero_le _
    · exact Nat.le_refl _
  have hbefore : process.potential =
      process.threadPotential .main + process.threadPotential .reader := by
    unfold SendProcess.potential
    rw [hgoing]
    rfl
  rw [hbefore]
  cases thread with
  | main =>
      have hreader := hsame .reader SendThread.noConfusion
      omega
  | reader =>
      have hmain := hsame .main SendThread.noConfusion
      omega

theorem SendProcess.send_potential {label : SendLabel} (hgoing : process.killed = false)
    (hfree : process.blocked ≠ some label.thread) {next : Sending}
    (hstep : connSendStep process.sending label = some next) :
    SendProcess.potential { process with sending := next } + 1 ≤
      process.potential + label.budget := by
  obtain ⟨point, hpoints, hpoint⟩ := connSendStep_spends hstep
  refine potential_le label.thread hgoing ?_ ?_
  · intro other hother
    simp only [threadPotential]
    rw [hpoints, Function.update_of_ne hother]
  · simp only [threadPotential]
    rw [if_neg hfree, if_neg hfree, hpoints, Function.update_self]
    exact hpoint

/-- Every step uses up some of the potential. -/
theorem sendProcessStep_potential {label : SendProcessLabel}
    (hstep : sendProcessStep process label = some after) :
    after.potential + 1 ≤ process.potential + label.budget := by
  obtain ⟨hgoing, hstep⟩ := Option.ite_none_left_eq_some.mp hstep
  have hgoing : process.killed = false := Bool.eq_false_iff.mpr hgoing
  cases label with
  | send label =>
      obtain ⟨hfree, hstep⟩ := Option.ite_none_left_eq_some.mp hstep
      obtain ⟨next, hnext, rfl⟩ := Option.map_eq_some_iff.mp hstep
      exact SendProcess.send_potential hgoing hfree hnext
  | sigpipe thread =>
      -- the thread in its write has some potential, and a killed process has none
      obtain ⟨hwriting, hstep⟩ := Option.ite_none_right_eq_some.mp hstep
      obtain rfl := Option.some.inj hstep
      have hpositive : 1 ≤ process.threadPotential thread := by
        unfold SendProcess.threadPotential
        split
        · exact Nat.le_refl 1
        · exact Nat.le_of_lt (one_lt_potential_of_isWriting hwriting)
      have hall := process.threadPotential_le thread
      unfold SendProcess.potential
      rw [hgoing]
      exact Nat.le_trans hpositive hall
  | block thread =>
      -- a thread that stays in its write has less ahead than one whose write returns
      obtain ⟨⟨hfree, hwriting⟩, hstep⟩ := Option.ite_none_right_eq_some.mp hstep
      obtain rfl := Option.some.inj hstep
      refine SendProcess.potential_le thread hgoing ?_ ?_
      · intro other hother
        simp only [SendProcess.threadPotential]
        rw [if_neg fun heq => hother (Option.some.inj heq).symm, hfree, if_neg (by simp)]
      · simp only [SendProcess.threadPotential]
        rw [if_pos trivial, hfree, if_neg (by simp)]
        exact one_lt_potential_of_isWriting hwriting

/-- A thread that is blocked is in its `write`. -/
structure SendProcess.Sound (process : SendProcess) : Prop where
  sending : process.sending.Sound
  blocked : ∀ thread, process.blocked = some thread →
    (process.sending.points thread).isWriting = true

theorem SendProcess.Sound.step (hprocess : process.Sound) {label : SendProcessLabel}
    (hstep : sendProcessStep process label = some after) : after.Sound := by
  obtain ⟨-, hstep⟩ := Option.ite_none_left_eq_some.mp hstep
  cases label with
  | send label =>
      obtain ⟨hfree, hstep⟩ := Option.ite_none_left_eq_some.mp hstep
      obtain ⟨next, hnext, rfl⟩ := Option.map_eq_some_iff.mp hstep
      refine ⟨hprocess.sending.step hnext, fun thread hblocked => ?_⟩
      -- the other thread moves, so the blocked one stays where it is
      obtain ⟨point, hpoints, -⟩ := connSendStep_spends hnext
      have hne : thread ≠ label.thread := by
        rintro rfl
        exact hfree hblocked
      dsimp only
      rw [hpoints, Function.update_of_ne hne]
      exact hprocess.blocked thread hblocked
  | sigpipe thread =>
      obtain ⟨-, hstep⟩ := Option.ite_none_right_eq_some.mp hstep
      obtain rfl := Option.some.inj hstep
      exact ⟨hprocess.sending, hprocess.blocked⟩
  | block thread =>
      obtain ⟨⟨-, hwriting⟩, hstep⟩ := Option.ite_none_right_eq_some.mp hstep
      obtain rfl := Option.some.inj hstep
      refine ⟨hprocess.sending, fun other hother => ?_⟩
      obtain rfl := Option.some.inj hother
      exact hwriting

theorem exists_processFinishing {label : SendLabel} {next : Sending}
    (hgoing : process.killed = false) (hfree : process.blocked ≠ some label.thread)
    (hbudget : label.budget = 0) (hnext : connSendStep process.sending label = some next) :
    ∃ label after, sendProcessFinishing.step process label = some after := by
  refine ⟨.send label, { process with sending := next }, (if_pos hbudget).trans ?_⟩
  simp only [sendProcessStep, hgoing, hfree, hnext, Bool.false_eq_true, if_false, Option.map_some]

/-- Beside a thread that stays in its `write`, the other comes back or comes to the lock. -/
theorem SendProcess.Sound.progress_blocked (hprocess : process.Sound)
    (hgoing : process.killed = false) {thread : SendThread}
    (hblocked : process.blocked = some thread) :
    process.Settled ∨ ∃ label after, sendProcessFinishing.step process label = some after := by
  have hwriting := hprocess.blocked thread hblocked
  have hholds : (process.sending.points thread).holds = true := by
    cases hpoint : process.sending.points thread with
    | writing id str totalWaited => rfl
    | _ =>
        rw [hpoint] at hwriting
        cases hwriting
  have hexclusive := hprocess.sending.exclusive
  have hholder := (hexclusive thread).mp hholds
  by_cases hwaits : ∃ str, process.sending.points .reader = .locking str
  · -- the `trylock` of the reader fails
    obtain ⟨str, hpoint⟩ := hwaits
    have hne : process.blocked ≠ some (SendLabel.lock .reader).thread := by
      intro hreader
      have hreading := hprocess.blocked .reader hreader
      rw [hpoint] at hreading
      cases hreading
    have hlock : connSendStep process.sending (.lock .reader) =
        some (process.sending.goto .reader .idle) := by
      simp [connSendStep, hpoint, hholder]
    exact .inr (exists_processFinishing hgoing hne rfl hlock)
  · refine .inl (.inr (.inr ⟨thread, hblocked, hwriting, fun other hother => ?_⟩))
    cases hpoint : process.sending.points other with
    | idle => exact .inl rfl
    | locking str =>
        cases other with
        | main => exact .inr ⟨rfl, str, rfl⟩
        | reader => exact absurd ⟨str, hpoint⟩ hwaits
    | polling _ _ _ | writing _ _ _ | unlocking _ _ =>
        have hother' : (process.sending.points other).holds = true := by rw [hpoint]; rfl
        exact absurd (hexclusive.unique hother' hholds) hother

theorem SendProcess.Sound.progress (hprocess : process.Sound) :
    process.Settled ∨ ∃ label after, sendProcessFinishing.step process label = some after := by
  cases hkilled : process.killed with
  | true => exact .inl (.inl hkilled)
  | false =>
      cases hblocked : process.blocked with
      | some thread => exact hprocess.progress_blocked hkilled hblocked
      | none =>
          rcases hprocess.sending.progress with hidle | ⟨label, next, hstep⟩
          · exact .inl (.inr (.inl hidle))
          · obtain ⟨hbudget, hnext⟩ := Option.ite_none_right_eq_some.mp hstep
            exact .inr (exists_processFinishing hkilled (by simp [hblocked]) hbudget hnext)

theorem sendProcess_sound {labels : List SendProcessLabel}
    (hrun : sendProcess.run labels = some process) : process.Sound := by
  refine Machine.run_invariant ?_ (fun _ _ _ hprocess hstep => hprocess.step hstep) hrun
  exact ⟨sending_sound connSending.run_nil, fun thread hblocked => (by cases hblocked)⟩

/-- **The sends come back, if the writes do.**  A run of the two threads is no longer than the
budgets of its calls and of its fruitless writes together.  In every state it can come to, when no
call and no fruitless write follows, every way in which the threads and the socket may go on ends
with both threads back, with the process killed in a `write`, or with one thread in a `write` that
does not return: then the reader is back, if it is not the one, and the main thread is back or
waits for the mutex.  While all writes return, it ends with both threads back. -/
theorem sends_return {labels : List SendProcessLabel}
    (hrun : sendProcess.run labels = some process) :
    labels.length ≤ (labels.map SendProcessLabel.budget).sum ∧
      sendProcessFinishing.Inevitable SendProcess.Settled process ∧
      connSendFinishing.Inevitable (fun state => ∀ thread, state.points thread = .idle)
        process.sending := by
  have hsound := sendProcess_sound hrun
  refine ⟨?_, ?_, hsound.sending.finishes⟩
  · have hlength := Machine.length_le_of_potential (m := sendProcess) rfl
      (fun _ _ _ hstep => sendProcessStep_potential hstep) hrun
    exact Nat.le_of_add_right_le hlength
  · refine Machine.Inevitable.of_potential SendProcess.potential
      (fun _ => SendProcess.Sound.progress) ?_ hsound
    intro process label after hprocess hstep
    obtain ⟨hbudget, hafter⟩ := Option.ite_none_right_eq_some.mp hstep
    have hpotential := sendProcessStep_potential hafter
    rw [hbudget] at hpotential
    exact ⟨hprocess.step hafter, hpotential⟩

/-- The main thread stays in the `write` of a packet while the reader is at the lock. -/
theorem sends_return_blocked :
    let labels := [SendProcessLabel.send (.call .main [36, 79, 75, 35, 57, 97]),
      .send (.lock .main), .send (.poll .main true), .send (.write .main .interrupted),
      .send (.poll .main true), .send (.call .reader [43]), .block .main]
    ∃ process, sendProcess.run labels = some process ∧
      process.blocked = some .main ∧ process.sending.points .reader = .locking [43] ∧
      sendProcessFinishing.Inevitable SendProcess.Settled process := by
  intro labels
  obtain ⟨process, hrun, hblocked, hreader⟩ : ∃ process, sendProcess.run labels = some process ∧
      process.blocked = some .main ∧ process.sending.points .reader = .locking [43] :=
    ⟨_, rfl, rfl, rfl⟩
  exact ⟨process, hrun, hblocked, hreader, (sends_return hrun).2.1⟩

end MiniGdbstub
