import MiniGdbstub.Library.Heap
import MiniGdbstub.Library.Machine
import MiniGdbstub.Stub

/-!
# The register buffer over its calls

`regbuf.c` with the blocks themselves: `regbuf_get` frees the block it has before it asks
for a longer one, and it has then already doubled `sz`.  A run is a list of calls, each with
the size that is asked for and what `malloc` would answer.

Whatever the allocations do, the doubling ends without wrapping and no call returns a block
that was freed or that is too short (`Usable`).  But a `malloc` that fails leaves `NULL`
behind with the doubled size, and every later call that asks for no more than this size is
answered with this `NULL`.  So the buffer is what it says it is, and recovers, as long as no
`malloc` fails (`regbuf_recovers_iff`).
-/

namespace MiniGdbstub

/-! ## Calls -/

/-- A call of `regbuf_get`: the size, and whether there is memory in case it is needed. -/
structure BufferCall where
  regSz : ℕ
  available : Bool
  regSz_le : regSz ≤ 2 ^ 63 := by decide

/-- `regbuf_t` with the heap its block is in, and what the last call returned. -/
structure BufferRun where
  heap : Heap
  buf : Option ℕ
  sz : ℕ
  answer : Option (BufferCall × Option ℕ)

/-- A successful `regbuf_init`. -/
def BufferRun.init : BufferRun :=
  let (buf, heap) := Heap.empty.malloc true 8
  { heap := heap, buf := buf, sz := 8, answer := none }

/-- `regbuf_get`; no result if it does not return. -/
def BufferRun.get (run : BufferRun) (call : BufferCall) : Option BufferRun :=
  if call.regSz ≤ run.sz then
    some { run with answer := some (call, run.buf) }
  else do
    let heap ← run.heap.free? run.buf
    let sz ← regbufGrow call.regSz 65 run.sz
    let (buf, heap) := heap.malloc call.available sz
    return { heap := heap, buf := buf, sz := sz, answer := some (call, buf) }

def registerBuffer : Machine BufferRun BufferCall where
  start := BufferRun.init
  step := BufferRun.get

/-- The buffer without its heap, as the handlers see it. -/
def BufferRun.regbuf (run : BufferRun) : Regbuf :=
  { buf := run.buf.bind run.heap.size?, sz := run.sz }

/-! ## The law of the buffer -/

/-- The doubling ends without wrapping for every size, and a pointer that was returned leads
to a live block of at least the size asked for. -/
structure BufferRun.Usable (run : BufferRun) : Prop where
  doubles : ∀ regSz ≤ 2 ^ 63, ∃ turns,
    regbufGrow regSz 65 run.sz = some (run.sz * 2 ^ turns) ∧ run.sz * 2 ^ turns ≤ 2 ^ 63
  size_pos : 0 < run.sz
  live : ∀ call block, run.answer = some (call, some block) →
    ∃ length, run.heap.size? block = some length ∧ call.regSz ≤ length

/-- `sz` is not more than what the buffer holds, and a call gets a block when there is
memory. -/
structure BufferRun.Recovers (run : BufferRun) : Prop where
  size_le : run.sz ≤ run.heap.held run.buf
  served : ∀ call pointer, run.answer = some (call, pointer) → call.available = true →
    pointer.isSome = true

/-- If the call needs a longer block, there is memory for it. -/
def MemoryThere (run : BufferRun) (call : BufferCall) : Prop :=
  run.sz < call.regSz → call.available = true

/-! ## Doubling -/

/-- A power of two is doubled to another one, without wrapping. -/
theorem regbufGrow_doubles {regSz : ℕ} (hregSz : regSz ≤ 2 ^ 63) (fuel : ℕ) :
    ∀ k ≤ 63, 63 - k < fuel →
      ∃ turns, regbufGrow regSz fuel (2 ^ k) = some (2 ^ k * 2 ^ turns) ∧ k + turns ≤ 63 := by
  induction fuel with
  | zero =>
      intro k _ hfuel
      exact absurd hfuel (by omega)
  | succ fuel ih =>
      intro k hk hfuel
      by_cases henough : regSz ≤ 2 ^ k
      · exact ⟨0, by rw [regbufGrow, if_pos henough, Nat.pow_zero, Nat.mul_one], hk⟩
      · have hlt : k < 63 := by
          by_contra hlast
          rw [show k = 63 by omega] at henough
          exact henough hregSz
        obtain ⟨turns, hgrow, hturns⟩ := ih (k + 1) hlt (by omega)
        have hbound : 2 ^ (k + 1) < 2 ^ 64 := Nat.pow_lt_pow_right (by decide) (by omega)
        have hdouble : 2 * 2 ^ k % 2 ^ 64 = 2 ^ (k + 1) := by
          rw [Nat.mul_comm, ← Nat.pow_succ, Nat.mod_eq_of_lt hbound]
        refine ⟨turns + 1, ?_, by omega⟩
        rw [regbufGrow, if_neg henough, hdouble, hgrow]
        congr 1
        rw [← Nat.pow_add, ← Nat.pow_add]
        congr 1
        omega

/-! ## Every run -/

/-- What every sequence of calls keeps: `sz` is a power of two, the buffer has no block or a
live one of this length, and the last call returned what the buffer has. -/
structure BufferRun.Sound (run : BufferRun) : Prop where
  power : ∃ k ≤ 63, run.sz = 2 ^ k
  block : run.buf = none ∨ ∃ block, run.buf = some block ∧ run.heap.size? block = some run.sz
  answered : ∀ call pointer, run.answer = some (call, pointer) →
    pointer = run.buf ∧ call.regSz ≤ run.sz

theorem BufferRun.Sound.start : BufferRun.init.Sound :=
  ⟨⟨3, by decide, rfl⟩, .inr ⟨0, rfl, rfl⟩, fun _ _ hanswer => by cases hanswer⟩

/-- A call for which the block is long enough. -/
theorem get_of_enough {run : BufferRun} {call : BufferCall} (henough : call.regSz ≤ run.sz) :
    run.get call = some { run with answer := some (call, run.buf) } :=
  if_pos henough

/-- A call that needs a longer block: the old one is freed, and the new one, if there is
memory, has the doubled size. -/
theorem BufferRun.Sound.grow {run : BufferRun} (hsound : run.Sound) {call : BufferCall}
    (hshort : run.sz < call.regSz) :
    ∃ heap k, run.heap.free? run.buf = some heap ∧ k ≤ 63 ∧ call.regSz ≤ 2 ^ k ∧
      regbufGrow call.regSz 65 run.sz = some (2 ^ k) ∧
      run.get call = some
        { heap := (heap.malloc call.available (2 ^ k)).2
          buf := (heap.malloc call.available (2 ^ k)).1
          sz := 2 ^ k
          answer := some (call, (heap.malloc call.available (2 ^ k)).1) } := by
  obtain ⟨k, hk, hpower⟩ := hsound.power
  obtain ⟨turns, hgrow, hturns⟩ := regbufGrow_doubles call.regSz_le 65 k hk (by omega)
  rw [← Nat.pow_add] at hgrow
  have hfree : ∃ heap, run.heap.free? run.buf = some heap := by
    rcases hsound.block with hnone | ⟨block, hblock, hlive⟩
    · exact ⟨run.heap, by rw [hnone]; rfl⟩
    · exact ⟨_, by rw [hblock]; exact Heap.free?_live hlive⟩
  obtain ⟨heap, hheap⟩ := hfree
  have hgrown : regbufGrow call.regSz 65 run.sz = some (2 ^ (k + turns)) := by rw [hpower, hgrow]
  refine ⟨heap, k + turns, hheap, hturns, le_of_regbufGrow hgrown, hgrown, ?_⟩
  rw [BufferRun.get, if_neg (by omega), hheap, hgrown]
  rfl

/-- What `malloc` leaves is a sound buffer, whether it fails or not. -/
theorem BufferRun.Sound.renew (heap : Heap) {call : BufferCall} {k : ℕ} (hk : k ≤ 63)
    (hlong : call.regSz ≤ 2 ^ k) :
    BufferRun.Sound
      { heap := (heap.malloc call.available (2 ^ k)).2
        buf := (heap.malloc call.available (2 ^ k)).1
        sz := 2 ^ k
        answer := some (call, (heap.malloc call.available (2 ^ k)).1) } := by
  refine ⟨⟨k, hk, rfl⟩, ?_, ?_⟩
  · cases call.available with
    | false => exact .inl rfl
    | true => exact .inr ⟨_, rfl, Heap.size?_malloc _⟩
  · intro answered pointer hanswer
    cases hanswer
    exact ⟨rfl, hlong⟩

/-- **A call returns, and leaves a sound buffer.** -/
theorem BufferRun.Sound.step {run : BufferRun} (hsound : run.Sound) (call : BufferCall) :
    ∃ next, registerBuffer.step run call = some next ∧ next.Sound := by
  rcases Nat.lt_or_ge run.sz call.regSz with hshort | henough
  · obtain ⟨heap, k, -, hk, hlong, -, hget⟩ := hsound.grow hshort
    exact ⟨_, hget, .renew heap hk hlong⟩
  · refine ⟨_, get_of_enough henough, hsound.power, hsound.block, ?_⟩
    intro answered pointer hanswer
    cases hanswer
    exact ⟨rfl, henough⟩

theorem BufferRun.Sound.usable {run : BufferRun} (hsound : run.Sound) : run.Usable := by
  obtain ⟨k, hk, hpower⟩ := hsound.power
  refine ⟨fun regSz hregSz => ?_, ?_, ?_⟩
  · obtain ⟨turns, hgrow, hturns⟩ := regbufGrow_doubles hregSz 65 k hk (by omega)
    refine ⟨turns, by rw [hpower, hgrow], ?_⟩
    rw [hpower, ← Nat.pow_add]
    exact Nat.pow_le_pow_right (by decide) hturns
  · rw [hpower]
    exact Nat.two_pow_pos k
  · intro call block hanswer
    obtain ⟨hbuf, hlong⟩ := hsound.answered call (some block) hanswer
    rcases hsound.block with hnone | ⟨held, hheld, hlive⟩
    · rw [hnone] at hbuf
      cases hbuf
    · rw [hheld] at hbuf
      cases hbuf
      exact ⟨run.sz, hlive, hlong⟩

/-- Every sequence of calls returns, to a sound buffer. -/
theorem registerBuffer_runs (calls : List BufferCall) :
    ∃ run, registerBuffer.run calls = some run ∧ run.Sound := by
  induction calls using List.reverseRecOn with
  | nil => exact ⟨BufferRun.init, rfl, .start⟩
  | append_singleton calls call ih =>
      obtain ⟨run, hrun, hsound⟩ := ih
      obtain ⟨next, hstep, hnext⟩ := hsound.step call
      exact ⟨next, Machine.run_concat hrun hstep, hnext⟩

theorem registerBuffer_sound {calls : List BufferCall} {run : BufferRun}
    (hrun : registerBuffer.run calls = some run) : run.Sound := by
  obtain ⟨other, hother, hsound⟩ := registerBuffer_runs calls
  rw [hrun] at hother
  cases hother
  exact hsound

/-! ## Recovery -/

/-- A sound buffer recovers exactly when it has a block. -/
theorem BufferRun.Sound.recovers_iff {run : BufferRun} (hsound : run.Sound) :
    run.Recovers ↔ run.buf.isSome = true := by
  constructor
  · intro hrecovers
    by_contra hnone
    have hsize := hrecovers.size_le
    rw [Option.not_isSome_iff_eq_none.mp hnone] at hsize
    exact absurd hsize (Nat.not_le.mpr hsound.usable.size_pos)
  · intro hsome
    rcases hsound.block with hnone | ⟨block, hblock, hlive⟩
    · rw [hnone] at hsome
      cases hsome
    · refine ⟨?_, ?_⟩
      · rw [hblock, Heap.held_live hlive]
      · intro call pointer hanswer _
        rw [(hsound.answered call pointer hanswer).1]
        exact hsome

/-- After a call the buffer has a block if it had one and memory was there when needed. -/
theorem buf_isSome_step {run next : BufferRun} {call : BufferCall} (hsound : run.Sound)
    (hstep : registerBuffer.step run call = some next) :
    next.buf.isSome = if run.sz < call.regSz then call.available else run.buf.isSome := by
  by_cases hshort : run.sz < call.regSz
  · obtain ⟨heap, k, -, -, -, -, hget⟩ := hsound.grow hshort
    have heq : registerBuffer.step run call = run.get call := rfl
    rw [heq, hget] at hstep
    cases hstep
    rw [if_pos hshort]
    cases call.available <;> rfl
  · have heq : registerBuffer.step run call = run.get call := rfl
    rw [heq, get_of_enough (Nat.le_of_not_lt hshort)] at hstep
    cases hstep
    rw [if_neg hshort]

/-- **The buffer recovers as long as no allocation fails.**  Every sequence of calls returns,
and every buffer it passes through is usable, whatever the allocations do.  All of them are
what `sz` says and recover, if and only if there is memory for each call that needs a longer
block. -/
theorem regbuf_recovers_iff (calls : List BufferCall) :
    (registerBuffer.run calls).isSome = true ∧
      registerBuffer.Throughout BufferRun.Usable calls ∧
      (registerBuffer.Throughout (fun run => run.Usable ∧ run.Recovers) calls ↔
        registerBuffer.Guarded MemoryThere calls) := by
  obtain ⟨final, hfinal, -⟩ := registerBuffer_runs calls
  refine ⟨by rw [hfinal]; rfl, fun _ _ _ hrun => (registerBuffer_sound hrun).usable, ?_⟩
  have hstart : registerBuffer.start.Sound := .start
  refine Machine.throughout_iff_guarded
    ⟨hstart, hstart.usable, hstart.recovers_iff.mpr rfl⟩ ?_ hfinal
  intro run call next hsound hstep
  have hnext : next.Sound := by
    obtain ⟨other, hother, hnext⟩ := hsound.step call
    rw [hstep] at hother
    cases hother
    exact hnext
  refine ⟨hnext, fun hbefore => ?_⟩
  rw [and_iff_right hnext.usable, hnext.recovers_iff, buf_isSome_step hsound hstep, MemoryThere]
  by_cases hshort : run.sz < call.regSz
  · rw [if_pos hshort, forall_prop_of_true hshort]
  · rw [if_neg hshort]
    exact iff_of_true (hsound.recovers_iff.mp hbefore.2) fun hshort' => absurd hshort' hshort

/-- A request for 16 bytes that finds no memory, and then one for 8 when there is memory
again: the answer is `NULL`. -/
theorem regbuf_staysNull :
    let failing : BufferCall := { regSz := 16, available := false }
    let later : BufferCall := { regSz := 8, available := true }
    ∃ run, registerBuffer.run [failing, later] = some run ∧
      run.answer = some (later, none) ∧ run.sz = 16 ∧ run.heap.held run.buf = 0 ∧
      ¬ run.Recovers := by
  intro failing later
  refine ⟨_, rfl, rfl, rfl, rfl, fun hrecovers => ?_⟩
  exact Bool.false_ne_true (hrecovers.served later none rfl rfl)

/-! ## The handlers' buffer -/

section

variable {σ : Type} {stub : Gdbstub σ}

/-- A call of a handler is a step of this machine: it returns the length of the block that
the step returns, and leaves the same buffer. -/
theorem regbufGet_step {run next : BufferRun} {call : BufferCall} (hsound : run.Sound)
    (hstep : registerBuffer.step run call = some next) (state : StubState σ)
    (hregbuf : state.regbuf = run.regbuf)
    (havailable : ∀ bytes, stub.mallocs state.allocations bytes = call.available) :
    (regbufGet stub call.regSz state).1 = .ok next.regbuf.buf ∧
      (regbufGet stub call.regSz state).2.regbuf = next.regbuf := by
  have hget : run.get call = some next := hstep
  have hsz : state.regbuf.sz = run.sz := congrArg Regbuf.sz hregbuf
  unfold regbufGet
  rw [Program.get_bind, hsz]
  rcases Nat.lt_or_ge run.sz call.regSz with hshort | henough
  · obtain ⟨heap, k, -, -, -, hgrow, hrenew⟩ := hsound.grow hshort
    obtain rfl := Option.some.inj (hget.symm.trans hrenew)
    have hmalloc : malloc stub (2 ^ k) state =
        (.ok (if call.available then some (2 ^ k) else none),
          { state with allocations := state.allocations + 1 }) := by
      rw [← havailable (2 ^ k)]
      rfl
    have hblock : ((heap.malloc call.available (2 ^ k)).1.bind
        (heap.malloc call.available (2 ^ k)).2.size?) =
        if call.available then some (2 ^ k) else none := by
      cases call.available with
      | false => rfl
      | true => exact Heap.size?_malloc _
    rw [if_neg (Nat.not_le.mpr hshort), hgrow]
    dsimp only
    rw [Program.bind_of_ok hmalloc]
    exact ⟨congrArg Except.ok hblock.symm, congrArg (fun buf => Regbuf.mk buf (2 ^ k)) hblock.symm⟩
  · obtain rfl := Option.some.inj (hget.symm.trans (get_of_enough henough))
    rw [if_pos henough]
    exact ⟨congrArg (fun reg => Except.ok (Regbuf.buf reg)) hregbuf, hregbuf⟩

end

end MiniGdbstub
