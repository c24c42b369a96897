import MiniGdbstub.Handlers
import MiniGdbstub.Library.Layout

/-!
# `G` is all or nothing

`process_reg_write` parses the whole payload and saves every register before it
writes the first one, and puts back what it has written when a write is refused.

The target is described by `IndependentRegisters`: a value for every register, what
a successful read and a successful write do to the values, and that a failing
operation changes nothing.  Each of the three loops has one lemma that says what it
does to the values; the slots of the two temporary blocks are those of `Layout`.
`processRegWrite_all_or_nothing` puts the loops together.
-/

namespace MiniGdbstub

open CString Layout

variable {σ : Type} {stub : Gdbstub σ}

/-! ## Independent registers -/

/-- The size of register `i`. -/
def Gdbstub.regSize (stub : Gdbstub σ) (i : ℕ) : ℕ :=
  stub.ops.getRegBytes i

theorem Gdbstub.totalRegBytes_eq_offset (stub : Gdbstub σ) :
    stub.totalRegBytes = offset stub.regSize stub.arch.registers :=
  stub.totalRegBytes_eq.trans (offset_eq_sum stub.regSize stub.arch.registers).symm

/-- Registers that are read and written independently of each other: `value` is what
they hold, and a failing operation leaves the target as it was. -/
structure IndependentRegisters (stub : Gdbstub σ) where
  read : σ → ℤ → (Int32 × List UInt8) × σ
  write : σ → ℤ → List UInt8 → Int32 × σ
  value : σ → ℕ → List UInt8
  readReg_eq : stub.ops.readReg = some read
  writeReg_eq : stub.ops.writeReg = some write
  read_value : ∀ target, ∀ i < stub.arch.registers, (read target i).1.1 = 0 →
    (read target i).1.2 = value target i
  read_keeps : ∀ target, ∀ i < stub.arch.registers, (read target i).1.1 = 0 →
    ∀ j < stub.arch.registers, value (read target i).2 j = value target j
  read_failed : ∀ target, ∀ i < stub.arch.registers, (read target i).1.1 ≠ 0 →
    (read target i).2 = target
  write_value : ∀ target, ∀ i < stub.arch.registers, ∀ data, data.length = stub.regSize i →
    (write target i data).1 = 0 → ∀ j < stub.arch.registers,
      value (write target i data).2 j = if j = i then data else value target j
  write_failed : ∀ target, ∀ i < stub.arch.registers, ∀ data, (write target i data).1 ≠ 0 →
    (write target i data).2 = target

namespace IndependentRegisters

variable (regs : IndependentRegisters stub)

/-- The states that reads and writes of registers lead to. -/
inductive Reaches : σ → σ → Prop
  | refl (target : σ) : Reaches target target
  | read {start target : σ} (regno : ℤ) :
      Reaches start target → Reaches start (regs.read target regno).2
  | write {start target : σ} (regno : ℤ) (data : List UInt8) :
      Reaches start target → Reaches start (regs.write target regno data).2

theorem Reaches.trans {first second third : σ} (hfirst : regs.Reaches first second)
    (hsecond : regs.Reaches second third) : regs.Reaches first third := by
  induction hsecond with
  | refl => exact hfirst
  | read regno _ ih => exact ih.read regno
  | write regno data _ ih => exact ih.write regno data

/-- From this state on, the value that was read from a register can be written back to
it, also after other accesses. -/
def AcceptsReadValues (start : σ) : Prop :=
  ∀ target, regs.Reaches start target → ∀ i < stub.arch.registers,
    (regs.read target i).1.1 = 0 → ∀ later, regs.Reaches (regs.read target i).2 later →
      (regs.write later i (regs.read target i).1.2).1 = 0

/-- From this state on, every read succeeds and every write of the right length
succeeds. -/
structure AllSucceed (target : σ) : Prop where
  read : ∀ later, regs.Reaches target later → ∀ i < stub.arch.registers,
    (regs.read later i).1.1 = 0
  write : ∀ later, regs.Reaches target later → ∀ i < stub.arch.registers, ∀ data,
    data.length = stub.regSize i → (regs.write later i data).1 = 0

theorem AllSucceed.reaches {regs : IndependentRegisters stub} {target later : σ}
    (hall : regs.AllSucceed target) (hreach : regs.Reaches target later) :
    regs.AllSucceed later :=
  ⟨fun final hfinal => hall.read final (hreach.trans regs hfinal),
    fun final hfinal => hall.write final (hreach.trans regs hfinal)⟩

/-- Writing `data` to register `i` is accepted, now and after other accesses. -/
def Restorable (target : σ) (i : ℕ) (data : List UInt8) : Prop :=
  ∀ later, regs.Reaches target later → (regs.write later i data).1 = 0

theorem Restorable.reaches {regs : IndependentRegisters stub} {target later : σ} {i : ℕ}
    {data : List UInt8} (hrestore : regs.Restorable target i data)
    (hreach : regs.Reaches target later) : regs.Restorable later i data :=
  fun final hfinal => hrestore final (hreach.trans regs hfinal)

theorem length_value (target : σ) {i : ℕ} (hi : i < stub.arch.registers)
    (hread : (regs.read target i).1.1 = 0) :
    (regs.value target i).length = stub.regSize i := by
  rw [← regs.read_value target i hi hread]
  exact stub.ops.length_readReg regs.read regs.readReg_eq target i hread

theorem AllSucceed.acceptsReadValues {regs : IndependentRegisters stub} {target : σ}
    (hall : regs.AllSucceed target) : regs.AcceptsReadValues target :=
  fun between hbetween i hi hread later hlater =>
    hall.write later (hbetween.trans regs ((Reaches.read i (.refl _)).trans regs hlater)) i hi _
      (stub.ops.length_readReg regs.read regs.readReg_eq between i hread)

end IndependentRegisters

/-! ## Accesses -/

/-- The operation failed. -/
def TargetCall.failed : TargetCall → Bool
  | .readReg _ ret _ => ret != 0
  | .writeReg _ _ ret => ret != 0
  | .readMem _ _ ret _ => ret != 0
  | .writeMem _ _ _ ret => ret != 0
  | _ => false

/-- The steps between two states only accessed registers, and these were the
accesses. -/
structure Accessed (regs : IndependentRegisters stub) (state after : StubState σ)
    (accesses : List TargetCall) : Prop where
  sent : after.sent = state.sent
  regbuf : after.regbuf = state.regbuf
  calls : after.calls = state.calls ++ accesses
  reaches : regs.Reaches state.target after.target
  succeed : regs.AllSucceed state.target → ∀ call ∈ accesses, call.failed = false

namespace Accessed

variable {regs : IndependentRegisters stub} {state between after : StubState σ}
  {first second : List TargetCall}

theorem refl (state : StubState σ) : Accessed regs state state [] :=
  ⟨rfl, rfl, by simp, .refl _, by simp⟩

theorem trans (hfirst : Accessed regs state between first)
    (hsecond : Accessed regs between after second) :
    Accessed regs state after (first ++ second) :=
  ⟨hsecond.sent.trans hfirst.sent, hsecond.regbuf.trans hfirst.regbuf,
    by rw [hsecond.calls, hfirst.calls, List.append_assoc],
    hfirst.reaches.trans regs hsecond.reaches, by
      intro hall call hmem
      rcases List.mem_append.mp hmem with hmem | hmem
      · exact hfirst.succeed hall call hmem
      · exact hsecond.succeed (hall.reaches hfirst.reaches) call hmem⟩

theorem read (regs : IndependentRegisters stub) (state : StubState σ) {i : ℕ}
    (hi : i < stub.arch.registers) :
    let result := regs.read state.target i
    let call := TargetCall.readReg i result.1.1 result.1.2
    Accessed regs state (state.called call result.2) [call] := by
  refine ⟨rfl, rfl, rfl, (IndependentRegisters.Reaches.refl _).read i, ?_⟩
  intro hall call hmem
  obtain rfl := List.mem_singleton.mp hmem
  simp [TargetCall.failed, hall.read _ (.refl _) i hi]

theorem write (regs : IndependentRegisters stub) (state : StubState σ) {i : ℕ}
    (hi : i < stub.arch.registers) {data : List UInt8} (hdata : data.length = stub.regSize i) :
    let result := regs.write state.target i data
    let call := TargetCall.writeReg i data result.1
    Accessed regs state (state.called call result.2) [call] := by
  refine ⟨rfl, rfl, rfl, (IndependentRegisters.Reaches.refl _).write i data, ?_⟩
  intro hall call hmem
  obtain rfl := List.mem_singleton.mp hmem
  simp [TargetCall.failed, hall.write _ (.refl _) i hi data hdata]

end Accessed

variable (regs : IndependentRegisters stub)

/-! ## The first pass: parse and save -/

/-- The bytes that `str_to_hex` decodes from slot `i` of the payload. -/
def payloadSlot (stub : Gdbstub σ) (payload : List UInt8) (i : ℕ) : List UInt8 :=
  hexPairs (Block.slice payload (2 * offset stub.regSize i) (2 * stub.regSize i))

theorem length_payloadSlot {payload : List UInt8} {i : ℕ} (hi : i < stub.arch.registers)
    (hlength : payload.length = 2 * stub.totalRegBytes) :
    (payloadSlot stub payload i).length = stub.regSize i := by
  have hend := offset_add_size_le stub.regSize hi
  have htotal := stub.totalRegBytes_eq_offset
  exact length_hexPairs (by rw [Block.length_slice]; omega)

/-! ### The turns of the loops -/

/-- A turn of the first pass parses the value of its register and then reads the register;
both blocks have room for it. -/
theorem regWriteParse_succ {payload newValues backupValues : List UInt8} (rest : List UInt8)
    (hlength : payload.length = 2 * stub.totalRegBytes) (hbound : payload.length < 2 ^ 31)
    (hnew : newValues.length = stub.totalRegBytes) {i : ℕ} (hi : i < stub.arch.registers)
    (todo : ℕ) (state : StubState σ) :
    regWriteParse stub (payload ++ 0 :: rest) (todo + 1) i (2 * offset stub.regSize i)
        (offset stub.regSize i) newValues backupValues state =
      (do
        let (ret, old) ← callReadReg stub i (some (backupValues.length - offset stub.regSize i))
        if ret = 0 then
          let backupValues ← Program.lift
            (inBounds (Block.write? backupValues (offset stub.regSize i) old))
          regWriteParse stub (payload ++ 0 :: rest) todo (i + 1)
            (2 * offset stub.regSize i + stub.regSize i * 2)
            (offset stub.regSize i + stub.regSize i)
            (Block.overwrite newValues (offset stub.regSize i) (payloadSlot stub payload i))
            backupValues
        else
          return .error ret : StubM σ _) state := by
  have hend := offset_add_size_le stub.regSize hi
  have htotal := stub.totalRegBytes_eq_offset
  have hdecode : strToHex ((payload ++ 0 :: rest).drop (2 * offset stub.regSize i))
      (asInt (stub.regSize i)) = .ok (payloadSlot stub payload i) := by
    rw [asInt_of_lt (by omega), strToHex_eq (by simp; omega), payloadSlot, Block.slice,
      Int.toNat_natCast, List.drop_append_of_le_length (by omega),
      List.take_append_of_le_length (by rw [List.length_drop]; omega)]
  have hwrite : Block.write? newValues (offset stub.regSize i) (payloadSlot stub payload i) =
      some (Block.overwrite newValues (offset stub.regSize i) (payloadSlot stub payload i)) := by
    have hdecoded := length_payloadSlot hi hlength
    exact Block.write?_eq_some.mpr ⟨by omega, rfl⟩
  rw [regWriteParse]
  change (Program.lift (strToHex ((payload ++ 0 :: rest).drop (2 * offset stub.regSize i))
    (asInt (stub.regSize i))) >>= _) state = _
  rw [hdecode, Program.lift_ok_bind, hwrite, inBounds_some, Program.lift_ok_bind]
  rfl

/-- With the operation there, the register cannot be read, or the pass goes on to the next
register with both blocks filled. -/
theorem regWriteParse_turn {op : σ → ℤ → (Int32 × List UInt8) × σ}
    (hop : stub.ops.readReg = some op) {payload newValues backupValues : List UInt8}
    (rest : List UInt8) (hlength : payload.length = 2 * stub.totalRegBytes)
    (hbound : payload.length < 2 ^ 31) (hnew : newValues.length = stub.totalRegBytes)
    (hbackup : backupValues.length = stub.totalRegBytes) {i : ℕ} (hi : i < stub.arch.registers)
    (todo : ℕ) (state : StubState σ) :
    regWriteParse stub (payload ++ 0 :: rest) (todo + 1) i (2 * offset stub.regSize i)
        (offset stub.regSize i) newValues backupValues state =
      let result := op state.target i
      let after := state.called (.readReg i result.1.1 result.1.2) result.2
      if result.1.1 = 0 then
        regWriteParse stub (payload ++ 0 :: rest) todo (i + 1) (2 * offset stub.regSize (i + 1))
          (offset stub.regSize (i + 1))
          (Block.overwrite newValues (offset stub.regSize i) (payloadSlot stub payload i))
          (Block.overwrite backupValues (offset stub.regSize i) result.1.2) after
      else
        (.ok (.error result.1.1), after) := by
  have hend := offset_add_size_le stub.regSize hi
  have htotal := stub.totalRegBytes_eq_offset
  have hcall := callReadReg_some hop i
    (some (backupValues.length - offset stub.regSize i)) state
  dsimp only at hcall ⊢
  rw [regWriteParse_succ rest hlength hbound hnew hi]
  by_cases hret : (op state.target i).1.1 = 0
  · have hvalue : (op state.target i).1.2.length = stub.regSize i :=
      stub.ops.length_readReg op hop state.target i hret
    have hwrite : Block.write? backupValues (offset stub.regSize i) (op state.target i).1.2 =
        some (Block.overwrite backupValues (offset stub.regSize i) (op state.target i).1.2) :=
      Block.write?_eq_some.mpr ⟨by omega, rfl⟩
    rw [if_pos hret, storeAt_some (by omega)] at hcall
    rw [Program.bind_of_ok hcall, if_pos hret]
    dsimp only
    rw [if_pos hret, hwrite, inBounds_some, Program.lift_ok_bind, offset_succ, Nat.mul_add,
      Nat.mul_comm 2 (stub.regSize i)]
  · rw [if_neg hret] at hcall
    rw [Program.bind_of_ok hcall, if_neg hret]
    dsimp only
    rw [if_neg hret]
    rfl

/-- A turn of the second pass: the write is refused, or the pass goes on. -/
theorem regWriteCommit_turn {op : σ → ℤ → List UInt8 → Int32 × σ}
    (hop : stub.ops.writeReg = some op) (newValues : List UInt8) (todo i : ℕ)
    (state : StubState σ) :
    regWriteCommit stub newValues (todo + 1) i (offset stub.regSize i) state =
      let result := op state.target i (slot stub.regSize newValues i)
      let after := state.called (.writeReg i (slot stub.regSize newValues i) result.1) result.2
      if result.1 = 0 then
        regWriteCommit stub newValues todo (i + 1) (offset stub.regSize (i + 1)) after
      else
        (.ok (some (i, result.1)), after) := by
  have hcall := callWriteReg_some hop i (slot stub.regSize newValues i) state
  dsimp only at hcall ⊢
  rw [regWriteCommit]
  change (callWriteReg stub i (slot stub.regSize newValues i) >>= _) state = _
  rw [Program.bind_of_ok hcall, offset_succ]
  split
  · rfl
  · rfl

/-- A turn of the rollback, which does not look at the answer. -/
theorem regWriteRollback_turn {op : σ → ℤ → List UInt8 → Int32 × σ}
    (hop : stub.ops.writeReg = some op) (backupValues : List UInt8) (todo i : ℕ)
    (state : StubState σ) :
    regWriteRollback stub backupValues (todo + 1) i (offset stub.regSize i) state =
      let result := op state.target i (slot stub.regSize backupValues i)
      regWriteRollback stub backupValues todo (i + 1) (offset stub.regSize (i + 1))
        (state.called (.writeReg i (slot stub.regSize backupValues i) result.1) result.2) := by
  have hcall := callWriteReg_some hop i (slot stub.regSize backupValues i) state
  dsimp only at hcall ⊢
  rw [regWriteRollback]
  change (callWriteReg stub i (slot stub.regSize backupValues i) >>= _) state = _
  rw [Program.bind_of_ok hcall, offset_succ]
  rfl

/-- What the first pass has done when it reaches register `i`. -/
structure Parsed (state : StubState σ) (payload : List UInt8) (i : ℕ)
    (newValues backupValues : List UInt8) (after : StubState σ) : Prop where
  length_new : newValues.length = stub.totalRegBytes
  length_backup : backupValues.length = stub.totalRegBytes
  new : ∀ j < i, slot stub.regSize newValues j = payloadSlot stub payload j
  backup : ∀ j < i, slot stub.regSize backupValues j = regs.value state.target j
  reaches : regs.Reaches state.target after.target
  values : ∀ j < stub.arch.registers, regs.value after.target j = regs.value state.target j
  restorable : regs.AcceptsReadValues state.target →
    ∀ j < i, regs.Restorable after.target j (regs.value state.target j)

/-- A turn that reads its register, which is then parsed and saved. -/
theorem Parsed.step {state between : StubState σ} {payload : List UInt8} {i : ℕ}
    {newValues backupValues : List UInt8}
    (hparsed : Parsed regs state payload i newValues backupValues between)
    (hi : i < stub.arch.registers) (hlength : payload.length = 2 * stub.totalRegBytes)
    (hread : (regs.read between.target i).1.1 = 0) :
    let result := regs.read between.target i
    Parsed regs state payload (i + 1)
      (Block.overwrite newValues (offset stub.regSize i) (payloadSlot stub payload i))
      (Block.overwrite backupValues (offset stub.regSize i) result.1.2)
      (between.called (.readReg i result.1.1 result.1.2) result.2) := by
  intro result
  have hend := offset_add_size_le stub.regSize hi
  have htotal := stub.totalRegBytes_eq_offset
  have hnewLength := hparsed.length_new
  have hbackupLength := hparsed.length_backup
  have hdecoded := length_payloadSlot hi hlength
  have hvalue := regs.read_value _ i hi hread
  have hsize : result.1.2.length = stub.regSize i :=
    stub.ops.length_readReg _ regs.readReg_eq _ _ hread
  constructor
  · rw [Block.length_overwrite (by omega), hnewLength]
  · rw [Block.length_overwrite (by omega), hbackupLength]
  · intro j hj
    by_cases hlast : j = i
    · rw [hlast, slot_overwrite_self hi (by omega) hdecoded]
    · rw [slot_overwrite_of_ne hi hlast (by omega) hdecoded, hparsed.new j (by omega)]
  · intro j hj
    by_cases hlast : j = i
    · rw [hlast, slot_overwrite_self hi (by omega) hsize, hvalue, hparsed.values i hi]
    · rw [slot_overwrite_of_ne hi hlast (by omega) hsize, hparsed.backup j (by omega)]
  · exact hparsed.reaches.read i
  · intro j hj
    rw [← hparsed.values j hj]
    exact regs.read_keeps _ i hi hread j hj
  · intro haccepts j hj
    by_cases hlast : j = i
    · rw [hlast, ← hparsed.values i hi, ← hvalue]
      exact haccepts _ hparsed.reaches i hi hread
    · exact (hparsed.restorable haccepts j (by omega)).reaches
        ((IndependentRegisters.Reaches.refl _).read _)

/-- **The first pass.**  A register cannot be read and no register is changed, or
every register is parsed and saved. -/
theorem regWriteParse_spec {state : StubState σ} {payload : List UInt8} (rest : List UInt8)
    (hlength : payload.length = 2 * stub.totalRegBytes) (hbound : payload.length < 2 ^ 31)
    (todo : ℕ) : ∀ (i : ℕ) (newValues backupValues : List UInt8) (between : StubState σ),
      i + todo = stub.arch.registers →
      Parsed regs state payload i newValues backupValues between →
      ∃ outcome after calls,
        regWriteParse stub (payload ++ 0 :: rest) todo i (2 * offset stub.regSize i)
          (offset stub.regSize i) newValues backupValues between = (.ok outcome, after) ∧
        Accessed regs between after calls ∧
        match outcome with
        | .error _ => (∃ call ∈ calls, call.failed = true) ∧
            ∀ j < stub.arch.registers, regs.value after.target j = regs.value state.target j
        | .ok (newValues, backupValues) => (∀ call ∈ calls, call.failed = false) ∧
            Parsed regs state payload stub.arch.registers newValues backupValues after := by
  induction todo with
  | zero =>
      intro i newValues backupValues between hi hparsed
      obtain rfl : i = stub.arch.registers := by omega
      exact ⟨.ok (newValues, backupValues), between, [], rfl, .refl _, by simp, hparsed⟩
  | succ todo ih =>
      intro i newValues backupValues between hi hparsed
      have hregister : i < stub.arch.registers := by omega
      have haccess := Accessed.read regs between hregister
      rw [regWriteParse_turn regs.readReg_eq rest hlength hbound hparsed.length_new
        hparsed.length_backup hregister]
      dsimp only
      by_cases hret : (regs.read between.target i).1.1 = 0
      · have hnext := hparsed.step regs hregister hlength hret
        obtain ⟨outcome, after, calls, heq, hafter, houtcome⟩ := ih (i + 1) _ _ _ (by omega) hnext
        refine ⟨outcome, after, _ :: calls, by rw [if_pos hret, heq], haccess.trans hafter, ?_⟩
        match outcome, houtcome with
        | .error _, ⟨⟨call, hmem, hcall⟩, hvalues⟩ =>
            exact ⟨⟨call, List.mem_cons_of_mem _ hmem, hcall⟩, hvalues⟩
        | .ok _, ⟨hcalls, hdone⟩ =>
            refine ⟨?_, hdone⟩
            intro call hmem
            rcases List.mem_cons.mp hmem with rfl | hmem
            · simp [TargetCall.failed, hret]
            · exact hcalls call hmem
      · refine ⟨.error (regs.read between.target i).1.1, _, _, if_neg hret, haccess,
          ⟨_, List.mem_singleton_self _, by simpa [TargetCall.failed] using hret⟩, ?_⟩
        -- a read that fails leaves the target alone
        have htarget := regs.read_failed between.target i hregister hret
        intro j hj
        show regs.value (regs.read between.target i).2 j = _
        rw [← hparsed.values j hj]
        exact congrArg (fun target => regs.value target j) htarget

/-! ## The second pass: commit -/

/-- The registers below `i` hold their new values, the others what they held. -/
def Committed (before : StubState σ) (newValues : List UInt8) (i : ℕ) (after : StubState σ) :
    Prop :=
  ∀ j < stub.arch.registers, regs.value after.target j =
    if j < i then slot stub.regSize newValues j else regs.value before.target j

/-- **The second pass.**  A write is refused and the registers before it are the ones
that are changed, or every register is written. -/
theorem regWriteCommit_spec {before : StubState σ} {newValues : List UInt8}
    (hlength : newValues.length = stub.totalRegBytes) (todo : ℕ) :
    ∀ (i : ℕ) (between : StubState σ), i + todo = stub.arch.registers →
      Committed regs before newValues i between →
      ∃ outcome after calls,
        regWriteCommit stub newValues todo i (offset stub.regSize i) between =
          (.ok outcome, after) ∧
        Accessed regs between after calls ∧
        match outcome with
        | some (failedRegno, _) => (∃ call ∈ calls, call.failed = true) ∧
            failedRegno < stub.arch.registers ∧
            Committed regs before newValues failedRegno after
        | none => (∀ call ∈ calls, call.failed = false) ∧
            Committed regs before newValues stub.arch.registers after := by
  induction todo with
  | zero =>
      intro i between hi hcommitted
      obtain rfl : i = stub.arch.registers := by omega
      exact ⟨none, between, [], rfl, .refl _, by simp, hcommitted⟩
  | succ todo ih =>
      intro i between hi hcommitted
      have hregister : i < stub.arch.registers := by omega
      have hsize : (slot stub.regSize newValues i).length = stub.regSize i :=
        length_slot hregister (by rw [hlength, stub.totalRegBytes_eq_offset])
      have haccess := Accessed.write regs between hregister hsize
      rw [regWriteCommit_turn regs.writeReg_eq]
      dsimp only
      by_cases hret : (regs.write between.target i (slot stub.regSize newValues i)).1 = 0
      · -- the registers below `i + 1` are written, the others are as before
        have hnext : Committed regs before newValues (i + 1)
            (between.called (.writeReg i (slot stub.regSize newValues i)
                (regs.write between.target i (slot stub.regSize newValues i)).1)
              (regs.write between.target i (slot stub.regSize newValues i)).2) := by
          intro j hj
          have hwritten := regs.write_value between.target i hregister _ hsize hret j hj
          rw [StubState.called, hwritten, hcommitted j hj]
          by_cases hlast : j = i
          · rw [if_pos hlast, if_pos (by omega), hlast]
          · rw [if_neg hlast]
            by_cases hbefore : j < i
            · rw [if_pos hbefore, if_pos (by omega)]
            · rw [if_neg hbefore, if_neg (by omega)]
        obtain ⟨outcome, after, calls, heq, hafter, houtcome⟩ := ih (i + 1) _ (by omega) hnext
        refine ⟨outcome, after, _ :: calls, by rw [if_pos hret, heq], haccess.trans hafter, ?_⟩
        match outcome, houtcome with
        | some _, ⟨⟨call, hmem, hcall⟩, hdone⟩ =>
            exact ⟨⟨call, List.mem_cons_of_mem _ hmem, hcall⟩, hdone⟩
        | none, ⟨hcalls, hdone⟩ =>
            refine ⟨?_, hdone⟩
            intro call hmem
            rcases List.mem_cons.mp hmem with rfl | hmem
            · simp [TargetCall.failed, hret]
            · exact hcalls call hmem
      · -- a refused write changes nothing
        refine ⟨some (i, (regs.write between.target i (slot stub.regSize newValues i)).1), _, _,
          if_neg hret, haccess, ⟨_, List.mem_singleton_self _, ?_⟩, hregister, ?_⟩
        · simpa [TargetCall.failed] using hret
        · intro j hj
          have htarget := regs.write_failed between.target i hregister _ hret
          rw [StubState.called, htarget]
          exact hcommitted j hj

/-! ## The rollback -/

/-- **The rollback** of the registers from `i` on that were written. -/
theorem regWriteRollback_spec {backupValues : List UInt8} {old : ℕ → List UInt8} {failed : ℕ}
    (hfailed : failed < stub.arch.registers) (hlength : backupValues.length = stub.totalRegBytes)
    (hbackup : ∀ j < failed, slot stub.regSize backupValues j = old j) (todo : ℕ) :
    ∀ (i : ℕ) (between : StubState σ), i + todo = failed →
      (∀ j < failed, regs.Restorable between.target j (old j)) →
      (∀ j < stub.arch.registers, j < i ∨ failed ≤ j → regs.value between.target j = old j) →
      ∃ after calls,
        regWriteRollback stub backupValues todo i (offset stub.regSize i) between =
          (.ok (), after) ∧
        Accessed regs between after calls ∧
        ∀ j < stub.arch.registers, regs.value after.target j = old j := by
  induction todo with
  | zero =>
      intro i between hi hrestore hvalues
      exact ⟨between, [], rfl, .refl _, fun j hj => hvalues j hj (by omega)⟩
  | succ todo ih =>
      intro i between hi hrestore hvalues
      have hregister : i < stub.arch.registers := by omega
      have hsize : (slot stub.regSize backupValues i).length = stub.regSize i :=
        length_slot hregister (by rw [hlength, stub.totalRegBytes_eq_offset])
      have haccess := Accessed.write regs between hregister hsize
      have haccepted : (regs.write between.target i (slot stub.regSize backupValues i)).1 = 0 := by
        rw [hbackup i (by omega)]
        exact hrestore i (by omega) _ (.refl _)
      obtain ⟨after, calls, heq, hafter, hrestored⟩ := ih (i + 1) _ (by omega)
        (fun j hj => (hrestore j hj).reaches haccess.reaches) (by
          intro j hj hdone
          have hwritten := regs.write_value between.target i hregister _ hsize haccepted j hj
          rw [StubState.called, hwritten]
          by_cases hlast : j = i
          · rw [if_pos hlast, hlast, hbackup i (by omega)]
          · rw [if_neg hlast]
            exact hvalues j hj (by omega))
      refine ⟨after, _ :: calls, ?_, haccess.trans hafter, hrestored⟩
      rw [regWriteRollback_turn regs.writeReg_eq, heq]

/-! ## A register file -/

/-- Does register `i`, which holds `current`, refuse `data`?  It must have the length of
the register, and a register that is `readOnly` takes only the value it holds. -/
def registerRefuses (size : ℕ → ℕ) (readOnly : ℕ → Bool) (i : ℕ) (current data : List UInt8) :
    Bool :=
  data.length != size i || (readOnly i && data != current)

/-- A target that is a register file. -/
def registerFile (size : ℕ → ℕ) (readOnly : ℕ → Bool) : TargetOps (ℕ → List UInt8) where
  cont := none
  stepi := none
  getRegBytes := fun regno => size regno.toNat
  readReg := some fun target regno =>
    ((if (target regno.toNat).length = size regno.toNat then 0 else 14,
      target regno.toNat), target)
  writeReg := some fun target regno data =>
    if registerRefuses size readOnly regno.toNat (target regno.toNat) data then (13, target)
    else (0, Function.update target regno.toNat data)
  readMem := none
  writeMem := none
  setBp := none
  delBp := none
  onInterrupt := none
  setCpu := none
  getCpu := none
  length_readReg := by
    intro op hop target regno hret
    obtain rfl := Option.some.inj hop
    by_contra hlength
    simp [hlength] at hret
  length_readMem := by simp

/-- A stub for a register file of `count` registers, with memory to spare. -/
def registerFileStub (size : ℕ → ℕ) (readOnly : ℕ → Bool) (count : ℕ) :
    Gdbstub (ℕ → List UInt8) where
  ops := registerFile size readOnly
  arch := { targetDesc := none, smp := 0, regNum := count, zero_notMem := zero_notMem_of_none }
  totalRegBytes := ((List.range count).map size).sum
  mallocs := fun _ _ => true
  junk := fun _ => 0
  totalRegBytes_eq := rfl

/-- A stub with one register of one byte. -/
def oneByteStub : Gdbstub (ℕ → List UInt8) :=
  registerFileStub (fun _ => 1) (fun _ => false) 1

/-- The same stub with other operations. -/
def Gdbstub.withOps {σ : Type} (stub : Gdbstub σ) (ops : TargetOps σ)
    (hops : ops.getRegBytes = stub.ops.getRegBytes) : Gdbstub σ :=
  { stub with
    ops := ops
    totalRegBytes_eq := hops ▸ stub.totalRegBytes_eq }

/-- The registers of a register file are independent. -/
def registerFileRegs (size : ℕ → ℕ) (readOnly : ℕ → Bool) (count : ℕ) :
    IndependentRegisters (registerFileStub size readOnly count) where
  read := fun target regno =>
    ((if (target regno.toNat).length = size regno.toNat then 0 else 14,
      target regno.toNat), target)
  write := fun target regno data =>
    if registerRefuses size readOnly regno.toNat (target regno.toNat) data then (13, target)
    else (0, Function.update target regno.toNat data)
  value := fun target i => target i
  readReg_eq := rfl
  writeReg_eq := rfl
  read_value := fun target i _ _ => by rw [Int.toNat_natCast]
  read_keeps := fun _ _ _ _ _ _ => rfl
  read_failed := fun _ _ _ _ => rfl
  write_value := by
    intro target i hi data hdata hret j hj
    simp only [Int.toNat_natCast] at hret ⊢
    by_cases hrefused : registerRefuses size readOnly i (target i) data = true
    · rw [if_pos hrefused] at hret
      exact absurd (show (13 : Int32) = 0 from hret) (by decide)
    · rw [if_neg hrefused]
      exact Function.update_apply target i data j
  write_failed := by
    intro target i hi data hret
    simp only [Int.toNat_natCast] at hret ⊢
    by_cases hrefused : registerRefuses size readOnly i (target i) data = true
    · rw [if_pos hrefused]
    · rw [if_neg hrefused] at hret
      exact absurd rfl hret

section

variable {size : ℕ → ℕ} {readOnly : ℕ → Bool} {count i : ℕ} {start later : ℕ → List UInt8}

/-- What accesses cannot change about a register: its length, and its value if it is
read-only. -/
theorem registerFile_reaches (hreach : (registerFileRegs size readOnly count).Reaches start later)
    (hlength : (start i).length = size i) :
    (later i).length = size i ∧ (readOnly i = true → later i = start i) := by
  induction hreach with
  | refl => exact ⟨hlength, fun _ => rfl⟩
  | read regno _ ih => exact ih
  | @write target regno data _ ih =>
      show ((if registerRefuses size readOnly regno.toNat (target regno.toNat) data
          then ((13 : Int32), target) else (0, Function.update target regno.toNat data)).2 i).length
          = size i ∧ (readOnly i = true →
        (if registerRefuses size readOnly regno.toNat (target regno.toNat) data
          then ((13 : Int32), target) else (0, Function.update target regno.toNat data)).2 i =
            start i)
      by_cases hrefused : registerRefuses size readOnly regno.toNat (target regno.toNat) data = true
      · rw [if_pos hrefused]
        exact ih
      · rw [if_neg hrefused]
        simp only [registerRefuses, Bool.or_eq_true, bne_iff_ne, ne_eq, Bool.and_eq_true, not_or,
          not_and, not_not] at hrefused
        dsimp only
        by_cases hregister : i = regno.toNat
        · rw [← hregister] at hrefused ⊢
          rw [Function.update_self]
          exact ⟨hrefused.1, fun hreadOnly => (hrefused.2 hreadOnly).trans (ih.2 hreadOnly)⟩
        · rw [Function.update_of_ne hregister]
          exact ih

theorem registerFile_accepts (size : ℕ → ℕ) (readOnly : ℕ → Bool) (count : ℕ)
    (start : ℕ → List UInt8) :
    (registerFileRegs size readOnly count).AcceptsReadValues start := by
  intro target _ i hi hread later hreach
  have hlength : (target i).length = size i := by
    by_contra hne
    change (if (target (i : ℤ).toNat).length = size (i : ℤ).toNat then (0 : Int32) else 14) = 0
      at hread
    rw [Int.toNat_natCast, if_neg hne] at hread
    exact absurd hread (by decide)
  have hkept := (registerFile_reaches hreach hlength).2
  show (if registerRefuses size readOnly (i : ℤ).toNat (later (i : ℤ).toNat)
    (target (i : ℤ).toNat) then ((13 : Int32), later) else (0, _)).1 = 0
  rw [Int.toNat_natCast, if_neg]
  simp only [registerRefuses, Bool.or_eq_true, bne_iff_ne, ne_eq, Bool.and_eq_true, not_or,
    not_and, not_not]
  exact ⟨hlength, fun hreadOnly => (hkept hreadOnly).symm⟩

/-- With no read-only register and registers of the right length, every access
succeeds. -/
theorem registerFile_allSucceed (hreadOnly : ∀ i, readOnly i = false)
    (hlength : ∀ i < count, (start i).length = size i) :
    (registerFileRegs size readOnly count).AllSucceed start := by
  constructor
  · intro later hreach i hi
    have hcount : i < (count : ℤ).toNat := hi
    rw [Int.toNat_natCast] at hcount
    have hlater := (registerFile_reaches hreach (hlength i hcount)).1
    show (if (later (i : ℤ).toNat).length = size (i : ℤ).toNat then (0 : Int32) else 14) = 0
    rw [Int.toNat_natCast, if_pos hlater]
  · intro later hreach i hi data hdata
    show (if registerRefuses size readOnly (i : ℤ).toNat (later (i : ℤ).toNat) data
      then ((13 : Int32), later) else (0, _)).1 = 0
    rw [Int.toNat_natCast, if_neg]
    simp only [registerRefuses, hreadOnly, Bool.false_and, Bool.or_false, bne_iff_ne, ne_eq,
      not_not]
    exact hdata

end

/-! ## The whole request -/

/-- The texts of error replies. -/
def IsErrorReply (reply : List UInt8) : Prop :=
  reply.head? = some 69

theorem isErrorReply_errorText (ret : Int32) : IsErrorReply (errorText ret) := rfl

/-- The two outcomes of `G`: every register holds its slot and every operation
succeeded, or some operation failed and every register holds what it held. -/
inductive WriteOutcome (payload : List UInt8) (state after : StubState σ)
    (calls : List TargetCall) : List UInt8 → Prop
  | written : (∀ call ∈ calls, call.failed = false) →
      (∀ i < stub.arch.registers, regs.value after.target i = payloadSlot stub payload i) →
      WriteOutcome payload state after calls (ascii "OK")
  | restored (ret : Int32) : (∃ call ∈ calls, call.failed = true) →
      (∀ i < stub.arch.registers, regs.value after.target i = regs.value state.target i) →
      WriteOutcome payload state after calls (errorText ret)

/-- **Parse, commit, roll back.** -/
theorem regWriteApply_spec {payload : List UInt8} (rest : List UInt8)
    (hlength : payload.length = 2 * stub.totalRegBytes) (hbound : payload.length < 2 ^ 31)
    (state : StubState σ) (haccepts : regs.AcceptsReadValues state.target) :
    ∃ reply calls between,
      regWriteApply stub (payload ++ 0 :: rest) state = (.ok (), between.reply reply) ∧
      Accessed regs state between calls ∧
      WriteOutcome regs payload state between calls reply := by
  have hstart : Parsed regs state payload 0 (localBuffer stub stub.totalRegBytes)
      (localBuffer stub stub.totalRegBytes) state :=
    ⟨length_localBuffer .., length_localBuffer .., by simp, by simp, .refl _, fun _ _ => rfl,
      by simp⟩
  obtain ⟨parse, parsed, reads, hparse, hparsed, houtcome⟩ :=
    regWriteParse_spec regs rest hlength hbound stub.arch.registers 0 _ _ state (by omega) hstart
  rw [offset_zero, Nat.mul_zero] at hparse
  rw [regWriteApply, Program.bind_of_ok hparse]
  match parse, houtcome with
  | .error ret, ⟨hfailed, hvalues⟩ =>
      exact ⟨_, reads, parsed, connSendPktstr_errorText ret parsed, hparsed,
        .restored ret hfailed hvalues⟩
  | .ok (newValues, backupValues), ⟨hreads, hdone⟩ =>
      have hbegin : Committed regs parsed newValues 0 parsed := fun j hj => rfl
      obtain ⟨commit, committed, writes, hcommit, hcommitted, hcommitOutcome⟩ :=
        regWriteCommit_spec regs hdone.length_new stub.arch.registers 0 parsed (by omega) hbegin
      rw [offset_zero] at hcommit
      dsimp only
      rw [Program.bind_of_ok hcommit]
      -- the rollback writes what the first pass has read, which the target accepts
      match commit, hcommitOutcome with
      | none, ⟨hwrites, hall⟩ =>
          refine ⟨ascii "OK", reads ++ writes, committed, ?_, hparsed.trans hcommitted,
            .written ?_ ?_⟩
          · exact connSendPktstr_of_fits (by decide) committed
          · intro call hmem
            rcases List.mem_append.mp hmem with hmem | hmem
            · exact hreads call hmem
            · exact hwrites call hmem
          · intro i hi
            rw [hall i hi, if_pos hi, hdone.new i hi]
      | some (failedRegno, errorCode), ⟨⟨call, hmem, hcall⟩, hregister, hpart⟩ =>
          obtain ⟨after, restores, hrollback, hafter, hvalues⟩ :=
            regWriteRollback_spec regs hregister hdone.length_backup
              (fun j hj => hdone.backup j (by omega)) failedRegno 0 committed (by omega)
              (fun j hj => (hdone.restorable haccepts j (by omega)).reaches hcommitted.reaches)
              (fun j hj hrange => by
                rw [hpart j hj, if_neg (by omega), hdone.values j hj])
          rw [offset_zero] at hrollback
          refine ⟨errorText errorCode, reads ++ (writes ++ restores), after, ?_,
            hparsed.trans (hcommitted.trans hafter), .restored errorCode ?_ hvalues⟩
          · dsimp only
            rw [Program.bind_of_ok hrollback]
            exact connSendPktstr_errorText errorCode after
          · exact ⟨call, by simp [hmem], hcall⟩

theorem processRegWrite_of_wrong_length {payload : List UInt8} (rest : List UInt8)
    (hpos : 0 < stub.totalRegBytes) (hzero : 0 ∉ payload)
    (hlength : payload.length ≠ 2 * stub.totalRegBytes) (state : StubState σ) :
    processRegWrite stub (payload ++ 0 :: rest) state = (.ok (), state.reply (ascii "E22")) := by
  rw [processRegWrite, if_neg (by omega), text_append_zero hzero, if_pos (by omega)]
  exact connSendPktstr_of_fits (by decide) state

theorem processRegWrite_of_length {payload : List UInt8} (rest : List UInt8)
    (hpos : 0 < stub.totalRegBytes) (halloc : ∀ k bytes, stub.mallocs k bytes = true)
    (hzero : 0 ∉ payload) (hlength : payload.length = 2 * stub.totalRegBytes)
    (state : StubState σ) :
    processRegWrite stub (payload ++ 0 :: rest) state =
      regWriteApply stub (payload ++ 0 :: rest)
        { state with allocations := state.allocations + 1 + 1 } := by
  rw [processRegWrite, if_neg (by omega), text_append_zero hzero, if_neg (by omega),
    Program.bind_of_ok (malloc_of_all halloc _ _), Program.bind_of_ok (malloc_of_all halloc _ _)]
  rfl

/-- **`G` is all or nothing.**  It replies `OK` exactly when the payload has the length
of all registers and every read and every write succeeded, and then every register
holds what its slot decodes to; in every other case it replies an error and every
register holds what it held before. -/
theorem processRegWrite_all_or_nothing (hpos : 0 < stub.totalRegBytes)
    (halloc : ∀ k bytes, stub.mallocs k bytes = true) {payload : List UInt8}
    (rest : List UInt8) (hzero : 0 ∉ payload) (hbound : payload.length < 2 ^ 31)
    (state : StubState σ) (haccepts : regs.AcceptsReadValues state.target) :
    ∃ reply calls after,
      processRegWrite stub (payload ++ 0 :: rest) state = (.ok (), after) ∧
      after.sent = state.sent ++ [pktstrFrame reply] ∧ after.calls = state.calls ++ calls ∧
      (reply = ascii "OK" ↔
        payload.length = 2 * stub.totalRegBytes ∧ ∀ call ∈ calls, call.failed = false) ∧
      (reply = ascii "OK" →
        ∀ i < stub.arch.registers, regs.value after.target i = payloadSlot stub payload i) ∧
      (reply ≠ ascii "OK" → IsErrorReply reply ∧
        ∀ i < stub.arch.registers, regs.value after.target i = regs.value state.target i) := by
  by_cases hlength : payload.length = 2 * stub.totalRegBytes
  · obtain ⟨reply, calls, after, heq, hafter, houtcome⟩ :=
      regWriteApply_spec regs rest hlength hbound
        { state with allocations := state.allocations + 1 + 1 } haccepts
    refine ⟨reply, calls, after.reply reply, ?_, ?_, hafter.calls, ?_⟩
    · rw [processRegWrite_of_length rest hpos halloc hzero hlength, heq]
    · rw [StubState.reply, hafter.sent]
    · cases houtcome with
      | written hcalls hvalues =>
          exact ⟨⟨fun _ => ⟨hlength, hcalls⟩, fun _ => rfl⟩, fun _ => hvalues,
            fun hne => absurd rfl hne⟩
      | restored ret hfailed hvalues =>
          obtain ⟨call, hmem, hcall⟩ := hfailed
          have hne : errorText ret ≠ ascii "OK" := by
            intro heq
            have hhead := congrArg List.head? heq
            rw [isErrorReply_errorText ret] at hhead
            exact absurd hhead (by decide)
          refine ⟨⟨fun heq => absurd heq hne, ?_⟩, fun heq => absurd heq hne,
            fun _ => ⟨isErrorReply_errorText ret, hvalues⟩⟩
          rintro ⟨-, hcalls⟩
          rw [hcalls call hmem] at hcall
          exact absurd hcall (by decide)
  · refine ⟨ascii "E22", [], state.reply (ascii "E22"), ?_, rfl, (List.append_nil _).symm,
      ?_, ?_, ?_⟩
    · exact processRegWrite_of_wrong_length rest hpos hzero hlength state
    · simp only [hlength, false_and, iff_false]
      decide
    · intro heq
      exact absurd heq (by decide)
    · exact fun _ => ⟨rfl, fun _ _ => rfl⟩

/-- Two registers of one byte; the second is read-only, so the first write is taken
back. -/
theorem processRegWrite_all_or_nothing_readOnly :
    ∃ reply calls after,
      processRegWrite (registerFileStub (fun _ => 1) (fun i => i == 1) 2) (ascii "aabb" ++ [0])
        (StubState.init fun _ => [0x11]) = (.ok (), after) ∧
      after.sent = [pktstrFrame reply] ∧ after.calls = calls ∧
      (reply = ascii "OK" ↔ 4 = 4 ∧ ∀ call ∈ calls, call.failed = false) ∧
      (reply ≠ ascii "OK" → IsErrorReply reply ∧ ∀ i < 2, after.target i = [0x11]) := by
  obtain ⟨reply, calls, after, heq, hsent, hcalls, hok, -, herror⟩ :=
    processRegWrite_all_or_nothing
      (registerFileRegs (fun _ => 1) (fun i => i == 1) 2) (by decide) (fun _ _ => rfl) []
      (show 0 ∉ ascii "aabb" by decide) (by decide) (StubState.init fun _ => [0x11])
      (registerFile_accepts _ _ _ _)
  exact ⟨reply, calls, after, heq, hsent, hcalls, hok, herror⟩

end MiniGdbstub
