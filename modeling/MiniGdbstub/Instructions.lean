import MiniGdbstub.Emulator
import MiniGdbstub.Library.Rv64i

/-!
# The instructions of the reference target

`emu_exec` takes a word apart with shifts and masks, and its handlers put the immediates together
with more of them.  `decode` says as which instruction of RV64I it executes a word, for all `2 ^ 32`
words, and `Emu.execute` what the handlers do with the fields found; `emuExec_eq` is the proof that
the two are `emu_exec`.

The word is unsigned and is copied to 64 bits.  A cast to `int32_t` gives its upper half up again,
and a shift of the result to the right repeats bit 31; so each immediate is compared with the field
of the encoding bit by bit.
-/

namespace MiniGdbstub

open Rv64i

/-! ## Fields of an instruction word -/

/-- The instruction as which `emu_exec` executes a word.  It does not look at the `funct3` of
`jalr`. -/
def decode (word : BitVec 32) : Option Instr :=
  let opcode := word.extractLsb' 0 7
  let rd := word.extractLsb' 7 5
  let funct3 := word.extractLsb' 12 3
  let rs1 := word.extractLsb' 15 5
  let rs2 := word.extractLsb' 20 5
  let funct7 := word.extractLsb' 25 7
  let imm := word.extractLsb' 20 12
  let storeImm := word.extractLsb' 25 7 ++ word.extractLsb' 7 5
  let upperImm := word.extractLsb' 12 20
  let offset := word.extractLsb' 31 1 ++ word.extractLsb' 12 8 ++ word.extractLsb' 20 1 ++
    word.extractLsb' 21 10
  if opcode = 0x3 then
    if funct3 = 0x2 then some (.lw rd rs1 imm)
    else if funct3 = 0x3 then some (.ld rd rs1 imm)
    else none
  else if opcode = 0x13 then
    if funct3 = 0x0 then some (.addi rd rs1 imm)
    else if funct3 = 0x2 then some (.slti rd rs1 imm)
    else none
  else if opcode = 0x17 then some (.auipc rd upperImm)
  else if opcode = 0x1b then
    if funct3 = 0x0 then some (.addiw rd rs1 imm)
    else none
  else if opcode = 0x23 then
    if funct3 = 0x0 then some (.sb rs1 rs2 storeImm)
    else if funct3 = 0x2 then some (.sw rs1 rs2 storeImm)
    else if funct3 = 0x3 then some (.sd rs1 rs2 storeImm)
    else none
  else if opcode = 0x33 then
    if funct3 = 0x0 ∧ funct7 = 0x00 then some (.add rd rs1 rs2)
    else none
  else if opcode = 0x37 then some (.lui rd upperImm)
  else if opcode = 0x3b then
    if funct3 = 0x0 ∧ funct7 = 0x00 then some (.addw rd rs1 rs2)
    else none
  else if opcode = 0x67 then some (.jalr rd rs1 imm)
  else if opcode = 0x6f then some (.jal rd offset)
  else none

/-- An encoded instruction is executed as itself. -/
theorem decode_encode (i : Instr) : decode (encode i) = some i := by
  cases i with
  | add rd rs1 rs2 => simp [encode, decode, encodeR_fields]
  | addw rd rs1 rs2 => simp [encode, decode, encodeR_fields]
  | lui rd imm => simp [encode, decode, encodeU_fields]
  | auipc rd imm => simp [encode, decode, encodeU_fields]
  | jal rd offset => simp [encode, decode, encodeJ_fields]
  | sb rs1 rs2 imm => simp [encode, decode, encodeS_fields]
  | sw rs1 rs2 imm => simp [encode, decode, encodeS_fields]
  | sd rs1 rs2 imm => simp [encode, decode, encodeS_fields]
  | _ => simp [encode, decode, encodeI_fields]

/-- An immediate extended to 64 bits. -/
def signed {width : ℕ} (imm : BitVec width) : UInt64 :=
  ⟨imm.signExtend 64⟩

/-- The fields that `emu_exec` fills in. -/
def instOf (rawInst : UInt32) : Inst where
  inst := rawInst.toUInt64
  rd := registerField (rawInst >>> 7)
  rs1 := registerField (rawInst >>> 15)
  rs2 := registerField (rawInst >>> 20)
  funct3 := (rawInst >>> 12) &&& 0x7
  funct7 := (rawInst >>> 25) &&& 0x7f

section

variable (rawInst : UInt32)

/-- A field that is compared with a number. -/
theorem field_eq_iff (low : ℕ) {width : ℕ} (hwidth : width ≤ 32) {field : UInt32}
    (hfield : field.toBitVec = (rawInst.toBitVec >>> low) &&& mask 32 0 width)
    (value : BitVec width) :
    field = ⟨value.setWidth 32⟩ ↔ rawInst.toBitVec.extractLsb' low width = value := by
  rw [← UInt32.toBitVec_inj, hfield, shiftRight_and_mask]
  constructor
  · intro heq
    have hnarrow := congrArg (BitVec.setWidth width) heq
    rwa [BitVec.setWidth_setWidth_of_le _ hwidth, BitVec.setWidth_setWidth_of_le _ hwidth,
      BitVec.setWidth_eq, BitVec.setWidth_eq] at hnarrow
  · intro heq
    rw [heq]

theorem opcode_eq_iff (value : BitVec 7) :
    rawInst &&& 0x7f = ⟨value.setWidth 32⟩ ↔ rawInst.toBitVec.extractLsb' 0 7 = value :=
  field_eq_iff rawInst 0 (by decide) rfl value

theorem funct3_eq_iff (value : BitVec 3) :
    (instOf rawInst).funct3 = ⟨value.setWidth 32⟩ ↔
      rawInst.toBitVec.extractLsb' 12 3 = value :=
  field_eq_iff rawInst 12 (by decide) rfl value

theorem funct7_eq_iff (value : BitVec 7) :
    (instOf rawInst).funct7 = ⟨value.setWidth 32⟩ ↔
      rawInst.toBitVec.extractLsb' 25 7 = value :=
  field_eq_iff rawInst 25 (by decide) rfl value

/-- A register number. -/
theorem registerField_eq (low : ℕ) {shifted : UInt32}
    (hshifted : shifted.toBitVec = rawInst.toBitVec >>> low) :
    registerField shifted = (rawInst.toBitVec.extractLsb' low 5).toFin := by
  have hfield : (shifted &&& 0x1f).toBitVec =
      (rawInst.toBitVec.extractLsb' low 5).setWidth 32 := by
    rw [← shiftRight_and_mask, UInt32.toBitVec_and, hshifted]
    rfl
  apply Fin.ext
  show (shifted &&& 0x1f).toBitVec.toNat % 32 = (rawInst.toBitVec.extractLsb' low 5).toNat
  have hlt := (rawInst.toBitVec.extractLsb' low 5).isLt
  rw [hfield, BitVec.toNat_setWidth]
  omega

theorem instOf_rd : (instOf rawInst).rd = (rawInst.toBitVec.extractLsb' 7 5).toFin :=
  registerField_eq rawInst 7 rfl

theorem instOf_rs1 : (instOf rawInst).rs1 = (rawInst.toBitVec.extractLsb' 15 5).toFin :=
  registerField_eq rawInst 15 rfl

theorem instOf_rs2 : (instOf rawInst).rs2 = (rawInst.toBitVec.extractLsb' 20 5).toFin :=
  registerField_eq rawInst 20 rfl

/-! ## Immediates -/

/-- A mask that is applied to the 64-bit copy of the word. -/
theorem castInt32_and (masked : UInt64) (low width : ℕ)
    (hmask : masked.toBitVec.setWidth 32 = mask 32 low width) :
    (castInt32 (rawInst.toUInt64 &&& masked)).toBitVec =
      rawInst.toBitVec &&& mask 32 low width := by
  show ((rawInst.toBitVec.setWidth 64 &&& masked.toBitVec).setWidth 32) = _
  rw [BitVec.setWidth_and, hmask, BitVec.setWidth_setWidth_of_le _ (by decide), BitVec.setWidth_eq]

/-- A mask that is applied to the shifted copy. -/
theorem castInt32_shiftRight_and (count : ℕ) {shifted : UInt64} (masked : UInt64)
    (low width : ℕ) (hshifted : shifted.toBitVec = rawInst.toBitVec.setWidth 64 >>> count)
    (hmask : masked.toBitVec.setWidth 32 = mask 32 low width) :
    (castInt32 (shifted &&& masked)).toBitVec =
      (rawInst.toBitVec >>> count) &&& mask 32 low width := by
  show (shifted.toBitVec &&& masked.toBitVec).setWidth 32 = _
  rw [BitVec.setWidth_and, hmask, hshifted]
  congr 1
  apply BitVec.eq_of_getLsbD_eq
  intro i hi
  simp only [BitVec.getLsbD_setWidth, BitVec.getLsbD_ushiftRight]
  grind

theorem instOf_immediate :
    (instOf rawInst).immediate = signed (rawInst.toBitVec.extractLsb' 20 12) := by
  apply UInt64.toBitVec_inj.mp
  show ((castInt32 (rawInst.toUInt64 &&& 0xfff00000)).toBitVec.sshiftRight 20).signExtend 64 = _
  rw [castInt32_and rawInst _ 20 12 (by decide), signed]
  apply BitVec.eq_of_getLsbD_eq
  intro i hi
  simp only [BitVec.getLsbD_signExtend, BitVec.getLsbD_sshiftRight, BitVec.getLsbD_and,
    getLsbD_mask, BitVec.getLsbD_extractLsb', BitVec.msb_eq_getLsbD_last]
  grind

theorem instOf_upperImmediate :
    (instOf rawInst).upperImmediate = signed (rawInst.toBitVec.extractLsb' 12 20 ++ 0#12) := by
  apply UInt64.toBitVec_inj.mp
  show (castInt32 (rawInst.toUInt64 &&& 0xfffff000)).toBitVec.signExtend 64 = _
  rw [castInt32_and rawInst _ 12 20 (by decide), signed]
  apply BitVec.eq_of_getLsbD_eq
  intro i hi
  simp only [BitVec.getLsbD_signExtend, BitVec.getLsbD_and, getLsbD_mask, BitVec.getLsbD_append,
    BitVec.getLsbD_extractLsb', BitVec.getLsbD_zero, BitVec.msb_eq_getLsbD_last]
  grind

/-- The immediate of a store, as `opcode_23` puts it together. -/
def Inst.storeImmediate (inst : Inst) : UInt64 :=
  extendInt32
    ((castInt32 (inst.inst &&& 0xfe000000) >>> 20) ||| castInt32 ((inst.inst >>> 7) &&& 0x1f))

theorem instOf_storeImmediate :
    (instOf rawInst).storeImmediate =
      signed (rawInst.toBitVec.extractLsb' 25 7 ++ rawInst.toBitVec.extractLsb' 7 5) := by
  have hlow : (castInt32 ((rawInst.toUInt64 >>> 7) &&& 0x1f)).toBitVec =
      (rawInst.toBitVec >>> 7) &&& mask 32 0 5 :=
    castInt32_shiftRight_and rawInst 7 _ 0 5 rfl (by decide)
  apply UInt64.toBitVec_inj.mp
  show ((castInt32 (rawInst.toUInt64 &&& 0xfe000000)).toBitVec.sshiftRight 20 |||
    (castInt32 ((rawInst.toUInt64 >>> 7) &&& 0x1f)).toBitVec).signExtend 64 = _
  rw [castInt32_and rawInst _ 25 7 (by decide), hlow, signed]
  apply BitVec.eq_of_getLsbD_eq
  intro i hi
  simp only [BitVec.getLsbD_signExtend, BitVec.getLsbD_or, BitVec.getLsbD_sshiftRight,
    BitVec.getLsbD_ushiftRight, BitVec.getLsbD_and, getLsbD_mask, BitVec.getLsbD_append,
    BitVec.getLsbD_extractLsb', BitVec.msb_eq_getLsbD_last]
  grind

/-- The offset of `jal`, as `opcode_6f` puts it together. -/
def Inst.jumpOffset (inst : Inst) : UInt64 :=
  extendInt32
    ((castInt32 (inst.inst &&& 0x80000000) >>> 11) ||| castInt32 (inst.inst &&& 0xff000) |||
      castInt32 ((inst.inst >>> 9) &&& 0x800) ||| castInt32 ((inst.inst >>> 20) &&& 0x7fe))

theorem instOf_jumpOffset :
    (instOf rawInst).jumpOffset =
      signed (rawInst.toBitVec.extractLsb' 31 1 ++ rawInst.toBitVec.extractLsb' 12 8 ++
        rawInst.toBitVec.extractLsb' 20 1 ++ rawInst.toBitVec.extractLsb' 21 10 ++ 0#1) := by
  have hbit : (castInt32 ((rawInst.toUInt64 >>> 9) &&& 0x800)).toBitVec =
      (rawInst.toBitVec >>> 9) &&& mask 32 11 1 :=
    castInt32_shiftRight_and rawInst 9 _ 11 1 rfl (by decide)
  have hlow : (castInt32 ((rawInst.toUInt64 >>> 20) &&& 0x7fe)).toBitVec =
      (rawInst.toBitVec >>> 20) &&& mask 32 1 10 :=
    castInt32_shiftRight_and rawInst 20 _ 1 10 rfl (by decide)
  apply UInt64.toBitVec_inj.mp
  show ((castInt32 (rawInst.toUInt64 &&& 0x80000000)).toBitVec.sshiftRight 11 |||
    (castInt32 (rawInst.toUInt64 &&& 0xff000)).toBitVec |||
    (castInt32 ((rawInst.toUInt64 >>> 9) &&& 0x800)).toBitVec |||
    (castInt32 ((rawInst.toUInt64 >>> 20) &&& 0x7fe)).toBitVec).signExtend 64 = _
  rw [castInt32_and rawInst _ 31 1 (by decide), castInt32_and rawInst _ 12 8 (by decide), hbit,
    hlow, signed, ← signExtend_signExtend (show 1 + 8 + 1 + 10 + 1 ≤ 32 by decide)]
  congr 1
  apply BitVec.eq_of_getLsbD_eq
  intro i hi
  simp only [BitVec.getLsbD_signExtend, BitVec.getLsbD_or, BitVec.getLsbD_sshiftRight,
    BitVec.getLsbD_ushiftRight, BitVec.getLsbD_and, getLsbD_mask, BitVec.getLsbD_append,
    BitVec.getLsbD_extractLsb', BitVec.getLsbD_zero, BitVec.msb_eq_getLsbD_last]
  grind

end

/-! ## Execution of a decoded instruction -/

/-- A register as an instruction names it. -/
def Emu.reg (emu : Emu) (r : Reg) : UInt64 :=
  emu.x.get r.toFin

/-- An `rd` is written. -/
def Emu.setRd (emu : Emu) (rd : Reg) (value : UInt64) : Emu :=
  emu.setReg rd.toFin value

/-- `read_len` into `rd` -/
def Emu.loadReg (emu : Emu) (bit : ℕ) (rd rs1 : Reg) (imm : BitVec 12) : Executed := do
  let value ← readLen bit emu (emu.reg rs1 + signed imm)
  return (0, emu.setRd rd value)

/-- `write_len` of `rs2` -/
def Emu.storeReg (emu : Emu) (bit : ℕ) (rs1 rs2 : Reg) (imm : BitVec 12) : Executed := do
  let emu ← writeLen bit emu (emu.reg rs1 + signed imm) (emu.reg rs2)
  return (0, emu)

/-- What the handlers write to `rd` that access no memory. -/
def Emu.result (emu : Emu) : Instr → UInt64
  | .addi _ rs1 imm => emu.reg rs1 + signed imm
  | .slti _ rs1 imm => if (emu.reg rs1).toInt64 < (signed imm).toInt64 then 1 else 0
  | .addiw _ rs1 imm => extendInt32 ((emu.reg rs1).toUInt32 + (signed imm).toUInt32).toInt32
  | .add _ rs1 rs2 => emu.reg rs1 + emu.reg rs2
  | .addw _ rs1 rs2 => extendInt32 ((emu.reg rs1).toUInt32 + (emu.reg rs2).toUInt32).toInt32
  | .lui _ imm => signed (imm ++ 0#12)
  | .auipc _ imm => emu.pc + signed (imm ++ 0#12) - 4
  | .jal _ _ | .jalr _ _ _ => emu.pc
  | _ => 0

/-- What the handlers leave in `pc`; that of `jalr` has written `rd` already. -/
def Emu.target (emu : Emu) : Instr → UInt64
  | .jal _ offset => emu.pc + signed (offset ++ 0#1) - 4
  | .jalr rd rs1 imm => ((emu.setRd rd emu.pc).reg rs1 + signed imm) &&& ~~~1
  | _ => emu.pc

/-- What the handlers of the opcodes do for a decoded instruction. -/
def Emu.execute (emu : Emu) : Instr → Executed
  | .lw rd rs1 imm => emu.loadReg 32 rd rs1 imm
  | .ld rd rs1 imm => emu.loadReg 64 rd rs1 imm
  | .sb rs1 rs2 imm => emu.storeReg 8 rs1 rs2 imm
  | .sw rs1 rs2 imm => emu.storeReg 32 rs1 rs2 imm
  | .sd rs1 rs2 imm => emu.storeReg 64 rs1 rs2 imm
  | i => .ok (0, { emu.setRd i.rd (emu.result i) with pc := emu.target i })

theorem execute_plain (emu : Emu) {i : Instr} (hplain : i.access = none) :
    emu.execute i = .ok (0, { emu.setRd i.rd (emu.result i) with pc := emu.target i }) := by
  cases i with
  | lw | ld | sb | sw | sd => cases hplain
  | _ => rfl

/-- A decoded instruction, or none. -/
def Emu.executed (emu : Emu) : Option Instr → Executed
  | some i => emu.execute i
  | none => .ok (-1, emu)

/-- **`emu_exec` is decoding and executing.**  The cases are the opcodes in the order of the
`switch`. -/
theorem emuExec_eq (emu : Emu) (rawInst : UInt32) :
    emuExec emu rawInst = (emu.setReg 0 0).executed (decode rawInst.toBitVec) := by
  have hopcode := opcode_eq_iff rawInst
  have hfunct3 := funct3_eq_iff rawInst
  have hfunct7 := funct7_eq_iff rawInst
  have hrd := instOf_rd rawInst
  have hrs1 := instOf_rs1 rawInst
  have hrs2 := instOf_rs2 rawInst
  have himm := instOf_immediate rawInst
  have hupper := instOf_upperImmediate rawInst
  generalize hzeroed : emu.setReg 0 0 = zeroed
  rw [decode, emuExec, hzeroed]
  simp only [apply_ite zeroed.executed]
  refine if_congr (hopcode 0x3) ?_ (if_congr (hopcode 0x13) ?_ (if_congr (hopcode 0x17) ?_
    (if_congr (hopcode 0x1b) ?_ (if_congr (hopcode 0x23) ?_ (if_congr (hopcode 0x33) ?_
    (if_congr (hopcode 0x37) ?_ (if_congr (hopcode 0x3b) ?_ (if_congr (hopcode 0x67) ?_
    (if_congr (hopcode 0x6f) ?_ rfl)))))))))
  · show opcode3 zeroed (instOf rawInst) = _
    rw [opcode3, himm, hrs1, hrd]
    exact if_congr (hfunct3 0x2) rfl (if_congr (hfunct3 0x3) rfl rfl)
  · show opcode13 zeroed (instOf rawInst) = _
    rw [opcode13, himm, hrs1, hrd]
    exact if_congr (hfunct3 0x0) rfl (if_congr (hfunct3 0x2) rfl rfl)
  · show opcode17 zeroed (instOf rawInst) = _
    rw [opcode17, hupper, hrd]
    rfl
  · show opcode1b zeroed (instOf rawInst) = _
    rw [opcode1b, himm, hrs1, hrd]
    exact if_congr (hfunct3 0x0) rfl rfl
  · show opcode23 zeroed (instOf rawInst) = _
    have hstore := instOf_storeImmediate rawInst
    rw [Inst.storeImmediate] at hstore
    rw [opcode23, hstore, hrs1, hrs2]
    exact if_congr (hfunct3 0x0) rfl (if_congr (hfunct3 0x2) rfl (if_congr (hfunct3 0x3) rfl rfl))
  · show opcode33 zeroed (instOf rawInst) = _
    rw [opcode33, hrs1, hrs2, hrd]
    exact if_congr (and_congr (hfunct3 0x0) (hfunct7 0x00)) rfl rfl
  · show opcode37 zeroed (instOf rawInst) = _
    rw [opcode37, hupper, hrd]
    rfl
  · show opcode3b zeroed (instOf rawInst) = _
    rw [opcode3b, hrs1, hrs2, hrd]
    exact if_congr (and_congr (hfunct3 0x0) (hfunct7 0x00)) rfl rfl
  · show opcode67 zeroed (instOf rawInst) = _
    rw [opcode67, himm, hrs1, hrd]
    rfl
  · show opcode6f zeroed (instOf rawInst) = _
    have hoffset := instOf_jumpOffset rawInst
    rw [Inst.jumpOffset] at hoffset
    rw [opcode6f, hoffset, hrd]
    rfl

end MiniGdbstub
