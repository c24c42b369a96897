import Mathlib.Data.List.Basic

/-!
# A part of RV64I

Arithmetic, jumps, loads and stores of the 64-bit base instruction set: the encodings of the
instructions, and what an instruction does to the program counter, the registers and the memory.
Register `x0` is zero by the type of a state.  An instruction reads its sources in the state
before it; `step` is put together from the destination `rd` and the `result` written to it, from
`nextPc` and from `stored`.

A jump goes to its target.  Whether a target that is not a multiple of four raises an exception,
and what happens then, is left to the environment that executes the instructions.

`mask` is a mask as programs write it, and its bits are the lemma by which shifts and masks are
compared with the fields of an encoding.
-/

namespace Rv64i

/-! ## Fields of a word -/

/-- `width` ones from bit `low` on. -/
def mask (size low width : ℕ) : BitVec size :=
  (BitVec.allOnes width).setWidth size <<< low

theorem getLsbD_mask (size low width i : ℕ) :
    (mask size low width).getLsbD i = decide (i < size ∧ low ≤ i ∧ i < low + width) := by
  simp only [mask, BitVec.getLsbD_shiftLeft, BitVec.getLsbD_setWidth, BitVec.getLsbD_allOnes]
  grind

/-- A field is shifted down and masked. -/
theorem shiftRight_and_mask {size : ℕ} (word : BitVec size) (low width : ℕ) :
    (word >>> low) &&& mask size 0 width = (word.extractLsb' low width).setWidth size := by
  apply BitVec.eq_of_getLsbD_eq
  intro i hi
  simp only [BitVec.getLsbD_and, BitVec.getLsbD_ushiftRight, getLsbD_mask,
    BitVec.getLsbD_setWidth, BitVec.getLsbD_extractLsb']
  grind

/-- Extending by the sign twice is extending once. -/
theorem signExtend_signExtend {width between : ℕ} (hle : width ≤ between) (size : ℕ)
    (field : BitVec width) :
    (field.signExtend between).signExtend size = field.signExtend size := by
  rw [BitVec.signExtend, BitVec.toInt_signExtend_of_le hle, ← BitVec.signExtend]

/-- The low bits of an extended field. -/
theorem setWidth_signExtend {width size between : ℕ} (hle : size ≤ between)
    (field : BitVec width) : (field.signExtend between).setWidth size = field.signExtend size := by
  apply BitVec.eq_of_getLsbD_eq
  intro i hi
  rw [BitVec.getLsbD_setWidth, BitVec.getLsbD_signExtend, BitVec.getLsbD_signExtend,
    decide_eq_true hi, decide_eq_true (show i < between by omega), Bool.true_and]

/-! ## Instructions -/

abbrev Reg := BitVec 5

abbrev Word := BitVec 64

abbrev Byte := BitVec 8

/-- The offset of `jal` is kept without its lowest bit, which is zero. -/
inductive Instr
  | addi (rd rs1 : Reg) (imm : BitVec 12)
  | slti (rd rs1 : Reg) (imm : BitVec 12)
  | addiw (rd rs1 : Reg) (imm : BitVec 12)
  | add (rd rs1 rs2 : Reg)
  | addw (rd rs1 rs2 : Reg)
  | lui (rd : Reg) (imm : BitVec 20)
  | auipc (rd : Reg) (imm : BitVec 20)
  | jal (rd : Reg) (offset : BitVec 20)
  | jalr (rd rs1 : Reg) (imm : BitVec 12)
  | lw (rd rs1 : Reg) (imm : BitVec 12)
  | ld (rd rs1 : Reg) (imm : BitVec 12)
  | sb (rs1 rs2 : Reg) (imm : BitVec 12)
  | sw (rs1 rs2 : Reg) (imm : BitVec 12)
  | sd (rs1 rs2 : Reg) (imm : BitVec 12)
  deriving DecidableEq

/-! ## Encodings -/

def encodeR (funct7 : BitVec 7) (rs2 rs1 : Reg) (funct3 : BitVec 3) (rd : Reg)
    (opcode : BitVec 7) : BitVec 32 :=
  funct7 ++ rs2 ++ rs1 ++ funct3 ++ rd ++ opcode

def encodeI (imm : BitVec 12) (rs1 : Reg) (funct3 : BitVec 3) (rd : Reg) (opcode : BitVec 7) :
    BitVec 32 :=
  imm ++ rs1 ++ funct3 ++ rd ++ opcode

def encodeS (imm : BitVec 12) (rs2 rs1 : Reg) (funct3 : BitVec 3) (opcode : BitVec 7) :
    BitVec 32 :=
  imm.extractLsb' 5 7 ++ rs2 ++ rs1 ++ funct3 ++ imm.extractLsb' 0 5 ++ opcode

def encodeU (imm : BitVec 20) (rd : Reg) (opcode : BitVec 7) : BitVec 32 :=
  imm ++ rd ++ opcode

/-- Bits 20, 10 to 1, 11 and 19 to 12 of the offset. -/
def encodeJ (offset : BitVec 20) (rd : Reg) (opcode : BitVec 7) : BitVec 32 :=
  offset.extractLsb' 19 1 ++ offset.extractLsb' 0 10 ++ offset.extractLsb' 10 1 ++
    offset.extractLsb' 11 8 ++ rd ++ opcode

def encode : Instr → BitVec 32
  | .addi rd rs1 imm => encodeI imm rs1 0x0 rd 0x13
  | .slti rd rs1 imm => encodeI imm rs1 0x2 rd 0x13
  | .addiw rd rs1 imm => encodeI imm rs1 0x0 rd 0x1b
  | .add rd rs1 rs2 => encodeR 0x00 rs2 rs1 0x0 rd 0x33
  | .addw rd rs1 rs2 => encodeR 0x00 rs2 rs1 0x0 rd 0x3b
  | .lui rd imm => encodeU imm rd 0x37
  | .auipc rd imm => encodeU imm rd 0x17
  | .jal rd offset => encodeJ offset rd 0x6f
  | .jalr rd rs1 imm => encodeI imm rs1 0x0 rd 0x67
  | .lw rd rs1 imm => encodeI imm rs1 0x2 rd 0x03
  | .ld rd rs1 imm => encodeI imm rs1 0x3 rd 0x03
  | .sb rs1 rs2 imm => encodeS imm rs2 rs1 0x0 0x23
  | .sw rs1 rs2 imm => encodeS imm rs2 rs1 0x2 0x23
  | .sd rs1 rs2 imm => encodeS imm rs2 rs1 0x3 0x23

section

variable (imm : BitVec 12) (rd rs1 rs2 : Reg) (funct3 : BitVec 3) (funct7 opcode : BitVec 7)

theorem encodeR_fields :
    (encodeR funct7 rs2 rs1 funct3 rd opcode).extractLsb' 0 7 = opcode ∧
      (encodeR funct7 rs2 rs1 funct3 rd opcode).extractLsb' 7 5 = rd ∧
      (encodeR funct7 rs2 rs1 funct3 rd opcode).extractLsb' 12 3 = funct3 ∧
      (encodeR funct7 rs2 rs1 funct3 rd opcode).extractLsb' 15 5 = rs1 ∧
      (encodeR funct7 rs2 rs1 funct3 rd opcode).extractLsb' 20 5 = rs2 ∧
      (encodeR funct7 rs2 rs1 funct3 rd opcode).extractLsb' 25 7 = funct7 := by
  refine ⟨?_, ?_, ?_, ?_, ?_, ?_⟩
  all_goals
    apply BitVec.eq_of_getLsbD_eq
    intro i hi
    simp only [encodeR, BitVec.getLsbD_extractLsb', BitVec.getLsbD_append]
    grind

theorem encodeI_fields :
    (encodeI imm rs1 funct3 rd opcode).extractLsb' 0 7 = opcode ∧
      (encodeI imm rs1 funct3 rd opcode).extractLsb' 7 5 = rd ∧
      (encodeI imm rs1 funct3 rd opcode).extractLsb' 12 3 = funct3 ∧
      (encodeI imm rs1 funct3 rd opcode).extractLsb' 15 5 = rs1 ∧
      (encodeI imm rs1 funct3 rd opcode).extractLsb' 20 12 = imm := by
  refine ⟨?_, ?_, ?_, ?_, ?_⟩
  all_goals
    apply BitVec.eq_of_getLsbD_eq
    intro i hi
    simp only [encodeI, BitVec.getLsbD_extractLsb', BitVec.getLsbD_append]
    grind

theorem encodeS_fields :
    (encodeS imm rs2 rs1 funct3 opcode).extractLsb' 0 7 = opcode ∧
      (encodeS imm rs2 rs1 funct3 opcode).extractLsb' 12 3 = funct3 ∧
      (encodeS imm rs2 rs1 funct3 opcode).extractLsb' 15 5 = rs1 ∧
      (encodeS imm rs2 rs1 funct3 opcode).extractLsb' 20 5 = rs2 ∧
      (encodeS imm rs2 rs1 funct3 opcode).extractLsb' 25 7 ++
        (encodeS imm rs2 rs1 funct3 opcode).extractLsb' 7 5 = imm := by
  refine ⟨?_, ?_, ?_, ?_, ?_⟩
  all_goals
    apply BitVec.eq_of_getLsbD_eq
    intro i hi
    simp only [encodeS, BitVec.getLsbD_extractLsb', BitVec.getLsbD_append]
    grind

theorem encodeU_fields (imm : BitVec 20) :
    (encodeU imm rd opcode).extractLsb' 0 7 = opcode ∧
      (encodeU imm rd opcode).extractLsb' 7 5 = rd ∧
      (encodeU imm rd opcode).extractLsb' 12 20 = imm := by
  refine ⟨?_, ?_, ?_⟩
  all_goals
    apply BitVec.eq_of_getLsbD_eq
    intro i hi
    simp only [encodeU, BitVec.getLsbD_extractLsb', BitVec.getLsbD_append]
    grind

theorem encodeJ_fields (offset : BitVec 20) :
    (encodeJ offset rd opcode).extractLsb' 0 7 = opcode ∧
      (encodeJ offset rd opcode).extractLsb' 7 5 = rd ∧
      (encodeJ offset rd opcode).extractLsb' 31 1 ++ (encodeJ offset rd opcode).extractLsb' 12 8 ++
          (encodeJ offset rd opcode).extractLsb' 20 1 ++
          (encodeJ offset rd opcode).extractLsb' 21 10 = offset := by
  refine ⟨?_, ?_, ?_⟩
  all_goals
    apply BitVec.eq_of_getLsbD_eq
    intro i hi
    simp only [encodeJ, BitVec.getLsbD_extractLsb', BitVec.getLsbD_append]
    grind

end

/-! ## Memory -/

/-- Every address has a byte. -/
abbrev Memory := Word → Byte

/-- The little-endian value of `count` bytes. -/
def loadLE (mem : Memory) (addr : Word) : (count : ℕ) → BitVec (8 * count)
  | 0 => 0#0
  | count + 1 => loadLE mem (addr + 1) count ++ mem addr

/-- The memory after the low bytes of a value were stored. -/
def storeLE (mem : Memory) (addr : Word) (count : ℕ) (value : Word) : Memory := fun place =>
  if (place - addr).toNat < count then value.extractLsb' (8 * (place - addr).toNat) 8
  else mem place

theorem getLsbD_load (mem : Memory) (count : ℕ) :
    ∀ (addr : Word) (i : ℕ), (loadLE mem addr count).getLsbD i =
      (decide (i < 8 * count) && (mem (addr + BitVec.ofNat 64 (i / 8))).getLsbD (i % 8)) := by
  induction count with
  | zero =>
      intro addr i
      simp [loadLE]
  | succ count ih =>
      intro addr i
      rw [loadLE, BitVec.getLsbD_append]
      by_cases hfirst : i < 8
      · rw [if_pos hfirst, Nat.div_eq_of_lt hfirst, Nat.mod_eq_of_lt hfirst,
          decide_eq_true (by omega), BitVec.add_zero, Bool.true_and]
      · obtain ⟨j, rfl⟩ : ∃ j, i = j + 8 := ⟨i - 8, by omega⟩
        have hplace : addr + 1 + BitVec.ofNat 64 (j / 8) =
            addr + BitVec.ofNat 64 ((j + 8) / 8) := by
          rw [Nat.add_div_right j (by decide), BitVec.ofNat_add, BitVec.add_assoc,
            BitVec.add_comm 1]
          rfl
        rw [if_neg hfirst, Nat.add_sub_cancel, ih, hplace, Nat.add_mod_right]
        congr 1
        exact decide_eq_decide.mpr (by omega)

/-- The bytes that are loaded after they were stored. -/
theorem load_store (mem : Memory) (addr value : Word) {count stored : ℕ} (hcount : count ≤ stored)
    (hstored : stored ≤ 8) :
    loadLE (storeLE mem addr stored value) addr count = value.setWidth (8 * count) := by
  apply BitVec.eq_of_getLsbD_eq
  intro i hi
  have hoffset : (addr + BitVec.ofNat 64 (i / 8) - addr).toNat = i / 8 := by
    rw [BitVec.add_comm, BitVec.add_sub_cancel, BitVec.toNat_ofNat, Nat.mod_eq_of_lt (by omega)]
  rw [getLsbD_load, storeLE, hoffset, if_pos (by omega), BitVec.getLsbD_extractLsb',
    BitVec.getLsbD_setWidth, Nat.div_add_mod, decide_eq_true hi,
    decide_eq_true (Nat.mod_lt i (by decide)), Bool.true_and]

/-! ## The state of the machine -/

/-- The program counter, the registers and the memory. -/
@[ext]
structure State where
  pc : Word
  x : Reg → Word
  mem : Memory
  x_zero : x 0 = 0

/-- A register is written; `x0` stays zero. -/
def State.set (s : State) (rd : Reg) (value : Word) : State :=
  if hrd : rd = 0 then s
  else
    { s with
      x := Function.update s.x rd value
      x_zero := (Function.update_of_ne (Ne.symm hrd) value s.x).trans s.x_zero }

theorem State.set_x (s : State) (rd : Reg) (value : Word) (r : Reg) :
    (s.set rd value).x r = if r = rd ∧ rd ≠ 0 then value else s.x r := by
  rw [State.set]
  by_cases hrd : rd = 0
  · rw [dif_pos hrd, if_neg fun hboth => hboth.2 hrd]
  · rw [dif_neg hrd]
    by_cases hr : r = rd
    · rw [if_pos ⟨hr, hrd⟩, hr]
      exact Function.update_self rd value s.x
    · rw [if_neg fun hboth => hr hboth.1]
      exact Function.update_of_ne hr value s.x

@[simp]
theorem State.set_pc (s : State) (rd : Reg) (value : Word) : (s.set rd value).pc = s.pc := by
  rw [State.set]
  split <;> rfl

@[simp]
theorem State.set_mem (s : State) (rd : Reg) (value : Word) : (s.set rd value).mem = s.mem := by
  rw [State.set]
  split <;> rfl

/-! ## Execution -/

/-- The register that an instruction writes; it is `x0` for a store, which writes none. -/
def Instr.rd : Instr → Reg
  | .addi rd _ _ | .slti rd _ _ | .addiw rd _ _ | .add rd _ _ | .addw rd _ _ | .lui rd _
  | .auipc rd _ | .jal rd _ | .jalr rd _ _ | .lw rd _ _ | .ld rd _ _ => rd
  | .sb _ _ _ | .sw _ _ _ | .sd _ _ _ => 0

/-- The bytes that a load or a store accesses: the register of the base, the offset and the
number of bytes. -/
def Instr.access : Instr → Option (Reg × BitVec 12 × ℕ)
  | .lw _ rs1 imm => some (rs1, imm, 4)
  | .ld _ rs1 imm => some (rs1, imm, 8)
  | .sb rs1 _ imm => some (rs1, imm, 1)
  | .sw rs1 _ imm => some (rs1, imm, 4)
  | .sd rs1 _ imm => some (rs1, imm, 8)
  | _ => none

/-- A base and an offset with a sign. -/
def State.addr (s : State) (rs1 : Reg) (imm : BitVec 12) : Word :=
  s.x rs1 + imm.signExtend 64

/-- The register that a store writes to memory. -/
def Instr.storedReg : Instr → Option Reg
  | .sb _ rs2 _ | .sw _ rs2 _ | .sd _ rs2 _ => some rs2
  | _ => none

/-- What a load makes of a value whose low bytes are at its address. -/
def Instr.extend (value : Word) : Instr → Word
  | .lw _ _ _ => (value.setWidth 32).signExtend 64
  | _ => value

/-- What an instruction writes to its register. -/
def Instr.result (s : State) : Instr → Word
  | .addi _ rs1 imm => s.x rs1 + imm.signExtend 64
  | .slti _ rs1 imm => if (s.x rs1).slt (imm.signExtend 64) then 1 else 0
  | .addiw _ rs1 imm => ((s.x rs1).setWidth 32 + imm.signExtend 32).signExtend 64
  | .add _ rs1 rs2 => s.x rs1 + s.x rs2
  | .addw _ rs1 rs2 => ((s.x rs1).setWidth 32 + (s.x rs2).setWidth 32).signExtend 64
  | .lui _ imm => (imm ++ 0#12).signExtend 64
  | .auipc _ imm => s.pc + (imm ++ 0#12).signExtend 64
  | .jal _ _ | .jalr _ _ _ => s.pc + 4
  | .lw _ rs1 imm => (loadLE s.mem (s.addr rs1 imm) 4).signExtend 64
  | .ld _ rs1 imm => loadLE s.mem (s.addr rs1 imm) 8
  | .sb _ _ _ | .sw _ _ _ | .sd _ _ _ => 0

/-- Where the execution goes on. -/
def Instr.nextPc (s : State) : Instr → Word
  | .jal _ offset => s.pc + (offset ++ 0#1).signExtend 64
  | .jalr _ rs1 imm => s.addr rs1 imm &&& ~~~1
  | _ => s.pc + 4

/-- The memory after an instruction. -/
def Instr.stored (s : State) : Instr → Memory
  | .sb rs1 rs2 imm => storeLE s.mem (s.addr rs1 imm) 1 (s.x rs2)
  | .sw rs1 rs2 imm => storeLE s.mem (s.addr rs1 imm) 4 (s.x rs2)
  | .sd rs1 rs2 imm => storeLE s.mem (s.addr rs1 imm) 8 (s.x rs2)
  | _ => s.mem

def step (s : State) (i : Instr) : State :=
  { s.set i.rd (i.result s) with
    pc := i.nextPc s
    mem := i.stored s }

@[simp]
theorem step_pc (s : State) (i : Instr) : (step s i).pc = i.nextPc s := rfl

@[simp]
theorem step_mem (s : State) (i : Instr) : (step s i).mem = i.stored s := rfl

theorem step_x (s : State) (i : Instr) (r : Reg) :
    (step s i).x r = if r = i.rd ∧ i.rd ≠ 0 then i.result s else s.x r :=
  s.set_x i.rd (i.result s) r

/-- What is in `rd` after the instruction. -/
theorem step_x_rd (s : State) (i : Instr) :
    (step s i).x i.rd = if i.rd = 0 then 0 else i.result s := by
  rw [step_x]
  by_cases hrd : i.rd = 0
  · rw [if_neg fun hboth => hboth.2 hrd, if_pos hrd, hrd, s.x_zero]
  · rw [if_pos ⟨rfl, hrd⟩, if_neg hrd]

/-! ## A load after a store -/

/-- A store of `rs2`, and then a load of no more bytes from the same address. -/
structure LoadsBack (s : State) (st ld : Instr) (rs2 : Reg) : Prop where
  storedReg : st.storedReg = some rs2
  loads : ld.storedReg = none
  same : ∃ base offset base' offset' count count', st.access = some (base, offset, count) ∧
    ld.access = some (base', offset', count') ∧ s.addr base offset = s.addr base' offset' ∧
      count' ≤ count

/-- A store leaves the registers alone. -/
theorem step_x_of_store {st : Instr} {rs2 : Reg} (hstore : st.storedReg = some rs2) (s : State) :
    (step s st).x = s.x := by
  funext r
  rw [step_x, if_neg]
  rintro ⟨-, hrd⟩
  cases st with
  | sb | sw | sd => exact hrd rfl
  | _ => cases hstore

/-- The memory after a store. -/
theorem stored_eq {st : Instr} {rs2 base : Reg} {offset : BitVec 12} {count : ℕ}
    (hstore : st.storedReg = some rs2) (haccess : st.access = some (base, offset, count))
    (s : State) :
    st.stored s = storeLE s.mem (s.addr base offset) count (s.x rs2) ∧ count ≤ 8 := by
  cases st with
  | sb | sw | sd =>
      cases hstore
      cases haccess
      exact ⟨rfl, by decide⟩
  | _ => cases hstore

/-- What a load finds, in terms of the bytes at its address. -/
theorem result_eq {ld : Instr} {base : Reg} {offset : BitVec 12} {count : ℕ}
    (hload : ld.storedReg = none) (haccess : ld.access = some (base, offset, count)) {s : State}
    {value : Word}
    (hbytes : loadLE s.mem (s.addr base offset) count = value.setWidth (8 * count)) :
    ld.result s = ld.extend value := by
  cases ld with
  | lw rd rs1 imm =>
      cases haccess
      exact congrArg (BitVec.signExtend 64) hbytes
  | ld rd rs1 imm =>
      cases haccess
      exact hbytes.trans (BitVec.setWidth_eq value)
  | sb | sw | sd => cases hload
  | _ => cases haccess

/-- **A load returns what was stored.** -/
theorem LoadsBack.bytes {s : State} {st ld : Instr} {rs2 base : Reg} {offset : BitVec 12}
    {count : ℕ} (hback : LoadsBack s st ld rs2)
    (haccess : ld.access = some (base, offset, count)) :
    loadLE (step s st).mem ((step s st).addr base offset) count =
      (s.x rs2).setWidth (8 * count) := by
  obtain ⟨base', offset', _, _, stored, _, hstAccess, hldAccess, hsame, hcount⟩ := hback.same
  rw [haccess] at hldAccess
  cases hldAccess
  obtain ⟨hmem, hsmall⟩ := stored_eq hback.storedReg hstAccess s
  have haddr : (step s st).addr base offset = s.addr base offset :=
    congrArg (fun x : Reg → Word => x base + offset.signExtend 64)
      (step_x_of_store hback.storedReg s)
  rw [step_mem, hmem, haddr, hsame]
  exact load_store s.mem _ _ hcount hsmall

theorem LoadsBack.result {s : State} {st ld : Instr} {rs2 : Reg}
    (hback : LoadsBack s st ld rs2) : ld.result (step s st) = ld.extend (s.x rs2) := by
  obtain ⟨_, _, base, offset, _, count, -, haccess, -, -⟩ := hback.same
  exact result_eq hback.loads haccess (hback.bytes haccess)

end Rv64i
