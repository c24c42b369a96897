import MiniGdbstub.Instructions

/-!
# The reference target and RV64I

The emulator stands for a machine of RV64I: `Emu.arch` forgets what is in `x[0]`, and gives
every address a byte.  `FollowsRv64i` says that the emulator goes to the state that `step`
prescribes.

The handlers run on an emulator whose `pc` is advanced and whose `x[0]` is zero (`Ready`).  From
there an instruction without an access to memory is followed, one case for each, with one
exception: `opcode_67` writes `rd` before it reads `rs1`, so a `jalr` with both of them equal
jumps from `pc + 4` (`jumpsArithmetic_iff`).
-/

namespace MiniGdbstub

open Rv64i

/-! ## The machine that the emulator stands for -/

/-- The cells of the memory, with a byte for every address. -/
def memoryOf (cells : List UInt8) : Memory := fun place =>
  (cells[place.toNat]?.getD 0).toBitVec

/-- What `x[0]` holds is no part of the machine. -/
def Emu.arch (emu : Emu) : State where
  pc := emu.pc.toBitVec
  x r := if r = 0 then 0 else (emu.reg r).toBitVec
  mem := memoryOf emu.m.mem
  x_zero := if_pos rfl

theorem reg_setRd (emu : Emu) (rd : Reg) (value : UInt64) (r : Reg) :
    (emu.setRd rd value).reg r = if r = rd then value else emu.reg r := by
  show (emu.x.set rd.toFin.val value rd.toFin.isLt)[r.toFin.val] = _
  rw [Vector.getElem_set]
  by_cases hr : r = rd
  · rw [if_pos (by rw [hr]), if_pos hr]
  · rw [if_neg, if_neg hr]
    · rfl
    · intro heq
      exact hr (BitVec.toFin_inj.mp (Fin.ext heq.symm))

/-! ## Bytes -/

/-- The bytes in memory are the value that a load finds. -/
theorem littleEndian_slice (cells : List UInt8) (count : ℕ) :
    ∀ addr : Word, addr.toNat + count ≤ cells.length → cells.length < 2 ^ 64 →
      (littleEndian (Block.slice cells addr.toNat count)).toBitVec =
        (loadLE (memoryOf cells) addr count).setWidth 64 := by
  induction count with
  | zero => exact fun _ _ _ => rfl
  | succ count ih =>
      intro addr hfits hsmall
      have hnext : (addr + 1).toNat = addr.toNat + 1 := by bv_omega
      have hcell : Block.slice cells addr.toNat (count + 1) =
          cells[addr.toNat] :: Block.slice cells (addr + 1).toNat count := by
        rw [Block.slice, Block.slice, hnext, List.drop_eq_getElem_cons (by omega),
          List.take_succ_cons]
      have hbyte : memoryOf cells addr = (cells[addr.toNat]).toBitVec := by
        rw [memoryOf, List.getElem?_eq_getElem (by omega), Option.getD_some]
      have hrest := ih (addr + 1) (by omega) hsmall
      rw [hcell, loadLE, hbyte]
      show (cells[addr.toNat]).toBitVec.setWidth 64 |||
        (littleEndian (Block.slice cells (addr + 1).toNat count)).toBitVec <<< 8 = _
      rw [hrest]
      apply BitVec.eq_of_getLsbD_eq
      intro i hi
      simp only [BitVec.getLsbD_or, BitVec.getLsbD_shiftLeft, BitVec.getLsbD_setWidth,
        BitVec.getLsbD_append]
      grind

theorem readLen_eq {emu : Emu} {bit : ℕ} {addr : UInt64}
    (hinside : addr.toNat + bit / 8 ≤ memSize) :
    readLen bit emu addr = .ok ⟨(loadLE emu.arch.mem addr.toBitVec (bit / 8)).setWidth 64⟩ := by
  have hmem : emu.m.mem.length = memSize := emu.m.length_mem
  have hread : Block.read? emu.m.mem addr.toNat (bit / 8) =
      some (Block.slice emu.m.mem addr.toNat (bit / 8)) :=
    Block.read?_eq_some.mpr ⟨by omega, rfl⟩
  have hfits : addr.toBitVec.toNat + bit / 8 ≤ emu.m.mem.length := by rwa [hmem]
  have hvalue := littleEndian_slice emu.m.mem (bit / 8) addr.toBitVec hfits (by rw [hmem]; decide)
  rw [readLen, hread, inBounds_some]
  exact congrArg Except.ok (UInt64.toBitVec_inj.mp hvalue)

theorem length_littleEndianBytes (count : ℕ) (value : UInt64) :
    (littleEndianBytes count value).length = count := by
  rw [littleEndianBytes, List.length_map, List.length_range]

theorem littleEndianBytes_getElem? {count i : ℕ} (hi : i < count) (hcount : count ≤ 8)
    (value : UInt64) :
    (((littleEndianBytes count value)[i]?).getD 0).toBitVec =
      value.toBitVec.extractLsb' (8 * i) 8 := by
  rw [littleEndianBytes, List.getElem?_map, List.getElem?_range hi]
  have hshift : ((8 * i).toUInt64.toBitVec % 64).toNat = 8 * i := by
    rw [BitVec.toNat_umod]
    show 8 * i % 2 ^ 64 % 64 = 8 * i
    omega
  show (value.toBitVec >>> ((8 * i).toUInt64.toBitVec % 64).toNat).setWidth 8 = _
  rw [hshift]
  apply BitVec.eq_of_getLsbD_eq
  intro j hj
  rw [BitVec.getLsbD_setWidth, BitVec.getLsbD_ushiftRight, BitVec.getLsbD_extractLsb']

/-- The bytes written are those that a store leaves. -/
theorem memoryOf_overwrite {cells : List UInt8} {addr : Word} {count : ℕ}
    (hfits : addr.toNat + count ≤ cells.length) (hsmall : cells.length < 2 ^ 64)
    (hcount : count ≤ 8) (value : UInt64) :
    memoryOf (Block.overwrite cells addr.toNat (littleEndianBytes count value)) =
      storeLE (memoryOf cells) addr count value.toBitVec := by
  have hlength := length_littleEndianBytes count value
  funext place
  rw [memoryOf, Block.getElem?_overwrite (by omega), hlength, storeLE]
  have hoffset : (place - addr).toNat < count ↔
      addr.toNat ≤ place.toNat ∧ place.toNat < addr.toNat + count := by
    bv_omega
  by_cases hinside : addr.toNat ≤ place.toNat ∧ place.toNat < addr.toNat + count
  · have hplace : (place - addr).toNat = place.toNat - addr.toNat := by bv_omega
    rw [if_pos hinside, if_pos (hoffset.mpr hinside), hplace,
      littleEndianBytes_getElem? (by omega) hcount]
  · rw [if_neg hinside, if_neg fun hlt => hinside (hoffset.mp hlt), memoryOf]

theorem writeLen_eq {emu : Emu} {bit : ℕ} {addr : UInt64}
    (hinside : addr.toNat + bit / 8 ≤ memSize) (hbit : bit / 8 ≤ 8) (value : UInt64) :
    ∃ m : Mem, writeLen bit emu addr value = .ok { emu with m := m } ∧
      memoryOf m.mem = storeLE (memoryOf emu.m.mem) addr.toBitVec (bit / 8) value.toBitVec := by
  have hmem : emu.m.mem.length = memSize := emu.m.length_mem
  have hlength := length_littleEndianBytes (bit / 8) value
  obtain ⟨m, hwrite, hcells, -⟩ := emu.m.write_of_fits (by rwa [hlength])
  refine ⟨m, ?_, ?_⟩
  · rw [writeLen, hwrite]
    rfl
  · have hfits : addr.toBitVec.toNat + bit / 8 ≤ emu.m.mem.length := by rwa [hmem]
    rw [hcells]
    exact memoryOf_overwrite hfits (by rw [hmem]; decide) hbit value

/-! ## Steps -/

/-- The emulator before the handler of an instruction: `pc` is advanced and `x[0]` is zero. -/
structure Ready (emu : Emu) (s : State) : Prop where
  pc : emu.pc.toBitVec = s.pc + 4
  reg : ∀ r, (emu.reg r).toBitVec = s.x r
  mem : memoryOf emu.m.mem = s.mem

theorem ready_zeroed (emu : Emu) :
    Ready (Emu.setReg { emu with pc := emu.pc + 4 } 0 0) emu.arch where
  pc := rfl
  reg r := by
    show ((Emu.setRd { emu with pc := emu.pc + 4 } 0 0).reg r).toBitVec = _
    rw [reg_setRd]
    by_cases hr : r = 0
    · rw [if_pos hr, hr, emu.arch.x_zero]
      rfl
    · rw [if_neg hr]
      exact (if_neg hr).symm
  mem := rfl

namespace Ready

variable {emu : Emu} {s : State}

/-- The handler writes `rd`, sets `pc` and leaves the memory alone. -/
theorem arch_eq_step (hready : Ready emu s) (i : Instr) {value pc : UInt64}
    (hvalue : i.rd ≠ 0 → value.toBitVec = i.result s) (hpc : pc.toBitVec = i.nextPc s)
    (hstored : i.stored s = s.mem) :
    ({ emu.setRd i.rd value with pc := pc } : Emu).arch = step s i := by
  apply State.ext
  · exact hpc
  · funext r
    show (if r = 0 then 0 else ((emu.setRd i.rd value).reg r).toBitVec) = _
    rw [step_x, reg_setRd]
    by_cases hr : r = 0
    · rw [if_pos hr, if_neg, hr, s.x_zero]
      rintro ⟨heq, hrd⟩
      exact hrd (heq ▸ hr)
    · rw [if_neg hr]
      by_cases hrd : r = i.rd
      · rw [if_pos hrd, if_pos ⟨hrd, hrd ▸ hr⟩, hvalue (hrd ▸ hr)]
      · rw [if_neg hrd, if_neg fun hboth => hrd hboth.1, hready.reg]
  · exact hready.mem.trans hstored.symm

/-- The handler changes the memory only. -/
theorem arch_eq_step_of_store (hready : Ready emu s) (i : Instr) {m : Mem} (hrd : i.rd = 0)
    (hpc : i.nextPc s = s.pc + 4) (hstored : memoryOf m.mem = i.stored s) :
    ({ emu with m := m } : Emu).arch = step s i := by
  apply State.ext
  · exact hready.pc.trans hpc.symm
  · funext r
    show (if r = 0 then 0 else (emu.reg r).toBitVec) = _
    have hkept : ¬ (r = i.rd ∧ i.rd ≠ 0) := fun hboth => hboth.2 hrd
    rw [step_x, if_neg hkept]
    by_cases hr : r = 0
    · rw [if_pos hr, hr, s.x_zero]
    · rw [if_neg hr, hready.reg]
  · exact hstored

end Ready

/-! ## Jumps and arithmetic -/

/-- A run of the emulator does what the instruction prescribes: the program counter, `x1` to
`x31` and the memory are those after it. -/
def FollowsRv64i (emu : Emu) (i : Instr) (run : Executed) : Prop :=
  ∃ next, run = .ok (0, next) ∧ next.arch = step emu.arch i

/-- The write of `rd` makes no difference to the target: `jalr` finds in `rs1` what was there
before, or something that leads to the same place. -/
def ReadsFirst (s : State) : Instr → Prop
  | .jalr rd rs1 imm => rd = rs1 →
      (s.pc + 4 + imm.signExtend 64) &&& ~~~1 = s.addr rs1 imm &&& ~~~1
  | _ => True

/-- The handlers compute on `pc + 4`. -/
theorem advanced_add_sub (pc offset : Word) : pc + 4 + offset - 4 = pc + offset := by
  rw [BitVec.add_assoc, BitVec.add_comm 4, ← BitVec.add_assoc, BitVec.add_sub_cancel]

namespace Ready

variable {emu : Emu} {s : State}

/-- What is written to `rd`, one case for each instruction. -/
theorem result_eq (hready : Ready emu s) {i : Instr} (hplain : i.access = none) :
    (emu.result i).toBitVec = i.result s := by
  cases i with
  | addi rd rs1 imm =>
      rw [Emu.result, UInt64.toBitVec_add, hready.reg]
      rfl
  | slti rd rs1 imm =>
      have hless : (emu.reg rs1).toInt64 < (signed imm).toInt64 ↔
          (s.x rs1).slt (imm.signExtend 64) := by
        rw [Int64.lt_iff_toBitVec_slt, ← hready.reg]
        rfl
      rw [Emu.result, if_congr hless rfl rfl, apply_ite UInt64.toBitVec]
      rfl
  | addiw rd rs1 imm =>
      show ((emu.reg rs1).toBitVec.setWidth 32 + (imm.signExtend 64).setWidth 32).signExtend 64 = _
      rw [hready.reg, setWidth_signExtend (by decide)]
      rfl
  | add rd rs1 rs2 =>
      rw [Emu.result, UInt64.toBitVec_add, hready.reg, hready.reg]
      rfl
  | addw rd rs1 rs2 =>
      show ((emu.reg rs1).toBitVec.setWidth 32 +
        (emu.reg rs2).toBitVec.setWidth 32).signExtend 64 = _
      rw [hready.reg, hready.reg]
      rfl
  | lui rd imm => rfl
  | auipc rd imm =>
      rw [Emu.result, UInt64.toBitVec_sub, UInt64.toBitVec_add, hready.pc]
      exact advanced_add_sub _ _
  | jal | jalr => exact hready.pc
  | lw | ld | sb | sw | sd => cases hplain

/-- The target of `jalr`, with `pc + 4` in `rd` already. -/
theorem target_jalr (hready : Ready emu s) (rd rs1 : Reg) (imm : BitVec 12) :
    (emu.target (.jalr rd rs1 imm)).toBitVec =
      ((if rs1 = rd then s.pc + 4 else s.x rs1) + imm.signExtend 64) &&& ~~~1 := by
  rw [Emu.target, reg_setRd]
  show ((if rs1 = rd then emu.pc else emu.reg rs1).toBitVec + imm.signExtend 64) &&& ~~~1 = _
  by_cases hrs1 : rs1 = rd
  · rw [if_pos hrs1, if_pos hrs1, hready.pc]
  · rw [if_neg hrs1, if_neg hrs1, hready.reg]

/-- Where the execution goes on, one case for each jump. -/
theorem target_eq_iff (hready : Ready emu s) (i : Instr) :
    (emu.target i).toBitVec = i.nextPc s ↔ ReadsFirst s i := by
  cases i with
  | jal rd offset =>
      refine iff_of_true ?_ trivial
      rw [Emu.target, UInt64.toBitVec_sub, UInt64.toBitVec_add, hready.pc]
      exact advanced_add_sub _ _
  | jalr rd rs1 imm =>
      rw [hready.target_jalr]
      show _ = s.addr rs1 imm &&& ~~~1 ↔ (rd = rs1 → _)
      by_cases hrs1 : rs1 = rd
      · rw [if_pos hrs1]
        exact ⟨fun heq _ => heq, fun heq => heq hrs1.symm⟩
      · rw [if_neg hrs1]
        exact iff_of_true rfl fun hrd => absurd hrd.symm hrs1
  | _ => exact iff_of_true hready.pc trivial

/-- Every instruction that accesses no memory. -/
theorem plain_follows_iff (hready : Ready emu s) {i : Instr} (hplain : i.access = none) :
    (∃ next, emu.execute i = .ok (0, next) ∧ next.arch = step s i) ↔ ReadsFirst s i := by
  rw [execute_plain emu hplain, ← hready.target_eq_iff]
  constructor
  · rintro ⟨next, hrun, hfollows⟩
    cases hrun
    exact congrArg State.pc hfollows
  · intro htarget
    have hstored : i.stored s = s.mem := by
      cases i with
      | lw | ld | sb | sw | sd => cases hplain
      | _ => rfl
    exact ⟨_, rfl, hready.arch_eq_step i (fun _ => hready.result_eq hplain) htarget hstored⟩

end Ready

/-! ## The fetch -/

/-- The word at `pc`, for a `pc` in the program. -/
theorem emuFetchExec_eq {emu : Emu} (hinside : emu.pc < emu.m.codeSize) :
    emuFetchExec emu = (Emu.setReg { emu with pc := emu.pc + 4 } 0 0).executed
      (decode (loadLE emu.arch.mem emu.arch.pc 4)) := by
  have hmem : emu.m.mem.length = memSize := emu.m.length_mem
  have hcode := emu.m.codeSize_le
  have hpc : emu.pc.toNat < emu.m.codeSize.toNat := UInt64.lt_iff_toNat_lt.mp hinside
  rw [tohostAddr, memSize] at hcode
  have hread : emuReadMem emu emu.pc.toNat 4 =
      .ok (0, Block.slice emu.m.mem emu.pc.toNat 4) := by
    rw [emuReadMem, if_neg (by rw [memSize]; omega), Block.read?,
      if_pos (by rw [hmem, memSize]; omega)]
    rfl
  have hfits : emu.pc.toBitVec.toNat + 4 ≤ emu.m.mem.length := by
    show emu.pc.toNat + 4 ≤ _
    rw [hmem, memSize]
    omega
  have hword : (littleEndian (Block.slice emu.m.mem emu.pc.toNat 4)).toUInt32.toBitVec =
      loadLE emu.arch.mem emu.arch.pc 4 := by
    have hvalue := littleEndian_slice emu.m.mem 4 emu.pc.toBitVec hfits (by rw [hmem]; decide)
    show (littleEndian (Block.slice emu.m.mem emu.pc.toBitVec.toNat 4)).toBitVec.setWidth 32 = _
    rw [hvalue, BitVec.setWidth_setWidth_of_le _ (by decide)]
    exact BitVec.setWidth_eq _
  rw [emuFetchExec, hread]
  simp only [bind, Except.bind]
  rw [emuExec_eq, hword]

/-- The word at `pc`, which is in the program, encodes the instruction. -/
structure Fetched (emu : Emu) (i : Instr) : Prop where
  inside : emu.pc < emu.m.codeSize
  word : loadLE emu.arch.mem emu.arch.pc 4 = encode i

theorem Fetched.emuFetchExec_eq {emu : Emu} {i : Instr} (hfetched : Fetched emu i) :
    emuFetchExec emu = (Emu.setReg { emu with pc := emu.pc + 4 } 0 0).execute i := by
  rw [MiniGdbstub.emuFetchExec_eq hfetched.inside, hfetched.word, decode_encode]
  rfl

/-- **Jumps and arithmetic follow RV64I, up to one overlap.**  Every instruction that accesses no
memory, with any registers and any immediate, fetched at any place of the program: the emulator
does what is prescribed if and only if the write of `rd` does not change the target of the jump
that reads it. -/
theorem jumpsArithmetic_iff (emu : Emu) (i : Instr) (hplain : i.access = none)
    (hfetched : Fetched emu i) :
    FollowsRv64i emu i (emuFetchExec emu) ↔ ReadsFirst emu.arch i := by
  rw [hfetched.emuFetchExec_eq]
  exact (ready_zeroed emu).plain_follows_iff hplain

/-- `addi x1, x0, 7` as a program of one instruction. -/
theorem jumpsArithmetic_addi :
    let emu := emuInit (Mem.load [0x93, 0x00, 0x70, 0x00] (by decide))
    FollowsRv64i emu (.addi 1 0 7) (emuFetchExec emu) := by
  intro emu
  exact (jumpsArithmetic_iff emu (.addi 1 0 7) rfl ⟨by decide, by decide +kernel⟩).mpr trivial

/-- `jalr x1, 0(x1)` with 8 in `x1`: the jump goes to 4 instead of 8. -/
theorem jalr_overlap :
    let emu := (emuInit (Mem.load [0xe7, 0x80, 0x00, 0x00] (by decide))).setReg 1 8
    Fetched emu (.jalr 1 1 0) ∧ ¬ FollowsRv64i emu (.jalr 1 1 0) (emuFetchExec emu) := by
  intro emu
  have hfetched : Fetched emu (.jalr 1 1 0) := ⟨by decide, by decide +kernel⟩
  refine ⟨hfetched, fun hfollows => ?_⟩
  rw [hfetched.emuFetchExec_eq] at hfollows
  have htarget := ((ready_zeroed emu).plain_follows_iff rfl).mp hfollows
  exact absurd (htarget rfl) (by decide +kernel)

end MiniGdbstub
