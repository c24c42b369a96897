import MiniGdbstub.InstructionSet

/-!
# Loads and stores of the reference target

Every store is followed (`Ready.store_follows`), and so is every load whose bytes the handler
extends as it should.  `read_len` shifts the bytes into a `uint64_t` and leaves the upper half
zero, and `lw` writes that value to `rd`; a word with bit 31 set comes out positive instead of
negative (`loadsStores_iff`).
-/

namespace MiniGdbstub

open Rv64i

/-- `emu_exec` of an instruction, after `pc` was advanced. -/
def runInstr (emu : Emu) (i : Instr) : Executed :=
  emuExec { emu with pc := emu.pc + 4 } ⟨encode i⟩

theorem runInstr_eq (emu : Emu) (i : Instr) :
    runInstr emu i = (Emu.setReg { emu with pc := emu.pc + 4 } 0 0).execute i := by
  rw [runInstr, emuExec_eq, decode_encode]
  rfl

/-- A load or a store whose bytes are all in the memory. -/
def AccessInside (s : State) (i : Instr) : Prop :=
  ∃ base offset count, i.access = some (base, offset, count) ∧
    (s.addr base offset).toNat + count ≤ memSize

/-- The word that `lw` finds is not negative, unless there is no register to write it to. -/
def WordNonneg (s : State) : Instr → Prop
  | .lw rd base offset => rd ≠ 0 → (loadLE s.mem (s.addr base offset) 4).msb = false
  | _ => True

/-! ## The two ways to extend a word -/

/-- A word is the same with zeros and with its sign in front exactly if it is not negative. -/
theorem setWidth_eq_signExtend_iff (word : BitVec 32) :
    word.setWidth 64 = word.signExtend 64 ↔ word.msb = false := by
  constructor
  · intro heq
    have hbit := congrArg (BitVec.getLsbD · 32) heq
    simp only [BitVec.getLsbD_setWidth, BitVec.getLsbD_signExtend] at hbit
    rw [BitVec.getLsbD_of_ge word 32 le_rfl] at hbit
    simpa using hbit.symm
  · intro hmsb
    exact (BitVec.signExtend_eq_setWidth_of_msb_false hmsb).symm

namespace Ready

variable {emu : Emu} {s : State}

/-- The address of an access. -/
theorem addr (hready : Ready emu s) (base : Reg) (offset : BitVec 12) :
    (emu.reg base + signed offset).toBitVec = s.addr base offset := by
  rw [UInt64.toBitVec_add, hready.reg]
  rfl

theorem loadReg_eq (hready : Ready emu s) {bit : ℕ} (rd base : Reg) {offset : BitVec 12}
    (hinside : (s.addr base offset).toNat + bit / 8 ≤ memSize) :
    emu.loadReg bit rd base offset =
      .ok (0, emu.setRd rd ⟨(loadLE s.mem (s.addr base offset) (bit / 8)).setWidth 64⟩) := by
  rw [← hready.addr] at hinside
  rw [Emu.loadReg, readLen_eq hinside, hready.addr]
  show Except.ok (0, emu.setRd rd ⟨(loadLE (memoryOf emu.m.mem) _ _).setWidth 64⟩) = _
  rw [hready.mem]

theorem storeReg_eq (hready : Ready emu s) (bit : ℕ) {base : Reg} {offset : BitVec 12}
    (hinside : (s.addr base offset).toNat + bit / 8 ≤ memSize) (hbit : bit / 8 ≤ 8) (rs2 : Reg) :
    ∃ m : Mem, emu.storeReg bit base rs2 offset = .ok (0, { emu with m := m }) ∧
      memoryOf m.mem = storeLE s.mem (s.addr base offset) (bit / 8) (s.x rs2) := by
  rw [← hready.addr] at hinside
  obtain ⟨m, hwrite, hmem⟩ := writeLen_eq hinside hbit (emu.reg rs2)
  refine ⟨m, ?_, ?_⟩
  · rw [Emu.storeReg, hwrite]
    rfl
  · rw [hmem, hready.mem, hready.addr, hready.reg]

/-- Every store is followed. -/
theorem store_follows (hready : Ready emu s) {st : Instr} {rs2 : Reg}
    (hstore : st.storedReg = some rs2) (hinside : AccessInside s st) :
    ∃ next, emu.execute st = .ok (0, next) ∧ next.arch = step s st := by
  obtain ⟨base, offset, count, haccess, hfits⟩ := hinside
  cases st with
  | sb rs1 rs2 imm =>
      cases haccess
      obtain ⟨m, hrun, hmem⟩ := hready.storeReg_eq 8 hfits (by decide) rs2
      exact ⟨_, hrun, hready.arch_eq_step_of_store (.sb base rs2 offset) rfl rfl hmem⟩
  | sw rs1 rs2 imm =>
      cases haccess
      obtain ⟨m, hrun, hmem⟩ := hready.storeReg_eq 32 hfits (by decide) rs2
      exact ⟨_, hrun, hready.arch_eq_step_of_store (.sw base rs2 offset) rfl rfl hmem⟩
  | sd rs1 rs2 imm =>
      cases haccess
      obtain ⟨m, hrun, hmem⟩ := hready.storeReg_eq 64 hfits (by decide) rs2
      exact ⟨_, hrun, hready.arch_eq_step_of_store (.sd base rs2 offset) rfl rfl hmem⟩
  | _ => cases hstore

/-- `ld` is followed. -/
theorem ld_follows (hready : Ready emu s) {rd base : Reg} {offset : BitVec 12}
    (hinside : (s.addr base offset).toNat + 8 ≤ memSize) :
    ∃ next, emu.execute (.ld rd base offset) = .ok (0, next) ∧
      next.arch = step s (.ld rd base offset) := by
  refine ⟨_, hready.loadReg_eq rd base hinside,
    hready.arch_eq_step (.ld rd base offset) (fun _ => ?_) hready.pc rfl⟩
  exact BitVec.setWidth_eq _

/-- What `lw` leaves in `rd` is right exactly if the word is not negative or there is no `rd`. -/
theorem lw_value_iff (hready : Ready emu s) {rd base : Reg} {offset : BitVec 12}
    (hinside : (s.addr base offset).toNat + 4 ≤ memSize) {next : Emu}
    (hrun : emu.execute (.lw rd base offset) = .ok (0, next)) :
    next.arch.x rd = (step s (.lw rd base offset)).x rd ↔ WordNonneg s (.lw rd base offset) := by
  have hload : emu.execute (.lw rd base offset) = _ := hready.loadReg_eq rd base hinside
  rw [hload] at hrun
  cases hrun
  have hright : (step s (.lw rd base offset)).x rd = _ := step_x_rd s (.lw rd base offset)
  have hleft : ∀ value : UInt64, (emu.setRd rd value).arch.x rd =
      if rd = 0 then 0 else value.toBitVec := by
    intro value
    show (if rd = 0 then 0 else ((emu.setRd rd value).reg rd).toBitVec) = _
    rw [reg_setRd, if_pos rfl]
  rw [hleft, hright]
  show (if rd = 0 then 0 else _) = (if rd = 0 then 0 else _) ↔ (rd ≠ 0 → _)
  by_cases hrd : rd = 0
  · rw [if_pos hrd, if_pos hrd]
    exact iff_of_true rfl fun hne => absurd hrd hne
  · rw [if_neg hrd, if_neg hrd]
    exact (setWidth_eq_signExtend_iff _).trans ⟨fun hmsb _ => hmsb, fun hmsb => hmsb hrd⟩

/-- `lw` is followed exactly if its value is right. -/
theorem lw_follows_iff (hready : Ready emu s) {rd base : Reg} {offset : BitVec 12}
    (hinside : (s.addr base offset).toNat + 4 ≤ memSize) :
    (∃ next, emu.execute (.lw rd base offset) = .ok (0, next) ∧
      next.arch = step s (.lw rd base offset)) ↔ WordNonneg s (.lw rd base offset) := by
  have hrun : emu.execute (.lw rd base offset) = _ := hready.loadReg_eq rd base hinside
  constructor
  · rintro ⟨next, hnext, hfollows⟩
    exact (hready.lw_value_iff hinside hnext).mp (by rw [hfollows])
  · intro hnonneg
    refine ⟨_, hrun, hready.arch_eq_step (.lw rd base offset) (fun hrd => ?_) hready.pc rfl⟩
    exact (setWidth_eq_signExtend_iff _).mpr (hnonneg hrd)

/-- Every load and every store. -/
theorem access_follows_iff (hready : Ready emu s) {i : Instr} (hinside : AccessInside s i) :
    (∃ next, emu.execute i = .ok (0, next) ∧ next.arch = step s i) ↔ WordNonneg s i := by
  cases i with
  | sb | sw | sd => exact iff_of_true (hready.store_follows rfl hinside) trivial
  | lw rd rs1 imm =>
      obtain ⟨base, offset, count, haccess, hfits⟩ := hinside
      cases haccess
      exact hready.lw_follows_iff hfits
  | ld rd rs1 imm =>
      obtain ⟨base, offset, count, haccess, hfits⟩ := hinside
      cases haccess
      exact iff_of_true (hready.ld_follows hfits) trivial
  | _ =>
      obtain ⟨base, offset, count, haccess, -⟩ := hinside
      cases haccess

end Ready

/-! ## A load after a store -/

/-- The store and then the load are executed, and the load finds what RV64I prescribes for the
value stored. -/
def LoadsStored (emu : Emu) (st ld : Instr) (rs2 : Reg) : Prop :=
  ∃ between next, runInstr emu st = .ok (0, between) ∧ runInstr between ld = .ok (0, next) ∧
    next.arch.x ld.rd = if ld.rd = 0 then 0 else ld.extend (emu.arch.x rs2)

/-- The part of the value that `lw` loads is not negative, unless there is no register to write
it to. -/
def StoredNonneg (value : Word) : Instr → Prop
  | .lw rd _ _ => rd ≠ 0 → (value.setWidth 32).msb = false
  | _ => True

/-- After the store, `lw` finds the part of the value. -/
theorem storedNonneg_iff {s : State} {st ld : Instr} {rs2 : Reg}
    (hback : LoadsBack s st ld rs2) : StoredNonneg (s.x rs2) ld ↔ WordNonneg (step s st) ld := by
  cases ld with
  | lw rd base offset =>
      show (rd ≠ 0 → _) ↔ (rd ≠ 0 → _)
      rw [hback.bytes rfl]
  | _ => exact Iff.rfl

/-- The bytes that are loaded are among the bytes stored. -/
theorem accessInside_of_loadsBack {s : State} {st ld : Instr} {rs2 : Reg}
    (hback : LoadsBack s st ld rs2) (hinside : AccessInside s st) :
    AccessInside (step s st) ld := by
  obtain ⟨base, offset, base', offset', count, count', hst, hld, hsame, hcount⟩ := hback.same
  obtain ⟨_, _, _, haccess, hfits⟩ := hinside
  rw [hst] at haccess
  cases haccess
  refine ⟨base', offset', count', hld, ?_⟩
  have haddr : (step s st).addr base' offset' = s.addr base offset :=
    (congrArg (fun x : Reg → Word => x base' + offset'.signExtend 64)
      (step_x_of_store hback.storedReg s)).trans hsame.symm
  rw [haddr]
  omega

theorem loadsStored_iff {emu : Emu} {st ld : Instr} {rs2 : Reg}
    (hback : LoadsBack emu.arch st ld rs2) (hinside : AccessInside emu.arch st) :
    LoadsStored emu st ld rs2 ↔ StoredNonneg (emu.arch.x rs2) ld := by
  obtain ⟨between, hstore, hbetween⟩ :=
    (ready_zeroed emu).store_follows hback.storedReg hinside
  rw [← runInstr_eq] at hstore
  have hready := ready_zeroed between
  have hload := accessInside_of_loadsBack hback hinside
  have hvalue : (step (step emu.arch st) ld).x ld.rd =
      if ld.rd = 0 then 0 else ld.extend (emu.arch.x rs2) := by
    rw [step_x_rd, hback.result]
  rw [storedNonneg_iff hback, ← hbetween]
  rw [← hbetween] at hload hvalue
  constructor
  · rintro ⟨between', next, hstore', hrun, hx⟩
    rw [hstore] at hstore'
    cases hstore'
    rw [runInstr_eq] at hrun
    cases ld with
    | lw rd base offset =>
        obtain ⟨_, _, _, haccess, hfits⟩ := hload
        cases haccess
        exact (hready.lw_value_iff hfits hrun).mp (hx.trans hvalue.symm)
    | _ => trivial
  · intro hnonneg
    obtain ⟨next, hrun, hnext⟩ := (hready.access_follows_iff hload).mpr hnonneg
    rw [← runInstr_eq] at hrun
    exact ⟨between, next, hstore, hrun, by rw [hnext, hvalue]⟩

/-- **Loads and stores follow RV64I, up to negative words.**  Every access whose bytes are in the
memory changes the registers and the memory as prescribed, and every load finds what was stored
at its address before, if and only if `lw` is not to write a negative word. -/
theorem loadsStores_iff (emu : Emu) :
    (∀ i, AccessInside emu.arch i →
      (FollowsRv64i emu i (runInstr emu i) ↔ WordNonneg emu.arch i)) ∧
      ∀ st ld rs2, LoadsBack emu.arch st ld rs2 → AccessInside emu.arch st →
        (LoadsStored emu st ld rs2 ↔ StoredNonneg (emu.arch.x rs2) ld) := by
  refine ⟨fun i hinside => ?_, fun st ld rs2 hback hinside => loadsStored_iff hback hinside⟩
  rw [runInstr_eq]
  exact (ready_zeroed emu).access_follows_iff hinside

/-- `sd x2, 8(x0)` and then `lw x1, 8(x0)`: the stack pointer comes back. -/
theorem loadsStores_stackPointer :
    let emu := emuInit (Mem.load [] (by decide))
    FollowsRv64i emu (.sd 0 2 8) (runInstr emu (.sd 0 2 8)) ∧
      LoadsStored emu (.sd 0 2 8) (.lw 1 0 8) 2 := by
  intro emu
  have hinside : AccessInside emu.arch (.sd 0 2 8) := ⟨0, 8, 8, rfl, by decide⟩
  refine ⟨((loadsStores_iff emu).1 _ hinside).mpr trivial, ?_⟩
  have hback : LoadsBack emu.arch (.sd 0 2 8) (.lw 1 0 8) 2 :=
    ⟨rfl, rfl, 0, 8, 0, 8, 8, 4, rfl, rfl, rfl, by decide⟩
  refine ((loadsStores_iff emu).2 _ _ 2 hback hinside).mpr fun _ => ?_
  decide

/-- `lw x1, 8(x0)` of the word `ff ff ff ff`: `x1` is `2 ^ 32 - 1` instead of `-1`. -/
theorem negativeWord_positive :
    let emu := emuInit (Mem.load (List.replicate 8 0 ++ [0xff, 0xff, 0xff, 0xff]) (by decide))
    AccessInside emu.arch (.lw 1 0 8) ∧
      ¬ FollowsRv64i emu (.lw 1 0 8) (runInstr emu (.lw 1 0 8)) := by
  intro emu
  have hinside : AccessInside emu.arch (.lw 1 0 8) := ⟨0, 8, 4, rfl, by decide⟩
  refine ⟨hinside, fun hfollows => ?_⟩
  rw [runInstr_eq] at hfollows
  have hnonneg := ((ready_zeroed emu).access_follows_iff hinside).mp hfollows
  exact absurd (hnonneg (by decide)) (by decide +kernel)

end MiniGdbstub
