import MiniGdbstub.Continue

/-!
# Programs on the reference target and on RV64I

A program run on the emulator beside the same program on RV64I (`sideBySide`), instruction by
instruction, from any state.  A step of the run is one of RV64I: its label is the instruction that
the word at `pc` encodes there, so a program that changes itself is fetched as changed.

`InsideMemory` says where C defines what the handlers of loads and stores do; `Faithful` adds the
conditions under which the result is that of RV64I.  Each is exact for one instruction
(`Ready.execute_ok_iff`, `fetched_follows_iff`), and from these for whole runs: the two agree
throughout exactly as long as every instruction is faithful (`agreesThroughout_iff`), and a debugger
stays inside C exactly as long as every access is (`debugging_defined_iff`).
-/

namespace MiniGdbstub

open Rv64i

/-! ## One instruction -/

/-- The bytes that an instruction loads or stores are in the memory, if it does either. -/
def InsideMemory (s : State) (i : Instr) : Prop :=
  ∀ access ∈ i.access, (s.addr access.1 access.2.1).toNat + access.2.2 ≤ memSize

/-- The emulator does to such a state what RV64I prescribes. -/
def Faithful (s : State) (i : Instr) : Prop :=
  InsideMemory s i ∧ ReadsFirst s i ∧ WordNonneg s i

instance (s : State) (i : Instr) : Decidable (InsideMemory s i) :=
  inferInstanceAs (Decidable (∀ access ∈ i.access, _))

instance (s : State) : ∀ i, Decidable (ReadsFirst s i)
  | .jalr rd rs1 imm => inferInstanceAs (Decidable (rd = rs1 →
      (s.pc + 4 + imm.signExtend 64) &&& ~~~1 = s.addr rs1 imm &&& ~~~1))
  | .addi .. | .slti .. | .addiw .. | .add .. | .addw .. | .lui .. | .auipc .. | .jal ..
  | .lw .. | .ld .. | .sb .. | .sw .. | .sd .. => inferInstanceAs (Decidable True)

instance (s : State) : ∀ i, Decidable (WordNonneg s i)
  | .lw rd base offset => inferInstanceAs (Decidable
      (rd ≠ 0 → (loadLE s.mem (s.addr base offset) 4).msb = false))
  | .addi .. | .slti .. | .addiw .. | .add .. | .addw .. | .lui .. | .auipc .. | .jal ..
  | .jalr .. | .ld .. | .sb .. | .sw .. | .sd .. => inferInstanceAs (Decidable True)

instance (s : State) (i : Instr) : Decidable (Faithful s i) :=
  inferInstanceAs (Decidable (_ ∧ _))

theorem insideMemory_of_plain {s : State} {i : Instr} (hplain : i.access = none) :
    InsideMemory s i := by
  rw [InsideMemory, hplain]
  simp

/-- An access whose bytes are in the memory. -/
theorem accessInside_iff {s : State} {i : Instr} (haccess : i.access ≠ none) :
    AccessInside s i ↔ InsideMemory s i := by
  obtain ⟨⟨base, offset, count⟩, hsome⟩ := Option.ne_none_iff_exists'.mp haccess
  rw [AccessInside, InsideMemory, hsome]
  constructor
  · rintro ⟨base', offset', count', heq, hfits⟩ access hmem
    cases heq
    cases hmem
    exact hfits
  · intro hfits
    exact ⟨base, offset, count, rfl, hfits _ rfl⟩

theorem writeLen_inside {emu next : Emu} {bit : ℕ} {addr value : UInt64}
    (hwrite : writeLen bit emu addr value = .ok next) : addr.toNat + bit / 8 ≤ memSize := by
  obtain ⟨m, hm, -⟩ := Except.ok_bind_iff.mp hwrite
  by_contra hout
  rw [Mem.write, dif_neg (by rwa [length_littleEndianBytes, emu.m.length_mem])] at hm
  cases hm

theorem writeLen_codeSize {emu next : Emu} {bit : ℕ} {addr value : UInt64}
    (hwrite : writeLen bit emu addr value = .ok next) : next.m.codeSize = emu.m.codeSize := by
  obtain ⟨m, hm, hnext⟩ := Except.ok_bind_iff.mp hwrite
  rw [Mem.write] at hm
  split at hm
  · cases hm
    cases hnext
    rfl
  · cases hm

/-- No instruction changes the size of the program. -/
theorem execute_codeSize {emu next : Emu} {i : Instr} {ret : Int32}
    (hrun : emu.execute i = .ok (ret, next)) : next.m.codeSize = emu.m.codeSize := by
  cases i with
  | lw | ld =>
      obtain ⟨-, -, value, rfl⟩ := loadReg_ok hrun
      rfl
  | sb | sw | sd =>
      obtain ⟨after, hwrite, hreturn⟩ := Except.ok_bind_iff.mp hrun
      cases hreturn
      exact writeLen_codeSize hwrite
  | _ =>
      cases hrun
      rfl

theorem emuFetchExec_codeSize {emu next : Emu} {ret : Int32}
    (hrun : emuFetchExec emu = .ok (ret, next)) : next.m.codeSize = emu.m.codeSize := by
  obtain ⟨⟨_, bytes⟩, -, hexec⟩ := Except.ok_bind_iff.mp hrun
  dsimp only at hexec
  rw [emuExec_eq] at hexec
  cases hdecode : decode (littleEndian bytes).toUInt32.toBitVec with
  | none =>
      rw [hdecode] at hexec
      cases hexec
      rfl
  | some i =>
      rw [hdecode] at hexec
      calc next.m.codeSize
          = (Emu.setReg { emu with pc := emu.pc + 4 } 0 0).m.codeSize := execute_codeSize hexec
        _ = emu.m.codeSize := rfl

namespace Ready

variable {emu : Emu} {s : State}

/-- **What C defines.**  The handler of an instruction stays in the memory exactly if the bytes of
its access are there. -/
theorem execute_ok_iff (hready : Ready emu s) (i : Instr) :
    (∃ result, emu.execute i = .ok result) ↔ InsideMemory s i := by
  constructor
  · rintro ⟨⟨ret, next⟩, hrun⟩
    cases i with
    | lw rd base offset =>
        rintro access ⟨⟩
        rw [← hready.addr]
        exact (loadReg_ok hrun).2.1
    | ld rd base offset =>
        rintro access ⟨⟩
        rw [← hready.addr]
        exact (loadReg_ok hrun).2.1
    | sb base rs2 offset =>
        rintro access ⟨⟩
        obtain ⟨after, hwrite, -⟩ := Except.ok_bind_iff.mp hrun
        rw [← hready.addr]
        exact writeLen_inside hwrite
    | sw base rs2 offset =>
        rintro access ⟨⟩
        obtain ⟨after, hwrite, -⟩ := Except.ok_bind_iff.mp hrun
        rw [← hready.addr]
        exact writeLen_inside hwrite
    | sd base rs2 offset =>
        rintro access ⟨⟩
        obtain ⟨after, hwrite, -⟩ := Except.ok_bind_iff.mp hrun
        rw [← hready.addr]
        exact writeLen_inside hwrite
    | _ => exact insideMemory_of_plain rfl
  · intro hinside
    cases i with
    | lw rd base offset => exact ⟨_, hready.loadReg_eq rd base (hinside _ rfl)⟩
    | ld rd base offset => exact ⟨_, hready.loadReg_eq rd base (hinside _ rfl)⟩
    | sb base rs2 offset =>
        obtain ⟨m, hrun, -⟩ := hready.storeReg_eq 8 (hinside _ rfl) (by decide) rs2
        exact ⟨_, hrun⟩
    | sw base rs2 offset =>
        obtain ⟨m, hrun, -⟩ := hready.storeReg_eq 32 (hinside _ rfl) (by decide) rs2
        exact ⟨_, hrun⟩
    | sd base rs2 offset =>
        obtain ⟨m, hrun, -⟩ := hready.storeReg_eq 64 (hinside _ rfl) (by decide) rs2
        exact ⟨_, hrun⟩
    | _ => exact ⟨_, rfl⟩

/-- Every instruction. -/
theorem follows_iff (hready : Ready emu s) (i : Instr) :
    (∃ next, emu.execute i = .ok (0, next) ∧ next.arch = step s i) ↔ Faithful s i := by
  by_cases hplain : i.access = none
  · rw [hready.plain_follows_iff hplain]
    refine ⟨fun hfirst => ⟨insideMemory_of_plain hplain, hfirst, ?_⟩, fun hfaithful =>
      hfaithful.2.1⟩
    cases i with
    | lw => cases hplain
    | _ => trivial
  · by_cases hinside : InsideMemory s i
    · rw [hready.access_follows_iff ((accessInside_iff hplain).mpr hinside)]
      refine ⟨fun hnonneg => ⟨hinside, ?_, hnonneg⟩, fun hfaithful => hfaithful.2.2⟩
      cases i with
      | jalr => exact absurd rfl hplain
      | _ => trivial
    · refine iff_of_false ?_ fun hfaithful => hinside hfaithful.1
      rintro ⟨next, hrun, -⟩
      exact hinside ((hready.execute_ok_iff i).mp ⟨_, hrun⟩)

end Ready

/-- An instruction that is fetched does what RV64I prescribes exactly if it is faithful. -/
theorem fetched_follows_iff {emu : Emu} {i : Instr} (hfetched : Fetched emu i) :
    FollowsRv64i emu i (emuFetchExec emu) ↔ Faithful emu.arch i := by
  rw [hfetched.emuFetchExec_eq]
  exact (ready_zeroed emu).follows_iff i

/-! ## Beside each other -/

/-- The emulator, unless it has left what C defines, and RV64I. -/
structure SideBySide where
  emu : Except Fault Emu
  spec : State

/-- The emulator is a machine of RV64I in this state. -/
def SideBySide.Agrees (sides : SideBySide) : Prop :=
  ∃ emu, sides.emu = .ok emu ∧ emu.arch = sides.spec

/-- The program that is in the memory of `emu`, from there on.  RV64I fetches and executes an
instruction of the program, and the emulator executes one. -/
def sideBySide (emu : Emu) : Machine SideBySide Instr where
  start := { emu := .ok emu, spec := emu.arch }
  step sides i :=
    if sides.spec.pc.toNat < emu.m.codeSize.toNat ∧
        loadLE sides.spec.mem sides.spec.pc 4 = encode i then
      some
        { emu := sides.emu >>= fun now => (emuFetchExec now).map Prod.snd
          spec := step sides.spec i }
    else none

/-- What every run keeps. -/
def SideBySide.SameProgram (emu : Emu) (sides : SideBySide) : Prop :=
  ∀ now, sides.emu = .ok now → now.m.codeSize = emu.m.codeSize

section

variable {emu : Emu} {sides next : SideBySide} {i : Instr}

/-- Both sides of a step. -/
theorem sideBySide_step (hstep : (sideBySide emu).step sides i = some next) :
    sides.spec.pc.toNat < emu.m.codeSize.toNat ∧
      loadLE sides.spec.mem sides.spec.pc 4 = encode i ∧ next.spec = step sides.spec i ∧
      ∀ after, next.emu = .ok after ↔
        ∃ now ret, sides.emu = .ok now ∧ emuFetchExec now = .ok (ret, after) := by
  obtain ⟨⟨hinside, hword⟩, hnext⟩ := Option.ite_none_right_eq_some.mp hstep
  cases hnext
  refine ⟨hinside, hword, rfl, fun after => ?_⟩
  show sides.emu >>= _ = .ok after ↔ _
  rw [Except.ok_bind_iff]
  constructor
  · rintro ⟨now, hnow, hafter⟩
    cases hrun : emuFetchExec now with
    | error fault =>
        rw [hrun] at hafter
        cases hafter
    | ok executed =>
        rw [hrun] at hafter
        cases hafter
        exact ⟨now, executed.1, hnow, hrun⟩
  · rintro ⟨now, ret, hnow, hrun⟩
    exact ⟨now, hnow, by rw [hrun]; rfl⟩

theorem sameProgram_step (hprogram : sides.SameProgram emu)
    (hstep : (sideBySide emu).step sides i = some next) : next.SameProgram emu := by
  intro after hafter
  obtain ⟨now, ret, hnow, hrun⟩ := ((sideBySide_step hstep).2.2.2 after).mp hafter
  rw [emuFetchExec_codeSize hrun, hprogram now hnow]

/-- One instruction, from a state in which the two agree. -/
theorem agrees_step_iff (hprogram : sides.SameProgram emu) (hagrees : sides.Agrees)
    (hstep : (sideBySide emu).step sides i = some next) :
    next.Agrees ↔ Faithful sides.spec i := by
  obtain ⟨now, hnow, harch⟩ := hagrees
  obtain ⟨hinside, hword, hspec, hemu⟩ := sideBySide_step hstep
  have hpc : now.pc.toBitVec = sides.spec.pc := congrArg State.pc harch
  have hfetched : Fetched now i := by
    refine ⟨UInt64.lt_iff_toNat_lt.mpr ?_, by rw [harch, hword]⟩
    rw [hprogram now hnow, ← UInt64.toNat_toBitVec, hpc]
    exact hinside
  rw [← harch, ← fetched_follows_iff hfetched]
  constructor
  · rintro ⟨after, hafter, hsame⟩
    obtain ⟨now', ret, hnow', hrun⟩ := (hemu after).mp hafter
    rw [hnow] at hnow'
    cases hnow'
    have hexec := hrun
    rw [hfetched.emuFetchExec_eq] at hexec
    obtain ⟨rfl, -⟩ := execute_control hexec
    exact ⟨after, hrun, by rw [hsame, hspec, harch]⟩
  · rintro ⟨after, hrun, hsame⟩
    exact ⟨after, (hemu after).mpr ⟨now, 0, hnow, hrun⟩, by rw [hsame, hspec, harch]⟩

end

/-- `addi x1, x0, 19` and `sw x1, 8(x0)`, and then the word that was stored, which is `nop`. -/
def patchesItself : Emu :=
  emuInit (Mem.load [0x93, 0x00, 0x30, 0x01, 0x23, 0x24, 0x10, 0x00, 0x00, 0x00, 0x00, 0x00]
    (by decide))

/-- The instruction at `pc`, if it is one, accesses the memory only. -/
def AccessesMemory (emu : Emu) : Prop :=
  ∀ i ∈ emu.current, InsideMemory emu.arch i

namespace Debugged

/-- `emu_cont` takes turns, and nothing else happens until it returns. -/
def Expects (debugged : Debugged) : Request → Prop
  | .turn => debugged.inLoop = true
  | _ => debugged.inLoop = false

/-- C defines what the emulator does for the request. -/
def Defined (debugged : Debugged) : Request → Prop
  | .setBp _ _ | .delBp _ _ | .cont => True
  | .readReg regno => 0 ≤ regno
  | .writeReg regno data => 0 ≤ regno ∧ (regno ≤ 32 → regsz ≤ data.length)
  | .readMem addr len => (addr + len) % 2 ^ 64 ≤ memSize → addr + len ≤ memSize
  | .writeMem addr len val =>
      (addr + len) % 2 ^ 64 ≤ memSize → len ≤ val.length ∧ addr + len ≤ memSize
  | .stepi => debugged.emu.pc < debugged.emu.m.codeSize → AccessesMemory debugged.emu
  | .turn => emuContTest debugged.emu = true → AccessesMemory debugged.emu

end Debugged

theorem emuReadReg_ok_iff (emu : Emu) (regno : ℤ) :
    (∃ result, emuReadReg emu regno = .ok result) ↔ 0 ≤ regno := by
  rw [emuReadReg]
  split
  · exact iff_of_true ⟨_, rfl⟩ (by omega)
  · split
    · exact iff_of_true ⟨_, rfl⟩ (by omega)
    · split
      · rename_i hslot
        exact iff_of_true ⟨_, rfl⟩ hslot.1
      · exact iff_of_false (by simp) (by omega)

theorem emuWriteReg_ok_iff (emu : Emu) (regno : ℤ) (data : List UInt8) :
    (∃ result, emuWriteReg emu regno data = .ok result) ↔
      0 ≤ regno ∧ (regno ≤ 32 → regsz ≤ data.length) := by
  rw [emuWriteReg]
  split
  · exact iff_of_true ⟨_, rfl⟩ ⟨by omega, by omega⟩
  · by_cases hlength : regsz ≤ data.length
    · rw [Block.read?_start hlength, inBounds_some]
      simp only [bind, Except.bind]
      split
      · exact iff_of_true ⟨_, rfl⟩ ⟨by omega, fun _ => hlength⟩
      · split
        · rename_i hslot
          exact iff_of_true ⟨_, rfl⟩ ⟨hslot.1, fun _ => hlength⟩
        · exact iff_of_false (by simp) (by omega)
    · rw [Block.read?, if_neg (by rwa [Nat.zero_add])]
      refine iff_of_false ?_ fun hboth => hlength (hboth.2 (by omega))
      rintro ⟨result, heq⟩
      cases heq

theorem emuReadMem_ok_iff (emu : Emu) (addr len : ℕ) :
    (∃ result, emuReadMem emu addr len = .ok result) ↔
      ((addr + len) % 2 ^ 64 ≤ memSize → addr + len ≤ memSize) := by
  rw [emuReadMem]
  split
  · exact iff_of_true ⟨_, rfl⟩ (by omega)
  · rename_i hpasses
    by_cases hfits : addr + len ≤ memSize
    · have hread : Block.read? emu.m.mem addr len = some (Block.slice emu.m.mem addr len) :=
        Block.read?_eq_some.mpr ⟨by rwa [emu.m.length_mem], rfl⟩
      rw [hread]
      exact iff_of_true ⟨_, rfl⟩ fun _ => hfits
    · refine iff_of_false ?_ fun himp => hfits (himp (by omega))
      rw [Block.read?, if_neg (by rwa [emu.m.length_mem])]
      rintro ⟨result, heq⟩
      cases heq

theorem emuWriteMem_ok_iff (emu : Emu) (addr len : ℕ) (val : List UInt8) :
    (∃ result, emuWriteMem emu addr len val = .ok result) ↔
      ((addr + len) % 2 ^ 64 ≤ memSize → len ≤ val.length ∧ addr + len ≤ memSize) := by
  rw [emuWriteMem]
  split
  · exact iff_of_true ⟨_, rfl⟩ (by omega)
  · rename_i hpasses
    by_cases hlength : len ≤ val.length
    · rw [Block.read?_start hlength, inBounds_some]
      simp only [bind, Except.bind]
      by_cases hfits : addr + len ≤ memSize
      · have htaken : addr + (val.take len).length ≤ memSize := by
          rw [List.length_take]
          omega
        obtain ⟨m, hm, -⟩ := emu.m.write_of_fits htaken
        rw [hm]
        exact iff_of_true ⟨_, rfl⟩ fun _ => ⟨hlength, hfits⟩
      · refine iff_of_false ?_ fun himp => hfits (himp (by omega)).2
        rw [Mem.write, dif_neg (by
          rw [emu.m.length_mem, List.length_take]
          omega)]
        rintro ⟨result, heq⟩
        cases heq
    · rw [Block.read?, if_neg (by rwa [Nat.zero_add])]
      refine iff_of_false ?_ fun himp => hlength (himp (by omega)).1
      rintro ⟨result, heq⟩
      cases heq

/-- The instruction at `pc`, with `pc` in the program. -/
theorem emuFetchExec_ok_iff {emu : Emu} (hinside : emu.pc < emu.m.codeSize) :
    (∃ result, emuFetchExec emu = .ok result) ↔ AccessesMemory emu := by
  rw [emuFetchExec_eq hinside, AccessesMemory, Emu.current]
  cases decode (loadLE emu.arch.mem emu.arch.pc 4) with
  | none => exact iff_of_true ⟨_, rfl⟩ (by simp)
  | some i =>
      show (∃ result, Emu.execute _ i = .ok result) ↔ _
      rw [(ready_zeroed emu).execute_ok_iff i]
      simp

theorem emuStepi_ok_iff (emu : Emu) :
    (∃ result, emuStepi emu = .ok result) ↔
      (emu.pc < emu.m.codeSize → AccessesMemory emu) := by
  rw [emuStepi]
  dsimp only
  by_cases hinside : emu.pc < emu.m.codeSize
  · have hstarted : (emuStartRun emu).pc < (emuStartRun emu).m.codeSize := hinside
    have hexec : (∃ result, emuFetchExec (emuStartRun emu) = .ok result) ↔ AccessesMemory emu :=
      emuFetchExec_ok_iff hstarted
    rw [if_pos hstarted]
    constructor
    · rintro ⟨result, hrun⟩ -
      obtain ⟨executed, hfetch, -⟩ := Except.ok_bind_iff.mp hrun
      exact hexec.mp ⟨executed, hfetch⟩
    · intro haccess
      obtain ⟨executed, hfetch⟩ := hexec.mpr (haccess hinside)
      exact ⟨_, Except.ok_bind_iff.mpr ⟨executed, hfetch, rfl⟩⟩
  · have hstarted : ¬ (emuStartRun emu).pc < (emuStartRun emu).m.codeSize := hinside
    rw [if_neg hstarted]
    exact iff_of_true ⟨_, rfl⟩ fun hpc => absurd hpc hinside

theorem emuContBody_ok_iff {emu : Emu} (hinside : emu.pc < emu.m.codeSize) :
    (∃ result, emuContBody emu = .ok result) ↔ AccessesMemory emu := by
  rw [← emuFetchExec_ok_iff hinside, emuContBody_eq]
  constructor
  · rintro ⟨result, hbody⟩
    obtain ⟨executed, hfetch, -⟩ := Except.ok_bind_iff.mp hbody
    exact ⟨executed, hfetch⟩
  · rintro ⟨executed, hfetch⟩
    rw [hfetch]
    simp only [bind, Except.bind]
    split
    · exact ⟨_, rfl⟩
    · exact ⟨_, rfl⟩

namespace Debugged

variable (debugged : Debugged)

theorem isSome_turn_iff : debugged.turn.isSome ↔ debugged.Defined .turn := by
  rw [turn, Defined]
  dsimp only
  by_cases htest : emuContTest debugged.emu = true
  · rw [if_pos htest, ← emuContBody_ok_iff (emuContTest_true htest).1]
    rcases emuContBody debugged.emu with fault | ⟨_ | act, next⟩
    · simp [htest]
    · simp
    · simp
  · rw [if_neg htest]
    exact iff_of_true rfl fun hpass => absurd hpass htest

theorem isSome_request_iff {request : Request} (hrequest : request ≠ .turn) :
    (debugged.request request).isSome ↔ debugged.Defined request := by
  cases request with
  | setBp | delBp | cont => exact iff_of_true rfl trivial
  | readReg regno =>
      rw [Debugged.request, Defined, ← emuReadReg_ok_iff debugged.emu]
      cases emuReadReg debugged.emu regno with
      | error fault => simp
      | ok result => simp
  | writeReg regno data =>
      rw [Debugged.request, Defined, ← emuWriteReg_ok_iff debugged.emu]
      cases emuWriteReg debugged.emu regno data with
      | error fault => simp
      | ok result => simp
  | readMem addr len =>
      rw [Debugged.request, Defined, ← emuReadMem_ok_iff debugged.emu]
      cases emuReadMem debugged.emu addr len with
      | error fault => simp
      | ok result => simp
  | writeMem addr len val =>
      rw [Debugged.request, Defined, ← emuWriteMem_ok_iff debugged.emu]
      cases emuWriteMem debugged.emu addr len val with
      | error fault => simp
      | ok result => simp
  | stepi =>
      rw [Debugged.request, Defined, ← emuStepi_ok_iff debugged.emu]
      cases emuStepi debugged.emu with
      | error fault => simp
      | ok result => simp
  | turn => exact absurd rfl hrequest

/-- **The step.**  It has a result exactly if it is expected and C defines it. -/
theorem isSome_step_iff (request : Request) :
    (debugged.step request).isSome ↔ debugged.Expects request ∧ debugged.Defined request := by
  unfold Debugged.step
  cases hloop : debugged.inLoop with
  | true =>
      rw [if_pos rfl]
      cases request with
      | turn =>
          rw [debugged.isSome_turn_iff]
          exact ⟨fun hdefined => ⟨hloop, hdefined⟩, And.right⟩
      | _ => simp [Expects, hloop]
  | false =>
      rw [if_neg (by decide)]
      cases request with
      | turn => simp [Debugged.request, Expects, hloop]
      | _ =>
          rw [debugged.isSome_request_iff (by simp)]
          exact ⟨fun hdefined => ⟨hloop, hdefined⟩, And.right⟩

end Debugged

/-- **Where the emulator leaves what C defines.**  For every program and every sequence of requests
that a debugger can make, continues taken turn by turn: all of it is defined if and only if no
register with a negative number is asked for, nothing is written from too few bytes, no range whose
end wraps around to the memory is read or written, and every instruction that is executed accesses
the memory only. -/
theorem debugging_defined_iff (m : Mem) (requests : List Request) :
    ((debugging m).run requests).isSome ↔
      (debugging m).Guarded (fun debugged request =>
        debugged.Expects request ∧ debugged.Defined request) requests :=
  Machine.isSome_run_iff (fun debugged request => debugged.isSome_step_iff request) requests

end MiniGdbstub
