import MiniGdbstub.LoadsStores
import MiniGdbstub.Library.Machine

/-!
# The reference target under a debugger

A debugger makes requests of the emulator in any order, and what happens is written to a log.
`emu_cont` is a request that starts the loop and then turns of the loop, so a run that never
ends is one that takes turns for ever; during the loop there are no other requests, and no
interrupts.

What is there to say about the emulator is said about the log: which breakpoint is set, whether
one was ever deleted, and what was last done to register 0.
-/

namespace MiniGdbstub

open Rv64i

/-! ## Requests -/

/-- What a debugger asks for; `turn` is one turn of the loop of `emu_cont`. -/
inductive Request
  | setBp (addr : UInt64) (type : ℕ)
  | delBp (addr : UInt64) (type : ℕ)
  | readReg (regno : ℤ)
  | writeReg (regno : ℤ) (data : List UInt8)
  | readMem (addr len : ℕ)
  | writeMem (addr len : ℕ) (val : List UInt8)
  | stepi
  | cont
  | turn

/-- What happened: an instruction was executed in the state `emu`, in `emu_cont` or not, and
`emu_cont` returned in the state `emu`. -/
inductive LogEntry
  | setBp (addr : UInt64) (ret : Bool)
  | delBp (addr : UInt64) (type : ℕ)
  | readReg (regno : ℤ) (value : List UInt8)
  | writeReg (regno : ℤ) (data : List UInt8)
  | executed (emu : Emu) (inCont : Bool)
  | returned (act : Action) (emu : Emu)

/-- The emulator, whether `emu_cont` is in its loop, and the log, the last event first. -/
structure Debugged where
  emu : Emu
  inLoop : Bool
  log : List LogEntry

namespace Debugged

/-- One turn of the loop. -/
def turn (debugged : Debugged) : Option Debugged :=
  let { emu, log, .. } := debugged
  if emuContTest emu then
    match emuContBody emu with
    | .error _ => none
    | .ok (none, next) => some { emu := next, inLoop := true, log := .executed emu true :: log }
    | .ok (some act, next) =>
        some
          { emu := next
            inLoop := false
            log := .returned act next :: .executed emu true :: log }
  else
    some { debugged with inLoop := false, log := .returned .resume emu :: log }

/-- A request outside the loop.  A step that leaves what C defines has no result. -/
def request (debugged : Debugged) : Request → Option Debugged
  | .setBp addr type =>
      let (ret, emu) := emuSetBp debugged.emu addr type
      some { debugged with emu := emu, log := .setBp addr ret :: debugged.log }
  | .delBp addr type =>
      let (_, emu) := emuDelBp debugged.emu addr type
      some { debugged with emu := emu, log := .delBp addr type :: debugged.log }
  | .readReg regno =>
      match emuReadReg debugged.emu regno with
      | .error _ => none
      | .ok (_, value) => some { debugged with log := .readReg regno value :: debugged.log }
  | .writeReg regno data =>
      match emuWriteReg debugged.emu regno data with
      | .error _ => none
      | .ok (_, emu) =>
          some { debugged with emu := emu, log := .writeReg regno data :: debugged.log }
  | .readMem addr len =>
      match emuReadMem debugged.emu addr len with
      | .error _ => none
      | .ok _ => some debugged
  | .writeMem addr len val =>
      match emuWriteMem debugged.emu addr len val with
      | .error _ => none
      | .ok (_, emu) => some { debugged with emu := emu }
  | .stepi =>
      match emuStepi debugged.emu with
      | .error _ => none
      | .ok (_, emu) =>
          some
            { debugged with
              emu := emu
              log := if debugged.emu.pc < debugged.emu.m.codeSize then
                .executed debugged.emu false :: debugged.log else debugged.log }
  | .cont => some { debugged with emu := emuStartRun debugged.emu, inLoop := true }
  | .turn => none

def step (debugged : Debugged) (request : Request) : Option Debugged :=
  if debugged.inLoop then
    match request with
    | .turn => debugged.turn
    | _ => none
  else
    debugged.request request

end Debugged

/-- The emulator with a program, and a debugger. -/
def debugging (m : Mem) : Machine Debugged Request where
  start := { emu := emuInit m, inLoop := false, log := [] }
  step := Debugged.step

/-! ## What an instruction does to the emulator -/

/-- The instruction at `pc`; there is none if the word is not implemented or invalid. -/
def Emu.current (emu : Emu) : Option Instr :=
  decode (loadLE emu.arch.mem emu.arch.pc 4)

/-- The instruction at `pc` leaves zero in `x[0]`: it writes another register, or none, or it
computes zero. -/
def LeavesZero (emu : Emu) : Prop :=
  ∀ i ∈ emu.current, i.rd = 0 → i.result emu.arch = 0

/-- The fields of the emulator that belong to the debugger. -/
structure SameControl (emu next : Emu) : Prop where
  bpIsSet : next.bpIsSet = emu.bpIsSet
  bpAddr : next.bpAddr = emu.bpAddr
  halt : next.halt = emu.halt

/-- An access that returns was inside the memory. -/
theorem readLen_inside {emu : Emu} {bit : ℕ} {addr value : UInt64}
    (hread : readLen bit emu addr = .ok value) : addr.toNat + bit / 8 ≤ memSize := by
  rw [readLen] at hread
  obtain ⟨bytes, hbytes, -⟩ := Except.ok_bind_iff.mp hread
  by_contra hout
  rw [Block.read?, if_neg (by rwa [emu.m.length_mem])] at hbytes
  cases hbytes

section

variable {emu next : Emu} {s : State} {ret : Int32}

theorem loadReg_ok {bit : ℕ} {rd base : Reg} {offset : BitVec 12}
    (hrun : emu.loadReg bit rd base offset = .ok (ret, next)) :
    ret = 0 ∧ (emu.reg base + signed offset).toNat + bit / 8 ≤ memSize ∧
      ∃ value, next = emu.setRd rd value := by
  rw [Emu.loadReg] at hrun
  obtain ⟨value, hread, hreturn⟩ := Except.ok_bind_iff.mp hrun
  cases hreturn
  exact ⟨rfl, readLen_inside hread, value, rfl⟩

theorem storeReg_ok {bit : ℕ} {base rs2 : Reg} {offset : BitVec 12}
    (hrun : emu.storeReg bit base rs2 offset = .ok (ret, next)) :
    ret = 0 ∧ ∃ m, next = { emu with m := m } := by
  rw [Emu.storeReg] at hrun
  obtain ⟨after, hwrite, hreturn⟩ := Except.ok_bind_iff.mp hrun
  rw [writeLen] at hwrite
  obtain ⟨m, -, hafter⟩ := Except.ok_bind_iff.mp hwrite
  cases hafter
  cases hreturn
  exact ⟨rfl, m, rfl⟩

/-- The handlers return zero and leave the fields of the debugger alone. -/
theorem execute_control {i : Instr} (hrun : emu.execute i = .ok (ret, next)) :
    ret = 0 ∧ SameControl emu next := by
  cases i with
  | lw | ld =>
      obtain ⟨hret, -, value, rfl⟩ := loadReg_ok hrun
      exact ⟨hret, rfl, rfl, rfl⟩
  | sb | sw | sd =>
      obtain ⟨hret, m, rfl⟩ := storeReg_ok hrun
      exact ⟨hret, rfl, rfl, rfl⟩
  | _ =>
      cases hrun
      exact ⟨rfl, rfl, rfl, rfl⟩

/-- A register that is written holds zero afterwards if it is not `x0`, or if the value is
zero. -/
theorem Ready.setRd_zero_iff (hready : Ready emu s) {rd : Reg} {value : UInt64} {result : Word}
    (hvalue : value.toBitVec = 0 ↔ result = 0) :
    (emu.setRd rd value).reg 0 = 0 ↔ (rd = 0 → result = 0) := by
  rw [reg_setRd, ← UInt64.toBitVec_inj]
  by_cases hrd : rd = 0
  · rw [if_pos hrd.symm]
    exact hvalue.trans ⟨fun hzero _ => hzero, fun hzero => hzero hrd⟩
  · rw [if_neg (Ne.symm hrd)]
    exact iff_of_true ((hready.reg 0).trans s.x_zero) fun heq => absurd heq hrd

/-- A word is zero however it is extended. -/
theorem extended_eq_zero_iff (word : BitVec 32) :
    word.setWidth 64 = 0 ↔ word.signExtend 64 = 0 := by
  constructor
  · intro hzero
    have hword := congrArg (BitVec.setWidth 32) hzero
    rw [BitVec.setWidth_setWidth_of_le _ (by decide), BitVec.setWidth_eq] at hword
    rw [hword]
    rfl
  · intro hzero
    have hword := congrArg (BitVec.setWidth 32) hzero
    rw [setWidth_signExtend (by decide), BitVec.signExtend_eq] at hword
    rw [hword]
    rfl

/-- The handlers leave zero in `x[0]` exactly if RV64I has nothing else to write there. -/
theorem Ready.execute_zero_iff (hready : Ready emu s) {i : Instr}
    (hrun : emu.execute i = .ok (ret, next)) :
    next.reg 0 = 0 ↔ (i.rd = 0 → i.result s = 0) := by
  cases i with
  | lw rd base offset =>
      obtain ⟨-, hinside, -⟩ := loadReg_ok hrun
      have hfits : (s.addr base offset).toNat + 4 ≤ memSize := by rwa [← hready.addr]
      rw [Emu.execute, hready.loadReg_eq rd base hfits] at hrun
      cases hrun
      exact hready.setRd_zero_iff (extended_eq_zero_iff _)
  | ld rd base offset =>
      obtain ⟨-, hinside, -⟩ := loadReg_ok hrun
      have hfits : (s.addr base offset).toNat + 8 ≤ memSize := by rwa [← hready.addr]
      rw [Emu.execute, hready.loadReg_eq rd base hfits] at hrun
      cases hrun
      refine hready.setRd_zero_iff ?_
      rw [BitVec.setWidth_eq]
      exact Iff.rfl
  | sb | sw | sd =>
      obtain ⟨-, m, rfl⟩ := storeReg_ok hrun
      exact iff_of_true (UInt64.toBitVec_inj.mp ((hready.reg 0).trans s.x_zero)) fun _ => rfl
  | _ =>
      cases hrun
      refine hready.setRd_zero_iff ?_
      rw [hready.result_eq rfl]

/-- **The specification of a step.**  The code is negative exactly for a word that is no
instruction, and `x[0]` is zero exactly after an instruction that leaves it so. -/
theorem emuFetchExec_spec (hinside : emu.pc < emu.m.codeSize)
    (hrun : emuFetchExec emu = .ok (ret, next)) :
    (ret < 0 ↔ emu.current = none) ∧ SameControl emu next ∧
      (next.reg 0 = 0 ↔ LeavesZero emu) := by
  rw [emuFetchExec_eq hinside] at hrun
  have hready := ready_zeroed emu
  rw [LeavesZero, Emu.current]
  cases hcurrent : decode (loadLE emu.arch.mem emu.arch.pc 4) with
  | none =>
      rw [hcurrent] at hrun
      cases hrun
      refine ⟨iff_of_true (by decide) rfl, ⟨rfl, rfl, rfl⟩, iff_of_true ?_ (by simp)⟩
      exact UInt64.toBitVec_inj.mp ((hready.reg 0).trans emu.arch.x_zero)
  | some i =>
      rw [hcurrent] at hrun
      obtain ⟨rfl, hcontrol⟩ := execute_control hrun
      refine ⟨iff_of_false (by decide) (by simp), ?_, ?_⟩
      · exact ⟨hcontrol.bpIsSet, hcontrol.bpAddr, hcontrol.halt⟩
      · rw [hready.execute_zero_iff hrun]
        simp

end

/-- A step executes one instruction if `pc` is in the program. -/
theorem emuStepi_spec {emu next : Emu} {act : Action} (hstep : emuStepi emu = .ok (act, next)) :
    if emu.pc < emu.m.codeSize then
      SameControl (emuStartRun emu) next ∧ (next.reg 0 = 0 ↔ LeavesZero emu)
    else next = emuStartRun emu := by
  rw [emuStepi] at hstep
  dsimp only at hstep
  by_cases hinside : emu.pc < emu.m.codeSize
  · have hstarted : (emuStartRun emu).pc < (emuStartRun emu).m.codeSize := hinside
    rw [if_pos hinside]
    rw [if_pos hstarted] at hstep
    obtain ⟨⟨ret, after⟩, hexec, hreturn⟩ := Except.ok_bind_iff.mp hstep
    cases hreturn
    exact (emuFetchExec_spec hstarted hexec).2
  · have hstarted : ¬ (emuStartRun emu).pc < (emuStartRun emu).m.codeSize := hinside
    rw [if_neg hinside]
    rw [if_neg hstarted] at hstep
    cases hstep
    rfl

/-- The test of the loop passed. -/
theorem emuContTest_true {emu : Emu} (htest : emuContTest emu = true) :
    emu.pc < emu.m.codeSize ∧ emu.pc ≠ emu.bpAddr := by
  rw [emuContTest, Bool.and_eq_true, Bool.and_eq_true] at htest
  exact ⟨of_decide_eq_true htest.1.1, bne_iff_ne.mp htest.1.2⟩

/-- It failed, without an interrupt. -/
theorem emuContTest_false {emu : Emu} (htest : emuContTest emu = false)
    (hhalt : emu.halt = false) : emu.m.codeSize ≤ emu.pc ∨ emu.pc = emu.bpAddr := by
  by_contra hneither
  rw [not_or, UInt64.not_le] at hneither
  rw [emuContTest, decide_eq_true hneither.1, bne_iff_ne.mpr hneither.2, emuIsHalt, hhalt] at htest
  cases htest

/-- A turn that executes an instruction: it ends the loop with `ACT_RESUME` exactly if the word
was no instruction. -/
theorem emuContBody_spec {emu next : Emu} {act : Option Action} (hinside : emu.pc < emu.m.codeSize)
    (hbody : emuContBody emu = .ok (act, next)) :
    (act = some .resume ↔ emu.current = none) ∧ SameControl emu next ∧
      (next.reg 0 = 0 ↔ LeavesZero emu) := by
  have hsteps : emuContBody emu = emuFetchExec emu >>= fun executed =>
      if executed.1 < 0 then return (some .resume, executed.2)
      else do
        let value ← readLen 8 executed.2 tohostAddr.toUInt64
        return (if value ≠ 0 then some .shutdown else none, executed.2) := by
    rw [emuContBody, emuFetchExec]
    cases emuReadMem emu emu.pc.toNat 4 with
    | error fault => rfl
    | ok fetched => rfl
  rw [hsteps] at hbody
  obtain ⟨⟨ret, after⟩, hexec, hrest⟩ := Except.ok_bind_iff.mp hbody
  have hspec := emuFetchExec_spec hinside hexec
  by_cases hret : ret < 0
  · rw [if_pos hret] at hrest
    cases hrest
    exact ⟨iff_of_true rfl (hspec.1.mp hret), hspec.2⟩
  · rw [if_neg hret] at hrest
    obtain ⟨value, -, hreturn⟩ := Except.ok_bind_iff.mp hrest
    cases hreturn
    refine ⟨iff_of_false ?_ fun hnone => hret (hspec.1.mpr hnone), hspec.2⟩
    split <;> simp

/-! ## What the debugger's accesses do to the emulator -/

/-- A register that is written is one of the slots, and the rest stays. -/
theorem emuWriteReg_control {emu next : Emu} {regno : ℤ} {data : List UInt8} {ret : Int32}
    (hwrite : emuWriteReg emu regno data = .ok (ret, next)) : SameControl emu next := by
  rw [emuWriteReg] at hwrite
  split at hwrite
  · cases hwrite
    exact ⟨rfl, rfl, rfl⟩
  · obtain ⟨bytes, -, hstored⟩ := Except.ok_bind_iff.mp hwrite
    split at hstored
    · cases hstored
      exact ⟨rfl, rfl, rfl⟩
    · split at hstored
      · cases hstored
        exact ⟨rfl, rfl, rfl⟩
      · cases hstored

/-- A write to the memory leaves everything else. -/
theorem emuWriteMem_ok {emu next : Emu} {addr len : ℕ} {val : List UInt8} {ret : Int32}
    (hwrite : emuWriteMem emu addr len val = .ok (ret, next)) :
    ∃ m, next = { emu with m := m } := by
  rw [emuWriteMem] at hwrite
  split at hwrite
  · cases hwrite
    exact ⟨emu.m, rfl⟩
  · obtain ⟨bytes, -, hrest⟩ := Except.ok_bind_iff.mp hwrite
    obtain ⟨m, -, hreturn⟩ := Except.ok_bind_iff.mp hrest
    cases hreturn
    exact ⟨m, rfl⟩

/-- The requests for breakpoints leave the registers alone. -/
theorem emuSetBp_x (emu : Emu) (addr : UInt64) (type : ℕ) :
    (emuSetBp emu addr type).2.x = emu.x := by
  rw [emuSetBp]
  split <;> rfl

theorem emuDelBp_x (emu : Emu) (addr : UInt64) (type : ℕ) :
    (emuDelBp emu addr type).2.x = emu.x := by
  rw [emuDelBp]
  split <;> rfl

/-! ## The moves -/

section

variable {debugged next : Debugged}

/-- An instruction was executed on the way from `emu` to `after`. -/
structure Executes (emu after : Emu) : Prop where
  bpIsSet : after.bpIsSet = emu.bpIsSet
  bpAddr : after.bpAddr = emu.bpAddr
  zero_iff : after.reg 0 = 0 ↔ LeavesZero emu

/-- The moves: the requests outside the loop, and in it a turn that goes on, one that ends the
loop with an instruction, and one that ends it without. -/
inductive DebugMove (debugged : Debugged) : Request → Debugged → Prop
  | setBp (addr : UInt64) (type : ℕ) :
      debugged.inLoop = false →
      DebugMove debugged (.setBp addr type)
        { debugged with
          emu := (emuSetBp debugged.emu addr type).2
          log := .setBp addr (emuSetBp debugged.emu addr type).1 :: debugged.log }
  | delBp (addr : UInt64) (type : ℕ) :
      debugged.inLoop = false →
      DebugMove debugged (.delBp addr type)
        { debugged with
          emu := (emuDelBp debugged.emu addr type).2
          log := .delBp addr type :: debugged.log }
  | readReg {regno : ℤ} {ret : Int32} {value : List UInt8} :
      debugged.inLoop = false → emuReadReg debugged.emu regno = .ok (ret, value) →
      DebugMove debugged (.readReg regno)
        { debugged with log := .readReg regno value :: debugged.log }
  | writeReg {regno : ℤ} {data : List UInt8} {ret : Int32} {emu : Emu} :
      debugged.inLoop = false → emuWriteReg debugged.emu regno data = .ok (ret, emu) →
      DebugMove debugged (.writeReg regno data)
        { debugged with emu := emu, log := .writeReg regno data :: debugged.log }
  | readMem {addr len : ℕ} :
      debugged.inLoop = false → DebugMove debugged (.readMem addr len) debugged
  | writeMem {addr len : ℕ} {val : List UInt8} (m : Mem) :
      debugged.inLoop = false →
      DebugMove debugged (.writeMem addr len val)
        { debugged with emu := { debugged.emu with m := m } }
  | stepi {after : Emu} :
      debugged.inLoop = false → Executes debugged.emu after →
      DebugMove debugged .stepi
        { debugged with emu := after, log := .executed debugged.emu false :: debugged.log }
  | stepiOutside :
      debugged.inLoop = false →
      DebugMove debugged .stepi { debugged with emu := emuStartRun debugged.emu }
  | cont :
      debugged.inLoop = false →
      DebugMove debugged .cont { debugged with emu := emuStartRun debugged.emu, inLoop := true }
  | goOn {after : Emu} :
      debugged.inLoop = true → emuContTest debugged.emu = true → Executes debugged.emu after →
      after.halt = debugged.emu.halt → debugged.emu.current ≠ none →
      DebugMove debugged .turn
        { emu := after, inLoop := true, log := .executed debugged.emu true :: debugged.log }
  | finish {act : Action} {after : Emu} :
      debugged.inLoop = true → emuContTest debugged.emu = true → Executes debugged.emu after →
      (act = .resume → debugged.emu.current = none) →
      DebugMove debugged .turn
        { emu := after
          inLoop := false
          log := .returned act after :: .executed debugged.emu true :: debugged.log }
  | stop :
      debugged.inLoop = true → emuContTest debugged.emu = false →
      DebugMove debugged .turn
        { debugged with
          inLoop := false
          log := .returned .resume debugged.emu :: debugged.log }

/-- A turn of the loop is one of the three. -/
theorem debugMove_of_turn (hloop : debugged.inLoop = true) (hturn : debugged.turn = some next) :
    DebugMove debugged .turn next := by
  rw [Debugged.turn] at hturn
  dsimp only at hturn
  by_cases htest : emuContTest debugged.emu = true
  · have hinside := (emuContTest_true htest).1
    rw [if_pos htest] at hturn
    rcases hbody : emuContBody debugged.emu with fault | ⟨_ | act, after⟩
    · rw [hbody] at hturn
      cases hturn
    · rw [hbody] at hturn
      cases hturn
      obtain ⟨hact, hcontrol, hzero⟩ := emuContBody_spec hinside hbody
      exact .goOn hloop htest ⟨hcontrol.bpIsSet, hcontrol.bpAddr, hzero⟩ hcontrol.halt
        fun hnone => nomatch hact.mpr hnone
    · rw [hbody] at hturn
      cases hturn
      obtain ⟨hact, hcontrol, hzero⟩ := emuContBody_spec hinside hbody
      exact .finish hloop htest ⟨hcontrol.bpIsSet, hcontrol.bpAddr, hzero⟩
        fun hresume => hact.mp (congrArg some hresume)
  · rw [if_neg htest] at hturn
    cases hturn
    exact .stop hloop (Bool.eq_false_iff.mpr htest)

/-- Every step is one of the moves. -/
theorem debugMove_of_step {request : Request} (hstep : debugged.step request = some next) :
    DebugMove debugged request next := by
  unfold Debugged.step at hstep
  cases hloop : debugged.inLoop with
  | true =>
      rw [hloop, if_pos rfl] at hstep
      cases request with
      | turn => exact debugMove_of_turn hloop hstep
      | _ => cases hstep
  | false =>
      rw [hloop, if_neg (by decide)] at hstep
      cases request with
      | setBp addr type =>
          cases hstep
          exact .setBp addr type hloop
      | delBp addr type =>
          cases hstep
          exact .delBp addr type hloop
      | readReg regno =>
          rw [Debugged.request] at hstep
          split at hstep
          · cases hstep
          · rename_i hread
            cases hstep
            exact .readReg hloop hread
      | writeReg regno data =>
          rw [Debugged.request] at hstep
          split at hstep
          · cases hstep
          · rename_i hwrite
            cases hstep
            exact .writeReg hloop hwrite
      | readMem addr len =>
          rw [Debugged.request] at hstep
          split at hstep
          · cases hstep
          · cases hstep
            exact .readMem hloop
      | writeMem addr len val =>
          rw [Debugged.request] at hstep
          split at hstep
          · cases hstep
          · rename_i hwrite
            cases hstep
            obtain ⟨m, rfl⟩ := emuWriteMem_ok hwrite
            exact .writeMem m hloop
      | stepi =>
          rw [Debugged.request] at hstep
          split at hstep
          · cases hstep
          · rename_i hexec
            cases hstep
            have hspec := emuStepi_spec hexec
            by_cases hinside : debugged.emu.pc < debugged.emu.m.codeSize
            · rw [if_pos hinside] at hspec
              rw [if_pos hinside]
              exact .stepi hloop ⟨hspec.1.bpIsSet, hspec.1.bpAddr, hspec.2⟩
            · rw [if_neg hinside] at hspec
              rw [if_neg hinside, hspec]
              exact .stepiOutside hloop
      | cont =>
          cases hstep
          exact .cont hloop
      | turn => cases hstep

end

end MiniGdbstub
