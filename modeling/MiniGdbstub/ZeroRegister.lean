import MiniGdbstub.Debugging

/-!
# Register 0 under a debugger

`emu_exec` stores zero in `x[0]` before an instruction and nowhere else.  An instruction with
`x0` as its destination, and a debugger that writes register 0, leave another value there until
the next instruction comes, and `emu_read_reg` reads it.

What is in `x[0]` depends on what touched it last, an instruction or the debugger, and the debugger
sees zero exactly if this left zero (`seesZero_iff`).
-/

namespace MiniGdbstub

open Rv64i

/-! ## What the log says -/

/-- What touched `x[0]` last left zero there: an instruction that leaves zero, or a write of
zero. -/
def LeftZero : List LogEntry → Prop
  | [] => True
  | .executed emu _ :: _ => LeavesZero emu
  | .writeReg regno data :: before =>
      if regno = 0 then littleEndian (data.take regsz) = 0 else LeftZero before
  | _ :: before => LeftZero before

/-- A read of register 0 found zero. -/
def LogEntry.ShowsZero : LogEntry → Prop
  | .readReg regno value => regno = 0 → value = littleEndianBytes regsz 0
  | _ => True

/-- Each time register 0 was read the value was zero. -/
def SeesZero (log : List LogEntry) : Prop :=
  ∀ entry ∈ log, entry.ShowsZero

/-- Register 0 is read only after zero was left there. -/
def ReadsZero (debugged : Debugged) : Request → Prop
  | .readReg regno => regno = 0 → LeftZero debugged.log
  | _ => True

instance (emu : Emu) : Decidable (LeavesZero emu) :=
  inferInstanceAs (Decidable (∀ i ∈ emu.current, i.rd = 0 → i.result emu.arch = 0))

instance decidableLeftZero : ∀ log, Decidable (LeftZero log)
  | [] => inferInstanceAs (Decidable True)
  | .executed emu _ :: _ => inferInstanceAs (Decidable (LeavesZero emu))
  | .writeReg regno data :: before =>
      have := decidableLeftZero before
      inferInstanceAs (Decidable
        (if regno = 0 then littleEndian (data.take regsz) = 0 else LeftZero before))
  | .setBp _ _ :: before => decidableLeftZero before
  | .delBp _ _ :: before => decidableLeftZero before
  | .readReg _ _ :: before => decidableLeftZero before
  | .returned _ _ :: before => decidableLeftZero before

instance : ∀ entry : LogEntry, Decidable entry.ShowsZero
  | .readReg regno value =>
      inferInstanceAs (Decidable (regno = 0 → value = littleEndianBytes regsz 0))
  | .setBp .. | .delBp .. | .writeReg .. | .executed .. | .returned .. =>
      inferInstanceAs (Decidable True)

instance (log : List LogEntry) : Decidable (SeesZero log) :=
  inferInstanceAs (Decidable (∀ entry ∈ log, entry.ShowsZero))

instance (debugged : Debugged) : ∀ request, Decidable (ReadsZero debugged request)
  | .readReg regno => inferInstanceAs (Decidable (regno = 0 → LeftZero debugged.log))
  | .setBp .. | .delBp .. | .writeReg .. | .readMem .. | .writeMem .. | .stepi | .cont | .turn =>
      inferInstanceAs (Decidable True)

/-! ## Accesses to register 0 -/

/-- The bytes of a value stand for the value. -/
theorem littleEndian_littleEndianBytes (value : UInt64) :
    littleEndian (littleEndianBytes regsz value) = value := by
  have hlength : (littleEndianBytes regsz value).length = regsz :=
    length_littleEndianBytes regsz value
  have hslice : Block.slice (littleEndianBytes regsz value) (0 : Word).toNat regsz =
      littleEndianBytes regsz value := by
    rw [Block.slice, ← hlength]
    exact List.take_length
  have hover : Block.overwrite (List.replicate regsz 0) (0 : Word).toNat
      (littleEndianBytes regsz value) = littleEndianBytes regsz value := by
    rw [Block.overwrite, hlength]
    exact List.append_nil _
  have hvalue := littleEndian_slice (littleEndianBytes regsz value) regsz 0 (by
    rw [hlength]
    decide) (by rw [hlength]; decide)
  have hstored : memoryOf (Block.overwrite (List.replicate regsz 0) (0 : Word).toNat
      (littleEndianBytes regsz value)) =
        storeLE (memoryOf (List.replicate regsz 0)) 0 regsz value.toBitVec :=
    memoryOf_overwrite (by decide) (by decide) (by decide) value
  rw [hover] at hstored
  apply UInt64.toBitVec_inj.mp
  rw [hslice, hstored, load_store _ _ _ (by decide) (by decide)] at hvalue
  rw [hvalue, BitVec.setWidth_setWidth_of_le _ (by decide)]
  exact BitVec.setWidth_eq _

theorem littleEndianBytes_eq_zero_iff (value : UInt64) :
    littleEndianBytes regsz value = littleEndianBytes regsz 0 ↔ value = 0 := by
  constructor
  · intro heq
    have hvalues := congrArg littleEndian heq
    rwa [littleEndian_littleEndianBytes, littleEndian_littleEndianBytes] at hvalues
  · intro hzero
    rw [hzero]

/-- A read of register 0. -/
theorem emuReadReg_zero (emu : Emu) :
    emuReadReg emu 0 = .ok (0, littleEndianBytes regsz (emu.reg 0)) := rfl

/-- A write of a register, and what is in `x[0]` after it. -/
theorem emuWriteReg_reg_zero {emu next : Emu} {regno : ℤ} {data : List UInt8} {ret : Int32}
    (hwrite : emuWriteReg emu regno data = .ok (ret, next)) :
    next.reg 0 = if regno = 0 then littleEndian (data.take regsz) else emu.reg 0 := by
  rw [emuWriteReg] at hwrite
  split at hwrite
  · rename_i hlarge
    cases hwrite
    rw [if_neg (by omega)]
  · obtain ⟨bytes, hread, hstored⟩ := Except.ok_bind_iff.mp hwrite
    split at hstored
    · rename_i hpc
      cases hstored
      rw [if_neg (by omega)]
      rfl
    · split at hstored
      · rename_i hslot
        cases hstored
        have hbytes : bytes = data.take regsz := by
          cases hdata : Block.read? data 0 regsz with
          | none =>
              rw [hdata] at hread
              cases hread
          | some cells =>
              rw [hdata] at hread
              cases hread
              exact (Block.read?_eq_some.mp hdata).2.symm
        show (emu.x.set regno.toNat (littleEndian bytes) hslot.2)[0] = _
        rw [Vector.getElem_set, hbytes]
        by_cases hzero : regno = 0
        · rw [if_pos (by omega), if_pos hzero]
        · rw [if_neg (by omega), if_neg hzero]
          rfl
      · cases hstored

/-! ## Every run -/

/-- What every run keeps: the value in `x[0]` and the last touch of it. -/
def Debugged.Tracked (debugged : Debugged) : Prop :=
  debugged.emu.reg 0 = 0 ↔ LeftZero debugged.log

namespace Debugged.Tracked

variable {debugged next : Debugged}

/-- What does not touch the registers keeps the value and its history. -/
theorem same (htracked : debugged.Tracked) {emu : Emu} {inLoop : Bool} {log : List LogEntry}
    (hx : emu.x = debugged.emu.x) (hlog : LeftZero log ↔ LeftZero debugged.log) :
    Debugged.Tracked { emu := emu, inLoop := inLoop, log := log } := by
  have hreg : emu.reg 0 = debugged.emu.reg 0 := by rw [Emu.reg, hx, ← Emu.reg]
  show emu.reg 0 = 0 ↔ LeftZero log
  rw [hreg, hlog]
  exact htracked

/-- The value read from register 0 is what was left there. -/
theorem sees_iff (htracked : debugged.Tracked) {regno : ℤ} {ret : Int32} {value : List UInt8}
    (hread : emuReadReg debugged.emu regno = .ok (ret, value)) :
    (regno = 0 → value = littleEndianBytes regsz 0) ↔ (regno = 0 → LeftZero debugged.log) := by
  refine forall_congr' ?_
  rintro rfl
  rw [emuReadReg_zero] at hread
  cases hread
  rw [littleEndianBytes_eq_zero_iff]
  exact htracked

/-- **The step.**  Each move keeps the value and its history, and what the debugger sees stays
zero exactly if it reads zero. -/
theorem step (htracked : debugged.Tracked) {request : Request}
    (hstep : debugged.step request = some next) :
    next.Tracked ∧
      (SeesZero next.log ↔ SeesZero debugged.log ∧ ReadsZero debugged request) := by
  cases debugMove_of_step hstep with
  | setBp addr type =>
      refine ⟨htracked.same (emuSetBp_x _ addr type) Iff.rfl, ?_⟩
      simp [SeesZero, LogEntry.ShowsZero, ReadsZero]
  | delBp addr type =>
      refine ⟨htracked.same (emuDelBp_x _ addr type) Iff.rfl, ?_⟩
      simp [SeesZero, LogEntry.ShowsZero, ReadsZero]
  | readReg _ hread =>
      refine ⟨htracked, ?_⟩
      rw [SeesZero, List.forall_mem_cons, LogEntry.ShowsZero, htracked.sees_iff hread, and_comm]
      exact Iff.rfl
  | @writeReg regno data _ _ _ hwrite =>
      refine ⟨?_, by simp [SeesZero, LogEntry.ShowsZero, ReadsZero]⟩
      rw [Debugged.Tracked, emuWriteReg_reg_zero hwrite, LeftZero]
      by_cases hzero : regno = 0
      · rw [if_pos hzero, if_pos hzero]
      · rw [if_neg hzero, if_neg hzero]
        exact htracked
  | readMem => exact ⟨htracked, by simp [ReadsZero]⟩
  | writeMem => exact ⟨htracked.same rfl Iff.rfl, by simp [ReadsZero]⟩
  | stepi _ hexec => exact ⟨hexec.zero_iff, by simp [SeesZero, LogEntry.ShowsZero, ReadsZero]⟩
  | stepiOutside => exact ⟨htracked, by simp [ReadsZero]⟩
  | cont => exact ⟨htracked, by simp [ReadsZero]⟩
  | goOn _ _ hexec => exact ⟨hexec.zero_iff, by simp [SeesZero, LogEntry.ShowsZero, ReadsZero]⟩
  | finish _ _ hexec => exact ⟨hexec.zero_iff, by simp [SeesZero, LogEntry.ShowsZero, ReadsZero]⟩
  | stop => exact ⟨htracked, by simp [SeesZero, LogEntry.ShowsZero, ReadsZero]⟩

end Debugged.Tracked

/-- **The debugger sees zero exactly where zero was left.**  For every program and every sequence
of requests: each value read from register 0 is zero, if and only if each such read comes after an
instruction that leaves zero there, or after a write of zero, or before everything that touches
register 0. -/
theorem seesZero_iff {m : Mem} {requests : List Request} {debugged : Debugged}
    (hrun : (debugging m).run requests = some debugged) :
    SeesZero debugged.log ↔ (debugging m).Guarded ReadsZero requests := by
  have hstart : (debugging m).start.Tracked := iff_of_true rfl trivial
  exact Machine.run_iff_guarded ⟨hstart, by simp [SeesZero, debugging]⟩
    (fun _ _ _ htracked hstep => Debugged.Tracked.step htracked hstep) hrun

/-- `addi x1, x0, 7`, and then register 0 is read. -/
theorem seesZero_iff_addi :
    ∃ debugged, (debugging (Mem.load [0x93, 0x00, 0x70, 0x00] (by decide))).run
        [.stepi, .readReg 0] = some debugged ∧ SeesZero debugged.log := by
  have hsome : ((debugging (Mem.load [0x93, 0x00, 0x70, 0x00] (by decide))).run
      [.stepi, .readReg 0]).isSome = true := by
    decide +kernel
  obtain ⟨debugged, hrun⟩ := Option.isSome_iff_exists.mp hsome
  exact ⟨debugged, hrun, (seesZero_iff hrun).mpr (by decide +kernel)⟩

/-- `jal x0, 0`, and then register 0 is read: it holds 4. -/
theorem jumpAndLink_shows :
    ∃ debugged, (debugging (Mem.load [0x6f, 0x00, 0x00, 0x00] (by decide))).run
        [.stepi, .readReg 0] = some debugged ∧ debugged.emu.reg 0 = 4 ∧
      ¬ SeesZero debugged.log := by
  have hseen : (((debugging (Mem.load [0x6f, 0x00, 0x00, 0x00] (by decide))).run
      [.stepi, .readReg 0]).map fun debugged =>
        (debugged.emu.reg 0, decide (SeesZero debugged.log))) = some (4, false) := by
    decide +kernel
  obtain ⟨debugged, hrun, heq⟩ := Option.map_eq_some_iff.mp hseen
  simp only [Prod.mk.injEq] at heq
  exact ⟨debugged, hrun, heq.1, of_decide_eq_false heq.2⟩

end MiniGdbstub
