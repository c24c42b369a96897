import MiniGdbstub.Library.Block
import MiniGdbstub.Stub

/-!
# The reference target

`emu.c`: a memory of `MEM_SIZE` bytes with the program at its start, 32 registers and a
program counter, one breakpoint, and the flag `halt` that an interrupt raises.

The instructions are decoded and executed on the machine integers of the source; a cast
to `int32_t` and a shift of it to the right are those of `Int32`, and a value of it that is
stored in 64 bits is extended by its sign.  `emu_cont` is split where another thread can
look in: its start, the test of its loop, and the body of its loop.

An access outside the array it is meant for is the fault `outOfBounds`; a load, a store or a
copy that passes the tests of the source is made as it is.
-/

namespace MiniGdbstub

/-! ## The emulator -/

/-- `MEM_SIZE` -/
def memSize : ℕ := 0x1000

/-- `TOHOST_ADDR` -/
def tohostAddr : ℕ := memSize - 4

/-- `REGSZ` -/
def regsz : ℕ := 8

/-- `struct mem`, as `init_mem` fills it. -/
structure Mem where
  mem : List UInt8
  codeSize : UInt64
  length_mem : mem.length = memSize
  codeSize_le : codeSize.toNat ≤ tohostAddr

/-- `struct emu` -/
structure Emu where
  m : Mem
  x : Vector UInt64 32
  pc : UInt64
  bpIsSet : Bool
  bpAddr : UInt64
  halt : Bool

def emuHalt (emu : Emu) : Emu :=
  { emu with halt := true }

def emuStartRun (emu : Emu) : Emu :=
  { emu with halt := false }

def emuIsHalt (emu : Emu) : Bool :=
  emu.halt

/-- `emu_init`, with the memory that `init_mem` has filled. -/
def emuInit (m : Mem) : Emu :=
  emuHalt
    { m := m, x := (Vector.replicate 32 0).set 2 tohostAddr.toUInt64, pc := 0, bpIsSet := false,
      bpAddr := -1, halt := false }

/-! ## Memory -/

/-- `init_mem` with a file that it accepts: the program and zeros behind it. -/
def Mem.load (file : List UInt8) (hsize : file.length ≤ tohostAddr) : Mem where
  mem := file ++ List.replicate (memSize - file.length) 0
  codeSize := file.length.toUInt64
  length_mem := by
    rw [List.length_append, List.length_replicate, Nat.add_sub_cancel' (by
      rw [tohostAddr] at hsize
      omega)]
  codeSize_le := (Nat.mod_le _ _).trans hsize

/-- The value that `read_len` makes of bytes. -/
def littleEndian : List UInt8 → UInt64
  | [] => 0
  | byte :: rest => byte.toUInt64 ||| littleEndian rest <<< 8

/-- The bytes that `write_len` makes of a value. -/
def littleEndianBytes (count : ℕ) (value : UInt64) : List UInt8 :=
  (List.range count).map fun i => (value >>> (8 * i).toUInt64).toUInt8

/-- `read_len` at `emu->m.mem + addr` -/
def readLen (bit : ℕ) (emu : Emu) (addr : UInt64) : Except Fault UInt64 := do
  let bytes ← inBounds (Block.read? emu.m.mem addr.toNat (bit / 8))
  return littleEndian bytes

/-- The memory after bytes were written to it. -/
def Mem.write (m : Mem) (addr : ℕ) (bytes : List UInt8) : Except Fault Mem :=
  if hfits : addr + bytes.length ≤ m.mem.length then
    .ok { m with
      mem := Block.overwrite m.mem addr bytes
      length_mem := (Block.length_overwrite hfits).trans m.length_mem }
  else
    .error .outOfBounds

theorem Mem.write_of_fits (m : Mem) {addr : ℕ} {bytes : List UInt8}
    (hfits : addr + bytes.length ≤ memSize) :
    ∃ after : Mem, m.write addr bytes = .ok after ∧
      after.mem = Block.overwrite m.mem addr bytes ∧ after.codeSize = m.codeSize := by
  have hroom : addr + bytes.length ≤ m.mem.length := by
    rw [m.length_mem]
    exact hfits
  exact ⟨_, dif_pos hroom, rfl, rfl⟩

/-- `write_len` at `emu->m.mem + addr` -/
def writeLen (bit : ℕ) (emu : Emu) (addr : UInt64) (value : UInt64) : Except Fault Emu := do
  let m ← emu.m.write addr.toNat (littleEndianBytes (bit / 8) value)
  return { emu with m := m }

/-! ## Instructions -/

/-- `inst_t` -/
structure Inst where
  inst : UInt64
  rd : Fin 32
  rs1 : Fin 32
  rs2 : Fin 32
  funct3 : UInt32
  funct7 : UInt32

/-- `(int32_t) value` -/
def castInt32 (value : UInt64) : Int32 :=
  value.toUInt32.toInt32

/-- A value of type `int32_t` stored in a `uint64_t`. -/
def extendInt32 (value : Int32) : UInt64 :=
  value.toInt64.toUInt64

/-- `(int32_t) (inst->inst & 0xfff00000) >> 20` -/
def Inst.immediate (inst : Inst) : UInt64 :=
  extendInt32 (castInt32 (inst.inst &&& 0xfff00000) >>> 20)

/-- `(int32_t) (inst->inst & 0xfffff000)` -/
def Inst.upperImmediate (inst : Inst) : UInt64 :=
  extendInt32 (castInt32 (inst.inst &&& 0xfffff000))

def Emu.setReg (emu : Emu) (rd : Fin 32) (value : UInt64) : Emu :=
  { emu with x := emu.x.set rd.val value rd.isLt }

/-- The result of an instruction: the return value and the emulator. -/
abbrev Executed := Except Fault (Int32 × Emu)

def opcode3 (emu : Emu) (inst : Inst) : Executed := do
  let imm := inst.immediate
  if inst.funct3 = 0x2 then
    let value ← readLen 32 emu (emu.x.get inst.rs1 + imm)
    return (0, emu.setReg inst.rd value)
  else if inst.funct3 = 0x3 then
    let value ← readLen 64 emu (emu.x.get inst.rs1 + imm)
    return (0, emu.setReg inst.rd value)
  else
    return (-1, emu)

def opcode13 (emu : Emu) (inst : Inst) : Executed :=
  let imm := inst.immediate
  if inst.funct3 = 0x0 then
    return (0, emu.setReg inst.rd (emu.x.get inst.rs1 + imm))
  else if inst.funct3 = 0x2 then
    return (0, emu.setReg inst.rd
      (if (emu.x.get inst.rs1).toInt64 < imm.toInt64 then 1 else 0))
  else
    return (-1, emu)

def opcode17 (emu : Emu) (inst : Inst) : Executed :=
  return (0, emu.setReg inst.rd (emu.pc + inst.upperImmediate - 4))

def opcode1b (emu : Emu) (inst : Inst) : Executed :=
  let imm := inst.immediate
  if inst.funct3 = 0x0 then
    return (0, emu.setReg inst.rd
      (extendInt32 ((emu.x.get inst.rs1).toUInt32 + imm.toUInt32).toInt32))
  else
    return (-1, emu)

def opcode23 (emu : Emu) (inst : Inst) : Executed := do
  let imm := extendInt32
    ((castInt32 (inst.inst &&& 0xfe000000) >>> 20) ||| castInt32 ((inst.inst >>> 7) &&& 0x1f))
  let addr := emu.x.get inst.rs1 + imm
  if inst.funct3 = 0x0 then
    let emu ← writeLen 8 emu addr (emu.x.get inst.rs2)
    return (0, emu)
  else if inst.funct3 = 0x2 then
    let emu ← writeLen 32 emu addr (emu.x.get inst.rs2)
    return (0, emu)
  else if inst.funct3 = 0x3 then
    let emu ← writeLen 64 emu addr (emu.x.get inst.rs2)
    return (0, emu)
  else
    return (-1, emu)

def opcode33 (emu : Emu) (inst : Inst) : Executed :=
  if inst.funct3 = 0x0 ∧ inst.funct7 = 0x00 then
    return (0, emu.setReg inst.rd (emu.x.get inst.rs1 + emu.x.get inst.rs2))
  else
    return (-1, emu)

def opcode37 (emu : Emu) (inst : Inst) : Executed :=
  return (0, emu.setReg inst.rd inst.upperImmediate)

def opcode3b (emu : Emu) (inst : Inst) : Executed :=
  if inst.funct3 = 0x0 ∧ inst.funct7 = 0x00 then
    return (0, emu.setReg inst.rd
      (extendInt32 ((emu.x.get inst.rs1).toUInt32 + (emu.x.get inst.rs2).toUInt32).toInt32))
  else
    return (-1, emu)

/-- `rd` is written before `rs1` is read. -/
def opcode67 (emu : Emu) (inst : Inst) : Executed :=
  let imm := inst.immediate
  let emu := emu.setReg inst.rd emu.pc
  return (0, { emu with pc := (emu.x.get inst.rs1 + imm) &&& ~~~1 })

def opcode6f (emu : Emu) (inst : Inst) : Executed :=
  let emu := emu.setReg inst.rd emu.pc
  let imm := extendInt32
    ((castInt32 (inst.inst &&& 0x80000000) >>> 11) ||| castInt32 (inst.inst &&& 0xff000) |||
      castInt32 ((inst.inst >>> 9) &&& 0x800) ||| castInt32 ((inst.inst >>> 20) &&& 0x7fe))
  return (0, { emu with pc := emu.pc + imm - 4 })

/-- A field of five bits. -/
def registerField (value : UInt32) : Fin 32 :=
  Fin.ofNat 32 (value &&& 0x1f).toNat

def emuExec (emu : Emu) (rawInst : UInt32) : Executed :=
  let opcode := rawInst &&& 0x7f
  let emu := emu.setReg 0 0
  let inst : Inst :=
    { inst := rawInst.toUInt64
      rd := registerField (rawInst >>> 7)
      rs1 := registerField (rawInst >>> 15)
      rs2 := registerField (rawInst >>> 20)
      funct3 := (rawInst >>> 12) &&& 0x7
      funct7 := (rawInst >>> 25) &&& 0x7f }
  if opcode = 0x3 then opcode3 emu inst
  else if opcode = 0x13 then opcode13 emu inst
  else if opcode = 0x17 then opcode17 emu inst
  else if opcode = 0x1b then opcode1b emu inst
  else if opcode = 0x23 then opcode23 emu inst
  else if opcode = 0x33 then opcode33 emu inst
  else if opcode = 0x37 then opcode37 emu inst
  else if opcode = 0x3b then opcode3b emu inst
  else if opcode = 0x67 then opcode67 emu inst
  else if opcode = 0x6f then opcode6f emu inst
  else return (-1, emu)

/-! ## Continue -/

/-- `EFAULT` -/
def efault : Int32 := 14

/-- `addr + len > MEM_SIZE`, in `size_t`.  What passes the test is copied. -/
def emuReadMem (emu : Emu) (addr len : ℕ) : Except Fault (Int32 × List UInt8) :=
  if memSize < (addr + len) % 2 ^ 64 then
    return (efault, [])
  else do
    let bytes ← inBounds (Block.read? emu.m.mem addr len)
    return (0, bytes)

/-- The condition of the loop of `emu_cont`. -/
def emuContTest (emu : Emu) : Bool :=
  decide (emu.pc < emu.m.codeSize) && emu.pc != emu.bpAddr && !emuIsHalt emu

/-- The body of the loop of `emu_cont`: the action that it ends the loop with, if it
does. -/
def emuContBody (emu : Emu) : Except Fault (Option Action × Emu) := do
  let (_, bytes) ← emuReadMem emu emu.pc.toNat 4
  let inst := (littleEndian bytes).toUInt32
  let (ret, emu) ← emuExec { emu with pc := emu.pc + 4 } inst
  if ret < 0 then
    return (some .resume, emu)
  else
    let value ← readLen 8 emu tohostAddr.toUInt64
    return (if value ≠ 0 then some .shutdown else none, emu)

def emuOnInterrupt (emu : Emu) : Emu :=
  emuHalt emu

/-! ## Step -/

/-- What `emu_cont` and `emu_stepi` do for one instruction. -/
def emuFetchExec (emu : Emu) : Executed := do
  let (_, bytes) ← emuReadMem emu emu.pc.toNat 4
  emuExec { emu with pc := emu.pc + 4 } (littleEndian bytes).toUInt32

def emuStepi (emu : Emu) : Except Fault (Action × Emu) :=
  let emu := emuStartRun emu
  if emu.pc < emu.m.codeSize then do
    let (_, emu) ← emuFetchExec emu
    return (.resume, emu)
  else
    return (.resume, emu)

/-! ## The debugger's accesses -/

/-- The bytes stored behind `reg_value`, none with a nonzero code. -/
def emuReadReg (emu : Emu) (regno : ℤ) : Except Fault (Int32 × List UInt8) :=
  if 32 < regno then
    return (efault, [])
  else if regno = 32 then
    return (0, littleEndianBytes regsz emu.pc)
  else if hslot : 0 ≤ regno ∧ regno.toNat < 32 then
    return (0, littleEndianBytes regsz (emu.x.get ⟨regno.toNat, hslot.2⟩))
  else
    .error .outOfBounds

/-- `data` is what stands behind the pointer. -/
def emuWriteReg (emu : Emu) (regno : ℤ) (data : List UInt8) : Except Fault (Int32 × Emu) :=
  if 32 < regno then
    return (efault, emu)
  else do
    let bytes ← inBounds (Block.read? data 0 regsz)
    if regno = 32 then
      return (0, { emu with pc := littleEndian bytes })
    else if hslot : 0 ≤ regno ∧ regno.toNat < 32 then
      return (0, emu.setReg ⟨regno.toNat, hslot.2⟩ (littleEndian bytes))
    else
      .error .outOfBounds

/-- The test is that of `emu_read_mem`; `val` is what stands behind the pointer. -/
def emuWriteMem (emu : Emu) (addr len : ℕ) (val : List UInt8) : Except Fault (Int32 × Emu) :=
  if memSize < (addr + len) % 2 ^ 64 then
    return (efault, emu)
  else do
    let bytes ← inBounds (Block.read? val 0 len)
    let m ← emu.m.write addr bytes
    return (0, { emu with m := m })

/-! ## The breakpoint -/

/-- `BP_SOFTWARE` -/
def bpSoftware : ℕ := 0

def emuSetBp (emu : Emu) (addr : UInt64) (type : ℕ) : Bool × Emu :=
  if type ≠ bpSoftware ∨ emu.bpIsSet then
    (false, emu)
  else
    (true, { emu with bpIsSet := true, bpAddr := addr })

def emuDelBp (emu : Emu) (addr : UInt64) (type : ℕ) : Bool × Emu :=
  if type ≠ bpSoftware ∨ emu.bpIsSet = false ∨ emu.bpAddr ≠ addr then
    (true, emu)
  else
    (true, { emu with bpIsSet := false, bpAddr := 0 })

/-! ## Instructions leave the flag alone -/

/-- An execution that ends leaves the flag as it was. -/
def KeepsHalt (halt : Bool) (executed : Executed) : Prop :=
  ∀ ret next, executed = .ok (ret, next) → next.halt = halt

theorem KeepsHalt.of_ok {halt : Bool} {ret : Int32} {emu : Emu} (hhalt : emu.halt = halt) :
    KeepsHalt halt (.ok (ret, emu)) := by
  intro _ _ heq
  cases heq
  exact hhalt

theorem KeepsHalt.ite {halt : Bool} {condition : Prop} [Decidable condition] {yes no : Executed}
    (hyes : KeepsHalt halt yes) (hno : KeepsHalt halt no) :
    KeepsHalt halt (if condition then yes else no) := by
  by_cases hcondition : condition
  · rwa [if_pos hcondition]
  · rwa [if_neg hcondition]

theorem KeepsHalt.bind {α : Type} {halt : Bool} {first : Except Fault α} {next : α → Executed}
    (hnext : ∀ value, first = .ok value → KeepsHalt halt (next value)) :
    KeepsHalt halt (first >>= next) := by
  intro ret emu heq
  obtain ⟨value, hfirst, hrest⟩ := Except.ok_bind_iff.mp heq
  exact hnext value hfirst ret emu hrest

theorem writeLen_halt {bit : ℕ} {emu next : Emu} {addr value : UInt64}
    (hwrite : writeLen bit emu addr value = .ok next) : next.halt = emu.halt := by
  obtain ⟨m, -, hnext⟩ := Except.ok_bind_iff.mp hwrite
  cases hnext
  rfl

theorem opcode3_halt (emu : Emu) (inst : Inst) : KeepsHalt emu.halt (opcode3 emu inst) := by
  apply KeepsHalt.ite
  · exact KeepsHalt.bind fun _ _ => KeepsHalt.of_ok rfl
  apply KeepsHalt.ite
  · exact KeepsHalt.bind fun _ _ => KeepsHalt.of_ok rfl
  · exact KeepsHalt.of_ok rfl

theorem opcode23_halt (emu : Emu) (inst : Inst) : KeepsHalt emu.halt (opcode23 emu inst) := by
  apply KeepsHalt.ite
  · exact KeepsHalt.bind fun _ hwrite => KeepsHalt.of_ok (writeLen_halt hwrite)
  apply KeepsHalt.ite
  · exact KeepsHalt.bind fun _ hwrite => KeepsHalt.of_ok (writeLen_halt hwrite)
  apply KeepsHalt.ite
  · exact KeepsHalt.bind fun _ hwrite => KeepsHalt.of_ok (writeLen_halt hwrite)
  · exact KeepsHalt.of_ok rfl

theorem opcode13_halt (emu : Emu) (inst : Inst) : KeepsHalt emu.halt (opcode13 emu inst) := by
  apply KeepsHalt.ite (KeepsHalt.of_ok rfl)
  exact KeepsHalt.ite (KeepsHalt.of_ok rfl) (KeepsHalt.of_ok rfl)

theorem opcode1b_halt (emu : Emu) (inst : Inst) : KeepsHalt emu.halt (opcode1b emu inst) :=
  KeepsHalt.ite (KeepsHalt.of_ok rfl) (KeepsHalt.of_ok rfl)

theorem opcode33_halt (emu : Emu) (inst : Inst) : KeepsHalt emu.halt (opcode33 emu inst) :=
  KeepsHalt.ite (KeepsHalt.of_ok rfl) (KeepsHalt.of_ok rfl)

theorem opcode3b_halt (emu : Emu) (inst : Inst) : KeepsHalt emu.halt (opcode3b emu inst) :=
  KeepsHalt.ite (KeepsHalt.of_ok rfl) (KeepsHalt.of_ok rfl)

theorem emuExec_halt (emu : Emu) (rawInst : UInt32) :
    KeepsHalt emu.halt (emuExec emu rawInst) := by
  unfold emuExec
  apply KeepsHalt.ite
  · exact opcode3_halt (emu.setReg 0 0) _
  apply KeepsHalt.ite
  · exact opcode13_halt (emu.setReg 0 0) _
  apply KeepsHalt.ite
  · exact KeepsHalt.of_ok rfl
  apply KeepsHalt.ite
  · exact opcode1b_halt (emu.setReg 0 0) _
  apply KeepsHalt.ite
  · exact opcode23_halt (emu.setReg 0 0) _
  apply KeepsHalt.ite
  · exact opcode33_halt (emu.setReg 0 0) _
  apply KeepsHalt.ite
  · exact KeepsHalt.of_ok rfl
  apply KeepsHalt.ite
  · exact opcode3b_halt (emu.setReg 0 0) _
  apply KeepsHalt.ite
  · exact KeepsHalt.of_ok rfl
  apply KeepsHalt.ite
  · exact KeepsHalt.of_ok rfl
  · exact KeepsHalt.of_ok rfl

/-- Only an interrupt and the start of a run change the flag. -/
theorem emuContBody_halt {emu next : Emu} {act : Option Action}
    (hbody : emuContBody emu = .ok (act, next)) : next.halt = emu.halt := by
  obtain ⟨⟨_, bytes⟩, -, hfetched⟩ := Except.ok_bind_iff.mp hbody
  obtain ⟨⟨ret, after⟩, hexec, hreturn⟩ := Except.ok_bind_iff.mp hfetched
  have hafter : after.halt = emu.halt :=
    emuExec_halt { emu with pc := emu.pc + 4 } _ ret after hexec
  dsimp only at hreturn
  split at hreturn
  · cases hreturn
    exact hafter
  · obtain ⟨value, -, htested⟩ := Except.ok_bind_iff.mp hreturn
    cases htested
    exact hafter

end MiniGdbstub
