import MiniGdbstub.Emulator
import MiniGdbstub.MalformedWrites

/-!
# The bounds of the reference target

What the debugger reads and writes through `emu_read_reg`, `emu_write_reg`, `emu_read_mem` and
`emu_write_mem`, for every argument that a packet can carry.  Each of them has one test.

* The register number is compared with 32 from above only.  `sscanf` makes an `int` of the
  digits, so a number with bit 31 set is negative, passes the test and is an index in front of
  the registers (`registerInBounds_iff`).
* `addr + len` is compared with `MEM_SIZE` after it was computed modulo `2 ^ 64`.  Two numbers
  whose sum wraps to at most `MEM_SIZE` pass the test, and `memcpy` is called with an address
  far outside the memory (`memoryInBounds_iff`).
-/

namespace MiniGdbstub

open CString Program

/-! ## Registers -/

/-- A register of the machine as the debugger numbers them. -/
inductive Slot
  | x (index : Fin 32)
  | pc
  deriving DecidableEq

/-- The slot of a register number: `x0` to `x31`, and then the program counter. -/
def slot? (regno : ℤ) : Option Slot :=
  if regno < 0 then none
  else if hslot : regno.toNat < 32 then some (.x ⟨regno.toNat, hslot⟩)
  else if regno = 32 then some .pc
  else none

def Emu.slot (emu : Emu) : Slot → UInt64
  | .x index => emu.x.get index
  | .pc => emu.pc

def Emu.setSlot (emu : Emu) (value : UInt64) : Slot → Emu
  | .x index => emu.setReg index value
  | .pc => { emu with pc := value }

/-- The accessors refuse a register number and touch nothing, or they access exactly its
slot. -/
structure RegisterInBounds (emu : Emu) (regno : ℤ) : Prop where
  read : (∃ ret ≠ 0, emuReadReg emu regno = .ok (ret, [])) ∨
    ∃ slot ∈ slot? regno, emuReadReg emu regno = .ok (0, littleEndianBytes regsz (emu.slot slot))
  write : ∀ data : List UInt8, data.length = regsz →
    (∃ ret ≠ 0, emuWriteReg emu regno data = .ok (ret, emu)) ∨
      ∃ slot ∈ slot? regno,
        emuWriteReg emu regno data = .ok (0, emu.setSlot (littleEndian data) slot)

/-- A number above 32 is refused. -/
theorem registerInBounds_of_lt (emu : Emu) {regno : ℤ} (hregno : 32 < regno) :
    RegisterInBounds emu regno where
  read := .inl ⟨efault, by decide, by rw [emuReadReg, if_pos hregno]; rfl⟩
  write data _ := .inl ⟨efault, by decide, by rw [emuWriteReg, if_pos hregno]; rfl⟩

theorem read?_all {data : List UInt8} {count : ℕ} (hlength : data.length = count) :
    Block.read? data 0 count = some data := by
  rw [Block.read?_start (Nat.le_of_eq hlength.symm), ← hlength, List.take_length]

/-- The number of a register leads to its slot. -/
theorem registerInBounds_of_index (emu : Emu) {regno : ℤ}
    (hslot : 0 ≤ regno ∧ regno.toNat < 32) : RegisterInBounds emu regno := by
  have hsmall : ¬ 32 < regno := by omega
  have hpc : ¬ regno = 32 := by omega
  have hindex : slot? regno = some (.x ⟨regno.toNat, hslot.2⟩) := by
    rw [slot?, if_neg (Int.not_lt.mpr hslot.1), dif_pos hslot.2]
  constructor
  · refine .inr ⟨_, hindex, ?_⟩
    rw [emuReadReg, if_neg hsmall, if_neg hpc, dif_pos hslot]
    rfl
  · intro data hdata
    refine .inr ⟨_, hindex, ?_⟩
    rw [emuWriteReg, if_neg hsmall, read?_all hdata, inBounds_some]
    simp only [bind, Except.bind]
    rw [if_neg hpc, dif_pos hslot]
    rfl

theorem registerInBounds_pc (emu : Emu) : RegisterInBounds emu 32 where
  read := .inr ⟨.pc, rfl, rfl⟩
  write data hdata := by
    refine .inr ⟨.pc, rfl, ?_⟩
    rw [emuWriteReg, if_neg (by decide), read?_all hdata]
    rfl

/-- A negative number leads out of the registers. -/
theorem emuReadReg_of_neg (emu : Emu) {regno : ℤ} (hregno : regno < 0) :
    emuReadReg emu regno = .error .outOfBounds := by
  rw [emuReadReg, if_neg (by omega), if_neg (by omega), dif_neg (by omega)]

theorem registerInBounds_iff_nonneg (emu : Emu) (regno : ℤ) :
    RegisterInBounds emu regno ↔ 0 ≤ regno := by
  constructor
  · intro hbounds
    by_contra hneg
    have hfault := emuReadReg_of_neg emu (Int.not_le.mp hneg)
    rcases hbounds.read with ⟨ret, -, hread⟩ | ⟨slot, -, hread⟩
    · rw [hfault] at hread
      cases hread
    · rw [hfault] at hread
      cases hread
  · intro hnonneg
    rcases Int.lt_trichotomy regno 32 with hindex | rfl | hlarge
    · exact registerInBounds_of_index emu ⟨hnonneg, by omega⟩
    · exact registerInBounds_pc emu
    · exact registerInBounds_of_lt emu hlarge

/-- An `int` is not negative exactly when bit 31 of the number stored in it is clear. -/
theorem asInt_nonneg_iff (value : ℕ) : 0 ≤ asInt value ↔ value % 2 ^ 32 < 2 ^ 31 := by
  rw [asInt, Int32.toInt_ofInt, Int.bmod_def, Int32.size]
  split
  · omega
  · omega

/-- The `int` that `sscanf` stores for `%x`, if it converts one. -/
def scanRegno (text : List UInt8) : Option ℤ :=
  (scanHexFields 1 text).head?.map fun value => asInt value

/-- **The register accessors are in bounds exactly for the numbers with bit 31 clear.**  For
every text of a register number in a `p` or `P` packet. -/
theorem registerInBounds_iff (emu : Emu) (text : List UInt8) :
    (∀ regno ∈ scanRegno text, RegisterInBounds emu regno) ↔
      ∀ value ∈ (scanHexFields 1 text).head?, value % 2 ^ 32 < 2 ^ 31 := by
  rw [scanRegno]
  cases hscan : (scanHexFields 1 text).head? with
  | none => simp
  | some value => simp [registerInBounds_iff_nonneg, asInt_nonneg_iff]

/-- `pffffffff`: register -1 is the eight bytes in front of `x[0]`. -/
theorem negativeRegister_outOfBounds :
    scanRegno (ascii "ffffffff") = some (-1) ∧
      ∀ emu : Emu, emuReadReg emu (-1) = .error .outOfBounds ∧ ¬ RegisterInBounds emu (-1) := by
  refine ⟨by decide +kernel, fun emu => ⟨rfl, fun hbounds => ?_⟩⟩
  exact absurd ((registerInBounds_iff_nonneg emu (-1)).mp hbounds) (by decide)

/-! ## Memory -/

/-- The sum of the two numbers, modulo `2 ^ 64`, passes the test only because it wrapped. -/
def WrapsInside (addr len : ℕ) : Prop :=
  2 ^ 64 ≤ addr + len ∧ addr + len ≤ 2 ^ 64 + memSize

instance (addr len : ℕ) : Decidable (WrapsInside addr len) :=
  inferInstanceAs (Decidable (_ ∧ _))

/-- The accessors refuse a range and touch nothing, or they copy exactly its bytes, which lie in
the memory. -/
structure MemoryInBounds (emu : Emu) (addr len : ℕ) (val : List UInt8) : Prop where
  read : (∃ ret ≠ 0, emuReadMem emu addr len = .ok (ret, [])) ∨
    (addr + len ≤ memSize ∧
      emuReadMem emu addr len = .ok (0, Block.slice emu.m.mem addr len))
  write : (∃ ret ≠ 0, emuWriteMem emu addr len val = .ok (ret, emu)) ∨
    (addr + len ≤ memSize ∧ ∃ m : Mem, emuWriteMem emu addr len val = .ok (0, { emu with m := m }) ∧
      m.mem = Block.overwrite emu.m.mem addr (val.take len) ∧ m.codeSize = emu.m.codeSize)

section

variable {emu : Emu} {addr len : ℕ} {val : List UInt8}

/-- A range that the test refuses. -/
theorem memoryInBounds_of_refused (hrefused : memSize < (addr + len) % 2 ^ 64) :
    MemoryInBounds emu addr len val where
  read := .inl ⟨efault, by decide, by rw [emuReadMem, if_pos hrefused]; rfl⟩
  write := .inl ⟨efault, by decide, by rw [emuWriteMem, if_pos hrefused]; rfl⟩

/-- A range inside the memory. -/
theorem memoryInBounds_of_le (hfits : addr + len ≤ memSize) (hval : len ≤ val.length) :
    MemoryInBounds emu addr len val := by
  have hmem : emu.m.mem.length = memSize := emu.m.length_mem
  have hpass : ¬ memSize < (addr + len) % 2 ^ 64 := by
    rw [Nat.mod_eq_of_lt (by rw [memSize] at hfits; omega)]
    omega
  constructor
  · have hread : Block.read? emu.m.mem addr len = some (Block.slice emu.m.mem addr len) :=
      Block.read?_eq_some.mpr ⟨by omega, rfl⟩
    refine .inr ⟨hfits, ?_⟩
    rw [emuReadMem, if_neg hpass, hread]
    rfl
  · have hbytes : (val.take len).length = len := by rw [List.length_take, Nat.min_eq_left hval]
    obtain ⟨after, hwrite, hmem, hcode⟩ := emu.m.write_of_fits (by rwa [hbytes])
    refine .inr ⟨hfits, after, ?_, hmem, hcode⟩
    rw [emuWriteMem, if_neg hpass, Block.read?_start hval, inBounds_some]
    simp only [bind, Except.bind]
    rw [hwrite]
    rfl

/-- A range that passes the test because its end wrapped is read outside the memory. -/
theorem emuReadMem_of_wraps (hwraps : WrapsInside addr len) :
    emuReadMem emu addr len = .error .outOfBounds := by
  obtain ⟨hlow, hhigh⟩ := hwraps
  have hmem : emu.m.mem.length = memSize := emu.m.length_mem
  have hpass : ¬ memSize < (addr + len) % 2 ^ 64 := by
    rw [memSize] at hhigh ⊢
    omega
  have hread : Block.read? emu.m.mem addr len = none := by
    rw [Block.read?, if_neg]
    rw [hmem, memSize]
    omega
  rw [emuReadMem, if_neg hpass, hread]
  rfl

/-- What a packet carries: 64-bit numbers and, where there can be as many, the bytes to be
written. -/
structure Carried (addr len : ℕ) (val : List UInt8) : Prop where
  addr_lt : addr < 2 ^ 64
  len_lt : len < 2 ^ 64
  length_val : len ≤ memSize → len ≤ val.length

/-- **The memory accessors are in bounds unless the sum wraps into the memory.** -/
theorem memoryInBounds_iff (emu : Emu) (hcarried : Carried addr len val) :
    MemoryInBounds emu addr len val ↔ ¬ WrapsInside addr len := by
  obtain ⟨haddr, hlen, hval⟩ := hcarried
  constructor
  · intro hbounds hwraps
    have hfault : emuReadMem emu addr len = .error .outOfBounds := emuReadMem_of_wraps hwraps
    rcases hbounds.read with ⟨ret, -, hread⟩ | ⟨-, hread⟩
    · rw [hfault] at hread
      cases hread
    · rw [hfault] at hread
      cases hread
  · intro hwraps
    by_cases hfits : addr + len ≤ memSize
    · exact memoryInBounds_of_le hfits (hval (by omega))
    · refine memoryInBounds_of_refused ?_
      rw [WrapsInside, memSize] at hwraps
      rw [memSize] at hfits ⊢
      omega

/-- Two bytes at the last two places of the memory. -/
theorem memoryInBounds_lastPlaces :
    MemoryInBounds (emuInit (Mem.load [] (by decide))) 4094 2 [0xab, 0xcd] ↔
      ¬ WrapsInside 4094 2 :=
  memoryInBounds_iff _ ⟨by decide, by decide, by decide⟩

/-- `mffffffffffffffff,1`: the byte in front of the memory. -/
theorem wrappedRange_outOfBounds :
    scanHexFields 2 (ascii "ffffffffffffffff,1") = [2 ^ 64 - 1, 1] ∧
      emuReadMem (emuInit (Mem.load [] (by decide))) (2 ^ 64 - 1) 1 = .error .outOfBounds ∧
      ¬ MemoryInBounds (emuInit (Mem.load [] (by decide))) (2 ^ 64 - 1) 1 [0] := by
  have hread : emuReadMem (emuInit (Mem.load [] (by decide))) (2 ^ 64 - 1) 1 =
      .error .outOfBounds := emuReadMem_of_wraps (by decide)
  refine ⟨by decide +kernel, hread, fun hbounds => ?_⟩
  rcases hbounds.read with ⟨ret, -, heq⟩ | ⟨hfits, -⟩
  · rw [hread] at heq
    cases heq
  · exact absurd hfits (by decide)

end

/-! ## The packets -/

/-- Both numbers of a packet were converted by `%lx`. -/
theorem carried_of_scan {input : List UInt8} {addr len : ℕ} {val : List UInt8}
    (hscan : scanHexFields 2 input = [addr, len]) (hval : len ≤ memSize → len ≤ val.length) :
    Carried addr len val where
  addr_lt := scanHexFields_lt 2 (hscan ▸ List.mem_cons_self)
  len_lt := scanHexFields_lt 2 (hscan ▸ List.mem_cons_of_mem _ List.mem_cons_self)
  length_val := hval

/-- A number as large as the memory at most is the same as an `int`. -/
theorem asInt_of_le_memSize {value : ℕ} (hvalue : value ≤ memSize) : asInt value = value :=
  asInt_of_lt (by rw [memSize] at hvalue; omega)

section

variable {σ : Type} {stub : Gdbstub σ} {op : σ → ℕ → ℕ → List UInt8 → Int32 × σ}

/-- What `M` writes is carried by its packet. -/
theorem processMemWrite_carried (hop : stub.ops.writeMem = some op) (payload : List UInt8)
    (state : StubState σ) :
    let after := (processMemWrite stub payload state).2
    after.calls = state.calls ∨ ∃ addr len val ret, Carried addr len val ∧
      after.calls = state.calls ++ [.writeMem addr len val ret] := by
  intro after
  rcases processMemWrite_writes hop payload state with ⟨-, hcalls, -⟩ | ⟨-, hcalls, -⟩ |
    ⟨-, -, addr, len, data, block, ret, hscan, -, hlength, hblock, hcalls⟩
  · exact .inl hcalls
  · exact .inl hcalls
  refine .inr ⟨addr, len, block, ret, carried_of_scan hscan fun hle => ?_, hcalls⟩
  rw [asInt_of_le_memSize hle, Int.toNat_natCast] at hlength
  rw [hblock hlength, hlength]

/-- What `X` writes is carried by its packet. -/
theorem processMemXwrite_carried (hop : stub.ops.writeMem = some op) (body behind : List UInt8)
    (state : StubState σ) :
    let after := (processMemXwrite stub (body ++ 0 :: behind) body.length state).2
    after.calls = state.calls ∨ ∃ addr len val ret, Carried addr len val ∧
      after.calls = state.calls ++ [.writeMem addr len val ret] := by
  intro after
  rcases processMemXwrite_writes hop body behind state with ⟨-, hcalls⟩ |
    ⟨hgoes, addr, len, fields, content, ret, hcut, hscan, hcalls⟩
  · exact .inl hcalls
  refine .inr ⟨addr, len, _, ret, carried_of_scan hscan fun hle => ?_, hcalls⟩
  have hcount : asInt (unescaped 0 (content.take (body.length - (fields.length + 1)))).length =
      asInt len := by
    by_contra hcount
    refine hgoes ((memXwriteStops_iff hcut hscan body.length).mpr fun data hdata => ?_)
    rwa [← Option.some.inj hdata]
  -- as an `int` a count is at most itself
  have hdecoded := toNat_asInt_le
    (unescaped 0 (content.take (body.length - (fields.length + 1)))).length
  rw [hcount, asInt_of_le_memSize hle, Int.toNat_natCast] at hdecoded
  rw [List.length_take, List.length_append]
  omega

end

end MiniGdbstub
