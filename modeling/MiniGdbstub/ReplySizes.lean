import MiniGdbstub.Library.TextArray
import MiniGdbstub.RegisterFormat
import MiniGdbstub.ThreadIds

/-!
# Replies that grow with the architecture

The list of `qfThreadInfo` grows by five bytes with every CPU, and the reply to `g` by the
digits of every register.  Both are put together in an array of `MAX_SEND_PACKET_SIZE`
bytes, and `conn_send_pktstr` asserts that the text leaves room for the frame.  Nothing
compares the architecture with this size when the stub is set up.

`SizesFit` is what the architecture has to satisfy.  The text of `g` does not simply end
behind the last register: a register whose slot begins behind the end of the text leaves
it where it was, any other moves it to the end of its own digits (`textEnd`).  The
condition is exact (`repliesFit_iff`): the direction that needs it looks at a target whose
registers can all be read.
-/

namespace MiniGdbstub

open CString

/-! ## What has to fit -/

/-- A write outside the array, a text too long to be sent, or no text at all because the
register buffer never gets large enough. -/
def Fault.Misfit (fault : Fault) : Prop :=
  fault = .outOfBounds ∨ fault = .sendAssertFail ∨ fault = .endless

instance (fault : Fault) : Decidable fault.Misfit :=
  inferInstanceAs (Decidable (_ ∨ _ ∨ _))

/-- The register buffer is not empty, and its block, if there is one, is as long as `sz`
says. -/
structure Regbuf.Covers (reg : Regbuf) : Prop where
  size_pos : 0 < reg.sz
  block : ∀ length ∈ reg.buf, reg.sz ≤ length

/-- With these register sizes and this architecture neither reply is a misfit: for every
target, every content of the array and every state. -/
def RepliesFit (getRegBytes : ℤ → ℕ) (arch : ArchInfo) : Prop :=
  ∀ (σ : Type) (stub : Gdbstub σ), stub.ops.getRegBytes = getRegBytes → stub.arch = arch →
    ∀ (state : StubState σ) (csumHigh csumLow : UInt8) (fault : Fault), state.regbuf.Covers →
      ((gdbstubProcessPacket stub (Packet.ofFrame (framed (ascii "qfThreadInfo")
          csumHigh csumLow)) state).1 = .error fault ∨
        (gdbstubProcessPacket stub (Packet.ofFrame (framed (ascii "g")
          csumHigh csumLow)) state).1 = .error fault) → ¬ fault.Misfit

section

variable (getRegBytes : ℤ → ℕ)

/-- How many bytes of register `i` are written: its size as the `int` that `hex_to_str`
takes. -/
def digitBytes (i : ℕ) : ℤ :=
  asInt (getRegBytes i)

/-- Register `i` is written inside the array, its zero included. -/
structure SlotFits (i : ℕ) : Prop where
  allocated : getRegBytes i ≤ 2 ^ 63
  nonneg : 0 ≤ digitBytes getRegBytes i
  inside : i * getRegBytes i * 2 + 2 * (digitBytes getRegBytes i).toNat < maxSendPacketSize

/-- Where the text ends after `i` registers. -/
def textEnd : ℕ → ℕ
  | 0 => 0
  | i + 1 =>
      if textEnd i < i * getRegBytes i * 2 then textEnd i
      else i * getRegBytes i * 2 + 2 * (digitBytes getRegBytes i).toNat

/-- The condition on the architecture. -/
structure SizesFit (arch : ArchInfo) : Prop where
  threads : 5 * arch.cpus + 6 < maxSendPacketSize
  registers : 0 < arch.registers
  slots : ∀ i < arch.registers, SlotFits getRegBytes i
  text : textEnd getRegBytes arch.registers + 5 < maxSendPacketSize

end

/-! ## The text in the array -/

/-- The text in the array consists of digits and ends at this place. -/
structure TextEnds (packetStr : List UInt8) (position : ℕ) : Prop where
  digits : ∀ character ∈ packetStr.take position, isHexDigit character = true
  zero : packetStr[position]? = some 0

theorem TextEnds.split {packetStr : List UInt8} {position : ℕ}
    (hends : TextEnds packetStr position) :
    ∃ rest, packetStr = packetStr.take position ++ 0 :: rest ∧ 0 ∉ packetStr.take position ∧
      (packetStr.take position).length = position := by
  obtain ⟨hposition, hzero⟩ := List.getElem?_eq_some_iff.mp hends.zero
  refine ⟨packetStr.drop (position + 1), ?_, ?_, ?_⟩
  · conv_lhs => rw [← List.take_append_drop position packetStr,
      List.drop_eq_getElem_cons hposition, hzero]
  · exact notMem_of_hexDigits hends.digits (by decide)
  · rw [List.length_take]
    omega

theorem isHexDigit_hexText {bytes : List UInt8} :
    ∀ character ∈ hexText bytes, isHexDigit character = true := by
  intro character hmem
  obtain ⟨byte, -, hbyte⟩ := List.mem_flatMap.mp hmem
  have hlt := byte.toNat_lt
  rcases List.mem_cons.mp hbyte with rfl | hbyte
  · rw [isHexDigit, hexValue?_hexDigit _ (by omega)]
    rfl
  · rw [List.mem_singleton.mp hbyte, isHexDigit, hexValue?_hexDigit _ (by omega)]
    rfl

/-- The array while `g` fills it: after the first register the text ends where the sizes
say. -/
structure Filling (getRegBytes : ℤ → ℕ) (i : ℕ) (packetStr : List UInt8) : Prop where
  length : packetStr.length = maxSendPacketSize
  digits : ∀ character ∈ packetStr.take (textEnd getRegBytes i), isHexDigit character = true
  zero : 0 < i → packetStr[textEnd getRegBytes i]? = some 0

theorem Filling.textEnds {getRegBytes : ℤ → ℕ} {i : ℕ} {packetStr : List UInt8} (hi : 0 < i)
    (hfilling : Filling getRegBytes i packetStr) :
    TextEnds packetStr (textEnd getRegBytes i) :=
  ⟨hfilling.digits, hfilling.zero hi⟩

/-- **The step**: one register more. -/
theorem Filling.write {getRegBytes : ℤ → ℕ} {i : ℕ} {packetStr bytes : List UInt8}
    (hfilling : Filling getRegBytes i packetStr) (hfits : SlotFits getRegBytes i)
    (hbytes : bytes.length = (digitBytes getRegBytes i).toNat) :
    ∃ written, Block.write? packetStr (i * getRegBytes i * 2) (hexText bytes ++ [0]) =
        some written ∧ Filling getRegBytes (i + 1) written := by
  obtain ⟨start, hstart⟩ : ∃ start, i * getRegBytes i * 2 = start := ⟨_, rfl⟩
  have hlength : (hexText bytes ++ [0]).length = 2 * bytes.length + 1 := by
    rw [List.length_append, length_hexText, List.length_singleton]
  have hroom : start + (hexText bytes ++ [0]).length ≤ packetStr.length := by
    have hinside := hfits.inside
    rw [hfilling.length, hlength, hbytes]
    omega
  rw [hstart]
  refine ⟨_, Block.write?_eq_some.mpr ⟨hroom, rfl⟩, ?_⟩
  have hwritten := (Block.length_overwrite hroom).trans hfilling.length
  by_cases hbehind : textEnd getRegBytes i < start
  -- the slot begins behind the end of the text
  · have hi : 0 < i := by
      refine Nat.pos_of_ne_zero ?_
      rintro rfl
      rw [Nat.zero_mul, Nat.zero_mul] at hstart
      omega
    obtain ⟨hzero, hdigits⟩ :=
      text_overwrite_behind hroom hbehind (hfilling.zero hi) hfilling.digits
    have hend : textEnd getRegBytes (i + 1) = textEnd getRegBytes i := by
      rw [textEnd, hstart, if_pos hbehind]
    rw [← hend] at hzero hdigits
    exact ⟨hwritten, hdigits, fun _ => hzero⟩
  -- the slot begins inside the text
  · obtain ⟨hzero, hdigits⟩ := text_overwrite_inside hroom
      (fun character hmem => hfilling.digits character
        ((List.take_prefix_take_left (Nat.le_of_not_lt hbehind)).subset hmem))
      isHexDigit_hexText
    have hend : textEnd getRegBytes (i + 1) = start + (hexText bytes).length := by
      rw [textEnd, hstart, if_neg hbehind, length_hexText, hbytes]
    rw [← hend] at hzero hdigits
    exact ⟨hwritten, hdigits, fun _ => hzero⟩

/-! ## One turn of the loop of `g` -/

variable {σ : Type} {stub : Gdbstub σ}

/-- A buffer that covers its size serves every size up to `2 ^ 63`, if only with `NULL`. -/
theorem regbufGet_of_covers (stub : Gdbstub σ) {regSz : ℕ} (hregSz : regSz ≤ 2 ^ 63)
    {state : StubState σ} (hcovers : state.regbuf.Covers) :
    ∃ buf after, regbufGet stub regSz state = (.ok buf, after) ∧
      (∀ length ∈ buf, regSz ≤ length) ∧ after.regbuf.Covers := by
  unfold regbufGet
  rw [Program.get_bind]
  by_cases henough : regSz ≤ state.regbuf.sz
  · rw [if_pos henough]
    exact ⟨_, _, rfl, fun length hlength => henough.trans (hcovers.block length hlength), hcovers⟩
  · obtain ⟨grown, hgrown, hlarge, hpos⟩ := regbufGrow_eq_some hregSz 64 state.regbuf.sz
      hcovers.size_pos (by
        calc regSz ≤ 2 ^ 63 := hregSz
          _ ≤ 1 * 2 ^ 64 := by norm_num
          _ ≤ state.regbuf.sz * 2 ^ 64 := Nat.mul_le_mul_right _ hcovers.size_pos)
    rw [if_neg henough, hgrown]
    refine ⟨_, _, rfl, ?_, hpos, ?_⟩
    all_goals
      intro length hlength
      by_cases halloc : stub.mallocs state.allocations grown = true
      · rw [if_pos halloc] at hlength
        cases hlength
        first | exact hlarge | exact le_rfl
      · rw [if_neg halloc] at hlength
        cases hlength

/-- What hex_to_str writes for a value of the size asked for. -/
theorem hexToStr_digitBytes {getRegBytes : ℤ → ℕ} {i : ℕ} {value : List UInt8}
    (hnonneg : 0 ≤ digitBytes getRegBytes i) (hvalue : value.length = getRegBytes i) :
    ∃ bytes, hexToStr value (asInt (getRegBytes i)) = .ok (hexText bytes ++ [0]) ∧
      bytes.length = (digitBytes getRegBytes i).toNat := by
  have hcount : (digitBytes getRegBytes i).toNat ≤ value.length := by
    rw [hvalue]
    exact toNat_asInt_le _
  refine ⟨value.take (digitBytes getRegBytes i).toNat, ?_, ?_⟩
  · rw [← hexToStr_eq hcount, Int.toNat_of_nonneg hnonneg]
    rfl
  · rw [List.length_take, Nat.min_eq_left hcount]

/-- One turn for a register whose slot fits: the register buffer has no block, the read is
refused, or the digits are written. -/
theorem regReadLoop_cases {op : σ → ℤ → (Int32 × List UInt8) × σ}
    (hop : stub.ops.readReg = some op) (todo : ℕ) {i : ℕ}
    (hfits : SlotFits stub.ops.getRegBytes i) {packetStr : List UInt8}
    (hfilling : Filling stub.ops.getRegBytes i packetStr) {state : StubState σ}
    (hcovers : state.regbuf.Covers) :
    (∃ after, regReadLoop stub (todo + 1) i packetStr state = (.error .unallocated, after)) ∨
    (∃ ret rest after, regReadLoop stub (todo + 1) i packetStr state =
      (.ok (errorText ret ++ 0 :: rest), after)) ∨
    ∃ written between, Filling stub.ops.getRegBytes (i + 1) written ∧ between.regbuf.Covers ∧
      regReadLoop stub (todo + 1) i packetStr state =
        regReadLoop stub todo (i + 1) written between := by
  obtain ⟨room, first, hget, hroom, hfirst⟩ := regbufGet_of_covers stub hfits.allocated hcovers
  rw [regReadLoop]
  dsimp only
  rw [Program.bind_of_ok hget]
  have hread := callReadReg_some hop i room first
  dsimp only at hread
  by_cases hret : (op first.target i).1.1 = 0
  · have hvalue := stub.ops.length_readReg op hop first.target i hret
    rw [if_pos hret] at hread
    cases hstore : storeAt room (op first.target i).1.2.length with
    | error fault =>
        -- the block is long enough, so only its absence is left
        rw [hstore] at hread
        have hfault : fault = .unallocated := by
          cases room with
          | none =>
              unfold storeAt at hstore
              split at hstore <;> simp_all
          | some length =>
              rw [storeAt_some (by rw [hvalue]; exact hroom length rfl)] at hstore
              cases hstore
        rw [Program.bind_of_error hread, hfault]
        exact .inl ⟨_, rfl⟩
    | ok _ =>
        rw [hstore] at hread
        obtain ⟨bytes, hhex, hbytes⟩ := hexToStr_digitBytes hfits.nonneg hvalue
        obtain ⟨written, hwrite, hnext⟩ := hfilling.write hfits hbytes
        rw [Program.bind_of_ok hread]
        dsimp only
        rw [if_pos hret, hhex, Program.lift_ok_bind, hwrite, inBounds_some, Program.lift_ok_bind]
        exact .inr (.inr ⟨written, first.called _ _, hnext, hfirst, rfl⟩)
  · rw [if_neg hret] at hread
    have hlength := length_errorText_le (op first.target i).1.1
    have hwrite : Block.write? packetStr 0 (errorText (op first.target i).1.1 ++ [0]) =
        some (errorText (op first.target i).1.1 ++ 0 ::
          packetStr.drop (errorText (op first.target i).1.1 ++ [0]).length) := by
      refine Block.write?_eq_some.mpr ⟨?_, ?_⟩
      · rw [hfilling.length, maxSendPacketSize, List.length_append, List.length_singleton]
        omega
      · rw [Block.overwrite, List.take_zero, List.nil_append, Nat.zero_add, List.append_assoc]
        rfl
    rw [Program.bind_of_ok hread, if_neg hret, hwrite, inBounds_some]
    exact .inr (.inl ⟨_, _, _, rfl⟩)

/-! ## Where the condition holds -/

theorem zero_notMem_errorText (ret : Int32) : 0 ∉ errorText ret := by
  intro hmem
  rcases List.mem_append.mp hmem with hmem | hmem
  · exact absurd hmem (by decide)
  · rcases mem_decimal hmem with heq | hdigit
    · exact absurd heq (by decide)
    · exact absurd hdigit (by decide)

/-- The loop leaves a text of the length that the sizes give, or a short one with a code. -/
theorem regReadLoop_fits {op : σ → ℤ → (Int32 × List UInt8) × σ}
    (hop : stub.ops.readReg = some op) (hregisters : 0 < stub.arch.registers)
    (hslots : ∀ i < stub.arch.registers, SlotFits stub.ops.getRegBytes i) (todo : ℕ) :
    ∀ (i : ℕ) (packetStr : List UInt8) (state : StubState σ), i + todo = stub.arch.registers →
      Filling stub.ops.getRegBytes i packetStr → state.regbuf.Covers →
      (∃ after, regReadLoop stub todo i packetStr state = (.error .unallocated, after)) ∨
      ∃ pktstr rest after, regReadLoop stub todo i packetStr state =
          (.ok (pktstr ++ 0 :: rest), after) ∧ 0 ∉ pktstr ∧
        (pktstr.length ≤ 12 ∨
          pktstr.length = textEnd stub.ops.getRegBytes stub.arch.registers) := by
  induction todo with
  | zero =>
      intro i packetStr state hi hfilling hcovers
      obtain rfl : i = stub.arch.registers := by omega
      obtain ⟨rest, hsplit, hzero, hlength⟩ := (hfilling.textEnds hregisters).split
      refine .inr ⟨_, rest, state, ?_, hzero, .inr hlength⟩
      rw [← hsplit]
      rfl
  | succ todo ih =>
      intro i packetStr state hi hfilling hcovers
      rcases regReadLoop_cases hop todo (hslots i (by omega)) hfilling hcovers with
        hfault | ⟨ret, rest, after, hloop⟩ | ⟨written, between, hnext, hbetween, hloop⟩
      · exact .inl hfault
      · exact .inr ⟨_, rest, after, hloop, zero_notMem_errorText ret,
          .inl (length_errorText_le ret)⟩
      · rw [hloop]
        exact ih (i + 1) written between (by omega) hnext hbetween

theorem filling_start (stub : Gdbstub σ) :
    Filling stub.ops.getRegBytes 0 (localBuffer stub maxSendPacketSize) :=
  ⟨length_localBuffer .., by simp [textEnd], by simp⟩

/-- `g` either gets its reply out or stores through the `NULL` of a failed allocation. -/
theorem processRegRead_fits {op : σ → ℤ → (Int32 × List UInt8) × σ}
    (hop : stub.ops.readReg = some op) (hfits : SizesFit stub.ops.getRegBytes stub.arch)
    {state : StubState σ} (hcovers : state.regbuf.Covers) :
    ∃ after, processRegRead stub state = (.ok (), after) ∨
      processRegRead stub state = (.error .unallocated, after) := by
  rcases regReadLoop_fits hop hfits.registers hfits.slots stub.arch.registers 0 _ state
    (Nat.zero_add _) (filling_start stub) hcovers with
    ⟨after, hloop⟩ | ⟨pktstr, rest, after, hloop, hzero, hlength⟩
  · exact ⟨after, .inr (Program.bind_of_error hloop _)⟩
  · have htext := hfits.text
    have hshort : pktstr.length + 5 < maxSendPacketSize := by
      rw [maxSendPacketSize] at htext ⊢
      omega
    refine ⟨after.reply pktstr, .inl ?_⟩
    rw [processRegRead, Program.bind_of_ok hloop, connSendPktbuf_of_text hzero,
      connSendPktstr_of_fits hshort]

/-- The packet `g` is answered by `process_reg_read`, or refused. -/
theorem gdbstubProcessPacket_registers (stub : Gdbstub σ) (csumHigh csumLow : UInt8) :
    gdbstubProcessPacket stub (Packet.ofFrame (framed (ascii "g") csumHigh csumLow)) =
      ifProvided stub.ops.readReg.isSome (processRegRead stub) := by
  rw [show ascii "g" = 103 :: [] from rfl, gdbstubProcessPacket_framed]
  rfl

/-- A fault of `process_reg_read` is one of the packet. -/
theorem fault_of_processRegRead {state : StubState σ} {fault : Fault}
    (hprovided : stub.ops.readReg.isSome = true)
    (hfault : (processRegRead stub state).1 = .error fault) (csumHigh csumLow : UInt8) :
    (gdbstubProcessPacket stub (Packet.ofFrame (framed (ascii "g") csumHigh csumLow)) state).1 =
      .error fault := by
  rcases hread : processRegRead stub state with ⟨result, after⟩
  rw [hread] at hfault
  rw [gdbstubProcessPacket_registers, hprovided,
    ifProvided_error _ (hread.trans (congrArg (·, after) hfault))]

theorem repliesFit_of_sizesFit {getRegBytes : ℤ → ℕ} {arch : ArchInfo}
    (hfits : SizesFit getRegBytes arch) : RepliesFit getRegBytes arch := by
  rintro σ stub rfl rfl state csumHigh csumLow fault hcovers hfault
  rcases hfault with hthreads | hregisters
  · have hcpus := hfits.threads
    have hsmp := @smp_lt_of_cpus_lt stub.arch (by rw [maxSendPacketSize] at hcpus; omega)
    have hshort : (threadInfo stub.arch.cpus).length + 5 < maxSendPacketSize := by
      rw [length_threadInfo (by rw [maxSendPacketSize] at hcpus; omega)]
      omega
    have hsend : processThreadInfo stub state =
        (.ok (), state.reply (threadInfo stub.arch.cpus)) := by
      rw [processThreadInfo_eq stub hsmp, if_pos (by omega), connSendPktstr_of_fits hshort]
    rw [gdbstubProcessPacket_threadInfo, Program.bind_of_ok hsend] at hthreads
    cases hthreads
  · rw [gdbstubProcessPacket_registers] at hregisters
    cases hop : stub.ops.readReg with
    | none =>
        rw [hop, Option.isSome_none, ifProvided_none] at hregisters
        cases hregisters
    | some op =>
        rw [hop, Option.isSome_some] at hregisters
        obtain ⟨after, hread | hread⟩ := processRegRead_fits hop hfits hcovers
        · rw [ifProvided_some _ hread] at hregisters
          cases hregisters
        · rw [ifProvided_error _ hread] at hregisters
          cases hregisters
          decide

/-! ## Where it does not hold -/

/-- A target all of whose registers can be read, with memory to spare and no zero in the
array beforehand. -/
def readableStub (getRegBytes : ℤ → ℕ) (arch : ArchInfo) : Gdbstub Unit where
  ops :=
    { cont := none
      stepi := none
      getRegBytes := getRegBytes
      readReg := some fun target regno => ((0, List.replicate (getRegBytes regno) 0), target)
      writeReg := none
      readMem := none
      writeMem := none
      setBp := none
      delBp := none
      onInterrupt := none
      setCpu := none
      getCpu := none
      length_readReg := by
        intro op hop target regno _
        obtain rfl := Option.some.inj hop
        exact List.length_replicate
      length_readMem := by simp }
  arch := arch
  totalRegBytes := ((List.range arch.registers).map fun regno : ℕ => getRegBytes regno).sum
  mallocs := fun _ _ => true
  junk := fun _ => 1
  totalRegBytes_eq := rfl

/-- A register buffer as `regbuf_get` leaves it when no allocation fails. -/
structure Regbuf.Doubled (reg : Regbuf) : Prop where
  sound : reg.Sound
  power : ∃ k ≤ 63, reg.sz = 2 ^ k

theorem regbufInit_doubled : regbufInit.Doubled :=
  ⟨regbufInit_sound, 3, by decide, rfl⟩

theorem Regbuf.Sound.covers {reg : Regbuf} (hsound : reg.Sound) : reg.Covers := by
  refine ⟨hsound.size_pos, ?_⟩
  intro length hlength
  obtain ⟨length', hlength', hsize⟩ := hsound.block
  rw [Option.mem_unique hlength hlength']
  exact hsize

/-- Doubling visits the powers of two, and then zero for ever. -/
theorem regbufGrow_power {regSz : ℕ} (hregSz : 0 < regSz) (turns : ℕ) :
    ∀ sz, sz = 0 ∨ (∃ k ≤ 63, sz = 2 ^ k) → ∀ grown ∈ regbufGrow regSz turns sz,
      regSz ≤ grown ∧ ∃ k ≤ 63, grown = 2 ^ k := by
  induction turns with
  | zero =>
      intro sz _ grown hgrown
      cases hgrown
  | succ turns ih =>
      intro sz hsz grown hgrown
      rw [regbufGrow] at hgrown
      split at hgrown
      · rename_i henough
        cases hgrown
        rcases hsz with hzero | hpower
        · omega
        · exact ⟨henough, hpower⟩
      · refine ih _ ?_ grown hgrown
        rcases hsz with hzero | ⟨k, hk, hpower⟩
        · exact .inl (by rw [hzero, Nat.mul_zero, Nat.zero_mod])
        · rcases Nat.lt_or_eq_of_le hk with hlt | rfl
          · refine .inr ⟨k + 1, hlt, ?_⟩
            have hbound : 2 ^ (k + 1) < 2 ^ 64 := Nat.pow_lt_pow_right (by decide) (by omega)
            rw [hpower, Nat.mul_comm, ← Nat.pow_succ, Nat.mod_eq_of_lt hbound]
          · exact .inl (by rw [hpower]; rfl)

theorem regbufGet_doubled (stub : Gdbstub σ) (halloc : ∀ k bytes, stub.mallocs k bytes = true)
    (regSz : ℕ) {state : StubState σ} (hdoubled : state.regbuf.Doubled) :
    (∃ length after, regbufGet stub regSz state = (.ok (some length), after) ∧ regSz ≤ 2 ^ 63 ∧
      regSz ≤ length ∧ after.regbuf.Doubled) ∨
    (2 ^ 63 < regSz ∧ ∃ after, regbufGet stub regSz state = (.error .endless, after)) := by
  obtain ⟨k, hk, hpower⟩ := hdoubled.power
  have hsz : state.regbuf.sz ≤ 2 ^ 63 := by
    rw [hpower]
    exact Nat.pow_le_pow_right (by decide) hk
  unfold regbufGet
  rw [Program.get_bind]
  by_cases henough : regSz ≤ state.regbuf.sz
  · obtain ⟨length, hlength, hlong⟩ := hdoubled.sound.block
    rw [if_pos henough, Option.mem_def.mp hlength]
    exact .inl ⟨length, state, rfl, henough.trans hsz, henough.trans hlong, hdoubled⟩
  · rw [if_neg henough]
    have hpos : 0 < regSz := by omega
    have hgrow := regbufGrow_power hpos 65 state.regbuf.sz (.inr hdoubled.power)
    cases hgrown : regbufGrow regSz 65 state.regbuf.sz with
    | none =>
        refine .inr ⟨?_, _, rfl⟩
        by_contra hsmall
        obtain ⟨grown, hsome, -, -⟩ := regbufGrow_eq_some (Nat.le_of_not_lt hsmall) 64
          state.regbuf.sz hdoubled.sound.size_pos (by
            calc regSz ≤ 2 ^ 63 := Nat.le_of_not_lt hsmall
              _ ≤ 1 * 2 ^ 64 := by norm_num
              _ ≤ state.regbuf.sz * 2 ^ 64 :=
                Nat.mul_le_mul_right _ hdoubled.sound.size_pos)
        rw [hgrown] at hsome
        cases hsome
    | some grown =>
        obtain ⟨hlarge, k', hk', hgrownPower⟩ := hgrow grown hgrown
        have hbound : grown ≤ 2 ^ 63 := by
          rw [hgrownPower]
          exact Nat.pow_le_pow_right (by decide) hk'
        let allocated : StubState σ := { state with allocations := state.allocations + 1 }
        refine .inl ⟨grown, { allocated with regbuf := { buf := some grown, sz := grown } },
          Program.bind_of_ok (malloc_of_all halloc grown state) _, hlarge.trans hbound, hlarge,
          ⟨by show 0 < grown; omega, grown, rfl, le_rfl⟩, k', hk', hgrownPower⟩

section

variable {getRegBytes : ℤ → ℕ} {arch : ArchInfo}

/-- One turn for a register of such a target. -/
theorem regReadLoop_readable_turn (todo : ℕ) {i : ℕ} {packetStr : List UInt8}
    (hfilling : Filling getRegBytes i packetStr) {state : StubState Unit}
    (hdoubled : state.regbuf.Doubled) :
    (∃ fault after, fault.Misfit ∧
      regReadLoop (readableStub getRegBytes arch) (todo + 1) i packetStr state =
        (.error fault, after)) ∨
    (SlotFits getRegBytes i ∧ ∃ written between, Filling getRegBytes (i + 1) written ∧
      between.regbuf.Doubled ∧
      regReadLoop (readableStub getRegBytes arch) (todo + 1) i packetStr state =
        regReadLoop (readableStub getRegBytes arch) todo (i + 1) written between) := by
  have hvalue : (List.replicate (getRegBytes i) (0 : UInt8)).length = getRegBytes i :=
    List.length_replicate
  rcases regbufGet_doubled (readableStub getRegBytes arch) (fun _ _ => rfl)
    (getRegBytes i) hdoubled with
    ⟨length, first, hget, hallocated, hroom, hfirst⟩ | ⟨-, after, hendless⟩
  · have hread : callReadReg (readableStub getRegBytes arch) i (some length) first =
        (.ok (0, List.replicate (getRegBytes i) 0),
          first.called (.readReg i 0 (List.replicate (getRegBytes i) 0)) first.target) := by
      rw [callReadReg_some rfl]
      dsimp only
      rw [if_pos rfl, storeAt_some (by rw [hvalue]; exact hroom)]
      rfl
    have hturn : regReadLoop (readableStub getRegBytes arch) (todo + 1) i packetStr state =
        (do
          let hex ← Program.lift
            (hexToStr (List.replicate (getRegBytes i) 0) (asInt (getRegBytes i)))
          let packetStr ← Program.lift
            (inBounds (Block.write? packetStr (i * getRegBytes i * 2) hex))
          regReadLoop (readableStub getRegBytes arch) todo (i + 1) packetStr :
            StubM Unit (List UInt8))
          (first.called (.readReg i 0 (List.replicate (getRegBytes i) 0)) first.target) := by
      rw [regReadLoop]
      exact (Program.bind_of_ok hget _).trans (Program.bind_of_ok hread _)
    rw [hturn]
    -- as an `int` the size may be negative; otherwise the digits fit or they do not
    rcases lt_or_ge (digitBytes getRegBytes i) 0 with hneg | hnonneg
    · have hhex : hexToStr (List.replicate (getRegBytes i) 0) (asInt (getRegBytes i)) =
          .error .outOfBounds := if_pos hneg
      rw [hhex]
      exact .inl ⟨.outOfBounds, _, by decide, rfl⟩
    · obtain ⟨bytes, hhex, hbytes⟩ := hexToStr_digitBytes hnonneg hvalue
      rw [hhex, Program.lift_ok_bind]
      by_cases hinside :
          i * getRegBytes i * 2 + 2 * (digitBytes getRegBytes i).toNat < maxSendPacketSize
      · obtain ⟨written, hwrite, hnext⟩ :=
          hfilling.write ⟨hallocated, hnonneg, hinside⟩ hbytes
        rw [hwrite, inBounds_some, Program.lift_ok_bind]
        exact .inr ⟨⟨hallocated, hnonneg, hinside⟩, written, first.called _ _, hnext, hfirst, rfl⟩
      · have hwrite : Block.write? packetStr (i * getRegBytes i * 2) (hexText bytes ++ [0]) =
            none := by
          refine if_neg ?_
          rw [hfilling.length, List.length_append, length_hexText, hbytes, List.length_singleton]
          omega
        rw [hwrite]
        exact .inl ⟨.outOfBounds, _, by decide, rfl⟩
  · refine .inl ⟨.endless, after, by decide, ?_⟩
    rw [regReadLoop]
    exact Program.bind_of_error hendless _

/-- **The run**: the first register whose slot does not fit stops it. -/
theorem regReadLoop_readable (todo : ℕ) :
    ∀ (i : ℕ) (packetStr : List UInt8) (state : StubState Unit), i + todo = arch.registers →
      Filling getRegBytes i packetStr → state.regbuf.Doubled →
      (∃ fault after, fault.Misfit ∧
        regReadLoop (readableStub getRegBytes arch) todo i packetStr state =
          (.error fault, after)) ∨
      ((∀ j, i ≤ j → j < arch.registers → SlotFits getRegBytes j) ∧ ∃ final after,
        Filling getRegBytes arch.registers final ∧
        regReadLoop (readableStub getRegBytes arch) todo i packetStr state =
          (.ok final, after)) := by
  induction todo with
  | zero =>
      intro i packetStr state hi hfilling _
      obtain rfl : i = arch.registers := by omega
      exact .inr ⟨fun j hj hlt => absurd hj (by omega), packetStr, state, hfilling, rfl⟩
  | succ todo ih =>
      intro i packetStr state hi hfilling hdoubled
      rcases regReadLoop_readable_turn todo hfilling hdoubled with
        hfault | ⟨hfits, written, between, hnext, hbetween, hturn⟩
      · exact .inl hfault
      · rw [hturn]
        rcases ih (i + 1) written between (by omega) hnext hbetween with
          hfault | ⟨hslots, hrest⟩
        · exact .inl hfault
        · refine .inr ⟨?_, hrest⟩
          intro j hj hlt
          rcases Nat.lt_or_eq_of_le hj with hlater | rfl
          · exact hslots j hlater hlt
          · exact hfits

/-- Where the target can be read and no misfit happens, the registers fit. -/
theorem registers_of_readable {state : StubState Unit} (hdoubled : state.regbuf.Doubled)
    (hfine : ∀ fault, (processRegRead (readableStub getRegBytes arch) state).1 = .error fault →
      ¬ fault.Misfit) :
    0 < arch.registers ∧ (∀ i < arch.registers, SlotFits getRegBytes i) ∧
      textEnd getRegBytes arch.registers + 5 < maxSendPacketSize := by
  rcases regReadLoop_readable arch.registers 0 _ state (Nat.zero_add _)
    (filling_start (readableStub getRegBytes arch)) hdoubled with
    ⟨fault, after, hmisfit, hloop⟩ | ⟨hslots, final, after, hfilling, hloop⟩
  · have hread := congrArg Prod.fst (Program.bind_of_error hloop connSendPktbuf)
    exact absurd hmisfit (hfine fault hread)
  · have hsend : processRegRead (readableStub getRegBytes arch) state =
        connSendPktbuf final after := Program.bind_of_ok hloop connSendPktbuf
    have hregisters : 0 < arch.registers := by
      refine Nat.pos_of_ne_zero ?_
      intro hnone
      -- nothing is written, and the array holds no zero
      rw [hnone, regReadLoop, Program.pure_apply] at hloop
      obtain ⟨hfinal, -⟩ := Prod.mk.inj hloop
      rw [← Except.ok.inj hfinal] at hsend
      have hzero : 0 ∉ localBuffer (readableStub getRegBytes arch) maxSendPacketSize := by
        intro hmem
        obtain ⟨cell, -, hcell⟩ := List.mem_map.mp hmem
        exact absurd hcell (show ¬ (1 : UInt8) = 0 by decide)
      rw [connSendPktbuf, text?, if_neg hzero] at hsend
      exact hfine _ (congrArg Prod.fst hsend) (by decide)
    refine ⟨hregisters, fun i hi => hslots i (Nat.zero_le i) hi, ?_⟩
    by_contra hlong
    obtain ⟨rest, hsplit, hzero, hlength⟩ := (hfilling.textEnds hregisters).split
    rw [hsplit, connSendPktbuf_of_text hzero,
      connSendPktstr_of_long (by rw [hlength]; exact Nat.le_of_not_lt hlong)] at hsend
    exact hfine _ (congrArg Prod.fst hsend) (by decide)

end

/-- **The replies fit** exactly if the architecture satisfies the condition. -/
theorem repliesFit_iff (getRegBytes : ℤ → ℕ) (arch : ArchInfo) (hsmp : arch.smp < 10000) :
    RepliesFit getRegBytes arch ↔ SizesFit getRegBytes arch := by
  refine ⟨?_, repliesFit_of_sizesFit⟩
  intro hfit
  let stub := readableStub getRegBytes arch
  have hfine := fun fault => hfit Unit stub rfl rfl (StubState.init ()) 48 48 fault
    regbufInit_sound.covers
  obtain ⟨hregisters, hslots, htext⟩ := @registers_of_readable getRegBytes arch
    (StubState.init ()) regbufInit_doubled (by
      intro fault hread
      exact hfine fault (.inr (fault_of_processRegRead rfl hread 48 48)))
  refine ⟨?_, hregisters, hslots, htext⟩
  -- the list of threads: outside the array, or too long to be sent
  have hsmp' : (if arch.smp = 0 then 1 else arch.smp) < 10000 := by
    split <;> omega
  by_contra hmany
  have hthreads : processThreadInfo stub =
      if 5 * arch.cpus + 1 < maxSendPacketSize then connSendPktstr (threadInfo arch.cpus)
      else Program.fail .outOfBounds := processThreadInfo_eq stub hsmp'
  obtain ⟨fault, hmisfit, hfault⟩ : ∃ fault, fault.Misfit ∧
      (processThreadInfo stub (StubState.init ())).1 = .error fault := by
    by_cases hinside : 5 * arch.cpus + 1 < maxSendPacketSize
    · refine ⟨.sendAssertFail, by decide, ?_⟩
      rw [if_pos hinside] at hthreads
      rw [hthreads, connSendPktstr_of_long]
      rw [length_threadInfo (by rw [maxSendPacketSize] at hinside; omega)]
      omega
    · refine ⟨.outOfBounds, by decide, ?_⟩
      rw [if_neg hinside] at hthreads
      rw [hthreads]
      rfl
  refine hfine fault (.inl ?_) hmisfit
  rw [gdbstubProcessPacket_threadInfo]
  exact congrArg Prod.fst (Program.bind_of_error (Prod.ext hfault rfl :
    processThreadInfo stub (StubState.init ()) = (.error fault, _)) _)

/-- One CPU and 33 registers of four bytes. -/
theorem repliesFit_iff_rv32 : RepliesFit (fun _ => 4) (plainArch 1 33) := by
  have hbytes : ∀ i, digitBytes (fun _ => 4) i = 4 :=
    fun _ => asInt_of_lt (show 4 < 2 ^ 31 by decide)
  refine (repliesFit_iff _ _ (by decide)).mpr ⟨by decide, by decide, ?_, by decide +kernel⟩
  intro i hi
  have hi : i < 33 := hi
  refine ⟨by norm_num, by rw [hbytes]; decide, ?_⟩
  rw [hbytes, maxSendPacketSize, show (4 : ℤ).toNat = 4 from rfl]
  omega

/-- With 819 CPUs the list ends behind the array, and with 33 registers of 64 bytes the
reply to `g` does. -/
theorem largeReplies_overflow :
    (gdbstubProcessPacket (readableStub (fun _ => 4) (plainArch 819 33))
        (Packet.ofFrame (framed (ascii "qfThreadInfo") 98 98)) (StubState.init ())).1 =
      .error .outOfBounds ∧
    ¬ RepliesFit (fun _ => 4) (plainArch 819 33) ∧
    ¬ RepliesFit (fun _ => 64) (plainArch 1 33) := by
  have hthreads : (gdbstubProcessPacket (readableStub (fun _ => 4) (plainArch 819 33))
      (Packet.ofFrame (framed (ascii "qfThreadInfo") 98 98)) (StubState.init ())).1 =
        .error .outOfBounds := by
    rw [gdbstubProcessPacket_threadInfo, processThreadInfo_eq _ (by decide), if_neg (by decide)]
    rfl
  refine ⟨hthreads, ?_, ?_⟩
  · intro hfit
    exact hfit Unit _ rfl rfl (StubState.init ()) 98 98 _ regbufInit_sound.covers
      (.inl hthreads) (by decide)
  · intro hfit
    obtain ⟨-, hslots, -⟩ := @registers_of_readable (fun _ => 64) (plainArch 1 33)
      (StubState.init ()) regbufInit_doubled (by
        intro fault hread
        exact hfit Unit (readableStub (fun _ => 64) (plainArch 1 33)) rfl rfl
          (StubState.init ()) 54 55 fault regbufInit_sound.covers
          (.inr (fault_of_processRegRead rfl hread 54 55)))
    have hbytes : digitBytes (fun _ => 64) 32 = 64 := asInt_of_lt (by decide)
    have hinside := (hslots 32 (by decide)).inside
    rw [hbytes, maxSendPacketSize, show (64 : ℤ).toNat = 64 from rfl] at hinside
    omega

end MiniGdbstub
