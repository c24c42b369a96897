import MiniGdbstub.RegisterWrite

/-!
# The format of all registers

`g` and `G` carry all registers in one string.  `process_reg_write` finds the slot of
a register by a running sum of sizes, `process_reg_read` by the register's index times
its own size; the two agree only when all sizes are the same.

The reply of `g` is read up to its first zero, and every register writes one behind its
digits.  `Terminated` is the invariant that finds it: after `i` registers some zero
stands at most at `2 * i * least`, where `least` bounds every size from below, because a
larger register starts behind every such zero.  So a reply of the full length leaves
room for no size above the least one.
-/

namespace MiniGdbstub

open CString Layout

variable {σ : Type} {stub : Gdbstub σ} (regs : IndependentRegisters stub)

/-! ## One turn of the loop -/

/-- What one turn of the loop of `g` does when the register can be read. -/
theorem regReadLoop_succ {target : σ} (hall : regs.AllSucceed target) {todo i : ℕ}
    (hi : i < stub.arch.registers) {packetStr final : List UInt8}
    {state after : StubState σ} (hreach : regs.Reaches target state.target)
    (hloop : regReadLoop stub (todo + 1) i packetStr state = (.ok final, after)) :
    ∃ digits written between,
      hexToStr (regs.value state.target i) (asInt (stub.regSize i)) = .ok digits ∧
      Block.write? packetStr (i * stub.regSize i * 2) digits = some written ∧
      between.target = (regs.read state.target i).2 ∧ between.sent = state.sent ∧
      regReadLoop stub todo (i + 1) written between = (.ok final, after) := by
  rw [regReadLoop] at hloop
  obtain ⟨room, first, hget, hloop⟩ := Program.ok_bind_iff.mp hloop
  obtain ⟨⟨ret, bytes⟩, second, hread, hloop⟩ := Program.ok_bind_iff.mp hloop
  obtain ⟨htarget, hsent, -, -⟩ := regbufGet_frame stub hget
  have hret : (regs.read first.target i).1.1 = 0 := by
    rw [htarget]
    exact hall.read _ hreach i hi
  have hvalue := regs.read_value first.target i hi hret
  rw [callReadReg_some regs.readReg_eq] at hread
  dsimp only at hread
  rw [if_pos hret] at hread
  -- the loop has come to its end, so nothing on its way has failed
  cases hstore : storeAt room (regs.read first.target i).1.2.length with
  | error fault =>
      rw [hstore] at hread
      cases hread
  | ok _ =>
      rw [hstore] at hread
      obtain ⟨hresult, hsecond⟩ := Prod.mk.inj hread
      have hpair : (regs.read first.target i).1 = (ret, bytes) := Except.ok.inj hresult
      rw [hpair] at hret hvalue
      dsimp only at hret hvalue hloop
      rw [if_pos hret] at hloop
      obtain ⟨digits, third, hdigits, hloop⟩ := Program.ok_bind_iff.mp hloop
      obtain ⟨written, fourth, hwritten, hloop⟩ := Program.ok_bind_iff.mp hloop
      obtain ⟨hdigitsEq, rfl⟩ := Prod.mk.inj hdigits
      obtain ⟨hwrittenEq, rfl⟩ := Prod.mk.inj hwritten
      cases hwrite : Block.write? packetStr (i * stub.ops.getRegBytes i * 2) digits with
      | none =>
          rw [hwrite] at hwrittenEq
          cases hwrittenEq
      | some cells =>
          rw [hwrite] at hwrittenEq
          cases hwrittenEq
          refine ⟨digits, written, second, ?_, hwrite, ?_, ?_, hloop⟩
          · rw [← htarget, ← hvalue]
            exact hdigitsEq
          · rw [← hsecond, StubState.called, htarget]
          · rw [← hsecond, StubState.called, hsent]

/-! ## Every reply of full length has registers of one size -/

/-- After `i` registers: a zero stands at most at `2 * i * least`, and no size is below
`least`. -/
def Terminated (stub : Gdbstub σ) (i : ℕ) (packetStr : List UInt8) : Prop :=
  ∃ least position, (∀ j < i, least ≤ stub.regSize j) ∧ position ≤ 2 * (i * least) ∧
    packetStr[position]? = some 0

theorem hexToStr_ok {num digits : List UInt8} {bytes : ℤ}
    (hdigits : hexToStr num bytes = .ok digits) :
    ∃ count ≤ num.length, digits = hexText (num.take count) ++ [0] := by
  rcases lt_or_ge bytes 0 with hneg | hnonneg
  · rw [hexToStr, if_pos hneg] at hdigits
    cases hdigits
  · obtain ⟨count, rfl⟩ := Int.eq_ofNat_of_zero_le hnonneg
    rcases Nat.lt_or_ge num.length count with hshort | hlong
    · have hread : Block.read? num 0 count = none := by
        rw [Block.read?, if_neg (by omega)]
      rw [hexToStr, if_neg (by omega), Int.toNat_natCast, hread] at hdigits
      cases hdigits
    · rw [hexToStr_eq hlong] at hdigits
      exact ⟨count, hlong, (Except.ok.inj hdigits).symm⟩

/-- One register more: its own zero, or an earlier one that it does not reach. -/
theorem Terminated.write {i : ℕ} {packetStr written value : List UInt8} {count : ℕ}
    (hvalue : value.length = stub.regSize i) (hcount : count ≤ value.length)
    (hterminated : 0 < i → Terminated stub i packetStr)
    (hwrite : Block.write? packetStr (i * stub.regSize i * 2)
      (hexText (value.take count) ++ [0]) = some written) :
    Terminated stub (i + 1) written := by
  obtain ⟨hfits, rfl⟩ := Block.write?_eq_some.mp hwrite
  have hlength : (hexText (value.take count) ++ [0]).length = 2 * count + 1 := by
    rw [List.length_append, length_hexText, List.length_take, List.length_singleton]
    omega
  have hown : (Block.overwrite packetStr (i * stub.regSize i * 2)
      (hexText (value.take count) ++ [0]))[i * stub.regSize i * 2 + 2 * count]? = some 0 := by
    rw [Block.getElem?_overwrite hfits, if_pos (by omega), Nat.add_sub_cancel_left,
      List.getElem?_append_right (by rw [length_hexText, List.length_take]; omega),
      length_hexText, List.length_take, Nat.min_eq_left hcount, Nat.sub_self]
    rfl
  have hownBound : i * stub.regSize i * 2 + 2 * count ≤ 2 * ((i + 1) * stub.regSize i) := by
    rw [Nat.succ_mul i]
    omega
  by_cases hfirst : i = 0
  · refine ⟨stub.regSize i, _, ?_, hownBound, hown⟩
    intro j hj
    obtain rfl : j = i := by omega
    exact le_rfl
  · obtain ⟨least, position, hleast, hposition, hzero⟩ := hterminated (by omega)
    rcases Nat.lt_or_ge least (stub.regSize i) with hlarger | hsmaller
    · -- a larger register starts behind the zero
      have hbehind : position < i * stub.regSize i * 2 := by
        have hmul : i * least < i * stub.regSize i := Nat.mul_lt_mul_of_pos_left hlarger (by omega)
        omega
      refine ⟨least, position, ?_, ?_, ?_⟩
      · intro j hj
        rcases Nat.lt_succ_iff_lt_or_eq.mp hj with hlt | rfl
        · exact hleast j hlt
        · exact hlarger.le
      · rw [Nat.succ_mul i]
        omega
      · rw [Block.getElem?_overwrite hfits, if_neg (by omega), hzero]
    · refine ⟨stub.regSize i, _, ?_, hownBound, hown⟩
      intro j hj
      rcases Nat.lt_succ_iff_lt_or_eq.mp hj with hlt | rfl
      · exact hsmaller.trans (hleast j hlt)
      · exact le_rfl

/-- The invariant along the loop. -/
theorem regReadLoop_terminated {target : σ} (hall : regs.AllSucceed target) (todo : ℕ) :
    ∀ (i : ℕ) (packetStr final : List UInt8) (state after : StubState σ),
      i + todo = stub.arch.registers → regs.Reaches target state.target →
      (0 < i → Terminated stub i packetStr) →
      regReadLoop stub todo i packetStr state = (.ok final, after) →
      (0 < stub.arch.registers → Terminated stub stub.arch.registers final) ∧
        after.sent = state.sent := by
  induction todo with
  | zero =>
      intro i packetStr final state after hi hreach hterminated hloop
      obtain rfl : i = stub.arch.registers := by omega
      cases hloop
      exact ⟨hterminated, rfl⟩
  | succ todo ih =>
      intro i packetStr final state after hi hreach hterminated hloop
      obtain ⟨digits, written, between, hdigits, hwrite, htarget, hsent, hrest⟩ :=
        regReadLoop_succ regs hall (by omega) hreach hloop
      obtain ⟨count, hcount, rfl⟩ := hexToStr_ok hdigits
      have hvalue := regs.length_value state.target (by omega) (hall.read _ hreach i (by omega))
      obtain ⟨hfinal, hafter⟩ := ih (i + 1) written final between after (by omega)
        (htarget ▸ hreach.read i)
        (fun _ => Terminated.write hvalue hcount hterminated hwrite) hrest
      exact ⟨hfinal, hafter.trans hsent⟩

/-! ## Registers of one size -/

/-- The digits of the first registers. -/
def registersText (target : σ) (count : ℕ) : List UInt8 :=
  hexText ((List.range count).flatMap fun i => regs.value target i)

theorem registersText_succ (target : σ) (count : ℕ) :
    registersText regs target (count + 1) =
      registersText regs target count ++ hexText (regs.value target count) := by
  simp only [registersText, List.range_succ, List.flatMap_append, hexText_append,
    List.flatMap_cons, List.flatMap_nil, List.append_nil]

/-- The array after `i` registers of size `width`. -/
structure Filled (target : σ) (width i : ℕ) (packetStr : List UInt8) : Prop where
  length : packetStr.length = maxSendPacketSize
  text : packetStr.take (2 * (i * width)) = registersText regs target i
  zero : 0 < i → packetStr[2 * (i * width)]? = some 0

theorem Filled.write {target : σ} {width i : ℕ} {packetStr : List UInt8}
    (hfilled : Filled regs target width i packetStr)
    (hvalue : (regs.value target i).length = width)
    (hfits : 2 * ((i + 1) * width) + 1 ≤ maxSendPacketSize) :
    let digits := hexText (regs.value target i) ++ [0]
    let written := Block.overwrite packetStr (i * width * 2) digits
    Block.write? packetStr (i * width * 2) digits = some written ∧
      Filled regs target width (i + 1) written := by
  intro digits written
  have hstart : i * width * 2 = 2 * (i * width) := Nat.mul_comm _ _
  have hend : 2 * ((i + 1) * width) = 2 * (i * width) + 2 * width := by
    rw [Nat.succ_mul i]
    omega
  have hdigits : digits.length = 2 * width + 1 := by
    rw [List.length_append, length_hexText, hvalue, List.length_singleton]
  have hroom : i * width * 2 + digits.length ≤ packetStr.length := by
    rw [hfilled.length]
    omega
  have htake : (packetStr.take (2 * (i * width))).length = 2 * (i * width) := by
    rw [List.length_take]
    omega
  refine ⟨Block.write?_eq_some.mpr ⟨hroom, rfl⟩, ?_, ?_, fun _ => ?_⟩
  · rw [Block.length_overwrite hroom, hfilled.length]
  · show (packetStr.take (i * width * 2) ++ (digits ++ _)).take _ = _
    rw [hend, hstart, List.take_append, htake, List.take_of_length_le (by omega),
      Nat.add_sub_cancel_left, hfilled.text, registersText_succ]
    congr 1
    rw [show digits ++ packetStr.drop (2 * (i * width) + digits.length) =
      hexText (regs.value target i) ++ ([0] ++ packetStr.drop (2 * (i * width) + digits.length))
      from List.append_assoc .., List.take_left' (by rw [length_hexText, hvalue])]
  · rw [Block.getElem?_overwrite hroom, if_pos (by omega), hend, hstart,
      Nat.add_sub_cancel_left, List.getElem?_append_right (by rw [length_hexText, hvalue]),
      length_hexText, hvalue, Nat.sub_self]
    rfl

/-- What the loop of `g` leaves alone when every register can be read. -/
structure RegistersKept (state after : StubState σ) : Prop where
  sent : after.sent = state.sent
  regbuf : after.regbuf.Sound
  reaches : regs.Reaches state.target after.target
  values : ∀ j < stub.arch.registers, regs.value after.target j = regs.value state.target j

/-- One turn for a register of an ordinary size. -/
theorem regReadLoop_turn (halloc : ∀ k bytes, stub.mallocs k bytes = true) {target : σ}
    (hall : regs.AllSucceed target) (todo : ℕ) {width i : ℕ} (hi : i < stub.arch.registers)
    (hwidth : stub.regSize i = width) (hsmall : width < 2 ^ 31) {packetStr : List UInt8}
    {state : StubState σ} (hreach : regs.Reaches target state.target)
    (hsound : state.regbuf.Sound) {written : List UInt8}
    (hwrite : Block.write? packetStr (i * width * 2)
      (hexText (regs.value state.target i) ++ [0]) = some written) :
    ∃ between, regReadLoop stub (todo + 1) i packetStr state =
        regReadLoop stub todo (i + 1) written between ∧
      RegistersKept regs state between := by
  have hret := hall.read _ hreach i hi
  have hvalue := regs.length_value state.target hi hret
  have hget : ∃ room first, regbufGet stub (stub.ops.getRegBytes i) state =
      (.ok (some room), first) ∧ width ≤ room ∧ first.regbuf.Sound := by
    obtain ⟨room, first, heq, hroom, hfirst⟩ := regbufGet_of_sound stub halloc
      (show stub.regSize i ≤ 2 ^ 63 by omega) hsound
    exact ⟨room, first, heq, by omega, hfirst⟩
  obtain ⟨room, first, hget, hroom, hfirst⟩ := hget
  obtain ⟨htarget, hsent, -, -⟩ := regbufGet_frame stub hget
  have hread : callReadReg stub i (some room) first = (.ok (0, regs.value state.target i),
      first.called (.readReg i 0 (regs.value state.target i)) (regs.read state.target i).2) := by
    have hpair : (regs.read state.target i).1 = (0, regs.value state.target i) :=
      Prod.ext hret (regs.read_value _ i hi hret)
    rw [callReadReg_some regs.readReg_eq, htarget]
    dsimp only
    rw [hpair, if_pos rfl, storeAt_some (by show (regs.value state.target i).length ≤ _; omega)]
    rfl
  refine ⟨first.called (.readReg i 0 (regs.value state.target i))
    (regs.read state.target i).2, ?_, ?_⟩
  · rw [regReadLoop]
    dsimp only
    rw [Program.bind_of_ok hget, Program.bind_of_ok hread]
    dsimp only
    rw [if_pos rfl, show stub.ops.getRegBytes i = width from hwidth, asInt_of_lt hsmall,
      hexToStr_eq (by omega), List.take_of_length_le (by omega), Program.lift_ok_bind, hwrite,
      inBounds_some, Program.lift_ok_bind]
  · exact ⟨hsent, hfirst, (IndependentRegisters.Reaches.refl _).read i,
      regs.read_keeps _ i hi hret⟩

theorem RegistersKept.trans {state between after : StubState σ}
    (hfirst : RegistersKept regs state between) (hsecond : RegistersKept regs between after) :
    RegistersKept regs state after :=
  ⟨hsecond.sent.trans hfirst.sent, hsecond.regbuf, hfirst.reaches.trans regs hsecond.reaches,
    fun j hj => (hsecond.values j hj).trans (hfirst.values j hj)⟩

/-- The loop of `g` over registers of one size writes their digits one after the
other. -/
theorem regReadLoop_filled (halloc : ∀ k bytes, stub.mallocs k bytes = true) {target : σ}
    (hall : regs.AllSucceed target) {width : ℕ}
    (hwidth : ∀ i < stub.arch.registers, stub.regSize i = width)
    (hfits : 2 * (stub.arch.registers * width) + 1 ≤ maxSendPacketSize) (todo : ℕ) :
    ∀ (i : ℕ) (packetStr : List UInt8) (state : StubState σ), i + todo = stub.arch.registers →
      regs.Reaches target state.target → state.regbuf.Sound →
      (∀ j < stub.arch.registers, regs.value state.target j = regs.value target j) →
      Filled regs target width i packetStr →
      ∃ final after, regReadLoop stub todo i packetStr state = (.ok final, after) ∧
        Filled regs target width stub.arch.registers final ∧ RegistersKept regs state after := by
  induction todo with
  | zero =>
      intro i packetStr state hi hreach hsound hvalues hfilled
      obtain rfl : i = stub.arch.registers := by omega
      exact ⟨packetStr, state, rfl, hfilled, rfl, hsound, .refl _, fun _ _ => rfl⟩
  | succ todo ih =>
      intro i packetStr state hi hreach hsound hvalues hfilled
      have hregister : i < stub.arch.registers := by omega
      have hvalue := regs.length_value state.target hregister (hall.read _ hreach i hregister)
      rw [hvalues i hregister, hwidth i hregister] at hvalue
      have hroom : (i + 1) * width ≤ stub.arch.registers * width :=
        Nat.mul_le_mul_right width hregister
      -- a read keeps the values, so the text is that of the registers at the start
      obtain ⟨hwrite, hnext⟩ := hfilled.write regs hvalue (by omega)
      rw [← hvalues i hregister] at hwrite hnext
      have hsmall : width < 2 ^ 31 := by
        have hone : 1 * width ≤ stub.arch.registers * width :=
          Nat.mul_le_mul_right width (by omega)
        rw [maxSendPacketSize] at hfits
        omega
      obtain ⟨between, hturn, hkept⟩ := regReadLoop_turn regs halloc hall todo hregister
        (hwidth i hregister) hsmall hreach hsound hwrite
      obtain ⟨final, after, hloop, hdone, hafter⟩ := ih (i + 1) _ between (by omega)
        (hreach.trans regs hkept.reaches) hkept.regbuf
        (fun j hj => (hkept.values j hj).trans (hvalues j hj)) hnext
      exact ⟨final, after, hturn.trans hloop, hdone, hkept.trans regs hafter⟩

theorem zero_notMem_registersText (target : σ) (count : ℕ) :
    0 ∉ registersText regs target count :=
  zero_notMem_hexText _

/-- The values of the registers fill the slots that their sizes give. -/
theorem registers_slots {target : σ} (hall : regs.AllSucceed target) :
    let values := (List.range stub.arch.registers).flatMap fun i => regs.value target i
    values.length = stub.totalRegBytes ∧
      ∀ i < stub.arch.registers, slot stub.regSize values i = regs.value target i := by
  intro values
  rw [stub.totalRegBytes_eq_offset]
  exact slot_flatMap fun i hi => regs.length_value target hi (hall.read _ (.refl _) i hi)

theorem length_registersText {target : σ} (hall : regs.AllSucceed target) :
    (registersText regs target stub.arch.registers).length = 2 * stub.totalRegBytes := by
  rw [registersText, length_hexText, (registers_slots regs hall).1]

/-- **`g` for registers of one size.** -/
theorem processRegRead_of_width (halloc : ∀ k bytes, stub.mallocs k bytes = true)
    (state : StubState σ) (hall : regs.AllSucceed state.target) (hsound : state.regbuf.Sound)
    {width : ℕ} (hwidth : ∀ i < stub.arch.registers, stub.regSize i = width)
    (hregisters : 0 < stub.arch.registers)
    (hfits : 2 * stub.totalRegBytes + 5 < maxSendPacketSize) :
    ∃ after, processRegRead stub state =
        (.ok (), after.reply (registersText regs state.target stub.arch.registers)) ∧
      RegistersKept regs state after := by
  have htotal : stub.totalRegBytes = stub.arch.registers * width :=
    stub.totalRegBytes_eq_offset.trans (offset_of_const hwidth)
  have hbegin : Filled regs state.target width 0 (localBuffer stub maxSendPacketSize) :=
    ⟨length_localBuffer .., by simp [registersText], by simp⟩
  obtain ⟨final, after, hloop, hfilled, hkept⟩ :=
    regReadLoop_filled regs halloc hall hwidth (by omega) stub.arch.registers 0 _ state
      (by omega) (.refl _) hsound (fun _ _ => rfl) hbegin
  obtain ⟨hend, hzero⟩ := List.getElem?_eq_some_iff.mp (hfilled.zero hregisters)
  have hsplit : final = registersText regs state.target stub.arch.registers ++
      0 :: final.drop (2 * (stub.arch.registers * width) + 1) := by
    rw [← hfilled.text, ← hzero, ← List.drop_eq_getElem_cons hend, List.take_append_drop]
  refine ⟨after, ?_, hkept⟩
  rw [processRegRead, Program.bind_of_ok hloop, hsplit,
    connSendPktbuf_of_text (zero_notMem_registersText regs _ _),
    connSendPktstr_of_fits (by rw [length_registersText regs hall]; omega)]

/-- **`G` on a target on which every access succeeds.** -/
theorem processRegWrite_of_allSucceed (halloc : ∀ k bytes, stub.mallocs k bytes = true)
    (hpos : 0 < stub.totalRegBytes) {payload : List UInt8} (rest : List UInt8)
    (hzero : 0 ∉ payload) (hlength : payload.length = 2 * stub.totalRegBytes)
    (hbound : payload.length < 2 ^ 31) {state : StubState σ}
    (hall : regs.AllSucceed state.target) :
    ∃ after : StubState σ, processRegWrite stub (payload ++ 0 :: rest) state =
        (.ok (), after.reply (ascii "OK")) ∧
      after.sent = state.sent ∧ after.regbuf = state.regbuf ∧
      regs.Reaches state.target after.target ∧
      ∀ i < stub.arch.registers, regs.value after.target i = payloadSlot stub payload i := by
  obtain ⟨reply, calls, after, heq, hafter, houtcome⟩ :=
    regWriteApply_spec regs rest hlength hbound
      { state with allocations := state.allocations + 1 + 1 } hall.acceptsReadValues
  cases houtcome with
  | written _ hvalues =>
      refine ⟨after, ?_, hafter.sent, hafter.regbuf, hafter.reaches, hvalues⟩
      rw [processRegWrite_of_length rest hpos halloc hzero hlength, heq]
  | restored ret hfailed _ =>
      obtain ⟨call, hmem, hcall⟩ := hfailed
      rw [hafter.succeed hall call hmem] at hcall
      exact absurd hcall (by decide)

/-! ## Slots of a payload -/

/-- The slots together are the payload decoded. -/
theorem flatMap_payloadSlot (stub : Gdbstub σ) (payload : List UInt8) (count : ℕ)
    (hlength : 2 * offset stub.regSize count ≤ payload.length) :
    ((List.range count).flatMap fun i => payloadSlot stub payload i) =
      hexPairs (payload.take (2 * offset stub.regSize count)) := by
  induction count with
  | zero => rfl
  | succ count ih =>
      rw [offset_succ] at hlength ⊢
      have hjoin := Block.slice_append_slice payload 0 (2 * offset stub.regSize count)
        (2 * stub.regSize count)
      rw [Nat.zero_add, ← Nat.mul_add] at hjoin
      have hsplit : payload.take (2 * (offset stub.regSize count + stub.regSize count)) =
          payload.take (2 * offset stub.regSize count) ++
            Block.slice payload (2 * offset stub.regSize count) (2 * stub.regSize count) := by
        simpa [Block.slice] using hjoin.symm
      have hhead : (payload.take (2 * offset stub.regSize count)).length =
          2 * offset stub.regSize count := by
        rw [List.length_take]
        omega
      rw [List.range_succ, List.flatMap_append, ih (by omega), hsplit, hexPairs_append hhead]
      simp [payloadSlot]

/-- A slot of the digits of the registers decodes to its register. -/
theorem payloadSlot_registersText {target : σ} (hall : regs.AllSucceed target) {i : ℕ}
    (hi : i < stub.arch.registers) :
    payloadSlot stub (registersText regs target stub.arch.registers) i = regs.value target i := by
  rw [payloadSlot, registersText, Block.slice, hexText_drop, hexText_take, hexPairs_hexText]
  exact (registers_slots regs hall).2 i hi

/-! ## The format -/

/-- `g` answers with the digits of all registers in order. -/
def RepliesAllRegisters (state : StubState σ) : Prop :=
  ∃ reply after, processRegRead stub state = (.ok (), after) ∧
    after.sent = state.sent ++ [pktstrFrame reply] ∧
    reply.length = 2 * stub.totalRegBytes ∧
    reply = registersText regs state.target stub.arch.registers

/-- `G` with the reply of `g` is accepted and leaves every register as it was. -/
def AcceptsOwnReply (state : StubState σ) : Prop :=
  ∃ reply after, processRegRead stub state = (.ok (), after) ∧
    after.sent = state.sent ++ [pktstrFrame reply] ∧
    ∀ rest, ∃ final, processRegWrite stub (reply ++ 0 :: rest) after = (.ok (), final) ∧
      final.sent = after.sent ++ [pktstrFrame (ascii "OK")] ∧
      ∀ i < stub.arch.registers, regs.value final.target i = regs.value state.target i

/-- `G` followed by `g` answers with the payload of `G` in lower case. -/
def ReturnsPayload (stub : Gdbstub σ) (state : StubState σ) : Prop :=
  ∀ payload : List UInt8, (∀ character ∈ payload, isHexDigit character = true) →
    payload.length = 2 * stub.totalRegBytes → ∀ rest, ∃ written final,
      processRegWrite stub (payload ++ 0 :: rest) state = (.ok (), written) ∧
      processRegRead stub written = (.ok (), final) ∧
      final.sent = state.sent ++
        [pktstrFrame (ascii "OK"), pktstrFrame (payload.map lowerCase)]

/-- A reply with all registers needs registers of one size. -/
theorem width_of_repliesAllRegisters {state : StubState σ} (hall : regs.AllSucceed state.target)
    (hregisters : 0 < stub.arch.registers) (hreply : RepliesAllRegisters regs state) :
    (∃ width, ∀ i < stub.arch.registers, stub.regSize i = width) ∧
      2 * stub.totalRegBytes + 5 < maxSendPacketSize := by
  obtain ⟨reply, after, hread, hsent, hlength, -⟩ := hreply
  obtain ⟨final, between, hloop, hsend⟩ := Program.ok_bind_iff.mp hread
  obtain ⟨hterminated, hbetween⟩ := regReadLoop_terminated regs hall stub.arch.registers 0 _ final
    state between (by omega) (.refl _) (by simp) hloop
  obtain ⟨least, position, hleast, hposition, hzero⟩ := hterminated hregisters
  have htext : text? final = some (text final) := by
    rw [text?, if_pos (List.mem_of_getElem? hzero)]
  rw [connSendPktbuf, htext, inBounds_some, Program.lift_ok_bind] at hsend
  rcases Nat.lt_or_ge ((text final).length + 5) maxSendPacketSize with hfits | hlong
  · rw [connSendPktstr_of_fits hfits] at hsend
    obtain rfl := (Prod.mk.inj hsend).2
    have hframe : pktstrFrame reply = pktstrFrame (text final) := by
      rw [StubState.reply, hbetween] at hsent
      exact (List.cons.inj (List.append_cancel_left hsent)).1.symm
    have hsame := congrArg List.length hframe
    rw [length_pktstrFrame, length_pktstrFrame] at hsame
    have hshort := length_text_le hzero
    refine ⟨⟨least, size_eq_of_offset_le _ hleast ?_⟩, by omega⟩
    rw [← stub.totalRegBytes_eq_offset]
    omega
  · rw [connSendPktstr_of_long hlong] at hsend
    cases hsend

/-- **One format, for registers of one size.**  On a target on which every access
succeeds, `g` answers with all registers, its reply can be written back, and what `G`
wrote is what `g` answers, if and only if all registers have one size and the reply
fits a packet. -/
theorem regFormat_iff (halloc : ∀ k bytes, stub.mallocs k bytes = true)
    (hregisters : 0 < stub.arch.registers)
    (hsizes : ∀ i < stub.arch.registers, 0 < stub.regSize i) (state : StubState σ)
    (hsound : state.regbuf.Sound) (hall : regs.AllSucceed state.target) :
    (RepliesAllRegisters regs state ∧ AcceptsOwnReply regs state ∧ ReturnsPayload stub state) ↔
      (∀ i < stub.arch.registers, ∀ j < stub.arch.registers,
        stub.regSize i = stub.regSize j) ∧
      2 * stub.totalRegBytes + 5 < maxSendPacketSize := by
  constructor
  -- a reply with every register needs slots of one width that fit in the packet
  · rintro ⟨hreply, -, -⟩
    obtain ⟨⟨width, hwidth⟩, hfits⟩ := width_of_repliesAllRegisters regs hall hregisters hreply
    refine ⟨?_, hfits⟩
    intro i hi j hj
    rw [hwidth i hi, hwidth j hj]
  · rintro ⟨hsame, hfits⟩
    have hwidth : ∀ i < stub.arch.registers, stub.regSize i = stub.regSize 0 :=
      fun i hi => hsame i hi 0 hregisters
    have hpos : 0 < stub.totalRegBytes := by
      have hfirst := hsizes 0 hregisters
      have hend := offset_add_size_le stub.regSize hregisters
      rw [stub.totalRegBytes_eq_offset]
      omega
    have hbound : 2 * stub.totalRegBytes < 2 ^ 31 := by
      rw [maxSendPacketSize] at hfits
      omega
    obtain ⟨after, hread, hkept⟩ :=
      processRegRead_of_width regs halloc state hall hsound hwidth hregisters hfits
    have hlength := length_registersText regs hall
    refine ⟨?_, ?_, ?_⟩
    · exact ⟨_, _, hread, by rw [StubState.reply, hkept.sent], hlength, rfl⟩
    · refine ⟨_, _, hread, by rw [StubState.reply, hkept.sent], ?_⟩
      intro rest
      obtain ⟨final, hwrite, hsent, -, -, hvalues⟩ := processRegWrite_of_allSucceed regs halloc
        hpos rest (zero_notMem_registersText regs state.target _) hlength (by omega)
        (show regs.AllSucceed (after.reply _).target from hall.reaches hkept.reaches)
      refine ⟨_, hwrite, by rw [StubState.reply, hsent], ?_⟩
      intro i hi
      rw [StubState.reply, hvalues i hi, payloadSlot_registersText regs hall hi]
    -- `G` and then `g`: the values written are the slots of the payload
    · intro payload hdigits hpayload rest
      have hzero : 0 ∉ payload := fun hmem => absurd (hdigits 0 hmem) (by decide)
      obtain ⟨written, hwrite, hsent, hregbuf, hreach, hvalues⟩ := processRegWrite_of_allSucceed
        regs halloc hpos rest hzero hpayload (by omega) hall
      obtain ⟨final, hreadBack, hfinal⟩ := processRegRead_of_width regs halloc
        (written.reply (ascii "OK")) (hall.reaches hreach) (hregbuf ▸ hsound) hwidth
        hregisters hfits
      refine ⟨_, _, hwrite, hreadBack, ?_⟩
      have hreply : registersText regs (written.reply (ascii "OK")).target
          stub.arch.registers = payload.map lowerCase := by
        have hslots := flatMap_payloadSlot stub payload stub.arch.registers
          (by rw [← stub.totalRegBytes_eq_offset]; omega)
        rw [← stub.totalRegBytes_eq_offset, ← hpayload, List.take_length] at hslots
        calc registersText regs (written.reply (ascii "OK")).target stub.arch.registers
            = hexText ((List.range stub.arch.registers).flatMap (payloadSlot stub payload)) :=
              congrArg hexText
                (List.flatMap_congr fun i hi => hvalues i (List.mem_range.mp hi))
          _ = hexText (hexPairs payload) := by rw [hslots]
          _ = payload.map lowerCase := hexText_hexPairs hpayload hdigits
      show final.sent ++ [_] = _
      rw [hreply, hfinal.sent, StubState.reply, hsent, List.append_assoc]
      rfl

/-- Two registers of one byte. -/
theorem regFormat_iff_twoBytes :
    let stub := registerFileStub (fun _ => 1) (fun _ => false) 2
    let regs := registerFileRegs (fun _ => 1) (fun _ => false) 2
    let state : StubState (ℕ → List UInt8) := StubState.init fun _ => [0x11]
    RepliesAllRegisters regs state ∧ AcceptsOwnReply regs state ∧ ReturnsPayload stub state := by
  intro stub regs state
  have hall : regs.AllSucceed state.target :=
    registerFile_allSucceed (fun _ => rfl) (fun _ _ => rfl)
  exact (regFormat_iff regs (fun _ _ => rfl) (by decide) (fun _ _ => Nat.one_pos) state
    regbufInit_sound hall).mpr ⟨fun _ _ _ _ => rfl, by decide⟩

/-- A register of one byte and one of two: the reply stops at the zero behind the digits
of the first register. -/
theorem mixedSizes_truncated :
    let size := fun i => if i = 0 then 1 else 2
    let stub := registerFileStub size (fun _ => false) 2
    let regs := registerFileRegs size (fun _ => false) 2
    let state : StubState (ℕ → List UInt8) :=
      StubState.init fun i => if i = 0 then [0x11] else [0x22, 0x33]
    regs.AllSucceed state.target ∧ 2 * stub.totalRegBytes + 5 < maxSendPacketSize ∧
      (processRegRead stub state).2.sent = [pktstrFrame (ascii "11")] ∧
      ¬ RepliesAllRegisters regs state := by
  intro size stub regs state
  have hall : regs.AllSucceed state.target := by
    refine registerFile_allSucceed (fun _ => rfl) ?_
    intro i hi
    by_cases hfirst : i = 0
    · simp [hfirst, size, state, StubState.init]
    · simp [hfirst, size, state, StubState.init]
  refine ⟨hall, by decide, by decide +kernel, ?_⟩
  intro hreplies
  obtain ⟨⟨width, hwidth⟩, -⟩ := width_of_repliesAllRegisters regs hall (by decide) hreplies
  have hone : 1 = width := hwidth 0 (by decide)
  have htwo : 2 = width := hwidth 1 (by decide)
  omega

end MiniGdbstub
