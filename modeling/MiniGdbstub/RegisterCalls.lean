import MiniGdbstub.MalformedWrites
import MiniGdbstub.RemoteCalls

/-!
# Requests for registers as calls

`p` and `P` pass their register through the buffer, `g` puts the digits of one register behind those
of another into its packet, and `G` keeps the values it has parsed and those it has read in two
blocks.  For a target all this is reading and writing registers in their order: `readEach`,
`writeEach`, `restoreEach`.  The loops are compared with these, turn by turn.
-/

namespace MiniGdbstub

open CString Layout

variable {σ : Type} {stub : Gdbstub σ}

/-! ## One register -/

section

variable (halloc : ∀ k bytes, stub.mallocs k bytes = true)

include halloc

theorem served_readReg {regnoText : List UInt8} {regno : ℕ} (hnumber : HexNumber regnoText regno)
    (hregno : regno < 2 ^ 31) (hsize : stub.regSize regno < 2 ^ 31) :
    ServedAs stub (112 :: regnoText) (.readReg regno) := by
  refine ServedAs.of_handler rfl (gdbstubProcessPacket_framed stub 112 regnoText) ?_
  intro op hop csumHigh csumLow state hsound
  have htext : text (regnoText ++ behindBody csumHigh csumLow) = regnoText :=
    text_append_zero (notMem_of_hexDigits hnumber.all_digits (by decide)) _
  have hscan : scanHexFields 1 regnoText = [regno] := scanHexFields_last hnumber (by omega) 0
  have hint : asInt (regno : ℤ) = regno := asInt_of_lt hregno
  obtain ⟨room, grown, hget, hroom, hgrown⟩ :=
    regbufGet_of_sound stub halloc (show stub.regSize regno ≤ 2 ^ 63 by omega) hsound
  obtain ⟨htarget, hsent, -, -⟩ := regbufGet_frame stub hget
  have hread := callReadReg_some hop regno (some room) grown
  have hlength := stub.ops.length_readReg op hop state.target regno
  show Replies _ () state (.ofRead (op state.target regno).1, (op state.target regno).2)
  rw [htarget] at hread
  rcases hresult : op state.target regno with ⟨⟨ret, bytes⟩, next⟩
  rw [hresult] at hread hlength
  let between := grown.called (.readReg regno ret bytes) next
  have hleft : Left state between next := ⟨rfl, hsent, hgrown⟩
  rw [processRegReadOne, htext, hscan]
  dsimp only
  rw [hint, show stub.ops.getRegBytes regno = stub.regSize regno from rfl]
  refine replies_read hleft (fun hret hfits => ?_) fun hret => ?_
  · subst hret
    have hwidth : bytes.length = stub.regSize regno := hlength rfl
    have hhex : hexToStr bytes (asInt (stub.regSize regno : ℤ)) = .ok (hexText bytes ++ [0]) := by
      rw [asInt_of_lt hsize, ← hwidth, hexToStr_eq le_rfl, List.take_length]
    rw [if_pos rfl, storeAt_some (hwidth.trans_le hroom)] at hread
    rw [Program.bind_of_ok hget, Program.bind_of_ok hread]
    dsimp only
    rw [if_pos rfl, hhex, Program.lift_ok_bind]
    exact replyHex_eq bytes hfits between
  · rw [if_neg hret] at hread
    rw [Program.bind_of_ok hget, Program.bind_of_ok hread]
    dsimp only
    rw [if_neg hret, connSendPktstr_errorText]

theorem served_writeReg {regnoText digits data : List UInt8} {regno : ℕ}
    (hnumber : HexNumber regnoText regno) (hregno : regno < 2 ^ 31) (hdigits : HexData digits data)
    (hdata : data.length = stub.regSize regno) (hlength : data.length < 2 ^ 31) :
    ServedAs stub (80 :: (regnoText ++ equals :: digits)) (.writeReg regno data) := by
  refine ServedAs.of_handler rfl (gdbstubProcessPacket_framed stub 80 _) ?_
  intro op hop csumHigh csumLow state hsound
  have hcut : cut equals (regnoText ++ equals :: (digits ++ behindBody csumHigh csumLow)) =
      (regnoText, some (digits ++ behindBody csumHigh csumLow)) :=
    cut_append (notMem_of_hexDigits hnumber.all_digits (by decide))
      (notMem_of_hexDigits hnumber.all_digits (by decide)) (by decide) _
  have hscan : scanHexFields 1 regnoText = [regno] := scanHexFields_last hnumber (by omega) 0
  have hint : asInt (regno : ℤ) = regno := asInt_of_lt hregno
  have htext : text (digits ++ behindBody csumHigh csumLow) = digits :=
    text_append_zero (notMem_of_hexDigits hdigits.digits (by decide)) _
  have hpairs : digits.length = 2 * stub.regSize regno := by rw [hdigits.length_eq, hdata]
  obtain ⟨hdecode, -⟩ := strToHex_text (hdata ▸ hlength) (htext.symm ▸ hpairs)
  rw [htext, hexPairs_of_hexData hdigits] at hdecode
  obtain ⟨room, grown, hget, hroom, hgrown⟩ :=
    regbufGet_of_sound stub halloc (show stub.regSize regno ≤ 2 ^ 63 by omega) hsound
  obtain ⟨htarget, hsent, -, -⟩ := regbufGet_frame stub hget
  have hcall := callWriteReg_some hop regno data grown
  have hwrite := processRegWriteOne_scanned stub hcut hscan state
  dsimp only at hcall hwrite
  rw [htarget] at hcall
  have hleft : Left state (grown.called (.writeReg regno data (op state.target regno data).1)
    (op state.target regno data).2) (op state.target regno data).2 := ⟨rfl, hsent, hgrown⟩
  rw [List.append_assoc, List.cons_append]
  refine Replies.of_run (reply?_ofCode _) ?_ hleft
  rw [hwrite, hint, show stub.ops.getRegBytes regno = stub.regSize regno from rfl,
    Program.bind_of_ok hget, htext, if_pos (hpairs.trans (Nat.mul_comm _ _)), hdecode,
    Program.lift_ok_bind, storeAt_some (hdata.trans_le hroom), Program.lift_ok_bind,
    Program.bind_of_ok hcall, connSendPktstr_writeReply]

/-! ## The loop of `g` -/

/-- The packet that the loop of `g` leaves: the digits of all registers, or the error of the first
that cannot be read. -/
def LoopLeaves (values : List UInt8) : Except Int32 (List (List UInt8)) → List UInt8 → Prop
  | .ok more, packetStr => ∃ rest, packetStr = hexText (values ++ more.flatten) ++ 0 :: rest
  | .error ret, packetStr => ∃ rest, packetStr = errorText ret ++ 0 :: rest

/-- **The loop of `g`**, from register `i` on.  The digits of the registers before it stand in the
packet, and a zero behind them if there are any. -/
theorem regReadLoop_each {op : σ → ℤ → (Int32 × List UInt8) × σ}
    (hop : stub.ops.readReg = some op) {width : ℕ}
    (hwidth : ∀ i < stub.arch.registers, stub.regSize i = width)
    (hroom : 2 * (stub.arch.registers * width) + 5 < maxSendPacketSize) (todo : ℕ) :
    ∀ (i : ℕ) (values rest : List UInt8) (state : StubState σ), i + todo = stub.arch.registers →
      0 < i + todo → values.length = i * width →
      rest.length + 2 * (i * width) = maxSendPacketSize → (0 < i → rest.head? = some 0) →
      state.regbuf.Sound →
      ∃ final after, regReadLoop stub todo i (hexText values ++ rest) state = (.ok final, after) ∧
        Left state after (readEach op todo i state.target).2 ∧
        LoopLeaves values (readEach op todo i state.target).1 final := by
  induction todo with
  | zero =>
      intro i values rest state hi hsome hvalues hrest hzero hsound
      obtain ⟨behind, hbehind⟩ : ∃ behind, rest = 0 :: behind := by
        have hhead := hzero hsome
        cases rest with
        | nil => cases hhead
        | cons first behind => exact ⟨behind, by rw [Option.some.inj hhead]⟩
      refine ⟨_, state, rfl, ⟨rfl, rfl, hsound⟩, behind, ?_⟩
      rw [hbehind, List.flatten_nil, List.append_nil]
  | succ todo ih =>
      intro i values rest state hi hsome hvalues hrest hzero hsound
      have hsize : stub.ops.getRegBytes i = width := hwidth i (by omega)
      -- there is room for the digits of this register and the zero behind them
      have hslots : (i + 1) * width ≤ stub.arch.registers * width :=
        Nat.mul_le_mul_right width (by omega)
      rw [Nat.succ_mul] at hslots
      rw [maxSendPacketSize] at hroom hrest
      obtain ⟨room, grown, hget, hlarge, hgrown⟩ :=
        regbufGet_of_sound stub halloc (show width ≤ 2 ^ 63 by omega) hsound
      obtain ⟨htarget, hsent, -, -⟩ := regbufGet_frame stub hget
      have hread := callReadReg_some hop i (some room) grown
      have hlength := stub.ops.length_readReg op hop state.target i
      rw [htarget] at hread
      rw [regReadLoop, readEach, hsize, Program.bind_of_ok hget]
      rcases hresult : op state.target i with ⟨⟨ret, bytes⟩, next⟩
      rw [hresult] at hread hlength
      dsimp only at hread ⊢
      let between := grown.called (.readReg i ret bytes) next
      -- the loop is left at the first error, whose text overwrites the digits so far
      by_cases hret : ret = 0
      · have hbytes : bytes.length = width := (hlength hret).trans hsize
        have hhex : hexToStr bytes (asInt (width : ℤ)) = .ok (hexText bytes ++ [0]) := by
          rw [asInt_of_lt (by omega), ← hbytes, hexToStr_eq le_rfl, List.take_length]
        have hdigits : (hexText bytes ++ [0]).length = 2 * width + 1 := by
          rw [List.length_append, length_hexText, hbytes, List.length_singleton]
        have hwrite : Block.write? (hexText values ++ rest) (i * width * 2) (hexText bytes ++ [0]) =
            some (hexText (values ++ bytes) ++ 0 :: rest.drop (2 * width + 1)) := by
          rw [Block.write?_append (by rw [length_hexText, hvalues]; omega) (by omega), hdigits,
            hexText_append]
          simp
        rw [if_pos hret, storeAt_some (hbytes.trans_le hlarge)] at hread
        rw [Program.bind_of_ok hread, if_pos hret, if_pos hret]
        dsimp only
        rw [hhex, Program.lift_ok_bind, hwrite, inBounds_some, Program.lift_ok_bind]
        obtain ⟨final, after, hloop, hleft, hleaves⟩ := ih (i + 1) (values ++ bytes)
          (0 :: rest.drop (2 * width + 1)) between (by omega) (by omega)
          (by rw [List.length_append, hvalues, hbytes, Nat.succ_mul])
          (by
            rw [List.length_cons, List.length_drop, maxSendPacketSize, Nat.succ_mul i]
            omega)
          (fun _ => rfl) hgrown
        refine ⟨final, after, hloop, ⟨hleft.target, hleft.sent.trans hsent, hleft.regbuf⟩, ?_⟩
        revert hleaves
        show LoopLeaves _ (readEach op todo (i + 1) next).1 final → _
        cases (readEach op todo (i + 1) next).1 with
        | error ret => exact id
        | ok more =>
            rintro ⟨behind, hfinal⟩
            exact ⟨behind, by rw [hfinal, List.append_assoc]; rfl⟩
      · rw [if_neg hret] at hread
        have hlength := length_errorText_le ret
        have hwrite : Block.write? (hexText values ++ rest) 0 (errorText ret ++ [0]) =
            some (errorText ret ++
              0 :: (hexText values ++ rest).drop (errorText ret ++ [0]).length) := by
          refine Block.write?_eq_some.mpr ⟨?_, ?_⟩
          · rw [List.length_append, List.length_append, length_hexText, hvalues,
              List.length_singleton]
            omega
          · simp [Block.overwrite]
        rw [Program.bind_of_ok hread, if_neg hret, if_neg hret]
        dsimp only
        rw [hwrite]
        exact ⟨_, between, rfl, ⟨rfl, hsent, hgrown⟩, _, rfl⟩

theorem served_readRegs (huniform : stub.Uniform) : ServedAs stub (ascii "g") .readRegs := by
  refine ServedAs.of_handler rfl (gdbstubProcessPacket_framed stub 103 []) ?_
  intro op hop csumHigh csumLow state hsound
  obtain ⟨width, hwidth⟩ := huniform.width
  have htotal : stub.totalRegBytes = stub.arch.registers * width :=
    stub.totalRegBytes_eq_offset.trans (offset_of_const hwidth)
  have hroom := huniform.fits
  rw [htotal] at hroom
  obtain ⟨final, after, hloop, hleft, hleaves⟩ := regReadLoop_each halloc hop hwidth hroom
    stub.arch.registers 0 [] (localBuffer stub maxSendPacketSize) state (by omega)
    (by have := huniform.registers; omega) (by simp) (by rw [length_localBuffer]; omega)
    (fun hlt => absurd hlt (Nat.lt_irrefl 0)) hsound
  rw [hexText_nil, List.nil_append] at hloop
  have hrun : ∀ pktstr rest, final = pktstr ++ 0 :: rest → 0 ∉ pktstr →
      processRegRead stub state = connSendPktstr pktstr after := by
    intro pktstr rest hfinal hzero
    rw [processRegRead, Program.bind_of_ok hloop, hfinal, connSendPktbuf_of_text hzero]
  show Replies (processRegRead stub) () state _
  rcases hresult : readEach op stub.arch.registers 0 state.target with ⟨ret | values, next⟩
  · rw [hresult] at hleft hleaves
    obtain ⟨rest, hfinal⟩ := hleaves
    refine Replies.of_run rfl ?_ hleft
    rw [hrun _ _ hfinal (zero_notMem_errorText ret)]
    exact connSendPktstr_errorText ret after
  · rw [hresult] at hleft hleaves
    obtain ⟨rest, hfinal⟩ := hleaves
    intro hfits
    have hfits : 2 * values.flatten.length + 5 < maxSendPacketSize := hfits
    refine ⟨_, rfl, after, ?_, hleft⟩
    rw [hrun _ _ hfinal (zero_notMem_hexText _)]
    exact connSendPktstr_of_fits (by rw [length_hexText]; exact hfits) after

end

/-! ## All registers at once -/

/-- A stretch of calls of the target leaves nothing but the target. -/
structure OnlyTarget (state after : StubState σ) (target : σ) : Prop where
  target : after.target = target
  sent : after.sent = state.sent
  regbuf : after.regbuf = state.regbuf

/-- The first pass ends: with the code of a register that cannot be read, or with the new values and
the old ones, of which those before register `i` were there already. -/
def ParseEnds (stub : Gdbstub σ) (payload backupValues : List UInt8) (todo i : ℕ)
    (outcome : Except Int32 (List UInt8 × List UInt8)) : Except Int32 (List (List UInt8)) → Prop
  | .error ret => outcome = .error ret
  | .ok old => ∃ new backup, outcome = .ok (new, backup) ∧
      (∀ j < stub.arch.registers, slot stub.regSize new j = payloadSlot stub payload j) ∧
      (∀ j < i, slot stub.regSize backup j = slot stub.regSize backupValues j) ∧
      (List.range' i todo).map (slot stub.regSize backup) = old

/-- **The first pass** of `G` saves what it reads, from register `i` on. -/
theorem regWriteParse_each {op : σ → ℤ → (Int32 × List UInt8) × σ}
    (hop : stub.ops.readReg = some op) {payload : List UInt8} (rest : List UInt8)
    (hlength : payload.length = 2 * stub.totalRegBytes) (hbound : payload.length < 2 ^ 31)
    (todo : ℕ) :
    ∀ (i : ℕ) (newValues backupValues : List UInt8) (state : StubState σ),
      i + todo = stub.arch.registers → newValues.length = stub.totalRegBytes →
      backupValues.length = stub.totalRegBytes →
      (∀ j < i, slot stub.regSize newValues j = payloadSlot stub payload j) →
      ∃ outcome after,
        regWriteParse stub (payload ++ 0 :: rest) todo i (2 * offset stub.regSize i)
          (offset stub.regSize i) newValues backupValues state = (.ok outcome, after) ∧
        OnlyTarget state after (readEach op todo i state.target).2 ∧
        ParseEnds stub payload backupValues todo i outcome
          (readEach op todo i state.target).1 := by
  induction todo with
  | zero =>
      intro i newValues backupValues state hi hnew hbackup hslots
      exact ⟨_, state, rfl, ⟨rfl, rfl, rfl⟩, newValues, backupValues, rfl,
        fun j hj => hslots j (by omega), fun _ _ => rfl, rfl⟩
  | succ todo ih =>
      intro i newValues backupValues state hi hnew hbackup hslots
      have hlt : i < stub.arch.registers := by omega
      have htotal := stub.totalRegBytes_eq_offset
      have hturn := regWriteParse_turn hop rest hlength hbound hnew hbackup hlt todo state
      have hold := stub.ops.length_readReg op hop state.target i
      rw [readEach]
      rcases hresult : op state.target i with ⟨⟨ret, value⟩, next⟩
      rw [hresult] at hturn hold
      dsimp only at hturn ⊢
      let between := state.called (.readReg i ret value) next
      -- an error ends the pass before anything is written
      by_cases hret : ret = 0
      · have hvalue : value.length = stub.regSize i := hold hret
        have hslot : (payloadSlot stub payload i).length = stub.regSize i :=
          length_payloadSlot hlt hlength
        have hend := offset_add_size_le stub.regSize hlt
        rw [if_pos hret] at hturn ⊢
        obtain ⟨outcome, after, hrun, honly, hends⟩ := ih (i + 1)
          (Block.overwrite newValues (offset stub.regSize i) (payloadSlot stub payload i))
          (Block.overwrite backupValues (offset stub.regSize i) value) between (by omega)
          (by rw [Block.length_overwrite (by omega), hnew])
          (by rw [Block.length_overwrite (by omega), hbackup])
          (fun j hj => by
            rcases Nat.lt_succ_iff_lt_or_eq.mp hj with hj | rfl
            · rw [slot_overwrite_of_ne hlt (by omega) (by omega) hslot, hslots j hj]
            · exact slot_overwrite_self hlt (by omega) hslot)
        refine ⟨outcome, after, hturn.trans hrun, ⟨honly.target, honly.sent, honly.regbuf⟩, ?_⟩
        revert hends
        show ParseEnds _ _ _ _ _ _ (readEach op todo (i + 1) next).1 → _
        cases (readEach op todo (i + 1) next).1 with
        | error ret => exact id
        | ok old =>
            rintro ⟨new, backup, houtcome, hnewSlots, hbackupSlots, hold⟩
            refine ⟨new, backup, houtcome, hnewSlots, fun j hj => ?_, ?_⟩
            · rw [hbackupSlots j (by omega), slot_overwrite_of_ne hlt (by omega) (by omega) hvalue]
            · rw [List.range'_succ, List.map_cons, hold, hbackupSlots i (by omega),
                slot_overwrite_self hlt (by omega) hvalue]
      · rw [if_neg hret] at hturn ⊢
        exact ⟨_, between, hturn, ⟨rfl, rfl, rfl⟩, rfl⟩

/-- **The second pass** writes the slots of the new values. -/
theorem regWriteCommit_each {op : σ → ℤ → List UInt8 → Int32 × σ}
    (hop : stub.ops.writeReg = some op) (newValues : List UInt8) (todo : ℕ) :
    ∀ (i : ℕ) (state : StubState σ),
      let values := (List.range' i todo).map (slot stub.regSize newValues)
      ∃ after,
        regWriteCommit stub newValues todo i (offset stub.regSize i) state =
          (.ok (writeEach op values i state.target).1, after) ∧
        OnlyTarget state after (writeEach op values i state.target).2 := by
  induction todo with
  | zero =>
      intro i state
      exact ⟨state, rfl, rfl, rfl, rfl⟩
  | succ todo ih =>
      intro i state values
      have hturn := regWriteCommit_turn hop newValues todo i state
      have hvalues : values = slot stub.regSize newValues i ::
          (List.range' (i + 1) todo).map (slot stub.regSize newValues) := by
        rw [← List.map_cons, ← List.range'_succ]
      rw [hvalues, writeEach]
      rcases hresult : op state.target i (slot stub.regSize newValues i) with ⟨ret, next⟩
      rw [hresult] at hturn
      dsimp only at hturn ⊢
      let between := state.called (.writeReg i (slot stub.regSize newValues i) ret) next
      by_cases hret : ret = 0
      · rw [if_pos hret] at hturn ⊢
        obtain ⟨after, hrun, honly⟩ := ih (i + 1) between
        exact ⟨after, hturn.trans hrun, honly.target, honly.sent, honly.regbuf⟩
      · rw [if_neg hret] at hturn ⊢
        exact ⟨between, hturn, rfl, rfl, rfl⟩

/-- **The rollback** writes the slots of the saved values. -/
theorem regWriteRollback_each {op : σ → ℤ → List UInt8 → Int32 × σ}
    (hop : stub.ops.writeReg = some op) (backupValues : List UInt8) (todo : ℕ) :
    ∀ (i : ℕ) (state : StubState σ), ∃ after,
      regWriteRollback stub backupValues todo i (offset stub.regSize i) state = (.ok (), after) ∧
        OnlyTarget state after (restoreEach op
          ((List.range' i todo).map (slot stub.regSize backupValues)) i state.target) := by
  induction todo with
  | zero =>
      intro i state
      exact ⟨state, rfl, rfl, rfl, rfl⟩
  | succ todo ih =>
      intro i state
      have hturn := regWriteRollback_turn hop backupValues todo i state
      rw [List.range'_succ, List.map_cons, restoreEach]
      dsimp only at hturn
      obtain ⟨after, hrun, honly⟩ := ih (i + 1)
        (state.called (.writeReg i (slot stub.regSize backupValues i)
          (op state.target i (slot stub.regSize backupValues i)).1)
          (op state.target i (slot stub.regSize backupValues i)).2)
      exact ⟨after, hturn.trans hrun, honly.target, honly.sent, honly.regbuf⟩

/-- A register that is refused is one of those that are written. -/
theorem writeEach_lt (op : σ → ℤ → List UInt8 → Int32 × σ) (values : List (List UInt8)) :
    ∀ (i : ℕ) (target : σ), ∀ refused ∈ (writeEach op values i target).1,
      refused.1 < i + values.length := by
  induction values with
  | nil =>
      intro i target refused hrefused
      cases hrefused
  | cons value values ih =>
      intro i target refused hrefused
      rw [List.length_cons]
      rw [writeEach] at hrefused
      split at hrefused
      · have hlt := ih (i + 1) _ refused hrefused
        omega
      · cases hrefused
        exact Nat.lt_add_of_pos_right (Nat.succ_pos _)

/-- `G` once its blocks are allocated is the transaction. -/
theorem regWriteApply_transact {read : σ → ℤ → (Int32 × List UInt8) × σ}
    {write : σ → ℤ → List UInt8 → Int32 × σ} (hread : stub.ops.readReg = some read)
    (hwrite : stub.ops.writeReg = some write) {digits data : List UInt8}
    (hdigits : HexData digits data) (hdata : data.length = stub.totalRegBytes)
    (hbound : 2 * stub.totalRegBytes < 2 ^ 31) (rest : List UInt8) {state : StubState σ}
    (hsound : state.regbuf.Sound) :
    Replies (regWriteApply stub (digits ++ 0 :: rest)) () state
      (transact read write (stub.slots data) state.target) := by
  have hlength : digits.length = 2 * stub.totalRegBytes := by rw [hdigits.length_eq, hdata]
  obtain ⟨outcome, parsed, hparse, hparsed, hends⟩ := regWriteParse_each hread rest hlength
    (by omega) stub.arch.registers 0 (localBuffer stub stub.totalRegBytes)
    (localBuffer stub stub.totalRegBytes) state (by omega) (length_localBuffer ..)
    (length_localBuffer ..) (fun j hj => absurd hj (Nat.not_lt_zero j))
  rw [offset_zero, Nat.mul_zero] at hparse
  have hvalues : (stub.slots data).length = stub.arch.registers := by simp [Gdbstub.slots]
  rw [transact, hvalues]
  -- a register that cannot be read ends the request; otherwise the second pass begins
  rcases heach : readEach read stub.arch.registers 0 state.target with ⟨ret | old, next⟩
  · rw [heach] at hparsed hends
    have houtcome : outcome = .error ret := hends
    have hleft : Left state parsed next :=
      ⟨hparsed.target, hparsed.sent, hparsed.regbuf ▸ hsound⟩
    refine Replies.of_run rfl ?_ hleft
    rw [regWriteApply, Program.bind_of_ok hparse, houtcome]
    exact connSendPktstr_errorText ret parsed
  · rw [heach] at hparsed hends
    obtain ⟨new, backup, houtcome, hnew, -, hold⟩ := hends
    have hslots : stub.slots data = (List.range' 0 stub.arch.registers).map
        (slot stub.regSize new) := by
      rw [Gdbstub.slots, List.range_eq_range']
      refine List.map_congr_left fun j hj => ?_
      rw [hnew j (by simpa using hj), payloadSlot_of_hexData stub hdigits]
    obtain ⟨committed, hcommit, hcommitted⟩ :=
      regWriteCommit_each hwrite new stub.arch.registers 0 parsed
    rw [← hslots, hparsed.target] at hcommit hcommitted
    rw [offset_zero] at hcommit
    have hsent := hcommitted.sent.trans hparsed.sent
    have hregbuf := hcommitted.regbuf.trans hparsed.regbuf
    have hrefused := writeEach_lt write (stub.slots data) 0 next
    dsimp only at hcommit hcommitted ⊢
    -- all writes succeed, or those before the refused one are taken back
    rcases hfinal : writeEach write (stub.slots data) 0 next with ⟨_ | ⟨failed, ret⟩, written⟩
    · rw [hfinal] at hcommit hcommitted
      have hleft : Left state committed written := ⟨hcommitted.target, hsent, hregbuf ▸ hsound⟩
      refine Replies.of_run rfl ?_ hleft
      rw [regWriteApply, Program.bind_of_ok hparse, houtcome]
      dsimp only
      rw [Program.bind_of_ok hcommit]
      exact connSendPktstr_of_fits (by decide) committed
    · rw [hfinal] at hcommit hcommitted hrefused
      have hlt : failed < 0 + (stub.slots data).length := hrefused _ rfl
      obtain ⟨after, hrollback, hafter⟩ := regWriteRollback_each hwrite backup failed 0 committed
      have htake : (List.range' 0 failed).map (slot stub.regSize backup) = old.take failed := by
        rw [← hold, ← List.map_take, List.take_range'_of_length_ge (by omega)]
      rw [hcommitted.target, htake] at hafter
      rw [offset_zero] at hrollback
      have hleft : Left state after (restoreEach write (old.take failed) 0 written) :=
        ⟨hafter.target, hafter.sent.trans hsent, (hafter.regbuf.trans hregbuf) ▸ hsound⟩
      refine Replies.of_run rfl ?_ hleft
      rw [regWriteApply, Program.bind_of_ok hparse, houtcome]
      dsimp only
      rw [Program.bind_of_ok hcommit]
      dsimp only
      rw [Program.bind_of_ok hrollback]
      exact connSendPktstr_errorText ret after

theorem served_writeRegs (halloc : ∀ k bytes, stub.mallocs k bytes = true)
    {digits data : List UInt8} (hdigits : HexData digits data)
    (hdata : data.length = stub.totalRegBytes) (hpos : 0 < stub.totalRegBytes)
    (hbound : 2 * stub.totalRegBytes < 2 ^ 31)
    (hreads : stub.ops.writeReg.isSome → stub.ops.readReg.isSome) :
    ServedAs stub (71 :: digits) (.writeRegs data) := by
  refine ServedAs.of_handler rfl (gdbstubProcessPacket_framed stub 71 digits) ?_
  intro write hwrite csumHigh csumLow state hsound
  obtain ⟨read, hread⟩ := Option.isSome_iff_exists.mp
    (hreads (Option.isSome_iff_exists.mpr ⟨write, hwrite⟩))
  rw [hread]
  have hzero : 0 ∉ digits := notMem_of_hexDigits hdigits.digits (by decide)
  have hlength : digits.length = 2 * stub.totalRegBytes := by rw [hdigits.length_eq, hdata]
  let allocated : StubState σ := { state with allocations := state.allocations + 1 + 1 }
  intro hfits
  obtain ⟨reply, hreply, between, hrun, hleft⟩ := regWriteApply_transact hread hwrite hdigits hdata
    hbound [csumHigh, csumLow, 0] (show allocated.regbuf.Sound from hsound) hfits
  refine ⟨reply, hreply, between, ?_, hleft.target, hleft.sent, hleft.regbuf⟩
  rw [behindBody, processRegWrite_of_length _ hpos halloc hzero hlength]
  exact hrun

end MiniGdbstub
