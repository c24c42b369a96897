import MiniGdbstub.Library.HexFields
import MiniGdbstub.RegisterWrite

/-!
# The grammar of write requests

What the requests `M`, `X`, `P` and `G` ask for, said without the handlers: `Denotes`
relates the body of a well-formed request to the changes of the target it stands for.
The lemmas relate the strict data of the grammar to the decoders, which accept any
characters.
-/

namespace MiniGdbstub

open CString Layout

variable {σ : Type} (stub : Gdbstub σ)

/-- `','` -/
def comma : UInt8 := 44

/-- A change of the target: what is written to a register or to a range of memory. -/
inductive Write
  | reg (regno : ℤ) (data : List UInt8)
  | mem (addr len : ℕ) (data : List UInt8)
  deriving DecidableEq

/-- The change that an invocation of an operation asks the target for. -/
def TargetCall.write? : TargetCall → Option Write
  | .writeReg regno data _ => some (.reg regno data)
  | .writeMem addr len data _ => some (.mem addr len data)
  | _ => none

/-- Escaped binary data of a packet. -/
abbrev EscapedBytes : List UInt8 → List UInt8 → Prop :=
  EscapedData escapeChar 0x20

/-- The address and the length at the beginning of a request for memory. -/
structure MemoryRange (fields : List UInt8) (addr len : ℕ) : Prop where
  spelled : ∃ addrText lenText, HexNumber addrText addr ∧ HexNumber lenText len ∧
    fields = addrText ++ comma :: lenText
  addr_lt : addr < 2 ^ 64
  len_lt : len < 2 ^ 64

/-- The body of a well-formed request and the writes it asks for. -/
inductive Denotes : List UInt8 → List Write → Prop
  | memory {fields digits data : List UInt8} {addr : ℕ} :
      MemoryRange fields addr data.length → HexData digits data →
      Denotes (77 :: (fields ++ colon :: digits)) [.mem addr data.length data]
  | binary {fields escaped data : List UInt8} {addr : ℕ} :
      MemoryRange fields addr data.length → EscapedBytes escaped data →
      Denotes (88 :: (fields ++ colon :: escaped)) [.mem addr data.length data]
  | register {regnoText digits data : List UInt8} {regno : ℕ} :
      HexNumber regnoText regno → regno < 2 ^ 31 → HexData digits data →
      data.length = stub.ops.getRegBytes regno →
      Denotes (80 :: (regnoText ++ equals :: digits)) [.reg regno data]
  | registers {digits data : List UInt8} : HexData digits data →
      data.length = stub.totalRegBytes →
      Denotes (71 :: digits)
        ((List.range stub.arch.registers).map fun i : ℕ => .reg i (slot stub.regSize data i))

/-- The body is that of a well-formed write request. -/
def WellFormed (body : List UInt8) : Prop :=
  ∃ writes, Denotes stub body writes

/-! ## Fields -/

/-- Two numbers with a comma between them have no separator of another kind. -/
theorem notMem_of_hexNumbers {addrText lenText : List UInt8} {addr len : ℕ}
    (haddr : HexNumber addrText addr) (hlen : HexNumber lenText len) {character : UInt8}
    (hlisted : character ∈ [0, 44, 58, 59, 61, 43, 45, 88, 120]) (hcomma : character ≠ comma) :
    character ∉ addrText ++ comma :: lenText := by
  rw [List.mem_append, List.mem_cons, not_or, not_or]
  exact ⟨notMem_of_hexDigits haddr.all_digits hlisted, hcomma,
    notMem_of_hexDigits hlen.all_digits hlisted⟩

theorem MemoryRange.characters {fields : List UInt8} {addr len : ℕ}
    (hrange : MemoryRange fields addr len) : 0 ∉ fields ∧ colon ∉ fields := by
  obtain ⟨addrText, lenText, haddr, hlen, rfl⟩ := hrange.spelled
  exact ⟨notMem_of_hexNumbers haddr hlen (by decide) (by decide),
    notMem_of_hexNumbers haddr hlen (by decide) (by decide)⟩

/-- `sscanf` reads the address and the length. -/
theorem MemoryRange.scan {fields : List UInt8} {addr len : ℕ}
    (hrange : MemoryRange fields addr len) : scanHexFields 2 fields = [addr, len] := by
  obtain ⟨addrText, lenText, haddr, hlen, rfl⟩ := hrange.spelled
  rw [comma, scanHexFields_cons haddr hrange.addr_lt, scanHexFields_last hlen hrange.len_lt]

theorem MemoryRange.cut {fields : List UInt8} {addr len : ℕ}
    (hrange : MemoryRange fields addr len) (rest : List UInt8) :
    CString.cut colon (fields ++ colon :: rest) = (fields, some rest) :=
  cut_append hrange.characters.1 hrange.characters.2 (by decide) rest

/-! ## Strict data and the decoders -/

/-- The decoder gives strict data its bytes. -/
theorem hexPairs_of_hexData {digits bytes : List UInt8} (hdata : HexData digits bytes) :
    hexPairs digits = bytes := by
  induction hdata with
  | nil => rfl
  | cons hhigh hlow _ ih =>
      obtain ⟨hhigh, hhighLt⟩ := charToHex_of_hexValue? hhigh
      obtain ⟨hlow, hlowLt⟩ := charToHex_of_hexValue? hlow
      rw [hexPairs, hhigh, hlow, shift_or_eq _ hhighLt _ hlowLt, ih]

/-- What the encoder writes is strict. -/
theorem hexData_hexText (bytes : List UInt8) : HexData (hexText bytes) bytes := by
  induction bytes with
  | nil => exact .nil
  | cons byte bytes ih =>
      have hlt := byte.toNat_lt
      have hdata := HexData.cons (hexValue?_hexDigit (byte.toNat / 16) (by omega))
        (hexValue?_hexDigit (byte.toNat % 16) (by omega)) ih
      rw [Nat.div_add_mod, Nat.toUInt8_eq, UInt8.ofNat_toNat] at hdata
      exact hdata

theorem hexPairs_drop (characters : List UInt8) (count : ℕ) :
    hexPairs (characters.drop (2 * count)) = (hexPairs characters).drop count := by
  induction count generalizing characters with
  | zero => rfl
  | succ count ih =>
      match characters with
      | [] => rfl
      | [last] =>
          have hlength : [last].length ≤ 2 * (count + 1) := by
            rw [List.length_singleton]
            omega
          rw [List.drop_of_length_le hlength]
          rfl
      | high :: low :: rest => exact ih rest

theorem hexPairs_take (characters : List UInt8) (count : ℕ) :
    hexPairs (characters.take (2 * count)) = (hexPairs characters).take count := by
  induction count generalizing characters with
  | zero => rfl
  | succ count ih =>
      match characters with
      | [] => rfl
      | [_] => rfl
      | high :: low :: rest => exact congrArg _ (ih rest)

/-- The decoder works slot by slot. -/
theorem hexPairs_slice (characters : List UInt8) (start count : ℕ) :
    hexPairs (Block.slice characters (2 * start) (2 * count)) =
      Block.slice (hexPairs characters) start count := by
  rw [Block.slice, hexPairs_take, hexPairs_drop, Block.slice]

/-- What is decoded from slot `i` of strict data is slot `i` of its bytes. -/
theorem payloadSlot_of_hexData {digits data : List UInt8} (hdata : HexData digits data) (i : ℕ) :
    payloadSlot stub digits i = slot stub.regSize data i := by
  rw [payloadSlot, hexPairs_slice, hexPairs_of_hexData hdata, slot]

/-- Escaped data that is complete does not depend on what stands behind it. -/
theorem unescaped_of_escapedBytes {escaped data : List UInt8} (hdata : EscapedBytes escaped data)
    (after : UInt8) : unescaped after escaped = data := by
  induction hdata with
  | nil => rfl
  | plain hbyte _ ih => rw [unescaped_cons_of_ne after hbyte, ih]
  | escaped _ ih => rw [unescaped_escape_cons, ih]

/-! ## The body of a frame as the handlers see it -/

/-- What stands behind a body once `'#'` has been overwritten: a zero, the checksum
characters and the zero that ends the packet. -/
def behindBody (csumHigh csumLow : UInt8) : List UInt8 :=
  [0, csumHigh, csumLow, 0]

/-- A request is dispatched by its first byte, with a zero in the place of the `'#'`. -/
theorem gdbstubProcessPacket_framed (request : UInt8) (payload : List UInt8)
    (csumHigh csumLow : UInt8) :
    gdbstubProcessPacket stub (Packet.ofFrame (framed (request :: payload) csumHigh csumLow)) =
      dispatch stub request (payload ++ behindBody csumHigh csumLow) payload.length := by
  have hdata : (Packet.ofFrame (framed (request :: payload) csumHigh csumLow)).data =
      dollar :: request :: payload ++ [hash, csumHigh, csumLow, 0] := by
    simp [Packet.ofFrame, framed, Octet.zero]
  have hend : (Packet.ofFrame (framed (request :: payload) csumHigh csumLow)).endPos - csumSize =
      payload.length + 2 := by
    simp [Packet.ofFrame, framed, csumSize]
  have hwrite : Block.write? (dollar :: request :: payload ++ [hash, csumHigh, csumLow, 0])
      (payload.length + 2) [0] =
      some (dollar :: request :: payload ++ behindBody csumHigh csumLow) := by
    refine Block.write?_eq_some.mpr ⟨by simp, ?_⟩
    have hlength : (dollar :: request :: payload).length = payload.length + 2 := rfl
    rw [Block.overwrite, List.take_left' hlength, List.length_singleton,
      show payload.length + 2 + 1 = (dollar :: request :: payload).length + 1 by rfl,
      List.drop_length_add_append]
    rfl
  funext state
  rw [gdbstubProcessPacket, hdata, hend, hwrite]
  simp [behindBody]

/-- A packet without a body is answered with nothing. -/
theorem gdbstubProcessPacket_nil (csumHigh csumLow : UInt8) (state : StubState σ) :
    gdbstubProcessPacket stub (Packet.ofFrame (framed [] csumHigh csumLow)) state =
      (.ok .none, state.reply []) := by
  rfl

/-! ## The handlers for memory -/

/-- The reply to the code that a write returned. -/
def writeReply (ret : Int32) : List UInt8 :=
  if ret = 0 then ascii "OK" else errorText ret

theorem connSendPktstr_writeReply (ret : Int32) (state : StubState σ) :
    (if ret = 0 then connSendPktstr (ascii "OK")
      else connSendPktstr (errorText ret) : StubM σ Unit) state =
        (.ok (), state.reply (writeReply ret)) := by
  by_cases hret : ret = 0
  · rw [if_pos hret, writeReply, if_pos hret]
    exact connSendPktstr_of_fits (by decide) state
  · rw [if_neg hret, writeReply, if_neg hret]
    exact connSendPktstr_errorText ret state

/-- The state after an allocation. -/
def StubState.allocated (state : StubState σ) : StubState σ :=
  { state with allocations := state.allocations + 1 }

/-- A function of two fields is not called on any other number of them. -/
theorem match_fields_of_not {α : Type} (fields : List ℕ) (called : ℕ → ℕ → α) (other : α) :
    (¬ ∃ first second, fields = [first, second]) →
      (match fields with
        | [first, second] => called first second
        | _ => other) = other := by
  intro hfields
  match fields, hfields with
  | [], _ => rfl
  | [_], _ => rfl
  | [first, second], hfields => exact absurd ⟨first, second, rfl⟩ hfields
  | _ :: _ :: _ :: _, _ => rfl

theorem match_field_of_not {α : Type} (fields : List ℕ) (called : ℕ → α) (other : α) :
    (¬ ∃ first, fields = [first]) →
      (match fields with
        | [first] => called first
        | _ => other) = other := by
  intro hfields
  match fields, hfields with
  | [], _ => rfl
  | [first], hfields => exact absurd ⟨first, rfl⟩ hfields
  | _ :: _ :: _, _ => rfl

section

variable {stub} {op : σ → ℕ → ℕ → List UInt8 → Int32 × σ}

theorem malloc_eq (bytes : ℕ) (state : StubState σ) :
    malloc stub bytes state =
      (.ok (if stub.mallocs state.allocations bytes then some bytes else none),
        state.allocated) := by
  rw [malloc, Program.get_bind, Program.update_bind]
  rfl

/-- Data of the right length is applied if there is memory for the new values and the old
ones. -/
theorem processRegWrite_allocates {payload : List UInt8} (htotal : stub.totalRegBytes ≠ 0)
    (hlength : (text payload).length = 2 * stub.totalRegBytes) (state : StubState σ) :
    processRegWrite stub payload state =
      (if stub.mallocs state.allocations stub.totalRegBytes = true ∧
          stub.mallocs (state.allocations + 1) stub.totalRegBytes = true then
        regWriteApply stub payload
      else
        connSendPktstr (ascii "E12") : StubM σ Unit) state.allocated.allocated := by
  have hrun : processRegWrite stub payload state =
      (if (if stub.mallocs state.allocations stub.totalRegBytes then
            some stub.totalRegBytes else none) = none ∨
          (if stub.mallocs (state.allocations + 1) stub.totalRegBytes then
            some stub.totalRegBytes else none) = none then
        connSendPktstr (ascii "E12")
      else
        regWriteApply stub payload : StubM σ Unit) state.allocated.allocated := by
    rw [processRegWrite, if_neg htotal, if_neg (by omega), Program.bind_of_ok (malloc_eq _ _),
      Program.bind_of_ok (malloc_eq _ _)]
    rfl
  rw [hrun]
  by_cases halloc : stub.mallocs state.allocations stub.totalRegBytes = true ∧
      stub.mallocs (state.allocations + 1) stub.totalRegBytes = true
  · rw [if_pos halloc, if_pos halloc.1, if_pos halloc.2, if_neg (by simp)]
  · rw [if_neg halloc, if_pos]
    rw [not_and_or] at halloc
    exact halloc.imp (fun hfirst => if_neg hfirst) fun hsecond => if_neg hsecond

variable (stub) in
/-- The block that `malloc` returns for the data of `M`. -/
def dataBlock (state : StubState σ) (mlen : ℕ) : Option ℕ :=
  if stub.mallocs state.allocations mlen then some mlen else none

theorem decodeContent_of_store {block : List UInt8} {mval : Option ℕ} {mlen : ℕ}
    (hstore : storeAt mval (asInt mlen).toNat = .ok ()) :
    decodeContent (some block) mval mlen = strToHex block (asInt mlen) := by
  rw [decodeContent, hstore]
  rfl

variable (stub) in
/-- A block for the data is large enough, whatever the length is as an `int`. -/
theorem storeAt_dataBlock {state : StubState σ} {mlen : ℕ}
    (hblock : 0 < asInt mlen → stub.mallocs state.allocations mlen = true) :
    storeAt (dataBlock stub state mlen) (asInt mlen).toNat = .ok () := by
  have hle := toNat_asInt_le mlen
  rw [dataBlock]
  by_cases halloc : stub.mallocs state.allocations mlen = true
  · rw [if_pos halloc, storeAt_some hle]
  · have hneg : (asInt mlen).toNat = 0 := by
      by_contra hpos
      exact halloc (hblock (by omega))
    rw [if_neg halloc, hneg]
    rfl

variable (stub) in
/-- The data of `M` is decoded unless its length is positive and there is no data, or no block
for it, or it is too short. -/
theorem decodeContent_cases (content : Option (List UInt8)) (mlen : ℕ) (state : StubState σ) :
    (0 < asInt mlen ∧ (content = none ∨ stub.mallocs state.allocations mlen = false) ∧
        ∃ fault, fault ≠ .outOfBounds ∧
          decodeContent content (dataBlock stub state mlen) mlen = .error fault) ∨
      (0 < asInt mlen ∧ stub.mallocs state.allocations mlen = true ∧
        ∃ block, content = some block ∧ (block.length : ℤ) < 2 * asInt mlen ∧
          decodeContent content (dataBlock stub state mlen) mlen = .error .outOfBounds) ∨
      ((0 < asInt mlen → content ≠ none ∧ stub.mallocs state.allocations mlen = true) ∧
        ∃ data, decodeContent content (dataBlock stub state mlen) mlen = .ok data ∧
          data.length = (asInt mlen).toNat) := by
  cases content with
  | none =>
      by_cases hpos : asInt mlen ≤ 0
      · exact .inr (.inr ⟨fun hneg => absurd hpos (by omega), [],
          by rw [decodeContent, if_pos hpos], by rw [Int.toNat_of_nonpos hpos, List.length_nil]⟩)
      · exact .inl ⟨by omega, .inl rfl, .nullDeref, by decide,
          by rw [decodeContent, if_neg hpos]⟩
  | some block =>
      by_cases hfails : 0 < asInt mlen ∧ stub.mallocs state.allocations mlen = false
      · -- the first byte decoded is stored through `NULL`
        refine .inl ⟨hfails.1, .inr hfails.2, .unallocated, by decide, ?_⟩
        obtain ⟨count, hcount⟩ := Nat.exists_eq_succ_of_ne_zero
          (show (asInt mlen).toNat ≠ 0 by omega)
        rw [decodeContent, dataBlock, hfails.2, if_neg (by decide), hcount]
        rfl
      have halloc : 0 < asInt mlen → stub.mallocs state.allocations mlen = true := by
        intro hpos
        by_contra hno
        exact hfails ⟨hpos, Bool.eq_false_iff.mpr hno⟩
      have hdecode : decodeContent (some block) (dataBlock stub state mlen) mlen =
          strToHex block (asInt mlen) := decodeContent_of_store (storeAt_dataBlock stub halloc)
      rw [hdecode]
      by_cases hfits : 2 * (asInt mlen).toNat ≤ block.length
      · refine .inr (.inr ⟨fun hpos => ⟨by simp, halloc hpos⟩, _, strToHex_eq hfits, ?_⟩)
        exact length_hexPairs (by rw [List.length_take]; omega)
      · exact .inr (.inl ⟨by omega, halloc (by omega), block, rfl, by omega,
          strToHex_error (by omega)⟩)

/-- `process_mem_write` once its two numbers are scanned. -/
theorem processMemWrite_scanned {payload : List UInt8} {maddr mlen : ℕ}
    (hscan : scanHexFields 2 (CString.cut colon payload).1 = [maddr, mlen])
    (state : StubState σ) :
    processMemWrite stub payload state = (do
      let room := dataBlock stub state mlen
      let data ← Program.lift (decodeContent (CString.cut colon payload).2 room mlen)
      let ret ← callWriteMem stub maddr mlen
        (data ++ (localBuffer stub (room.getD 0)).drop data.length)
      if ret = 0 then connSendPktstr (ascii "OK") else connSendPktstr (errorText ret) :
        StubM σ Unit) state.allocated := by
  rw [processMemWrite]
  dsimp only
  rw [hscan]
  exact Program.bind_of_ok (malloc_eq mlen state) _

/-- **`M`.**  What is decoded is written, and the reply tells how that ended. -/
theorem processMemWrite_ok (hop : stub.ops.writeMem = some op) {payload : List UInt8}
    {maddr mlen : ℕ} (hscan : scanHexFields 2 (CString.cut colon payload).1 = [maddr, mlen])
    {data : List UInt8} {state : StubState σ} (hdata : decodeContent
      (CString.cut colon payload).2 (dataBlock stub state mlen) mlen = .ok data) :
    ∃ block, (data.length = mlen → block = data) ∧
      let result := op state.target maddr mlen block
      processMemWrite stub payload state = (.ok (),
        (state.allocated.called (.writeMem maddr mlen block result.1) result.2).reply
          (writeReply result.1)) := by
  have hroom : (dataBlock stub state mlen).getD 0 ≤ mlen := by
    rw [dataBlock]
    split
    · exact le_rfl
    · exact Nat.zero_le _
  refine ⟨data ++ (localBuffer stub ((dataBlock stub state mlen).getD 0)).drop data.length, ?_,
    ?_⟩
  · intro hall
    rw [List.drop_of_length_le (by rw [length_localBuffer]; omega), List.append_nil]
  · rw [processMemWrite_scanned hscan]
    dsimp only
    rw [hdata, Program.lift_ok_bind, Program.bind_of_ok (callWriteMem_some hop _ _ _ _),
      connSendPktstr_writeReply]
    rfl

/-- **`X`.**  What is decoded is written; the reply does not tell how that ended. -/
theorem processMemXwrite_ok (hop : stub.ops.writeMem = some op)
    {payload fields content : List UInt8} {packetEnd maddr mlen : ℕ}
    (hcut : CString.cut colon payload = (fields, some content))
    (hscan : scanHexFields 2 fields = [maddr, mlen]) {count : ℕ} {decoded : List UInt8}
    (hdecode : unescape content (packetEnd - (fields.length + 1)) = .ok (count, decoded))
    (hcount : asInt count = asInt mlen) (state : StubState σ) :
    let result := op state.target maddr mlen (decoded.take mlen)
    processMemXwrite stub payload packetEnd state = (.ok (),
      (state.called (.writeMem maddr mlen (decoded.take mlen) result.1) result.2).reply
        (ascii "OK")) := by
  intro result
  rw [processMemXwrite, hcut]
  dsimp only
  rw [hscan]
  dsimp only
  rw [hdecode, Program.lift_ok_bind]
  dsimp only
  rw [if_pos hcount, Program.bind_of_ok (callWriteMem_some hop _ _ _ _)]
  exact connSendPktstr_of_fits (by decide) _

end

/-! ## A byte store -/

/-- The store with `data` written from `addr` on. -/
def storeBytes (store : ℕ → UInt8) (addr : ℕ) (data : List UInt8) : ℕ → UInt8 :=
  fun place => if addr ≤ place then (data[place - addr]?).getD (store place) else store place

/-- A target that is a store of bytes and accepts some ranges. -/
def byteStore (accepts : ℕ → ℕ → Bool) : TargetOps (ℕ → UInt8) where
  cont := none
  stepi := none
  getRegBytes := fun _ => 0
  readReg := none
  writeReg := none
  readMem := some fun store addr len =>
    if accepts addr len then ((0, (List.range len).map fun i => store (addr + i)), store)
    else ((14, []), store)
  writeMem := some fun store addr len data =>
    if accepts addr len then (0, storeBytes store addr (data.take len)) else (14, store)
  setBp := none
  delBp := none
  onInterrupt := none
  setCpu := none
  getCpu := none
  length_readReg := by simp
  length_readMem := by
    intro op hop store addr len hret
    obtain rfl := Option.some.inj hop
    dsimp only at hret ⊢
    split
    · simp
    · rename_i hrefused
      rw [if_neg hrefused] at hret
      exact absurd (show (14 : Int32) = 0 from hret) (by decide)

/-- A stub for a byte store, with memory to spare. -/
def byteStoreStub (accepts : ℕ → ℕ → Bool) : Gdbstub (ℕ → UInt8) where
  ops := byteStore accepts
  arch := { targetDesc := none, smp := 0, regNum := 0, zero_notMem := zero_notMem_of_none }
  totalRegBytes := 0
  mallocs := fun _ _ => true
  junk := fun _ => 0
  totalRegBytes_eq := rfl

end MiniGdbstub
