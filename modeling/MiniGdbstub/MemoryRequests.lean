import MiniGdbstub.WriteRequests

/-!
# Requests for memory and the size of their replies

What the requests `m`, `M` and `X` do when they are well formed: one lemma for each, from
the packet to the reply.

`process_mem_read` writes two digits for every byte and a zero to an array of
`MAX_SEND_PACKET_SIZE` characters, and `conn_send_pktstr` asserts that the digits and the
frame around them stay below the same size.  The reply to `qSupported` promises more: the
client reads the packet size in it as a hexadecimal number.
-/

namespace MiniGdbstub

open CString

variable {σ : Type} (stub : Gdbstub σ)

/-! ## What a reply carries -/

/-- The string that a packet carries. -/
def framePayload (frame : List UInt8) : List UInt8 :=
  (frame.drop 1).take (frame.length - 4)

@[simp] theorem framePayload_pktstrFrame (pktstr : List UInt8) :
    framePayload (pktstrFrame pktstr) = pktstr := by
  have hlength : (pktstrFrame pktstr).length - 4 = pktstr.length := by
    rw [pktstrFrame, List.length_cons, List.length_append, List.length_cons, length_hexByte]
    omega
  rw [framePayload, hlength, pktstrFrame, List.drop_one, List.tail_cons, List.take_left]

/-- Packets that are equal carry equal strings. -/
theorem pktstrFrame_inj {first second : List UInt8}
    (hframes : pktstrFrame first = pktstrFrame second) : first = second := by
  have hpayloads := congrArg framePayload hframes
  rwa [framePayload_pktstrFrame, framePayload_pktstrFrame] at hpayloads

theorem StubState.reply_sent_inj {state before : StubState σ} {first second : List UInt8}
    (hbefore : before.sent = state.sent)
    (hsent : (before.reply first).sent = state.sent ++ [pktstrFrame second]) :
    first = second := by
  have hframes : before.sent ++ [pktstrFrame first] = state.sent ++ [pktstrFrame second] := hsent
  rw [hbefore] at hframes
  exact pktstrFrame_inj (List.singleton_inj.mp (List.append_cancel_left hframes))

theorem ifProvided_some (handler : StubM σ Unit) {state after : StubState σ}
    (hhandler : handler state = (.ok (), after)) :
    ifProvided true handler state = (.ok .none, after) := by
  rw [ifProvided, if_pos rfl, Program.bind_of_ok hhandler]
  rfl

theorem ifProvided_of_provided {provided : Bool} (hprovided : provided) {handler : StubM σ Unit}
    {state after : StubState σ} (hhandler : handler state = (.ok (), after)) :
    ifProvided provided handler state = (.ok .none, after) := by
  rw [hprovided]
  exact ifProvided_some _ hhandler

theorem ifProvided_error (handler : StubM σ Unit) {state after : StubState σ} {fault : Fault}
    (hhandler : handler state = (.error fault, after)) :
    ifProvided true handler state = (.error fault, after) := by
  rw [ifProvided, if_pos rfl, Program.bind_of_error hhandler]

/-- Without its operation a request is refused. -/
theorem ifProvided_none (handler : StubM σ Unit) (state : StubState σ) :
    ifProvided false handler state = (.ok .none, state.reply (ascii "E01")) := by
  have hsend : (sendEperm : StubM σ Unit) state = (.ok (), state.reply (ascii "E01")) :=
    connSendPktstr_of_fits (by decide) state
  rw [ifProvided, if_neg (by decide), Program.bind_of_ok hsend]
  rfl

/-! ## Reading -/

/-- What `process_mem_read` does before it replies. -/
def fetchMem (maddr mlen : ℕ) : StubM σ (Int32 × List UInt8) := do
  let mval ← malloc stub mlen
  callReadMem stub maddr mlen mval

/-- `read_mem` is called in this state and succeeds with these bytes. -/
structure ReadsMem (state : StubState σ) (maddr mlen : ℕ) (bytes : List UInt8)
    (after : StubState σ) : Prop where
  provided : stub.ops.readMem.isSome = true
  fetched : fetchMem stub maddr mlen state = (.ok (0, bytes), after)

section

variable {stub}

/-- The operation behind a successful read. -/
theorem ReadsMem.op {state after : StubState σ} {maddr mlen : ℕ} {bytes : List UInt8}
    (hreads : ReadsMem stub state maddr mlen bytes after) :
    ∃ op, stub.ops.readMem = some op ∧ (op state.target maddr mlen).1 = (0, bytes) ∧
      bytes.length = mlen ∧
      after = state.allocated.called (.readMem maddr mlen 0 bytes)
        (op state.target maddr mlen).2 := by
  obtain ⟨op, hop⟩ := Option.isSome_iff_exists.mp hreads.provided
  have hfetched := hreads.fetched
  rw [fetchMem, Program.bind_of_ok (malloc_eq mlen state), callReadMem_some hop] at hfetched
  dsimp only at hfetched
  have hcell : (op state.target maddr mlen).1 = (0, bytes) ∧
      state.allocated.called (.readMem maddr mlen (op state.target maddr mlen).1.1
        (op state.target maddr mlen).1.2) (op state.target maddr mlen).2 = after := by
    by_cases hcode : (op state.allocated.target maddr mlen).1.1 = 0
    · rw [if_pos hcode] at hfetched
      obtain ⟨hstored, hafter⟩ := Prod.mk.inj hfetched
      rcases hstore : storeAt (if stub.mallocs state.allocations mlen then some mlen else none)
          (op state.allocated.target maddr mlen).1.2.length with fault | _
      · rw [hstore] at hstored
        cases hstored
      · rw [hstore] at hstored
        exact ⟨Except.ok.inj hstored, hafter⟩
    · rw [if_neg hcode] at hfetched
      obtain ⟨hresult, hafter⟩ := Prod.mk.inj hfetched
      exact ⟨Except.ok.inj hresult, hafter⟩
  obtain ⟨hresult, hafter⟩ := hcell
  refine ⟨op, hop, hresult, ?_, ?_⟩
  · have hlength := stub.ops.length_readMem op hop state.target maddr mlen
    rw [hresult] at hlength
    exact hlength rfl
  · rw [← hafter, hresult]

theorem ReadsMem.sent {state after : StubState σ} {maddr mlen : ℕ} {bytes : List UInt8}
    (hreads : ReadsMem stub state maddr mlen bytes after) : after.sent = state.sent := by
  obtain ⟨op, -, -, -, rfl⟩ := hreads.op
  rfl

/-- The body of `m` behind its letter is the range. -/
theorem MemoryRange.text_eq {fields : List UInt8} {addr len : ℕ}
    (hrange : MemoryRange fields addr len) (csumHigh csumLow : UInt8) :
    text (fields ++ behindBody csumHigh csumLow) = fields :=
  text_append_zero hrange.characters.1 _

/-- After a successful read only the digits are left to be written and sent. -/
theorem processMemRead_fetched {fields bytes : List UInt8} {addr len : ℕ}
    (hrange : MemoryRange fields addr len) (hlen : len < 2 ^ 31) {state after : StubState σ}
    (hreads : ReadsMem stub state addr len bytes after) (csumHigh csumLow : UInt8) :
    processMemRead stub (fields ++ behindBody csumHigh csumLow) state = (do
      let packetStr ← Program.lift (inBounds
        (Block.write? (localBuffer stub maxSendPacketSize) 0 (hexText bytes ++ [0])))
      connSendPktbuf packetStr : StubM σ Unit) after := by
  obtain ⟨-, -, -, hlength, -⟩ := hreads.op
  have hfetched := hreads.fetched
  have hhex : hexToStr bytes (asInt len) = .ok (hexText bytes ++ [0]) := by
    rw [asInt_of_lt hlen, hexToStr_eq (by omega), List.take_of_length_le (by omega)]
  rw [processMemRead, hrange.text_eq, hrange.scan]
  obtain ⟨room, between, hroom, hread⟩ := Program.ok_bind_iff.mp hfetched
  dsimp only
  rw [Program.bind_of_ok hroom, Program.bind_of_ok hread]
  dsimp only
  rw [if_pos rfl, hhex, Program.lift_ok_bind]

/-- The digits and their zero in the local array, if they have room there. -/
theorem write?_hexText (bytes : List UInt8) :
    Block.write? (localBuffer stub maxSendPacketSize) 0 (hexText bytes ++ [0]) =
      if 2 * bytes.length < maxSendPacketSize then
        some (hexText bytes ++ 0 :: (localBuffer stub maxSendPacketSize).drop
          (hexText bytes ++ [0]).length)
      else none := by
  have hlength : (hexText bytes ++ [0]).length = 2 * bytes.length + 1 := by
    rw [List.length_append, length_hexText, List.length_singleton]
  by_cases hroom : 2 * bytes.length < maxSendPacketSize
  · rw [if_pos hroom]
    refine Block.write?_eq_some.mpr ⟨?_, ?_⟩
    · rw [hlength, length_localBuffer]
      omega
    · simp [Block.overwrite]
  · rw [if_neg hroom, Block.write?, if_neg]
    rw [hlength, length_localBuffer]
    omega

/-- **`m`.**  A read that is short enough is answered with the digits of its bytes. -/
theorem memRead_replies {fields bytes : List UInt8} {addr len : ℕ}
    (hrange : MemoryRange fields addr len) (hfits : 2 * len + 5 < maxSendPacketSize)
    {state after : StubState σ} (hreads : ReadsMem stub state addr len bytes after)
    (csumHigh csumLow : UInt8) :
    gdbstubProcessPacket stub (Packet.ofFrame (framed (109 :: fields) csumHigh csumLow)) state =
      (.ok .none, after.reply (hexText bytes)) := by
  obtain ⟨-, -, -, hlength, -⟩ := hreads.op
  have hlen : len < 2 ^ 31 := by
    rw [maxSendPacketSize] at hfits
    omega
  rw [gdbstubProcessPacket_framed]
  refine ((congrArg (fun provided => ifProvided provided _ state) hreads.provided).trans
    (ifProvided_some _ ?_))
  rw [processMemRead_fetched hrange hlen hreads, write?_hexText, hlength, if_pos (by omega),
    inBounds_some, Program.lift_ok_bind, connSendPktbuf_of_text (zero_notMem_hexText bytes),
    connSendPktstr_of_fits (by rw [length_hexText, hlength]; exact hfits)]

/-- A longer one is not answered: its digits leave the array, or the assertion about their
length fails. -/
theorem memRead_stops {fields bytes : List UInt8} {addr len : ℕ}
    (hrange : MemoryRange fields addr len) (hlong : maxSendPacketSize ≤ 2 * len + 5)
    (hlen : len < 2 ^ 31) {state after : StubState σ}
    (hreads : ReadsMem stub state addr len bytes after) (csumHigh csumLow : UInt8) :
    gdbstubProcessPacket stub (Packet.ofFrame (framed (109 :: fields) csumHigh csumLow)) state =
      (.error (if 2 * len < maxSendPacketSize then .sendAssertFail else .outOfBounds), after) := by
  obtain ⟨-, -, -, hlength, -⟩ := hreads.op
  rw [gdbstubProcessPacket_framed]
  refine ((congrArg (fun provided => ifProvided provided _ state) hreads.provided).trans
    (ifProvided_error _ ?_))
  rw [processMemRead_fetched hrange hlen hreads, write?_hexText, hlength]
  by_cases hroom : 2 * len < maxSendPacketSize
  · rw [if_pos hroom, if_pos hroom, inBounds_some, Program.lift_ok_bind,
      connSendPktbuf_of_text (zero_notMem_hexText bytes),
      connSendPktstr_of_long (by rw [length_hexText, hlength]; exact hlong)]
  · rw [if_neg hroom, if_neg hroom, inBounds_none, Program.lift_error_bind]

/-! ## Writing -/

section

variable {op : σ → ℕ → ℕ → List UInt8 → Int32 × σ}

/-- The decoder gives the digits of a request their bytes, whatever stands behind them. -/
theorem decodeContent_of_hexData {digits data : List UInt8} (hdigits : HexData digits data)
    (hlength : data.length < 2 ^ 31) (behind : List UInt8) {mval : Option ℕ}
    (hstore : storeAt mval (asInt data.length).toNat = .ok ()) :
    decodeContent (some (digits ++ behind)) mval data.length = .ok data := by
  rw [decodeContent_of_store hstore, asInt_of_lt hlength,
    strToHex_eq (by simp [hdigits.length_eq]), Int.toNat_natCast, ← hdigits.length_eq,
    List.take_left, hexPairs_of_hexData hdigits]

/-- **`M`.**  The bytes are written, and the reply tells how that ended. -/
theorem memWrite_replies (hop : stub.ops.writeMem = some op) {fields digits data : List UInt8}
    {addr : ℕ} (hrange : MemoryRange fields addr data.length) (hdigits : HexData digits data)
    (hlength : data.length < 2 ^ 31) {state : StubState σ}
    (hblock : data ≠ [] → stub.mallocs state.allocations data.length = true)
    (csumHigh csumLow : UInt8) :
    let result := op state.target addr data.length data
    gdbstubProcessPacket stub
      (Packet.ofFrame (framed (77 :: (fields ++ colon :: digits)) csumHigh csumLow)) state =
        (.ok .none, (state.allocated.called (.writeMem addr data.length data result.1)
          result.2).reply (writeReply result.1)) := by
  intro result
  have hcut := hrange.cut (digits ++ behindBody csumHigh csumLow)
  have hscan : scanHexFields 2
      (CString.cut colon (fields ++ colon :: (digits ++ behindBody csumHigh csumLow))).1 =
        [addr, data.length] := by
    rw [hcut]
    exact hrange.scan
  have hblock' : 0 < asInt data.length → stub.mallocs state.allocations data.length = true := by
    intro hpos
    rw [asInt_of_lt hlength] at hpos
    exact hblock fun hnil => by simp [hnil] at hpos
  obtain ⟨block, hwhole, hrun⟩ := processMemWrite_ok hop hscan (by
    rw [hcut]
    exact decodeContent_of_hexData hdigits hlength _ (storeAt_dataBlock stub hblock'))
  rw [hwhole rfl] at hrun
  rw [gdbstubProcessPacket_framed, List.append_assoc, List.cons_append]
  refine ((congrArg (fun op : Option _ => ifProvided op.isSome _ state) hop).trans
    (ifProvided_some _ hrun))

/-- Without a block to decode to, bytes are stored through `NULL`. -/
theorem memWrite_stops (hop : stub.ops.writeMem = some op) {fields digits data : List UInt8}
    {addr : ℕ} (hrange : MemoryRange fields addr data.length) (hdigits : HexData digits data)
    (hlength : data.length < 2 ^ 31) {state : StubState σ} (hdata : data ≠ [])
    (hblock : stub.mallocs state.allocations data.length = false)
    (csumHigh csumLow : UInt8) :
    gdbstubProcessPacket stub
      (Packet.ofFrame (framed (77 :: (fields ++ colon :: digits)) csumHigh csumLow)) state =
        (.error .unallocated, state.allocated) := by
  have hcut := hrange.cut (digits ++ behindBody csumHigh csumLow)
  have hstore : storeAt none (asInt data.length).toNat = .error .unallocated := by
    rw [asInt_of_lt hlength, Int.toNat_natCast]
    obtain ⟨byte, rest, rfl⟩ := List.exists_cons_of_ne_nil hdata
    rfl
  have hrun : processMemWrite stub (fields ++ colon :: (digits ++ behindBody csumHigh csumLow))
      state = (.error .unallocated, state.allocated) := by
    rw [processMemWrite_scanned (by rw [hcut]; exact hrange.scan), hcut]
    dsimp only
    rw [dataBlock, hblock, if_neg (by decide), decodeContent, hstore]
    rfl
  rw [gdbstubProcessPacket_framed, List.append_assoc, List.cons_append]
  refine ((congrArg (fun op : Option _ => ifProvided op.isSome _ state) hop).trans
    (ifProvided_error _ hrun))

/-- **`X`.**  The bytes are written; the reply is `OK` however that ended. -/
theorem memXwrite_replies (hop : stub.ops.writeMem = some op) {fields escaped data : List UInt8}
    {addr : ℕ} (hrange : MemoryRange fields addr data.length) (hescaped : EscapedBytes escaped data)
    (state : StubState σ) (csumHigh csumLow : UInt8) :
    let result := op state.target addr data.length data
    gdbstubProcessPacket stub
      (Packet.ofFrame (framed (88 :: (fields ++ colon :: escaped)) csumHigh csumLow)) state =
        (.ok .none, (state.called (.writeMem addr data.length data result.1) result.2).reply
          (ascii "OK")) := by
  intro result
  have hcut := hrange.cut (escaped ++ behindBody csumHigh csumLow)
  have hfinish : (fields ++ colon :: escaped).length - (fields.length + 1) = escaped.length := by
    rw [List.length_append, List.length_cons]
    omega
  have hafter : (escaped ++ behindBody csumHigh csumLow)[escaped.length]? = some 0 := by
    rw [List.getElem?_append_right le_rfl, Nat.sub_self]
    rfl
  have hdecode := unescape_eq hafter
  rw [List.take_left, unescaped_of_escapedBytes hescaped] at hdecode
  have hrun := processMemXwrite_ok hop hcut hrange.scan (hfinish ▸ hdecode) rfl state
  rw [List.take_left] at hrun
  rw [gdbstubProcessPacket_framed, List.append_assoc, List.cons_append]
  refine ((congrArg (fun op : Option _ => ifProvided op.isSome _ state) hop).trans
    (ifProvided_some _ hrun))

end

end

/-! ## The size announced -/

/-- A query for the features of the stub, with those of the client. -/
def supportedQuery (features : List UInt8) : List UInt8 :=
  ascii "qSupported:" ++ features

/-- The stub answers the query with a packet size that reads as this number. -/
def Announces (size : ℕ) : Prop :=
  ∃ (features : List UInt8) (csumHigh csumLow : UInt8) (state : StubState σ)
    (digits rest : List UInt8), HexNumber digits size ∧
    (gdbstubProcessPacket stub
      (Packet.ofFrame (framed (supportedQuery features) csumHigh csumLow)) state) =
        (.ok .none, state.reply (ascii "PacketSize=" ++ digits ++ semicolon :: rest))

section

variable {stub}

/-- The reply to the query, whatever the client says of itself. -/
theorem supported_replies (features : List UInt8) (csumHigh csumLow : UInt8)
    (state : StubState σ) :
    gdbstubProcessPacket stub
      (Packet.ofFrame (framed (supportedQuery features) csumHigh csumLow)) state =
        (.ok .none, state.reply (ascii "PacketSize=" ++ ascii "1024" ++ semicolon ::
          (if stub.arch.targetDesc.isSome then ascii "qXfer:features:read+;QStartNoAckMode+"
            else ascii "QStartNoAckMode+"))) := by
  have hcut : CString.cut colon (ascii "Supported:" ++ features ++ behindBody csumHigh csumLow) =
      (ascii "Supported", some (features ++ behindBody csumHigh csumLow)) := by
    rw [show ascii "Supported:" = ascii "Supported" ++ [colon] by decide, List.append_assoc,
      List.append_assoc]
    exact cut_append (by decide) (by decide) (by decide) _
  have hsent : processQuery stub (ascii "Supported:" ++ features ++ behindBody csumHigh csumLow)
      state = (.ok (), state.reply (ascii "PacketSize=" ++ ascii "1024" ++ semicolon ::
          (if stub.arch.targetDesc.isSome then ascii "qXfer:features:read+;QStartNoAckMode+"
            else ascii "QStartNoAckMode+"))) := by
    rw [processQuery, hcut]
    dsimp only
    rw [if_neg (by decide), if_pos rfl]
    by_cases hdesc : stub.arch.targetDesc.isSome
    · rw [if_pos hdesc, if_pos hdesc]
      exact connSendPktstr_of_fits (by decide) state
    · rw [if_neg hdesc, if_neg hdesc]
      exact connSendPktstr_of_fits (by decide) state
  rw [show supportedQuery features = 113 :: (ascii "Supported:" ++ features) by rfl,
    gdbstubProcessPacket_framed]
  exact Program.bind_of_ok hsent _

/-- What is announced is the number `1024` of the source, read as hexadecimal. -/
theorem Announces.eq {size : ℕ} (hannounces : Announces stub size) : size = 0x1024 := by
  obtain ⟨features, csumHigh, csumLow, state, digits, rest, hsize, hreply⟩ := hannounces
  rw [supported_replies] at hreply
  have hsent := congrArg StubState.sent (Prod.mk.inj hreply).2
  have htext := state.reply_sent_inj rfl hsent
  rw [List.append_assoc, List.append_assoc] at htext
  have htail := List.append_cancel_left htext
  have hdigits : digits = ascii "1024" := by
    have hzero : 0 ∉ digits := notMem_of_hexDigits hsize.all_digits (by decide)
    have hends : semicolon ∉ digits := notMem_of_hexDigits hsize.all_digits (by decide)
    have hcuts := congrArg (CString.cut semicolon) htail
    rw [cut_append (by decide) (by decide) (by decide), cut_append hzero hends (by decide)]
      at hcuts
    exact (Prod.mk.inj hcuts).1.symm
  rw [← hsize.value_eq, hdigits]
  decide

theorem announces (state : StubState σ) : Announces stub 0x1024 :=
  ⟨[], 0, 0, state, ascii "1024", _, .of_all (by decide),
    supported_replies [] 0 0 state⟩

/-- **A read that the announced packet size allows is answered with the digits of its bytes if
and only if they leave room for the frame in the buffer for packets sent.** -/
theorem memRead_replies_iff {size : ℕ} (hannounces : Announces stub size)
    {fields bytes : List UInt8} {addr len : ℕ} (hrange : MemoryRange fields addr len)
    (hallowed : 2 * len ≤ size) {state after : StubState σ}
    (hreads : ReadsMem stub state addr len bytes after) (csumHigh csumLow : UInt8) :
    gdbstubProcessPacket stub (Packet.ofFrame (framed (109 :: fields) csumHigh csumLow)) state =
        (.ok .none, after.reply (hexText bytes)) ↔
      2 * len + 5 < maxSendPacketSize := by
  have hlen : len < 2 ^ 31 := by
    rw [hannounces.eq] at hallowed
    omega
  constructor
  · intro hreplies
    by_contra hlong
    rw [memRead_stops hrange (by omega) hlen hreads] at hreplies
    cases (Prod.mk.inj hreplies).1
  · intro hfits
    exact memRead_replies hrange hfits hreads csumHigh csumLow

/-- A store of bytes succeeds where it accepts the range. -/
theorem byteStoreStub_readsMem (accepts : ℕ → ℕ → Bool) (addr len : ℕ)
    (haccepts : accepts addr len = true) (state : StubState (ℕ → UInt8)) :
    let bytes := (List.range len).map fun i => state.target (addr + i)
    ReadsMem (byteStoreStub accepts) state addr len bytes
      (state.allocated.called (.readMem addr len 0 bytes) state.target) := by
  intro bytes
  have hcall : callReadMem (byteStoreStub accepts) addr len (some len) state.allocated =
      (.ok (0, bytes), state.allocated.called (.readMem addr len 0 bytes) state.target) := by
    have hstore : storeAt (some len) bytes.length = .ok () := by
      rw [List.length_map, List.length_range]
      exact storeAt_some le_rfl
    let op : (ℕ → UInt8) → ℕ → ℕ → (Int32 × List UInt8) × (ℕ → UInt8) := fun store addr len =>
      if accepts addr len then ((0, (List.range len).map fun i => store (addr + i)), store)
      else ((14, []), store)
    have hop : (byteStoreStub accepts).ops.readMem = some op := rfl
    have hresult : op state.allocated.target addr len = ((0, bytes), state.target) :=
      if_pos haccepts
    rw [callReadMem_some hop, hresult]
    dsimp only
    rw [if_pos rfl, hstore]
    rfl
  exact ⟨rfl, hcall⟩

end

theorem memRead_replies_iff_twoBytes :
    let state : StubState (ℕ → UInt8) := StubState.init fun place => place.toUInt8
    ∃ after : StubState (ℕ → UInt8),
      ReadsMem (byteStoreStub fun _ _ => true) state 10 2 [10, 11] after ∧
        gdbstubProcessPacket (byteStoreStub fun _ _ => true)
          (Packet.ofFrame (framed (109 :: ascii "a,2") 50 99)) state =
            (.ok .none, after.reply (hexText [10, 11])) := by
  intro state
  have hrange : MemoryRange (ascii "a,2") 10 2 :=
    ⟨⟨ascii "a", ascii "2", .of_all (by decide), .of_all (by decide), rfl⟩,
      by decide, by decide⟩
  have hreads := byteStoreStub_readsMem (fun _ _ => true) 10 2 rfl state
  exact ⟨_, hreads, (memRead_replies_iff (announces state) hrange (by decide) hreads 50 99).mpr
    (by decide)⟩

/-- `m0,800` asks for 2048 bytes, which are 4096 digits: the packet size announced allows them,
and the zero behind them is written beyond the array. -/
theorem longRead_leavesBuffer :
    let stub := byteStoreStub fun _ _ => true
    let pkt := Packet.ofFrame (framed (109 :: ascii "0,800") 54 49)
    let state : StubState (ℕ → UInt8) := StubState.init fun _ => 0
    ∃ (size : ℕ) (bytes : List UInt8) (after : StubState (ℕ → UInt8)),
      Announces stub size ∧ MemoryRange (ascii "0,800") 0 0x800 ∧
      2 * 0x800 ≤ size ∧ packetCsumVerify pkt = .ok true ∧
      ReadsMem stub state 0 0x800 bytes after ∧
      (gdbstubProcessPacket stub pkt state).1 = .error .outOfBounds ∧
      gdbstubProcessPacket stub pkt state ≠ (.ok .none, after.reply (hexText bytes)) := by
  intro stub pkt state
  have hrange : MemoryRange (ascii "0,800") 0 0x800 :=
    ⟨⟨ascii "0", ascii "800", .of_all (by decide), .of_all (by decide), rfl⟩,
      by decide, by decide⟩
  have hreads := byteStoreStub_readsMem (fun _ _ => true) 0 0x800 rfl state
  have hstops := memRead_stops hrange (by decide) (by decide) hreads 54 49
  rw [if_neg (by decide)] at hstops
  refine ⟨0x1024, _, _, announces state, hrange, by decide, by decide +kernel, hreads,
    congrArg Prod.fst hstops, ?_⟩
  rw [hstops]
  intro hreplies
  cases (Prod.mk.inj hreplies).1

end MiniGdbstub
