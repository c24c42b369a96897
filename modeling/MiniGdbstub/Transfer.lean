import MiniGdbstub.MemoryRequests

/-!
# The transfer of the target description

A client that asks for the description piece by piece.  `process_xfer` clips the length asked
for to `MAX_DATA_PAYLOAD`, and `snprintf` copies one character less, for its zero.  So a reply
holds at least one character when the length is two or more, and it is marked as the last
one when fewer characters are left than the clipped length: then all of them are in it.

`Transfer` is what the client has collected; `transferLoop` is its loop.  The measure of
the loop is the part of the description not collected yet.
-/

namespace MiniGdbstub

open CString

variable {σ : Type} (stub : Gdbstub σ)

/-! ## One request -/

/-- A request for a range of the description, with its spelling and its checksum. -/
structure XferRequest where
  range : List UInt8
  length : ℕ
  csumHigh : UInt8
  csumLow : UInt8

def XferRequest.packet (request : XferRequest) : Packet UInt8 :=
  Packet.ofFrame (framed (ascii "qXfer:features:read:target.xml:" ++ request.range)
    request.csumHigh request.csumLow)

/-- The request asks for the range from `offset` on, in the lengths that a client may ask for. -/
structure XferRequest.Asks (request : XferRequest) (offset : ℕ) : Prop where
  spelled : MemoryRange request.range offset request.length
  two_le : 2 ≤ request.length
  length_lt : request.length < 2 ^ 31

/-- The size that `process_xfer` gives to `snprintf`. -/
def xferSize (length : ℤ) : ℤ :=
  if length < maxDataPayload then length else maxDataPayload

/-- A range that stays one token and of which the conversion makes two numbers. -/
structure ScannedRange (range : List UInt8) (offset length : ℕ) : Prop where
  zero_notMem : 0 ∉ range
  colon_notMem : colon ∉ range
  scan : scanHexFields 2 range = [offset, length]

theorem ScannedRange.nonempty {range : List UInt8} {offset length : ℕ}
    (hrange : ScannedRange range offset length) : range ≠ [] := by
  rintro rfl
  cases hrange.scan

theorem MemoryRange.scanned {range : List UInt8} {offset length : ℕ}
    (hrange : MemoryRange range offset length) : ScannedRange range offset length :=
  ⟨hrange.characters.1, hrange.characters.2, hrange.scan⟩

/-- The characters of the description that a reply takes. -/
def xferChunk (desc : List UInt8) (offset length : ℕ) : List UInt8 :=
  (desc.drop offset).take (min length maxDataPayload - 1)

/-- `'l'` when fewer characters are left than were asked for, else `'m'`. -/
def xferMark (desc : List UInt8) (offset length : ℕ) : UInt8 :=
  if desc.length - offset < min length maxDataPayload then 108 else 109

theorem length_xferChunk (desc : List UInt8) (offset length : ℕ) :
    (xferChunk desc offset length).length =
      min (min length maxDataPayload - 1) (desc.length - offset) := by
  rw [xferChunk, List.length_take, List.length_drop]

/-- The mark tells whether the reply reaches the end. -/
theorem xferMark_eq_iff {desc : List UInt8} {offset length : ℕ} (hoffset : offset ≤ desc.length)
    (hlength : 2 ≤ length) :
    xferMark desc offset length = 108 ↔
      offset + (xferChunk desc offset length).length = desc.length := by
  have hpayload : 2 ≤ maxDataPayload := by decide
  rw [length_xferChunk, xferMark]
  by_cases hlast : desc.length - offset < min length maxDataPayload
  · rw [if_pos hlast]
    exact iff_of_true rfl (by omega)
  · rw [if_neg hlast]
    exact iff_of_false (by decide) (by omega)

section

variable {stub}

/-- A reply whose offset and size are in range.  It is what `snprintf` has written. -/
theorem xferReply_inside {desc : List UInt8} (hzero : 0 ∉ desc) {offset length : ℤ}
    (hoffset : 0 ≤ offset) (hend : offset ≤ desc.length) (hlength : 1 ≤ length)
    (state : StubState σ) :
    xferReply stub desc offset length state =
      (.ok (), state.reply ((if asInt desc.length - offset < xferSize length then 108 else 109) ::
        (desc.drop offset.toNat).take ((xferSize length).toNat - 1))) := by
  have hpayload : maxDataPayload = 4090 := by decide
  have hsize : 1 ≤ xferSize length ∧ xferSize length ≤ 4090 := by
    rw [xferSize, hpayload]
    split <;> omega
  let mark : UInt8 := if asInt desc.length - offset < xferSize length then 108 else 109
  let chunk := (desc.drop offset.toNat).take ((xferSize length).toNat - 1)
  have hrest : snprintfString (xferSize length) (desc.drop offset.toNat) = chunk ++ [0] := by
    rw [snprintfString, if_neg (by omega), if_neg (by omega)]
  have hchunk : chunk.length ≤ 4089 := by
    rw [List.length_take]
    omega
  have hwrite : Block.write? (localBuffer stub maxSendPacketSize) 0 (mark :: (chunk ++ [0])) =
      some ((mark :: chunk) ++ 0 ::
        (localBuffer stub maxSendPacketSize).drop (chunk.length + 2)) := by
    refine Block.write?_eq_some.mpr ⟨?_, ?_⟩
    · rw [List.length_cons, List.length_append, List.length_singleton, length_localBuffer,
        maxSendPacketSize]
      omega
    · rw [Block.overwrite, List.length_cons, List.length_append, List.length_singleton]
      simp
  -- so the string that is sent ends where the piece ends
  have htext : 0 ∉ mark :: chunk := by
    rw [List.mem_cons, not_or]
    refine ⟨?_, fun hmem => hzero (List.mem_of_mem_drop (List.mem_of_mem_take hmem))⟩
    show (0 : UInt8) ≠ if asInt desc.length - offset < xferSize length then 108 else 109
    split <;> decide
  have hclip : (if length < (maxDataPayload : ℤ) then length else (maxDataPayload : ℤ)) =
      xferSize length := rfl
  rw [xferReply]
  dsimp only
  rw [hclip, if_neg (by omega), hrest, hwrite, inBounds_some, Program.lift_ok_bind,
    connSendPktbuf_of_text htext,
    connSendPktstr_of_fits (by rw [List.length_cons, maxSendPacketSize]; omega)]

/-- **One reply.**  It fits in the buffer and in a packet. -/
theorem xferReply_eq {desc : List UInt8} (hzero : 0 ∉ desc) (hdesc : desc.length < 2 ^ 31)
    {offset length : ℕ} (hoffset : offset ≤ desc.length) (hlength : 2 ≤ length)
    (state : StubState σ) :
    xferReply stub desc offset length state =
      (.ok (), state.reply (xferMark desc offset length :: xferChunk desc offset length)) := by
  have hsize : xferSize length = (min length maxDataPayload : ℕ) := by
    rw [xferSize]
    split <;> omega
  have hmark : (if ((desc.length : ℕ) : ℤ) - (offset : ℤ) < (min length maxDataPayload : ℕ)
      then (108 : UInt8) else 109) = xferMark desc offset length := by
    rw [xferMark]
    by_cases hlast : desc.length - offset < min length maxDataPayload
    · rw [if_pos hlast, if_pos (by omega)]
    · rw [if_neg hlast, if_neg (by omega)]
  rw [xferReply_inside hzero (by omega) (by omega) (by omega), asInt_of_lt hdesc, hsize, hmark,
    Int.toNat_natCast, Int.toNat_natCast, xferChunk]

/-- The arguments of a request are taken apart to its numbers. -/
theorem xferFeatures_range (desc : List UInt8) {range : List UInt8} {offset length : ℕ}
    (hrange : ScannedRange range offset length) (csumHigh csumLow : UInt8)
    (state : StubState σ) :
    xferFeatures stub desc
      (some ((ascii "read" ++ colon :: (ascii "target.xml" ++ colon :: range)) ++
        behindBody csumHigh csumLow)) state =
      xferReply stub desc (asInt offset) (asInt length) state.begun := by
  have htext : text ((ascii "read" ++ colon :: (ascii "target.xml" ++ colon :: range)) ++
      behindBody csumHigh csumLow) =
        ascii "read" ++ colon :: (ascii "target.xml" ++ colon :: range) := by
    refine text_append_zero ?_ _
    simp only [List.mem_append, List.mem_cons, not_or]
    exact ⟨by decide, by decide, by decide, by decide, hrange.zero_notMem⟩
  rw [xferFeatures_some, xferTokens, htext, strtok_append (by decide) (by decide)]
  dsimp only
  rw [if_pos rfl, strtok_append (by decide) (by decide)]
  dsimp only
  rw [if_pos rfl, strtok_last hrange.colon_notMem hrange.nonempty]
  dsimp only
  rw [hrange.scan]

/-- **A request is answered by `process_xfer`** with the two numbers of its range. -/
theorem gdbstubProcessPacket_xfer {desc : List UInt8} (hdesc : stub.arch.targetDesc = some desc)
    {range : List UInt8} {offset length : ℕ} (hrange : ScannedRange range offset length)
    (csumHigh csumLow : UInt8) (state : StubState σ) :
    gdbstubProcessPacket stub (Packet.ofFrame
        (framed (ascii "qXfer:features:read:target.xml:" ++ range) csumHigh csumLow)) state = (do
      xferReply stub desc (asInt offset) (asInt length)
      return Event.none) state.begun := by
  let args := (ascii "read" ++ colon :: (ascii "target.xml" ++ colon :: range)) ++
    behindBody csumHigh csumLow
  have hbody : ascii "qXfer:features:read:target.xml:" ++ range =
      113 :: (ascii "Xfer" ++ colon :: (ascii "features" ++ colon :: (ascii "read" ++ colon ::
        (ascii "target.xml" ++ colon :: range)))) := rfl
  have hpayload : ascii "Xfer" ++ colon :: (ascii "features" ++ colon :: (ascii "read" ++ colon ::
        (ascii "target.xml" ++ colon :: range))) ++ behindBody csumHigh csumLow =
      ascii "Xfer" ++ colon :: (ascii "features" ++ colon :: args) := rfl
  have hxfer : processXfer stub (some (ascii "features" ++ colon :: args)) =
      xferFeatures stub desc (some args) := by
    rw [processXfer]
    dsimp only
    rw [cut_append (by decide) (by decide) (by decide), hdesc]
    dsimp only
    rw [if_pos rfl]
  have hquery : processQuery stub (ascii "Xfer" ++ colon :: (ascii "features" ++ colon :: args)) =
      xferFeatures stub desc (some args) := by
    have hcut : cut colon (ascii "Xfer" ++ colon :: (ascii "features" ++ colon :: args)) =
        (ascii "Xfer", some (ascii "features" ++ colon :: args)) :=
      cut_append (by decide) (by decide) (by decide) _
    rw [processQuery_xfer stub (by rw [hcut]), hcut, hxfer]
  have hreply := @xferFeatures_range σ stub desc range offset length hrange csumHigh csumLow state
  rw [hbody, gdbstubProcessPacket_framed, hpayload]
  show (processQuery stub _ >>= fun _ => pure Event.none) state = _
  rw [hquery]
  exact Program.bind_congr_left hreply _

/-- **The reply to a request**, from the packet on. -/
theorem xferRequest_replies {desc : List UInt8} (hdesc : stub.arch.targetDesc = some desc)
    (hlength : desc.length < 2 ^ 31) {request : XferRequest} {offset : ℕ}
    (hasks : request.Asks offset) (hoffset : offset ≤ desc.length) (state : StubState σ) :
    gdbstubProcessPacket stub request.packet state = (.ok .none,
      state.begun.reply (xferMark desc offset request.length ::
        xferChunk desc offset request.length)) := by
  have hreply : xferReply stub desc offset request.length state.begun = _ :=
    xferReply_eq (stub.arch.zero_notMem desc hdesc) hlength hoffset hasks.two_le state.begun
  rw [XferRequest.packet, gdbstubProcessPacket_xfer hdesc hasks.spelled.scanned,
    asInt_of_lt (by omega), asInt_of_lt hasks.length_lt]
  exact Program.bind_of_ok hreply _

end

/-! ## The client -/

/-- A request as it was made and the string that answered it. -/
structure Exchange where
  offset : ℕ
  length : ℕ
  pktstr : List UInt8
  deriving DecidableEq, Repr

structure Transfer (σ : Type) where
  state : StubState σ
  offset : ℕ
  collected : List UInt8
  exchanges : List Exchange
  finished : Bool

def Transfer.start (state : StubState σ) : Transfer σ :=
  { state := state, offset := 0, collected := [], exchanges := [], finished := false }

/-- The string that the last packet sent carries. -/
def StubState.lastReply (state : StubState σ) : List UInt8 :=
  framePayload (state.sent.getLast?.getD [])

/-- The client makes a request and takes what the reply brings. -/
def transferStep (request : XferRequest) (transfer : Transfer σ) : Option (Transfer σ) :=
  match gdbstubProcessPacket stub request.packet transfer.state with
  | (.ok .none, after) =>
      let data := after.lastReply.drop 1
      some { state := after
             offset := transfer.offset + data.length
             collected := transfer.collected ++ data
             exchanges := transfer.exchanges ++
               [{ offset := transfer.offset, length := request.length,
                  pktstr := after.lastReply }]
             finished := after.lastReply.head? = some 108 }
  | _ => none

/-- The loop, for at most so many turns; `client` chooses the request by its number and the
offset. -/
def transferLoop (client : ℕ → ℕ → XferRequest) : ℕ → Transfer σ → Option (Transfer σ)
  | 0, _ => none
  | turns + 1, transfer =>
      (transferStep stub (client transfer.exchanges.length transfer.offset) transfer).bind
        fun next => if next.finished then some next else transferLoop client turns next

/-- What a reply should be. -/
structure Exchange.Sound (desc : List UInt8) (exchange : Exchange) : Prop where
  reply : ∃ mark data, exchange.pktstr = mark :: data ∧ data <+: desc.drop exchange.offset ∧
    (mark = 108 ∨ mark = 109 ∧ 1 ≤ data.length ∧ data.length ≤ exchange.length) ∧
    (mark = 108 ↔ exchange.offset + data.length = desc.length)
  fits : exchange.pktstr.length + 2 + csumSize + 1 < maxSendPacketSize

/-- What the client has collected is the description up to the offset. -/
structure Transfer.Collects (transfer : Transfer σ) (desc : List UInt8) : Prop where
  collected : transfer.collected = desc.take transfer.offset
  offset_le : transfer.offset ≤ desc.length
  exchanges : ∀ exchange ∈ transfer.exchanges, exchange.Sound desc

@[simp] theorem StubState.lastReply_reply (state : StubState σ) (pktstr : List UInt8) :
    (state.reply pktstr).lastReply = pktstr := by
  have hlast : (state.reply pktstr).sent.getLast? = some (pktstrFrame pktstr) :=
    List.getLast?_concat
  rw [lastReply, hlast, Option.getD_some, framePayload_pktstrFrame]

theorem exchange_sound {desc : List UInt8} {offset length : ℕ} (hoffset : offset ≤ desc.length)
    (hlength : 2 ≤ length) :
    Exchange.Sound desc
      { offset := offset, length := length,
        pktstr := xferMark desc offset length :: xferChunk desc offset length } where
  reply := by
    have hmark := xferMark_eq_iff hoffset hlength
    have hpayload : 2 ≤ maxDataPayload := by decide
    refine ⟨_, _, rfl, List.take_prefix _ _, ?_, hmark⟩
    by_cases hlast : desc.length - offset < min length maxDataPayload
    · exact .inl (if_pos hlast)
    · refine .inr ⟨if_neg hlast, ?_⟩
      show 1 ≤ (xferChunk desc offset length).length ∧
        (xferChunk desc offset length).length ≤ length
      rw [length_xferChunk]
      omega
  fits := by
    have hpayload : maxDataPayload = 4090 := by decide
    have hchunk := length_xferChunk desc offset length
    rw [List.length_cons, maxSendPacketSize, csumSize]
    omega

section

variable {stub} {desc : List UInt8}

/-- **One turn of the client.**  It comes to the end, or further than before. -/
theorem transferStep_collects (hdesc : stub.arch.targetDesc = some desc)
    (hlength : desc.length < 2 ^ 31) {request : XferRequest} {transfer : Transfer σ}
    (htransfer : transfer.Collects desc) (hasks : request.Asks transfer.offset) :
    ∃ next, transferStep stub request transfer = some next ∧ next.Collects desc ∧
      (if next.finished then next.offset = desc.length else transfer.offset < next.offset) := by
  have hoffset := htransfer.offset_le
  have hreplies := xferRequest_replies hdesc hlength hasks hoffset transfer.state
  have hmark := xferMark_eq_iff hoffset hasks.two_le
  have hchunk := length_xferChunk desc transfer.offset request.length
  have hpayload : 2 ≤ maxDataPayload := by decide
  have htwo := hasks.two_le
  rw [transferStep, hreplies]
  dsimp only
  rw [StubState.lastReply_reply]
  refine ⟨_, rfl, ⟨?_, ?_, ?_⟩, ?_⟩
  · let chunk := xferChunk desc transfer.offset request.length
    have hbegins : chunk = (desc.drop transfer.offset).take chunk.length :=
      List.prefix_iff_eq_take.mp (List.take_prefix _ _)
    calc transfer.collected ++ chunk
        = desc.take transfer.offset ++ (desc.drop transfer.offset).take chunk.length := by
          rw [htransfer.collected, ← hbegins]
      _ = desc.take (transfer.offset + chunk.length) := List.take_add.symm
  · show transfer.offset + (xferChunk desc transfer.offset request.length).length ≤ desc.length
    omega
  · intro exchange hmem
    rcases List.mem_append.mp hmem with hbefore | hnew
    · exact htransfer.exchanges exchange hbefore
    · rw [List.mem_singleton.mp hnew]
      exact exchange_sound hoffset htwo
  · show if decide (some (xferMark desc transfer.offset request.length) = some 108) then
      transfer.offset + (xferChunk desc transfer.offset request.length).length = desc.length
      else transfer.offset <
        transfer.offset + (xferChunk desc transfer.offset request.length).length
    -- a reply marked with `'l'` brings the rest, any other brings at least one character
    by_cases hend : xferMark desc transfer.offset request.length = 108
    · rw [if_pos (decide_eq_true (congrArg some hend))]
      exact hmark.mp hend
    · rw [if_neg (by simpa using hend)]
      have hnotEnd := mt hmark.mpr hend
      omega

/-- **The description is transferred completely.**  A client that makes any sequence of requests of
lengths from two on comes to the end with the whole description, after no more turns than it has
characters and one; every reply on the way is what it should be. -/
theorem transfer_complete (hdesc : stub.arch.targetDesc = some desc)
    (hlength : desc.length < 2 ^ 31) {client : ℕ → ℕ → XferRequest}
    (hclient : ∀ turn offset, offset ≤ desc.length → (client turn offset).Asks offset)
    (state : StubState σ) {turns : ℕ} (hturns : desc.length < turns) :
    ∃ final, transferLoop stub client turns (Transfer.start state) = some final ∧
      final.finished = true ∧ final.collected = desc ∧
      ∀ exchange ∈ final.exchanges, exchange.Sound desc := by
  -- the part not collected yet is shorter than the number of turns left
  have hloop : ∀ turns, ∀ transfer : Transfer σ, transfer.Collects desc →
      desc.length < transfer.offset + turns →
      ∃ final, transferLoop stub client turns transfer = some final ∧ final.finished = true ∧
        final.collected = desc ∧ ∀ exchange ∈ final.exchanges, exchange.Sound desc := by
    intro turns
    induction turns with
    | zero =>
        intro transfer htransfer hturns
        exact absurd htransfer.offset_le (by omega)
    | succ turns ih =>
        intro transfer htransfer hturns
        obtain ⟨next, hstep, hnext, hmoves⟩ := transferStep_collects hdesc hlength htransfer
          (hclient transfer.exchanges.length transfer.offset htransfer.offset_le)
        rw [transferLoop, hstep, Option.bind_some]
        by_cases hfinished : next.finished = true
        · rw [if_pos hfinished] at hmoves ⊢
          refine ⟨next, rfl, hfinished, ?_, hnext.exchanges⟩
          rw [hnext.collected, hmoves, List.take_length]
        · rw [if_neg hfinished] at hmoves ⊢
          exact ih next hnext (by omega)
  have hstart : (Transfer.start state).Collects desc :=
    ⟨rfl, Nat.zero_le _, fun exchange hmem => by cases hmem⟩
  refine hloop turns (Transfer.start state) hstart ?_
  show desc.length < 0 + turns
  omega

end

/-- A stub with a description of four characters. -/
def describedStub : Gdbstub (ℕ → UInt8) :=
  { byteStoreStub fun _ _ => true with
    arch := { targetDesc := some (ascii "<a/>"), smp := 0, regNum := 0, zero_notMem := by decide } }

/-- Asked for three characters at a time, the stub sends two and two. -/
theorem transfer_complete_twoTurns :
    let client : ℕ → ℕ → XferRequest := fun _ offset =>
      { range := hexDigit offset :: ascii ",3", length := 3, csumHigh := 0, csumLow := 0 }
    ∃ final, transferLoop describedStub client 5 (Transfer.start (StubState.init fun _ => 0)) =
        some final ∧ final.collected = ascii "<a/>" ∧
      final.exchanges = [⟨0, 3, ascii "m<a"⟩, ⟨2, 3, ascii "l/>"⟩] := by
  intro client
  have hclient : ∀ turn offset, offset ≤ 4 → (client turn offset).Asks offset := by
    intro turn offset hoffset
    have hdigits : ∀ offset ≤ 4, isHexDigit (hexDigit offset) = true ∧
        digitsValue 16 [hexDigit offset] = offset := by decide
    obtain ⟨hdigit, hvalue⟩ := hdigits offset hoffset
    have hnumber : HexNumber [hexDigit offset] offset :=
      ⟨List.cons_ne_nil _ _, by simpa using hdigit, hvalue⟩
    have hthree : HexNumber (ascii "3") 3 := .of_all (by decide)
    exact ⟨⟨⟨[hexDigit offset], ascii "3", hnumber, hthree, rfl⟩, by omega,
      show 3 < 2 ^ 64 by decide⟩, show 2 ≤ 3 by decide, show 3 < 2 ^ 31 by decide⟩
  have hdesc : describedStub.arch.targetDesc = some (ascii "<a/>") := rfl
  obtain ⟨final, hfinal, -, hcollected, -⟩ := transfer_complete hdesc (by decide) hclient
    (StubState.init fun _ => 0) (show 4 < 5 by decide)
  have hexchanges : (transferLoop describedStub client 5
      (Transfer.start (StubState.init fun _ => 0))).map Transfer.exchanges =
        some [⟨0, 3, ascii "m<a"⟩, ⟨2, 3, ascii "l/>"⟩] := by decide +kernel
  rw [hfinal] at hexchanges
  exact ⟨final, hfinal, hcollected, Option.some.inj hexchanges⟩

end MiniGdbstub
