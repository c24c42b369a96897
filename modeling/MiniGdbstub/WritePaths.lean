import MiniGdbstub.MemoryRequests

/-!
# The two ways to write to memory

`M` and `X` carry the same bytes in two encodings.  Both are handed to `write_mem` with
the same arguments, so the target is left in the same state.  The replies differ in one
point: `process_mem_write` reports the code that `write_mem` returned, and
`process_mem_xwrite` does not look at it.
-/

namespace MiniGdbstub

open CString

variable {σ : Type} (stub : Gdbstub σ)

/-! ## Escaping -/

/-- `'#'`, `'$'`, `'}'` and `'*'` -/
def escapedCharacters : List UInt8 :=
  [hash, dollar, escapeChar, 42]

/-- The binary data that stands for some bytes. -/
def escape : List UInt8 → List UInt8
  | [] => []
  | byte :: rest =>
      if byte ∈ escapedCharacters then escapeChar :: (byte ^^^ 0x20) :: escape rest
      else byte :: escape rest

theorem xor_mask_twice (byte : UInt8) : byte ^^^ 0x20 ^^^ 0x20 = byte := by
  rw [UInt8.xor_assoc, UInt8.xor_self, UInt8.xor_zero]

/-- Every escape has a byte behind it, and that byte under the mask is the one escaped. -/
theorem escapedBytes_escape (data : List UInt8) : EscapedBytes (escape data) data := by
  induction data with
  | nil => exact .nil
  | cons byte rest ih =>
      rw [escape]
      by_cases hescape : byte ∈ escapedCharacters
      · have hescaped : EscapedBytes (escapeChar :: (byte ^^^ 0x20) :: escape rest)
            ((byte ^^^ 0x20 ^^^ 0x20) :: rest) := .escaped ih
        rw [if_pos hescape]
        rwa [xor_mask_twice] at hescaped
      · have hplain : byte ≠ escapeChar := by
          intro heq
          exact hescape (heq ▸ by decide)
        rw [if_neg hescape]
        exact .plain hplain ih

/-! ## Agreement -/

/-- The packet that writes these bytes as digits. -/
def hexWriteRequest (fields digits : List UInt8) (csumHigh csumLow : UInt8) : Packet UInt8 :=
  Packet.ofFrame (framed (77 :: (fields ++ colon :: digits)) csumHigh csumLow)

/-- The packet that writes these bytes as binary data. -/
def binaryWriteRequest (fields data : List UInt8) (csumHigh csumLow : UInt8) : Packet UInt8 :=
  Packet.ofFrame (framed (88 :: (fields ++ colon :: escape data)) csumHigh csumLow)

/-- Two packets processed from the same state leave the same target and the same replies. -/
structure Agree (first second : Packet UInt8) (state : StubState σ) : Prop where
  target : (gdbstubProcessPacket stub first state).2.target =
    (gdbstubProcessPacket stub second state).2.target
  sent : (gdbstubProcessPacket stub first state).2.sent =
    (gdbstubProcessPacket stub second state).2.sent

theorem errorText_ne_ok (ret : Int32) : errorText ret ≠ ascii "OK" := by
  intro htext
  have hfirst := congrArg List.head? htext
  rw [errorText, show ascii "E" = [69] by decide, List.singleton_append, List.head?_cons] at hfirst
  exact absurd hfirst (by decide)

/-- The reply says `OK` for the code zero only. -/
theorem writeReply_eq_ok_iff (ret : Int32) : writeReply ret = ascii "OK" ↔ ret = 0 := by
  constructor
  · intro hreply
    by_contra hret
    rw [writeReply, if_neg hret] at hreply
    exact errorText_ne_ok ret hreply
  · rintro rfl
    exact if_pos rfl

section

variable {stub}
variable {fields binaryFields digits data : List UInt8} {addr : ℕ}
variable (csumHigh csumLow binaryHigh binaryLow : UInt8) (state : StubState σ)

/-- Both requests are refused when there is no `write_mem`. -/
theorem agree_of_missing (hop : stub.ops.writeMem = none) :
    Agree stub (hexWriteRequest fields digits csumHigh csumLow)
      (binaryWriteRequest binaryFields data binaryHigh binaryLow) state := by
  have hrefused : ∀ handler : StubM σ Unit,
      ifProvided stub.ops.writeMem.isSome handler state =
        (.ok .none, state.reply (ascii "E01")) := by
    intro handler
    rw [hop]
    exact ifProvided_none handler state
  have hhex := hrefused (processMemWrite stub (fields ++ colon :: digits ++
    behindBody csumHigh csumLow))
  have hbinary := hrefused (processMemXwrite stub (binaryFields ++ colon :: escape data ++
    behindBody binaryHigh binaryLow) (binaryFields ++ colon :: escape data).length)
  have hsame : gdbstubProcessPacket stub (hexWriteRequest fields digits csumHigh csumLow) state =
      gdbstubProcessPacket stub (binaryWriteRequest binaryFields data binaryHigh binaryLow)
        state := by
    rw [hexWriteRequest, binaryWriteRequest, gdbstubProcessPacket_framed,
      gdbstubProcessPacket_framed]
    exact hhex.trans hbinary.symm
  exact ⟨congrArg (fun outcome => outcome.2.target) hsame,
    congrArg (fun outcome => outcome.2.sent) hsame⟩

/-- **The two requests agree if and only if the write succeeds.**  More exactly: unless there
is no `write_mem`, there has to be a block to decode to where bytes are written, and
`write_mem` has to return zero. -/
theorem agree_iff (hrange : MemoryRange fields addr data.length)
    (hbinaryRange : MemoryRange binaryFields addr data.length) (hdigits : HexData digits data)
    (hbound : (fields ++ colon :: digits).length + 4 < 2 ^ 31) :
    Agree stub (hexWriteRequest fields digits csumHigh csumLow)
        (binaryWriteRequest binaryFields data binaryHigh binaryLow) state ↔
      ∀ op ∈ stub.ops.writeMem,
        (data ≠ [] → stub.mallocs state.allocations data.length = true) ∧
          (op state.target addr data.length data).1 = 0 := by
  cases hop : stub.ops.writeMem with
  | none =>
      constructor
      · intro _ op hmem
        cases hmem
      · intro _
        exact agree_of_missing csumHigh csumLow binaryHigh binaryLow state hop
  | some op =>
      have hlength : data.length < 2 ^ 31 := by
        rw [List.length_append, List.length_cons, hdigits.length_eq] at hbound
        omega
      have hbinary := memXwrite_replies hop hbinaryRange (escapedBytes_escape data) state
        binaryHigh binaryLow
      -- `M` decodes to a block of its own, `X` in place: only `M` needs memory
      by_cases hblock : data ≠ [] → stub.mallocs state.allocations data.length = true
      · have hhex := memWrite_replies hop hrange hdigits hlength hblock csumHigh csumLow
        constructor
        · intro hagree _ hmem
          obtain rfl := Option.some.inj hmem
          refine ⟨hblock, (writeReply_eq_ok_iff _).mp ?_⟩
          have hsent := hagree.sent
          rw [hexWriteRequest, binaryWriteRequest, hhex, hbinary] at hsent
          exact StubState.reply_sent_inj rfl hsent
        · intro hsucceeds
          have hcode := (hsucceeds op rfl).2
          constructor
          · rw [hexWriteRequest, binaryWriteRequest, hhex, hbinary]
            rfl
          · rw [hexWriteRequest, binaryWriteRequest, hhex, hbinary, hcode]
            rfl
      · constructor
        · intro hagree
          obtain ⟨hdata, hnone⟩ := Classical.not_imp.mp hblock
          have hhex := memWrite_stops hop hrange hdigits hlength hdata
            (Bool.not_eq_true _ ▸ hnone) csumHigh csumLow
          have hsent := hagree.sent
          rw [hexWriteRequest, binaryWriteRequest, hhex, hbinary] at hsent
          have hcount := congrArg List.length hsent
          simp [StubState.reply, StubState.allocated, StubState.called] at hcount
        · intro hsucceeds
          exact absurd (hsucceeds op rfl).1 hblock

end

theorem agree_iff_oneByte :
    Agree (byteStoreStub fun _ _ => true) (hexWriteRequest (ascii "0,1") (ascii "24") 55 97)
      (binaryWriteRequest (ascii "0,1") [36] 97 48) (StubState.init fun _ => 0) := by
  have hrange : MemoryRange (ascii "0,1") 0 1 :=
    ⟨⟨ascii "0", ascii "1", .of_all (by decide), .of_all (by decide), rfl⟩,
      by decide, by decide⟩
  refine (agree_iff 55 97 97 48 _ hrange hrange (hexData_hexText [36]) (by decide)).mpr ?_
  intro op hop
  obtain rfl := Option.some.inj hop
  exact ⟨fun _ => rfl, rfl⟩

/-- A store that refuses to be written: `M0,1:24` is answered with an error and `X0,1:}` with an
escaped `'$'` is answered `OK`. -/
theorem refusedWrite_reportedOnce :
    let stub := byteStoreStub fun _ _ => false
    let state : StubState (ℕ → UInt8) := StubState.init fun _ => 0
    let hex := hexWriteRequest (ascii "0,1") (hexText [36]) 55 97
    let binary := binaryWriteRequest (ascii "0,1") [36] 97 48
    packetCsumVerify hex = .ok true ∧ packetCsumVerify binary = .ok true ∧
      (gdbstubProcessPacket stub hex state).2.sent = [pktstrFrame (ascii "E14")] ∧
      (gdbstubProcessPacket stub binary state).2.sent = [pktstrFrame (ascii "OK")] ∧
      ¬ Agree stub hex binary state := by
  intro stub state hex binary
  have hhex : (gdbstubProcessPacket stub hex state).2.sent = [pktstrFrame (ascii "E14")] := by
    decide +kernel
  have hbinary : (gdbstubProcessPacket stub binary state).2.sent = [pktstrFrame (ascii "OK")] := by
    decide +kernel
  refine ⟨by decide +kernel, by decide +kernel, hhex, hbinary, ?_⟩
  intro hagree
  have hsent := hagree.sent
  rw [hhex, hbinary] at hsent
  exact absurd hsent (by decide +kernel)

end MiniGdbstub
