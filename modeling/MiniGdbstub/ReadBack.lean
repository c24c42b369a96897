import MiniGdbstub.Library.ByteMap
import MiniGdbstub.WritePaths

/-!
# Memory written through the protocol reads back

A target whose memory is a store of bytes, seen through the requests `M` and `m`: the first
changes the store in its range and nowhere else, the second shows the store.  The digits of
`M` may be of either case, those of the reply to `m` are of the lower case.
-/

namespace MiniGdbstub

open CString ByteMap

variable {σ : Type} (stub : Gdbstub σ)

/-- On the ranges they accept, `write_mem` and `read_mem` work on a store of bytes. -/
structure StoresBytes (contents : σ → ByteMap) : Prop where
  write : ∀ op ∈ stub.ops.writeMem, ∀ target addr data,
    (op target addr data.length data).1 = 0 →
      contents (op target addr data.length data).2 = (contents target).write addr data
  read : ∀ op ∈ stub.ops.readMem, ∀ target addr len, (op target addr len).1.1 = 0 →
    (op target addr len).1.2 = (contents target).read addr len

section

variable {stub} {contents : σ → ByteMap}

/-- A write that is answered `OK` has changed the store. -/
theorem StoresBytes.written (hstore : StoresBytes stub contents)
    {fields digits data : List UInt8} {addr : ℕ} (hrange : MemoryRange fields addr data.length)
    (hdigits : HexData digits data) (hlength : data.length < 2 ^ 31) {state : StubState σ}
    {csumHigh csumLow : UInt8}
    (hok : (gdbstubProcessPacket stub
      (hexWriteRequest fields digits csumHigh csumLow) state).2.sent =
        state.sent ++ [pktstrFrame (ascii "OK")]) :
    contents (gdbstubProcessPacket stub
      (hexWriteRequest fields digits csumHigh csumLow) state).2.target =
        (contents state.target).write addr data := by
  rw [hexWriteRequest] at hok ⊢
  cases hop : stub.ops.writeMem with
  | none =>
      have hrefused : gdbstubProcessPacket stub
          (Packet.ofFrame (framed (77 :: (fields ++ colon :: digits)) csumHigh csumLow)) state =
            (.ok .none, state.reply (ascii "E01")) := by
        rw [gdbstubProcessPacket_framed]
        exact (congrArg (fun op : Option _ => ifProvided op.isSome _ state) hop).trans
          (ifProvided_none _ _)
      rw [hrefused] at hok
      exact absurd (StubState.reply_sent_inj rfl hok) (by decide)
  | some op =>
      by_cases hblock : data ≠ [] → stub.mallocs state.allocations data.length = true
      · have hreplies := memWrite_replies hop hrange hdigits hlength hblock csumHigh csumLow
        rw [hreplies] at hok ⊢
        have hcode := (writeReply_eq_ok_iff _).mp (StubState.reply_sent_inj rfl hok)
        exact hstore.write op hop state.target addr data hcode
      · obtain ⟨hdata, hnone⟩ := Classical.not_imp.mp hblock
        have hstops := memWrite_stops hop hrange hdigits hlength hdata
          (Bool.not_eq_true _ ▸ hnone) csumHigh csumLow
        rw [hstops] at hok
        have hcount := congrArg List.length hok
        simp [StubState.allocated] at hcount

/-- What a read finds is what the store holds. -/
theorem StoresBytes.bytes_eq (hstore : StoresBytes stub contents) {state after : StubState σ}
    {addr len : ℕ} {bytes : List UInt8} (hreads : ReadsMem stub state addr len bytes after) :
    bytes = (contents state.target).read addr len := by
  obtain ⟨op, hop, hresult, -, -⟩ := hreads.op
  have hread := hstore.read op hop state.target addr len (by rw [hresult])
  rwa [hresult] at hread

/-- **A range of memory reads as the store in which the bytes written were replaced.**  The range
written reads back as its digits in lower case, and a byte outside it reads as before. -/
theorem memory_readsBack (hstore : StoresBytes stub contents)
    {fields digits data : List UInt8} {addr : ℕ} (hrange : MemoryRange fields addr data.length)
    (hdigits : HexData digits data) (hdata : 2 * data.length ≤ 4090) {state : StubState σ}
    {csumHigh csumLow : UInt8} {written : StubState σ}
    (hwritten : written =
      (gdbstubProcessPacket stub (hexWriteRequest fields digits csumHigh csumLow) state).2)
    (hok : written.sent = state.sent ++ [pktstrFrame (ascii "OK")])
    {readFields bytes : List UInt8} {readAddr len : ℕ}
    (hreadRange : MemoryRange readFields readAddr len) (hlen : 2 * len ≤ 4090)
    {after : StubState σ} (hreads : ReadsMem stub written readAddr len bytes after)
    (readHigh readLow : UInt8) :
    let replaced := (contents state.target).write addr data
    gdbstubProcessPacket stub
        (Packet.ofFrame (framed (109 :: readFields) readHigh readLow)) written =
          (.ok .none, after.reply (hexText (replaced.read readAddr len))) ∧
      (readAddr = addr → len = data.length →
        hexText (replaced.read readAddr len) = digits.map lowerCase) ∧
      ∀ there, data.length ≤ indexOf addr there →
        replaced there = contents state.target there := by
  intro replaced
  subst hwritten
  have hreplaced := hstore.written hrange hdigits (by omega) hok
  have hbytes := hstore.bytes_eq hreads
  rw [hreplaced] at hbytes
  refine ⟨?_, ?_, ?_⟩
  · rw [← hbytes]
    exact memRead_replies hreadRange (by rw [maxSendPacketSize]; omega) hreads readHigh readLow
  · rintro rfl rfl
    calc hexText (replaced.read readAddr data.length)
        = hexText data := by rw [read_write _ _ (by omega)]
      _ = hexText (hexPairs digits) := by rw [hexPairs_of_hexData hdigits]
      _ = digits.map lowerCase := hexText_hexPairs hdigits.length_eq hdigits.digits
  · intro there houtside
    exact write_of_outside _ houtside

end

/-- The store of bytes over all addresses is one, on the ranges that do not wrap. -/
theorem byteStoreStub_storesBytes :
    StoresBytes (byteStoreStub fun addr len => addr + len ≤ 2 ^ 64)
      fun store there => store there.toNat where
  write := by
    intro op hop store addr data hret
    obtain rfl := Option.some.inj hop
    dsimp only at hret ⊢
    by_cases haccepts : addr + data.length ≤ 2 ^ 64
    · rw [if_pos (decide_eq_true haccepts), List.take_length]
      funext there
      have hthere := there.toNat_lt
      -- below `addr` the index wraps to one behind all the data
      have hindex : indexOf addr there = if addr ≤ there.toNat then there.toNat - addr
          else 2 ^ 64 - addr + there.toNat := by
        rw [indexOf, UInt64.toNat_sub, UInt64.toNat_ofNat']
        split <;> omega
      show (if addr ≤ there.toNat then _ else _) = (data[indexOf addr there]?).getD _
      rw [hindex]
      by_cases hbehind : addr ≤ there.toNat
      · rw [if_pos hbehind, if_pos hbehind]
      · rw [if_neg hbehind, if_neg hbehind, List.getElem?_eq_none (by omega), Option.getD_none]
    · rw [if_neg (by rw [decide_eq_true_eq]; exact haccepts)] at hret
      exact absurd (show (14 : Int32) = 0 from hret) (by decide)
  read := by
    intro op hop store addr len hret
    obtain rfl := Option.some.inj hop
    dsimp only at hret ⊢
    by_cases haccepts : addr + len ≤ 2 ^ 64
    · rw [if_pos (decide_eq_true haccepts)]
      apply List.map_congr_left
      intro i hi
      have hlt := List.mem_range.mp hi
      have hplace : addr + i < UInt64.size := by
        rw [UInt64.size]
        omega
      exact congrArg store (UInt64.toNat_ofNat_of_lt' hplace).symm
    · rw [if_neg (by rw [decide_eq_true_eq]; exact haccepts)] at hret
      exact absurd (show (14 : Int32) = 0 from hret) (by decide)

/-- `M10,2:aBcD` and then `m11,2`. -/
theorem memory_readsBack_overlap :
    let stub := byteStoreStub fun addr len => addr + len ≤ 2 ^ 64
    let state : StubState (ℕ → UInt8) := StubState.init fun _ => 7
    let written := (gdbstubProcessPacket stub
      (hexWriteRequest (ascii "10,2") (ascii "aBcD") 57 48) state).2
    ∃ after : StubState (ℕ → UInt8),
      gdbstubProcessPacket stub (Packet.ofFrame (framed (109 :: ascii "11,2") 50 100)) written =
        (.ok .none, after.reply (ascii "cd07")) := by
  intro stub state written
  have hrange : MemoryRange (ascii "10,2") 16 2 :=
    ⟨⟨ascii "10", ascii "2", .of_all (by decide), .of_all (by decide), rfl⟩,
      by decide, by decide⟩
  have hreadRange : MemoryRange (ascii "11,2") 17 2 :=
    ⟨⟨ascii "11", ascii "2", .of_all (by decide), .of_all (by decide), rfl⟩,
      by decide, by decide⟩
  have hdigits : HexData (ascii "aBcD") [0xab, 0xcd] :=
    .cons (show hexValue? 97 = some 10 by decide) (show hexValue? 66 = some 11 by decide)
      (.cons (show hexValue? 99 = some 12 by decide) (show hexValue? 68 = some 13 by decide) .nil)
  have hok : written.sent = [pktstrFrame (ascii "OK")] := by decide +kernel
  have hreads := byteStoreStub_readsMem (fun addr len => addr + len ≤ 2 ^ 64) 17 2 rfl written
  have hback := memory_readsBack byteStoreStub_storesBytes hrange hdigits (by decide) rfl hok
    hreadRange (by decide) hreads 50 100
  have hdigitsRead : hexText (ByteMap.read (ByteMap.write (fun _ => 7) 16 [0xab, 0xcd]) 17 2) =
      ascii "cd07" := by decide +kernel
  exact ⟨_, hback.1.trans (congrArg (fun reply => (_, StubState.reply _ reply)) hdigitsRead)⟩

end MiniGdbstub
