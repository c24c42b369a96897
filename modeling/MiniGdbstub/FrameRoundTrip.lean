import MiniGdbstub.FirstPacket
import MiniGdbstub.Stub

/-!
# The sender's frames at the receiver

`conn_send_pktstr` lays out `$`, the payload, `#` and two checksum digits; the packet
buffer looks for the first `$` and the first `#` behind it, and `packet_csum_verify`
decodes the two characters behind the `#`.  The two sides share no code but
`compute_checksum`, and they agree: a frame that arrives in one read into a fresh buffer
is complete, is popped whole, carries the payload, is accepted, and leaves nothing behind
(`connSendPktbuf_received`).
-/

namespace MiniGdbstub

open CString Framing

/-! ## What is asked of the receiver -/

/-- A fresh buffer that reads `frame` at once finds one packet in it, with `payload`
between its marks and a right checksum, and is empty once the packet is popped. -/
def ReceivedAs (frame payload : List UInt8) : Prop :=
  ∀ fresh, ∃ filled found pkt popped,
    pktbufFillFromFile frame fresh pktbufInit = .ok filled ∧
    pktbufIsComplete filled = .ok (true, found) ∧
    pktbufPopPacket found = .ok (some pkt, popped) ∧
    (∃ csum, pkt.data = dollar :: (payload ++ hash :: csum)) ∧
    pkt.endPos = payload.length + 1 + csumSize ∧
    packetCsumVerify pkt = .ok true ∧
    popped.size = 0 ∧ popped.endPos = none

/-! ## The sender -/

/-- The frame that is sent is a frame by its parts, with the digits of the checksum. -/
theorem pktstrFrame_eq_framed (payload : List UInt8) :
    pktstrFrame payload =
      framed payload (hexDigit ((computeChecksum payload).toNat / 16))
        (hexDigit ((computeChecksum payload).toNat % 16)) := by
  simp [pktstrFrame, framed, hexByte]

/-- The digits that are sent decode to the checksum. -/
theorem packetCsumVerify_pktstrFrame (payload : List UInt8) :
    packetCsumVerify (Packet.ofFrame (pktstrFrame payload)) = .ok true := by
  have hdigits := charToHex_hexByte (computeChecksum payload)
  rw [hexByte] at hdigits
  rw [pktstrFrame_eq_framed, packetCsumVerify_framed, hdigits, beq_self_eq_true]

/-! ## The receiver -/

theorem firstFrame_pktstrFrame {payload : List UInt8} (hpayload : hash ∉ payload) :
    FirstFrame (pktstrFrame payload) [] payload (hexByte (computeChecksum payload)) :=
  ⟨rfl, by simp, hpayload⟩

/-- The first read puts the frame into the buffer and nothing else. -/
theorem pktbufFillFromFile_fresh {frame : List UInt8} (hroom : frame.length ≤ 1024)
    (fresh : List UInt8) :
    ∃ filled, pktbufFillFromFile frame fresh pktbufInit = .ok filled ∧ filled.Sound ∧
      filled.contents = frame := by
  have hnotFull : ¬ 2 ^ (pktbufInit : Pktbuf UInt8).cap = (pktbufInit : Pktbuf UInt8).size := by
    decide
  have hfresh : 2 ^ (pktbufInit : Pktbuf UInt8).cap = (pktbufInit : Pktbuf UInt8).size →
      fresh.length = 2 ^ (pktbufInit : Pktbuf UInt8).cap := fun hfull => absurd hfull hnotFull
  obtain ⟨filled, hfill, hsound, hcontents, -⟩ := pktbufFillFromFile_spec pktbufInit_sound
    (by rw [pktbufRoom_pktbufInit]; exact hroom) hfresh (fun hfull => absurd hfull hnotFull)
  exact ⟨filled, hfill, hsound, by rw [hcontents, contents_pktbufInit, List.nil_append]⟩

/-- A buffer that holds one frame finds it at the front, with the end at its last byte. -/
theorem pktbufIsComplete_pktstrFrame {buf : Pktbuf UInt8} (hsound : buf.Sound)
    {payload : List UInt8} (hpayload : hash ∉ payload)
    (hcontents : buf.contents = pktstrFrame payload) :
    ∃ found, pktbufIsComplete buf = .ok (true, found) ∧ found.Sound ∧
      found.contents = pktstrFrame payload ∧ found.endPos = some (payload.length + 3) := by
  obtain ⟨answer, found, hcomplete, hfound, hshifted, hanswer, hend, -⟩ :=
    pktbufIsComplete_spec hsound
  obtain ⟨hskip, hup, hfrom⟩ := (firstFrame_pktstrFrame hpayload).parts
  have hkept : found.contents =
      dollar :: (payload ++ hash :: hexByte (computeChecksum payload)) := by
    rw [hshifted, hcontents, hskip]
  have htrue : answer = true := by
    rw [hanswer, hkept, hfrom]
    simp [csumSize]
  refine ⟨found, by rw [hcomplete, htrue], hfound, hkept, ?_⟩
  rw [hend htrue, hkept, hup]
  simp [csumSize]

/-- A packet with nothing behind it is popped whole, and the buffer is empty. -/
theorem pktbufPopPacket_pktstrFrame {buf : Pktbuf UInt8} (hsound : buf.Sound)
    {payload : List UInt8} (hcontents : buf.contents = pktstrFrame payload)
    (hend : buf.endPos = some (payload.length + 3)) :
    ∃ popped, pktbufPopPacket buf = .ok (some (Packet.ofFrame (pktstrFrame payload)), popped) ∧
      popped.size = 0 ∧ popped.endPos = none := by
  have hsize : buf.size = payload.length + 4 := by
    rw [← hsound.length_contents, hcontents, length_pktstrFrame]
  have hall : buf.contents.take (payload.length + 3 + 1) = pktstrFrame payload := by
    rw [hcontents, List.take_of_length_le (by rw [length_pktstrFrame])]
  have hrest : buf.contents.drop (payload.length + 3 + 1) = [] :=
    List.drop_eq_nil_iff.mpr (by rw [hcontents, length_pktstrFrame])
  rcases pktbufPopPacket_spec hsound hend (by omega) with ⟨hne, -, -⟩ |
      ⟨popped, hpop, hpopped, hnone, ⟨-, hempty⟩ | ⟨-, -, hne, -⟩⟩
  · exact absurd hrest hne
  · refine ⟨popped, by rw [hpop, hall], ?_, hnone⟩
    rw [← hpopped.length_contents, hempty, List.length_nil]
  · exact absurd hrest hne

/-- Every frame without a `'#'` in its payload is received, if it fits one read. -/
theorem receivedAs_pktstrFrame {payload : List UInt8} (hpayload : hash ∉ payload)
    (hfits : payload.length + 4 ≤ 1024) : ReceivedAs (pktstrFrame payload) payload := by
  intro fresh
  have hroom : (pktstrFrame payload).length ≤ 1024 := by
    rw [length_pktstrFrame]
    exact hfits
  obtain ⟨filled, hfill, hfilled, hcontents⟩ := pktbufFillFromFile_fresh hroom fresh
  obtain ⟨found, hcomplete, hfound, hkept, hend⟩ :=
    pktbufIsComplete_pktstrFrame hfilled hpayload hcontents
  obtain ⟨popped, hpop, hsize, hnone⟩ := pktbufPopPacket_pktstrFrame hfound hkept hend
  refine ⟨filled, found, _, popped, hfill, hcomplete, hpop, ?_, ?_,
    packetCsumVerify_pktstrFrame payload, hsize, hnone⟩
  · exact ⟨hexByte (computeChecksum payload) ++ [0], by simp [Packet.ofFrame, pktstrFrame,
      Octet.zero]⟩
  · rw [Packet.ofFrame, length_pktstrFrame]
    rfl

/-- **The round trip.**  Of a string in an array, without a `'#'` and short enough for one
read, one frame is sent, and the receiver gets the string out of it. -/
theorem connSendPktbuf_received {σ : Type} {payload : List UInt8} (hpayload : hash ∉ payload)
    (hzero : 0 ∉ payload) (hfits : payload.length + 4 ≤ 1024) (rest : List UInt8)
    (state : StubState σ) :
    ∃ frame, connSendPktbuf (payload ++ 0 :: rest) state =
        (.ok (), { state with sent := state.sent ++ [frame] }) ∧
      frame.length ≤ pktbufRoom (pktbufInit : Pktbuf UInt8) ∧ ReceivedAs frame payload := by
  refine ⟨pktstrFrame payload, ?_, ?_, receivedAs_pktstrFrame hpayload hfits⟩
  · rw [connSendPktbuf_of_text hzero, connSendPktstr_of_fits (by rw [maxSendPacketSize]; omega)]
    rfl
  · rw [length_pktstrFrame, pktbufRoom_pktbufInit]
    exact hfits

/-- A payload with a `'$'` and a byte above 127 in it. -/
theorem connSendPktbuf_received_dollar :
    ∃ frame, connSendPktbuf [36, 200, 0, 1] (StubState.init ()) =
        (.ok (), { StubState.init () with sent := [frame] }) ∧
      frame.length ≤ pktbufRoom (pktbufInit : Pktbuf UInt8) ∧ ReceivedAs frame [36, 200] :=
  @connSendPktbuf_received _ [36, 200] (by decide) (by decide) (by decide) [1]
    (StubState.init ())

end MiniGdbstub
