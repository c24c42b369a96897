import MiniGdbstub.Transfer

/-!
# Transfers that a client may ask for

The offset and the length of a `qXfer` request are any hexadecimal numbers.  They are
stored in an `int` each, and of the two only the length is clipped, and only from above.
Three things can go wrong.

* **The offset.**  An offset behind the end of the description, or a negative one, makes
  `target_desc + offset` point outside the string.
* **A length of zero.**  `snprintf` then writes nothing, and the reply is what the array
  held before.
* **A negative length.**  As a `size_t` it is larger than any array.

Offsets up to the end of the description and lengths from one on avoid all of them.
-/

namespace MiniGdbstub

open CString

variable {σ : Type} (stub : Gdbstub σ)

/-- The stub with other cells in the arrays that were not written. -/
def Gdbstub.withJunk (junk : ℕ → UInt8) : Gdbstub σ :=
  { stub with junk := junk }

/-- The request for a range of the description. -/
def xferPacket (range : List UInt8) (csumHigh csumLow : UInt8) : Packet UInt8 :=
  Packet.ofFrame (framed (ascii "qXfer:features:read:target.xml:" ++ range) csumHigh csumLow)

/-- A transfer stays inside the description and the array: no access leaves its block,
`snprintf` is given a size of the array, and what is sent does not depend on what the array
held before. -/
structure TransferInside (packet : Packet UInt8) (length : ℤ) (state : StubState σ) : Prop where
  reads : (gdbstubProcessPacket stub packet state).1 ≠ .error .outOfBounds
  one_le : 1 ≤ xferSize length
  size_le : xferSize length ≤ maxDataPayload
  written : ∀ junk, gdbstubProcessPacket (stub.withJunk junk) packet state =
    gdbstubProcessPacket stub packet state

/-- Any two numbers can be asked for; the conversion cuts them to 64 bits. -/
theorem ScannedRange.of_hexNumbers {offsetText lengthText : List UInt8} {offset length : ℕ}
    (hoffset : HexNumber offsetText offset) (hlength : HexNumber lengthText length) :
    ScannedRange (offsetText ++ comma :: lengthText) (saturated offset) (saturated length) where
  zero_notMem := notMem_of_hexNumbers hoffset hlength (by decide) (by decide)
  colon_notMem := notMem_of_hexNumbers hoffset hlength (by decide) (by decide)
  scan := by
    rw [comma, scanHexFields_cons_saturated hoffset, scanHexFields_last_saturated hlength]

theorem xferSize_le (length : ℤ) : xferSize length ≤ maxDataPayload := by
  rw [xferSize]
  split
  · exact Int.le_of_lt ‹_›
  · exact Int.le_refl _

theorem one_le_xferSize {length : ℤ} : 1 ≤ xferSize length ↔ 1 ≤ length := by
  have hpayload : maxDataPayload = 4090 := by decide
  rw [xferSize, hpayload]
  split <;> omega

section

variable {stub}

/-- With the offset outside the description `process_xfer` reads outside it. -/
theorem xferReply_outside {desc : List UInt8} {offset : ℤ}
    (houtside : offset < 0 ∨ (desc.length : ℤ) < offset) (length : ℤ) (state : StubState σ) :
    xferReply stub desc offset length state = (.error .outOfBounds, state) := by
  rw [xferReply]
  dsimp only
  rw [if_pos houtside]
  rfl

/-- **Which transfers stay inside.** -/
theorem transferInside_iff {desc : List UInt8} (hdesc : stub.arch.targetDesc = some desc)
    {range : List UInt8} {offset length : ℕ} (hrange : ScannedRange range offset length)
    (csumHigh csumLow : UInt8) (state : StubState σ) :
    TransferInside stub (xferPacket range csumHigh csumLow) (asInt length) state ↔
      0 ≤ asInt offset ∧ asInt offset ≤ desc.length ∧ 1 ≤ asInt length := by
  have hpacket := gdbstubProcessPacket_xfer hdesc hrange csumHigh csumLow state
  constructor
  · intro hinside
    have hlength := one_le_xferSize.mp hinside.one_le
    by_contra hrejected
    have houtside : asInt offset < 0 ∨ (desc.length : ℤ) < asInt offset := by omega
    have hfault : (gdbstubProcessPacket stub (xferPacket range csumHigh csumLow) state).1 =
        .error .outOfBounds := by
      rw [xferPacket, hpacket,
        Program.bind_of_error (xferReply_outside houtside (asInt length) state.begun)]
    exact hinside.reads hfault
  · rintro ⟨hoffset, hend, hlength⟩
    have hzero := stub.arch.zero_notMem desc hdesc
    -- the same string, whatever the array held before
    have hreply : ∀ junk,
        gdbstubProcessPacket (stub.withJunk junk) (xferPacket range csumHigh csumLow) state =
          (.ok .none, state.begun.reply
            ((if asInt desc.length - asInt offset < xferSize (asInt length) then 108 else 109) ::
              (desc.drop (asInt offset).toNat).take ((xferSize (asInt length)).toNat - 1))) := by
      intro junk
      rw [xferPacket, @gdbstubProcessPacket_xfer _ (stub.withJunk junk) _ hdesc _ _ _ hrange]
      exact Program.bind_of_ok (xferReply_inside hzero hoffset hend hlength state.begun) _
    have hown := hreply stub.junk
    rw [show stub.withJunk stub.junk = stub from rfl] at hown
    refine ⟨?_, one_le_xferSize.mpr hlength, xferSize_le _, fun junk => ?_⟩
    · rw [hown]
      nofun
    · rw [hreply, hown]

end

/-- All of the description from its end on is nothing: a reply without data. -/
theorem transferInside_end :
    TransferInside describedStub (xferPacket (ascii "4,ffff") 48 48) (asInt (saturated 65535))
      (StubState.init fun _ => 0) := by
  have hrange : ScannedRange (ascii "4,ffff") (saturated 4) (saturated 65535) :=
    .of_hexNumbers (.of_all (by decide +kernel) : HexNumber (ascii "4") 4)
      (.of_all (by decide +kernel) : HexNumber (ascii "ffff") 65535)
  have hdesc : describedStub.arch.targetDesc = some (ascii "<a/>") := rfl
  exact (transferInside_iff hdesc hrange 48 48 _).mpr (by decide +kernel)

/-- One character behind the end is outside the string; and a length of zero sends a character
that nobody wrote. -/
theorem transferInside_fails :
    let state := StubState.init fun _ => 0
    let junk : ℕ → UInt8 := fun cell => if cell = 1 then 63 else 0
    (gdbstubProcessPacket describedStub (xferPacket (ascii "5,10") 48 48) state).1 =
        .error .outOfBounds ∧
      xferSize 0 = 0 ∧
      (gdbstubProcessPacket (describedStub.withJunk junk) (xferPacket (ascii "0,0") 48 48)
        state).2.sent = [pktstrFrame (ascii "m?")] ∧
      ¬ TransferInside describedStub (xferPacket (ascii "5,10") 48 48) 16 state := by
  have houtside : (gdbstubProcessPacket describedStub (xferPacket (ascii "5,10") 48 48)
      (StubState.init fun _ => 0)).1 = .error .outOfBounds := by decide +kernel
  exact ⟨houtside, by decide, by decide +kernel, fun hinside => hinside.reads houtside⟩

end MiniGdbstub
