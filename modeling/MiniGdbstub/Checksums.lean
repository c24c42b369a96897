import Mathlib.Algebra.GroupWithZero.Nat
import MiniGdbstub.Translate

/-!
# What the checksum accepts

A packet `$body#c1c2` is valid if `c1` and `c2` are hexadecimal digits, of either case,
and the number they write is the sum of the body modulo 256.

`packet_csum_verify` decodes the two characters by `char_to_hex`, which gives every byte
a value below 16: to the digits their own, to any other byte that of some digit.  So it
accepts every valid packet, and besides those the packets in which a digit has been
replaced by another byte of the same value (`packetCsumVerify_right_iff`).  A change of
one byte of the body is always noticed.
-/

namespace MiniGdbstub

open CString

/-! ## Valid packets -/

/-- The sum of the bytes. -/
def byteSum (body : List UInt8) : ℕ :=
  (body.map UInt8.toNat).sum

/-- Both checksum characters are digits, and they write the sum of the body. -/
def ChecksumValid (body : List UInt8) (csumHigh csumLow : UInt8) : Prop :=
  ∃ high ∈ hexValue? csumHigh, ∃ low ∈ hexValue? csumLow, 16 * high + low = byteSum body % 256

/-- The packet is verified without a fault, and it is accepted. -/
def Accepted (body : List UInt8) (csumHigh csumLow : UInt8) : Prop :=
  packetCsumVerify (Packet.ofFrame (framed body csumHigh csumLow)) = .ok true

/-- The packet is verified without a fault, and it is not accepted. -/
def Rejected (body : List UInt8) (csumHigh csumLow : UInt8) : Prop :=
  packetCsumVerify (Packet.ofFrame (framed body csumHigh csumLow)) = .ok false

/-- The verification tells whether the packet is valid. -/
def VerifiedRight (body : List UInt8) (csumHigh csumLow : UInt8) : Prop :=
  ∃ csumOk, packetCsumVerify (Packet.ofFrame (framed body csumHigh csumLow)) = .ok csumOk ∧
    (csumOk = true ↔ ChecksumValid body csumHigh csumLow)

/-- Both checksum characters are digits, or their values do not make the sum. -/
def DigitsOrDiffer (body : List UInt8) (csumHigh csumLow : UInt8) : Prop :=
  (isHexDigit csumHigh = true ∧ isHexDigit csumLow = true) ∨
    16 * (charToHex csumHigh).toNat + (charToHex csumLow).toNat ≠ byteSum body % 256

/-- The second packet differs from the first in one byte of the body or in one checksum
character, and there not only in its case. -/
inductive OneByteChange :
    (body : List UInt8) → (csumHigh csumLow : UInt8) → List UInt8 → UInt8 → UInt8 → Prop
  | body {before behind byte changed csumHigh csumLow} (hne : changed ≠ byte) :
      OneByteChange (before ++ byte :: behind) csumHigh csumLow
        (before ++ changed :: behind) csumHigh csumLow
  | high {body csumHigh csumLow changed} (hne : lowerCase changed ≠ lowerCase csumHigh) :
      OneByteChange body csumHigh csumLow body changed csumLow
  | low {body csumHigh csumLow changed} (hne : lowerCase changed ≠ lowerCase csumLow) :
      OneByteChange body csumHigh csumLow body csumHigh changed

/-! ## The two sides of the comparison -/

theorem computeChecksum_eq_foldl (body : List UInt8) (csum : UInt8) :
    body.foldl (fun csum byte => csum + byte) csum = csum + computeChecksum body := by
  induction body generalizing csum with
  | nil => simp [computeChecksum]
  | cons byte body ih =>
      rw [computeChecksum, List.foldl_cons, List.foldl_cons, ih (csum + byte), ih (0 + byte),
        UInt8.zero_add, UInt8.add_assoc]

theorem computeChecksum_cons (byte : UInt8) (body : List UInt8) :
    computeChecksum (byte :: body) = byte + computeChecksum body := by
  rw [computeChecksum, List.foldl_cons, computeChecksum_eq_foldl, UInt8.zero_add]

theorem computeChecksum_append (first second : List UInt8) :
    computeChecksum (first ++ second) = computeChecksum first + computeChecksum second := by
  rw [computeChecksum, List.foldl_append, computeChecksum_eq_foldl]
  rfl

/-- The checksum is the sum, cut to eight bits. -/
theorem computeChecksum_toNat (body : List UInt8) :
    (computeChecksum body).toNat = byteSum body % 256 := by
  induction body with
  | nil => rfl
  | cons byte body ih =>
      rw [computeChecksum_cons, UInt8.toNat_add, ih, byteSum, byteSum, List.map_cons,
        List.sum_cons, Nat.add_mod_mod]

/-- Another byte at one place gives another checksum. -/
theorem computeChecksum_ne {byte byte' : UInt8} (hne : byte ≠ byte')
    (before behind : List UInt8) :
    computeChecksum (before ++ byte :: behind) ≠ computeChecksum (before ++ byte' :: behind) := by
  rw [computeChecksum_append, computeChecksum_append, computeChecksum_cons, computeChecksum_cons]
  intro heq
  have hbehind := (UInt8.add_right_inj _).mp heq
  exact hne ((UInt8.add_left_inj _).mp hbehind)

/-- What the two characters decode to. -/
theorem charToHex_pair_toNat (csumHigh csumLow : UInt8) :
    (charToHex csumHigh <<< 4 ||| charToHex csumLow).toNat =
      16 * (charToHex csumHigh).toNat + (charToHex csumLow).toNat := by
  have hhigh := charToHex_lt csumHigh
  have hlow := charToHex_lt csumLow
  have hpair := shift_or_eq _ hhigh _ hlow
  rw [Nat.toUInt8_eq, UInt8.ofNat_toNat, Nat.toUInt8_eq, UInt8.ofNat_toNat] at hpair
  rw [hpair, Nat.toUInt8_eq]
  exact UInt8.toNat_ofNat_of_lt' (by rw [UInt8.size]; omega)

theorem charToHex_toNat_of_hexValue? {character : UInt8} {value : ℕ}
    (hvalue : hexValue? character = some value) : (charToHex character).toNat = value := by
  obtain ⟨hcharacter, hlt⟩ := charToHex_of_hexValue? hvalue
  rw [hcharacter, Nat.toUInt8_eq]
  exact UInt8.toNat_ofNat_of_lt' (by rw [UInt8.size]; omega)

/-- Among the digits a value determines the character up to its case. -/
theorem lowerCase_eq_of_charToHex_eq {first second : UInt8} (hfirst : isHexDigit first = true)
    (hsecond : isHexDigit second = true) (heq : charToHex first = charToHex second) :
    lowerCase first = lowerCase second := by
  rw [← hexDigit_charToHex hfirst, ← hexDigit_charToHex hsecond, heq]

/-! ## What is accepted -/

variable {body : List UInt8} {csumHigh csumLow : UInt8}

theorem accepted_iff_computeChecksum :
    Accepted body csumHigh csumLow ↔
      charToHex csumHigh <<< 4 ||| charToHex csumLow = computeChecksum body := by
  rw [Accepted, packetCsumVerify_framed, Except.ok.injEq, beq_iff_eq, hexPairs, hexPairs,
    List.cons.injEq, and_iff_left rfl]
  rintro high low rest heq
  cases heq

/-- **What is accepted**: the characters decode to the sum, whatever they are. -/
theorem accepted_iff :
    Accepted body csumHigh csumLow ↔
      16 * (charToHex csumHigh).toNat + (charToHex csumLow).toNat = byteSum body % 256 := by
  rw [accepted_iff_computeChecksum, ← charToHex_pair_toNat, ← computeChecksum_toNat,
    UInt8.toNat_inj]

/-- There are only these two outcomes. -/
theorem rejected_iff : Rejected body csumHigh csumLow ↔ ¬ Accepted body csumHigh csumLow := by
  rw [Rejected, Accepted, packetCsumVerify_framed, Except.ok.injEq, Except.ok.injEq,
    Bool.not_eq_true]

/-- Of the packets with two digits the valid ones are accepted. -/
theorem accepted_iff_checksumValid (hhigh : isHexDigit csumHigh = true)
    (hlow : isHexDigit csumLow = true) :
    Accepted body csumHigh csumLow ↔ ChecksumValid body csumHigh csumLow := by
  obtain ⟨high, hhigh⟩ := Option.isSome_iff_exists.mp hhigh
  obtain ⟨low, hlow⟩ := Option.isSome_iff_exists.mp hlow
  rw [accepted_iff, charToHex_toNat_of_hexValue? hhigh, charToHex_toNat_of_hexValue? hlow,
    ChecksumValid, hhigh, hlow]
  simp

theorem ChecksumValid.digits (hvalid : ChecksumValid body csumHigh csumLow) :
    isHexDigit csumHigh = true ∧ isHexDigit csumLow = true := by
  obtain ⟨high, hhigh, low, hlow, -⟩ := hvalid
  exact ⟨Option.isSome_iff_exists.mpr ⟨high, hhigh⟩, Option.isSome_iff_exists.mpr ⟨low, hlow⟩⟩

/-- Every valid packet is accepted. -/
theorem ChecksumValid.accepted (hvalid : ChecksumValid body csumHigh csumLow) :
    Accepted body csumHigh csumLow :=
  (accepted_iff_checksumValid hvalid.digits.1 hvalid.digits.2).mpr hvalid

theorem verifiedRight_iff_accepted :
    VerifiedRight body csumHigh csumLow ↔
      (Accepted body csumHigh csumLow ↔ ChecksumValid body csumHigh csumLow) := by
  simp only [VerifiedRight, Accepted, packetCsumVerify_framed, Except.ok.injEq,
    exists_eq_left']

/-- What is wrongly accepted has the sum in characters that are not both digits. -/
theorem verifiedRight_iff :
    VerifiedRight body csumHigh csumLow ↔ DigitsOrDiffer body csumHigh csumLow := by
  rw [verifiedRight_iff_accepted]
  constructor
  · intro hright
    by_cases haccepted : Accepted body csumHigh csumLow
    · exact .inl (hright.mp haccepted).digits
    · exact .inr fun heq => haccepted (accepted_iff.mpr heq)
  · rintro (⟨hhigh, hlow⟩ | hne)
    · exact accepted_iff_checksumValid hhigh hlow
    · exact ⟨fun haccepted => absurd (accepted_iff.mp haccepted) hne, ChecksumValid.accepted⟩

/-! ## Changes -/

/-- Two valid packets with the same body have the same checksum up to case. -/
theorem ChecksumValid.lowerCase_eq {csumHigh' csumLow' : UInt8}
    (hvalid : ChecksumValid body csumHigh csumLow)
    (hvalid' : ChecksumValid body csumHigh' csumLow') :
    lowerCase csumHigh' = lowerCase csumHigh ∧ lowerCase csumLow' = lowerCase csumLow := by
  have hsum := accepted_iff.mp hvalid.accepted
  have hsum' := accepted_iff.mp hvalid'.accepted
  have hhigh := charToHex_lt csumHigh
  have hlow := charToHex_lt csumLow
  have hhigh' := charToHex_lt csumHigh'
  have hlow' := charToHex_lt csumLow'
  constructor
  · exact lowerCase_eq_of_charToHex_eq hvalid'.digits.1 hvalid.digits.1
      (UInt8.toNat_inj.mp (by omega))
  · exact lowerCase_eq_of_charToHex_eq hvalid'.digits.2 hvalid.digits.2
      (UInt8.toNat_inj.mp (by omega))

/-- A change of one byte of the body of an accepted packet is noticed. -/
theorem rejected_of_body_change {before behind : List UInt8} {byte changed : UInt8}
    (haccepted : Accepted (before ++ byte :: behind) csumHigh csumLow) (hne : changed ≠ byte) :
    Rejected (before ++ changed :: behind) csumHigh csumLow := by
  rw [accepted_iff_computeChecksum] at haccepted
  rw [rejected_iff, accepted_iff_computeChecksum, haccepted]
  exact computeChecksum_ne hne.symm before behind

/-- A valid packet is not valid any more once one of its bytes has changed. -/
theorem OneByteChange.not_checksumValid {body' : List UInt8} {csumHigh' csumLow' : UInt8}
    (hchange : OneByteChange body csumHigh csumLow body' csumHigh' csumLow')
    (hvalid : ChecksumValid body csumHigh csumLow) :
    ¬ ChecksumValid body' csumHigh' csumLow' := by
  intro hvalid'
  cases hchange with
  | body hne => exact rejected_iff.mp (rejected_of_body_change hvalid.accepted hne) hvalid'.accepted
  | high hne => exact hne (hvalid.lowerCase_eq hvalid').1
  | low hne => exact hne (hvalid.lowerCase_eq hvalid').2

/-- **What the verification is right about**: the packets whose checksum characters are
digits or do not decode to the sum.  So a change of one byte of a valid packet is noticed
exactly if it leads to such a packet, and a change in the body always does. -/
theorem packetCsumVerify_right_iff (body : List UInt8) (csumHigh csumLow : UInt8) :
    (VerifiedRight body csumHigh csumLow ↔ DigitsOrDiffer body csumHigh csumLow) ∧
    (ChecksumValid body csumHigh csumLow → ∀ body' csumHigh' csumLow',
      OneByteChange body csumHigh csumLow body' csumHigh' csumLow' →
        (Rejected body' csumHigh' csumLow' ↔ DigitsOrDiffer body' csumHigh' csumLow') ∧
        (body' ≠ body → DigitsOrDiffer body' csumHigh' csumLow')) := by
  refine ⟨verifiedRight_iff, ?_⟩
  intro hvalid body' csumHigh' csumLow' hchange
  constructor
  · rw [rejected_iff, ← verifiedRight_iff, verifiedRight_iff_accepted,
      iff_false_right (hchange.not_checksumValid hvalid)]
  · intro hbody
    cases hchange with
    | body hne => exact .inl hvalid.digits
    | high hne => exact absurd rfl hbody
    | low hne => exact absurd rfl hbody

/-- The theorem for a packet whose body changes. -/
theorem packetCsumVerify_right_iff_changed_body :
    ChecksumValid (ascii "g") 54 55 ∧ Rejected (ascii "G") 54 55 ∧
      VerifiedRight (ascii "g") 54 55 := by
  have hvalid : ChecksumValid (ascii "g") 54 55 := ⟨6, by decide, 7, by decide, by decide⟩
  obtain ⟨hright, hchanges⟩ := packetCsumVerify_right_iff (ascii "g") 54 55
  obtain ⟨hrejected, hdiffers⟩ := hchanges hvalid (ascii "G") 54 55
    (@OneByteChange.body [] [] 103 71 54 55 (by decide))
  exact ⟨hvalid, hrejected.mpr (hdiffers (by decide)), hright.mpr (.inl hvalid.digits)⟩

/-- `$g#67` is valid.  With an `m` for the `6` it is not valid any more, and accepted. -/
theorem packetCsumVerify_accepts_letter :
    ChecksumValid (ascii "g") 54 55 ∧
      OneByteChange (ascii "g") 54 55 (ascii "g") 109 55 ∧
      ¬ ChecksumValid (ascii "g") 109 55 ∧ ¬ VerifiedRight (ascii "g") 109 55 ∧
      ¬ Rejected (ascii "g") 109 55 := by
  have hvalid : ChecksumValid (ascii "g") 54 55 := ⟨6, by decide, 7, by decide, by decide⟩
  have hchange : OneByteChange (ascii "g") 54 55 (ascii "g") 109 55 := .high (by decide)
  have hinvalid := hchange.not_checksumValid hvalid
  have haccepted : Accepted (ascii "g") 109 55 := accepted_iff.mpr (by decide)
  refine ⟨hvalid, hchange, hinvalid, ?_, ?_⟩
  · rw [verifiedRight_iff_accepted]
    exact fun hright => hinvalid (hright.mp haccepted)
  · rw [rejected_iff]
    exact not_not_intro haccepted

end MiniGdbstub
