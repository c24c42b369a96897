import MiniGdbstub.Library.CString
import MiniGdbstub.Packet

/-!
# Checksums and codecs

`csum.c` and `translate.c`: the checksum of a packet, the hexadecimal encoding of
bytes and its decoding, and the decoding of escaped binary data, which is done in
place.

The decoders have no error result.  `strToHex` gives every character a value,
whether it is a digit or not, and `unescape` reads one byte past its end when the
data stops in the middle of an escape.  The lemmas here say what they compute:
`hexPairs` for pairs of characters, `unescaped` for the data and the byte behind it.
-/

namespace MiniGdbstub

open CString

/-! ## `compute_checksum` -/

def computeChecksum (buf : List UInt8) : UInt8 :=
  buf.foldl (fun csum byte => csum + byte) 0

/-! ## `hex_to_str` and `str_to_hex` -/

def hexchars : List UInt8 := ascii "0123456789abcdef"

/-- The cells written to `str`.  For a negative `bytes` the terminating zero is written
before `str`. -/
def hexToStr (num : List UInt8) (bytes : ℤ) : Except Fault (List UInt8) :=
  if bytes < 0 then
    .error .outOfBounds
  else do
    let cells ← inBounds (Block.read? num 0 bytes.toNat)
    return cells.flatMap (fun ch : UInt8 =>
      [hexchars.getD (ch >>> 4).toNat 0, hexchars.getD (ch &&& 0xf).toNat 0]) ++ [0]

def charToHex (ch : UInt8) : UInt8 :=
  let letter := ch &&& 0x40
  let offset := (letter >>> 3) ||| (letter >>> 6)
  (ch + offset) &&& 0xf

/-- The bytes that pairs of characters decode to. -/
def hexPairs : List UInt8 → List UInt8
  | high :: low :: rest => (charToHex high <<< 4 ||| charToHex low) :: hexPairs rest
  | _ => []

/-- The cells written to `num`. -/
def strToHex (str : List UInt8) (bytes : ℤ) : Except Fault (List UInt8) := do
  let characters ← inBounds (Block.read? str 0 (2 * bytes.toNat))
  return hexPairs characters

/-! ## `unescape` -/

/-- `'}'` -/
def escapeChar : UInt8 := 125

/-- The loop, with the read and write cursors `r` and `w`; no turn is needed once `r`
has reached `finish`, and every turn moves `r`. -/
def unescapeLoop (finish : ℕ) : ℕ → List UInt8 → ℕ → ℕ → Except Fault (ℕ × List UInt8)
  | 0, msg, _, w => .ok (w, msg)
  | turns + 1, msg, r, w =>
      if r < finish then do
        let ch ← inBounds msg[r]?
        if ch = escapeChar then
          let next ← inBounds msg[r + 1]?
          unescapeLoop finish turns (msg.set w (next ^^^ 0x20)) (r + 2) (w + 1)
        else
          unescapeLoop finish turns (msg.set w ch) (r + 1) (w + 1)
      else
        .ok (w, msg)

/-- `msg` is the block from the start of the message on, `finish` the offset of its
end.  The result is the number of bytes decoded and the block after it. -/
def unescape (msg : List UInt8) (finish : ℕ) : Except Fault (ℕ × List UInt8) :=
  unescapeLoop finish finish msg 0 0

/-- What escaped data stands for, when `after` is the byte behind it. -/
def unescaped (after : UInt8) : List UInt8 → List UInt8
  | [] => []
  | [last] => if last = escapeChar then [after ^^^ 0x20] else [last]
  | first :: second :: rest =>
      if first = escapeChar then (second ^^^ 0x20) :: unescaped after rest
      else first :: unescaped after (second :: rest)

/-! ## Hexadecimal text -/

/-- The encoding of a list of bytes. -/
def hexText (bytes : List UInt8) : List UInt8 :=
  bytes.flatMap hexByte

/-- What holds of the 256 bytes holds of every byte. -/
theorem forall_byte (property : UInt8 → Prop) (hall : ∀ value < 256, property value.toUInt8)
    (byte : UInt8) : property byte := by
  have hbyte := hall byte.toNat byte.toNat_lt
  rwa [Nat.toUInt8_eq, UInt8.ofNat_toNat] at hbyte

theorem hexchars_eq_hexByte (ch : UInt8) :
    [hexchars.getD (ch >>> 4).toNat 0, hexchars.getD (ch &&& 0xf).toNat 0] = hexByte ch := by
  exact forall_byte (fun ch =>
    [hexchars.getD (ch >>> 4).toNat 0, hexchars.getD (ch &&& 0xf).toNat 0] = hexByte ch)
    (by decide +kernel) ch

theorem charToHex_hexByte (byte : UInt8) : hexPairs (hexByte byte) = [byte] := by
  exact forall_byte (fun byte => hexPairs (hexByte byte) = [byte])
    (by decide +kernel) byte

/-- The lower-case form of a letter. -/
def lowerCase (character : UInt8) : UInt8 :=
  if 65 ≤ character ∧ character ≤ 90 then character + 32 else character

theorem hexDigit_charToHex {character : UInt8} (hdigit : isHexDigit character = true) :
    hexDigit (charToHex character).toNat = lowerCase character := by
  revert hdigit
  exact forall_byte (fun character => isHexDigit character = true →
    hexDigit (charToHex character).toNat = lowerCase character) (by decide +kernel) character

theorem charToHex_lt (character : UInt8) : (charToHex character).toNat < 16 := by
  exact forall_byte (fun character => (charToHex character).toNat < 16)
    (by decide +kernel) character

/-- A digit decodes to its value. -/
theorem charToHex_of_hexValue? {digit : UInt8} {value : ℕ} (hdigit : hexValue? digit = some value) :
    charToHex digit = value.toUInt8 ∧ value < 16 := by
  exact forall_byte (fun digit => ∀ value ∈ hexValue? digit,
    charToHex digit = value.toUInt8 ∧ value < 16) (by decide +kernel) digit value hdigit

theorem shift_or_eq : ∀ high : ℕ, high < 16 → ∀ low : ℕ, low < 16 →
    high.toUInt8 <<< 4 ||| low.toUInt8 = (16 * high + low).toUInt8 := by
  decide +kernel

theorem hexByte_shift_or : ∀ high < 16, ∀ low < 16,
    hexByte ((UInt8.ofNat high) <<< 4 ||| UInt8.ofNat low) = [hexDigit high, hexDigit low] := by
  decide +kernel

@[simp] theorem hexText_nil : hexText [] = [] := rfl

@[simp] theorem hexText_cons (byte : UInt8) (bytes : List UInt8) :
    hexText (byte :: bytes) = hexByte byte ++ hexText bytes := rfl

theorem hexText_append (first second : List UInt8) :
    hexText (first ++ second) = hexText first ++ hexText second :=
  List.flatMap_append

theorem length_hexText (bytes : List UInt8) : (hexText bytes).length = 2 * bytes.length := by
  induction bytes with
  | nil => rfl
  | cons byte bytes ih =>
      rw [hexText_cons, List.length_append, length_hexByte, ih, List.length_cons]
      omega

theorem hexText_drop (bytes : List UInt8) (count : ℕ) :
    (hexText bytes).drop (2 * count) = hexText (bytes.drop count) := by
  induction count generalizing bytes with
  | zero => rfl
  | succ count ih =>
      cases bytes with
      | nil => simp
      | cons byte bytes => exact ih bytes

theorem hexText_take (bytes : List UInt8) (count : ℕ) :
    (hexText bytes).take (2 * count) = hexText (bytes.take count) := by
  induction count generalizing bytes with
  | zero => rfl
  | succ count ih =>
      cases bytes with
      | nil => simp
      | cons byte bytes =>
          rw [List.take_succ_cons, hexText_cons, hexText_cons, ← ih bytes]
          rfl

theorem zero_notMem_hexText (bytes : List UInt8) : 0 ∉ hexText bytes := by
  intro hmem
  obtain ⟨byte, -, hbyte⟩ := List.mem_flatMap.mp hmem
  exact zero_notMem_hexByte byte hbyte

theorem hexPairs_append {first second : List UInt8} {count : ℕ}
    (hfirst : first.length = 2 * count) :
    hexPairs (first ++ second) = hexPairs first ++ hexPairs second := by
  induction count generalizing first with
  | zero =>
      rw [List.length_eq_zero_iff.mp hfirst]
      rfl
  | succ count ih =>
      match first, hfirst with
      | high :: low :: first, hfirst =>
          rw [List.cons_append, List.cons_append, hexPairs, hexPairs,
            ih (by simp only [List.length_cons] at hfirst; omega), List.cons_append]

/-- Encoded bytes decode to themselves. -/
theorem hexPairs_hexText (bytes : List UInt8) : hexPairs (hexText bytes) = bytes := by
  induction bytes with
  | nil => rfl
  | cons byte bytes ih =>
      have hbyte := charToHex_hexByte byte
      simp only [hexByte, hexPairs, List.cons.injEq, and_true] at hbyte
      rw [hexText_cons, hexByte, List.cons_append, List.cons_append, List.nil_append, hexPairs,
        hbyte, ih]

/-- Decoded digits encode to themselves in lower case. -/
theorem hexText_hexPairs {characters : List UInt8} {count : ℕ}
    (hlength : characters.length = 2 * count)
    (hdigits : ∀ character ∈ characters, isHexDigit character = true) :
    hexText (hexPairs characters) = characters.map lowerCase := by
  induction count generalizing characters with
  | zero =>
      rw [List.length_eq_zero_iff.mp hlength]
      rfl
  | succ count ih =>
      match characters, hlength with
      | high :: low :: rest, hlength =>
          have hrest : hexText (hexPairs rest) = rest.map lowerCase :=
            ih (by simp only [List.length_cons] at hlength; omega)
              fun character hmem => hdigits character (by simp [hmem])
          have hbyte := hexByte_shift_or _ (charToHex_lt high) _ (charToHex_lt low)
          rw [UInt8.ofNat_toNat, UInt8.ofNat_toNat, hexDigit_charToHex (hdigits high (by simp)),
            hexDigit_charToHex (hdigits low (by simp))] at hbyte
          rw [hexPairs, hexText_cons, hbyte, hrest]
          rfl

theorem length_hexPairs {characters : List UInt8} {count : ℕ}
    (hlength : characters.length = 2 * count) : (hexPairs characters).length = count := by
  induction count generalizing characters with
  | zero =>
      rw [List.length_eq_zero_iff.mp hlength]
      rfl
  | succ count ih =>
      match characters, hlength with
      | high :: low :: rest, hlength =>
          rw [hexPairs, List.length_cons, ih (by simp only [List.length_cons] at hlength; omega)]

theorem hexToStr_eq {num : List UInt8} {count : ℕ} (hcount : count ≤ num.length) :
    hexToStr num count = .ok (hexText (num.take count) ++ [0]) := by
  simp only [hexToStr, show ¬ (count : ℤ) < 0 by omega, if_false, Int.toNat_natCast,
    Block.read?_start hcount, inBounds_some, hexText, hexchars_eq_hexByte, bind, Except.bind,
    pure, Except.pure]

/-- Decoding succeeds when the pairs it needs lie in the block. -/
theorem strToHex_eq {str : List UInt8} {bytes : ℤ} (hbytes : 2 * bytes.toNat ≤ str.length) :
    strToHex str bytes = .ok (hexPairs (str.take (2 * bytes.toNat))) := by
  simp only [strToHex, Block.read?_start hbytes, inBounds_some, bind, Except.bind, pure,
    Except.pure]

theorem strToHex_error {str : List UInt8} {bytes : ℤ} (hbytes : str.length < 2 * bytes.toNat) :
    strToHex str bytes = .error .outOfBounds := by
  have hread : Block.read? str 0 (2 * bytes.toNat) = none := by
    rw [Block.read?, if_neg (by omega)]
  simp only [strToHex, hread, inBounds_none, bind, Except.bind]

/-! ## Escaped data -/

@[simp] theorem unescaped_nil (after : UInt8) : unescaped after [] = [] := rfl

theorem unescaped_cons_of_ne (after : UInt8) {first : UInt8} (hfirst : first ≠ escapeChar)
    (rest : List UInt8) : unescaped after (first :: rest) = first :: unescaped after rest := by
  cases rest with
  | nil => simp [unescaped, hfirst]
  | cons second rest => rw [unescaped, if_neg hfirst]

@[simp] theorem unescaped_escape_nil (after : UInt8) :
    unescaped after [escapeChar] = [after ^^^ 0x20] := rfl

@[simp] theorem unescaped_escape_cons (after second : UInt8) (rest : List UInt8) :
    unescaped after (escapeChar :: second :: rest) =
      (second ^^^ 0x20) :: unescaped after rest := by
  rw [unescaped, if_pos rfl]

/-- A `'}'` at the end of a message that is not the second byte of an escape. -/
def dangling : List UInt8 → Bool
  | [] => false
  | [last] => last = escapeChar
  | first :: second :: rest =>
      if first = escapeChar then dangling rest else dangling (second :: rest)

theorem dangling_cons_of_ne {first : UInt8} (hfirst : first ≠ escapeChar) (rest : List UInt8) :
    dangling (first :: rest) = dangling rest := by
  cases rest with
  | nil => simp [dangling, hfirst]
  | cons second rest => rw [dangling, if_neg hfirst]

@[simp] theorem dangling_escape_cons (second : UInt8) (rest : List UInt8) :
    dangling (escapeChar :: second :: rest) = dangling rest := by
  rw [dangling, if_pos rfl]

/-- One cell written at the write cursor and a decoded rest behind it. -/
theorem set_cursor {msg : List UInt8} {w : ℕ} (hw : w < msg.length) (value : UInt8)
    (decoded : List UInt8) :
    (msg.set w value).take (w + 1) ++ decoded ++
        (msg.set w value).drop (w + 1 + decoded.length) =
      msg.take w ++ value :: decoded ++ msg.drop (w + (value :: decoded).length) := by
  have htake : (msg.set w value).take (w + 1) = msg.take w ++ [value] := by
    rw [List.take_set, List.take_succ_eq_append_getElem hw, List.set_append_right _ _
      (by rw [List.length_take]; omega), List.length_take, Nat.min_eq_left (by omega),
      Nat.sub_self]
    rfl
  rw [htake, List.drop_set_of_lt (by omega), List.length_cons,
    show w + 1 + decoded.length = w + (decoded.length + 1) by omega]
  simp

/-- A write in front of the read cursor leaves what has not been read. -/
theorem drop_set_unread (msg : List UInt8) (value : UInt8) {finish w next : ℕ} (hw : w < next) :
    ((msg.set w value).take finish).drop next = (msg.take finish).drop next := by
  rw [List.take_set, List.drop_set_of_lt hw]

/-- The loop decodes what is left between the read cursor and the end, and writes it at
the write cursor; it never overwrites what it has not read yet. -/
theorem unescapeLoop_eq {finish : ℕ} {after : UInt8} (turns : ℕ) :
    ∀ (msg : List UInt8) (r w : ℕ) (decoded : List UInt8), finish ≤ msg.length →
      (dangling ((msg.take finish).drop r) = true → msg[finish]? = some after) → w ≤ r →
      finish - r ≤ turns → unescaped after ((msg.take finish).drop r) = decoded →
      unescapeLoop finish turns msg r w =
        .ok (w + decoded.length, msg.take w ++ decoded ++ msg.drop (w + decoded.length)) := by
  induction turns with
  | zero =>
      intro msg r w decoded _ _ hcursors hturns hdecoded
      rw [List.drop_of_length_le (by rw [List.length_take]; omega)] at hdecoded
      simp [unescapeLoop, ← hdecoded]
  | succ turns ih =>
      intro msg r w decoded hfinish hafter hcursors hturns hdecoded
      by_cases hread : r < finish
      · have hcell : msg[r]? = some msg[r] := List.getElem?_eq_getElem (by omega)
        have hmessage : (msg.take finish).drop r = msg[r] :: (msg.take finish).drop (r + 1) := by
          rw [List.drop_eq_getElem_cons (by rw [List.length_take]; omega), List.getElem_take]
        rw [hmessage] at hafter hdecoded
        -- the write cursor is behind the read cursor, so the byte at the end stays
        have hkept : ∀ (value : UInt8) (next : ℕ), r < next →
            (dangling ((msg.take finish).drop next) = true → msg[finish]? = some after) →
            dangling (((msg.set w value).take finish).drop next) = true →
              (msg.set w value)[finish]? = some after := by
          intro value next hnext hend hdangling
          rw [drop_set_unread msg _ (by omega)] at hdangling
          rw [List.getElem?_set_ne (by omega), hend hdangling]
        rw [unescapeLoop, if_pos hread, hcell, inBounds_some]
        by_cases hescape : msg[r] = escapeChar
        · rw [hescape] at hafter hdecoded
          obtain ⟨next, hnext, hrest, hend⟩ : ∃ next, msg[r + 1]? = some next ∧
              decoded = (next ^^^ 0x20) :: unescaped after ((msg.take finish).drop (r + 2)) ∧
              (dangling ((msg.take finish).drop (r + 2)) = true → msg[finish]? = some after) := by
            -- the second half of the last escape is the byte at the end
            by_cases hlast : r + 1 < finish
            · rw [List.drop_eq_getElem_cons (i := r + 1) (by rw [List.length_take]; omega),
                List.getElem_take] at hafter hdecoded
              rw [unescaped_escape_cons] at hdecoded
              rw [dangling_escape_cons] at hafter
              exact ⟨msg[r + 1], List.getElem?_eq_getElem (by omega), hdecoded.symm, hafter⟩
            · have hend : r + 1 = finish := by omega
              have hover : ∀ next, finish ≤ next → (msg.take finish).drop next = [] := by
                intro next hnext
                exact List.drop_of_length_le (by rw [List.length_take]; omega)
              rw [hover _ hend.ge] at hafter hdecoded
              refine ⟨after, by rw [hend, hafter rfl], ?_, fun _ => hafter rfl⟩
              rw [hover _ (by omega)]
              exact hdecoded.symm
          simp only [bind, Except.bind, hescape, if_true, hnext, inBounds_some]
          rw [ih _ _ _ _ (by rwa [List.length_set]) (hkept _ _ (by omega) hend) (by omega)
            (by omega) (congrArg (unescaped after) (drop_set_unread msg _ (by omega))),
            set_cursor (by omega), hrest, List.length_cons]
          congr 2
          omega
        · rw [unescaped_cons_of_ne after hescape] at hdecoded
          rw [dangling_cons_of_ne hescape] at hafter
          simp only [bind, Except.bind, hescape, if_false]
          rw [ih _ _ _ _ (by rwa [List.length_set]) (hkept _ _ (by omega) hafter) (by omega)
            (by omega) (congrArg (unescaped after) (drop_set_unread msg _ (by omega))),
            set_cursor (by omega), ← hdecoded, List.length_cons]
          congr 2
          omega
      · rw [List.drop_of_length_le (by rw [List.length_take]; omega)] at hdecoded
        simp [unescapeLoop, hread, ← hdecoded]

/-- **The decoding in place.**  The bytes up to `finish` are decoded to the front of
the block; an escape cut off by the end takes the byte there for its second half. -/
theorem unescape_eq {msg : List UInt8} {finish : ℕ} {after : UInt8}
    (hafter : msg[finish]? = some after) :
    unescape msg finish =
      let decoded := unescaped after (msg.take finish)
      .ok (decoded.length, decoded ++ msg.drop decoded.length) := by
  have hfinish := (List.getElem?_eq_some_iff.mp hafter).1
  rw [unescape, unescapeLoop_eq finish msg 0 0 _ hfinish.le (fun _ => hafter) le_rfl (by omega) rfl]
  simp

/-- Without an escape cut off by the end the byte there makes no difference. -/
theorem unescape_eq_of_not_dangling {msg : List UInt8} {finish : ℕ} (hfinish : finish ≤ msg.length)
    (hdangling : dangling (msg.take finish) = false) (after : UInt8) :
    unescape msg finish =
      let decoded := unescaped after (msg.take finish)
      .ok (decoded.length, decoded ++ msg.drop decoded.length) := by
  have hnever : dangling ((msg.take finish).drop 0) = true → msg[finish]? = some after := by
    rw [List.drop_zero, hdangling]
    exact fun hcut => absurd hcut Bool.false_ne_true
  rw [unescape, unescapeLoop_eq finish msg 0 0 _ hfinish hnever le_rfl (by omega) rfl]
  simp

/-! ## `packet_csum_verify` -/

def packetCsumVerify (inpkt : Packet UInt8) : Except Fault Bool := do
  -- one more for the leading '$' and one less for the trailing '#'
  let body ← inBounds (Block.read? inpkt.data 1 (inpkt.endPos - csumSize - 1))
  let csumExpected ← strToHex (inpkt.data.drop (inpkt.endPos - csumSize + 1)) 1
  return csumExpected == [computeChecksum body]

/-- A frame by its parts. -/
def framed (body : List UInt8) (csumHigh csumLow : UInt8) : List UInt8 :=
  dollar :: body ++ [hash, csumHigh, csumLow]

/-- On a frame the verification compares the checksum of the body with what the two
checksum characters decode to. -/
theorem packetCsumVerify_framed (body : List UInt8) (csumHigh csumLow : UInt8) :
    packetCsumVerify (Packet.ofFrame (framed body csumHigh csumLow)) =
      .ok (hexPairs [csumHigh, csumLow] == [computeChecksum body]) := by
  have hdata : (Packet.ofFrame (framed body csumHigh csumLow)).data =
      dollar :: (body ++ [hash, csumHigh, csumLow, 0]) := by
    simp [Packet.ofFrame, framed, Octet.zero]
  have hend : (Packet.ofFrame (framed body csumHigh csumLow)).endPos = body.length + 3 := by
    simp [Packet.ofFrame, framed]
  have hbody : Block.read? (dollar :: (body ++ [hash, csumHigh, csumLow, 0])) 1 body.length =
      some body := by
    refine Block.read?_eq_some.mpr ⟨by simp; omega, ?_⟩
    simp [Block.slice]
  have hdigits : (dollar :: (body ++ [hash, csumHigh, csumLow, 0])).drop (body.length + 2) =
      [csumHigh, csumLow, 0] := by
    rw [List.drop_succ_cons, ← List.drop_drop, List.drop_left]
    rfl
  have hexpected : strToHex [csumHigh, csumLow, 0] 1 = .ok (hexPairs [csumHigh, csumLow]) :=
    strToHex_eq (by simp)
  simp only [packetCsumVerify, hdata, hend, csumSize,
    show body.length + 3 - 2 - 1 = body.length by omega,
    show body.length + 3 - 2 + 1 = body.length + 2 by omega, hbody, hdigits, inBounds_some,
    hexpected, bind, Except.bind, pure, Except.pure]

end MiniGdbstub
