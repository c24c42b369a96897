import MiniGdbstub.Library.CString

/-!
# Hexadecimal fields, strictly

How numbers and bytes are spelled when every character is what it should be: a
`HexNumber` is digits and nothing else, `HexData` is pairs of digits, `EscapedData`
has something behind every escape.

The conversions of the C library and the idioms around them take more than that.  The
lemmas say what they do with strict text: `scanHex` reads the number of a field and
stops behind it, `scanHexFields` reads as many fields as there are, `cut` divides a
text at its first separator.
-/

namespace CString

/-- A number written in hexadecimal digits. -/
structure HexNumber (digits : List UInt8) (value : ℕ) : Prop where
  nonempty : digits ≠ []
  all_digits : ∀ digit ∈ digits, isHexDigit digit = true
  value_eq : digitsValue 16 digits = value

/-- Bytes written as pairs of hexadecimal digits. -/
inductive HexData : List UInt8 → List UInt8 → Prop
  | nil : HexData [] []
  | cons {high low : UInt8} {highValue lowValue : ℕ} {digits bytes : List UInt8} :
      hexValue? high = some highValue → hexValue? low = some lowValue →
      HexData digits bytes →
      HexData (high :: low :: digits) ((16 * highValue + lowValue).toUInt8 :: bytes)

/-- Bytes of which some are written as an escape followed by the byte under a mask. -/
inductive EscapedData (escape mask : UInt8) : List UInt8 → List UInt8 → Prop
  | nil : EscapedData escape mask [] []
  | plain {byte : UInt8} {text bytes : List UInt8} : byte ≠ escape →
      EscapedData escape mask text bytes →
      EscapedData escape mask (byte :: text) (byte :: bytes)
  | escaped {byte : UInt8} {text bytes : List UInt8} :
      EscapedData escape mask text bytes →
      EscapedData escape mask (escape :: byte :: text) ((byte ^^^ mask) :: bytes)

/-- A text is a number if a look at its characters says so. -/
theorem HexNumber.of_all {digits : List UInt8} {value : ℕ}
    (hdigits : digits ≠ [] ∧ digits.all isHexDigit = true ∧ digitsValue 16 digits = value) :
    HexNumber digits value :=
  ⟨hdigits.1, List.all_eq_true.mp hdigits.2.1, hdigits.2.2⟩

/-! ## Digits -/

/-- The 256 bytes one by one. -/
theorem isHexDigit_excludes : ∀ value < 256, isHexDigit value.toUInt8 = true →
    value.toUInt8 ∉ [0, 44, 58, 59, 61, 43, 45, 88, 120] ∧ isSpace value.toUInt8 = false := by
  decide +kernel

theorem isHexDigit_ne {digit : UInt8} (hdigit : isHexDigit digit = true) :
    digit ∉ [0, 44, 58, 59, 61, 43, 45, 88, 120] ∧ isSpace digit = false := by
  have hexcludes := isHexDigit_excludes digit.toNat digit.toNat_lt
  rw [Nat.toUInt8_eq, UInt8.ofNat_toNat] at hexcludes
  exact hexcludes hdigit

/-- None of the characters that have a meaning between fields is a digit. -/
theorem notMem_of_hexDigits {digits : List UInt8}
    (hdigits : ∀ digit ∈ digits, isHexDigit digit = true) {character : UInt8}
    (hcharacter : character ∈ [0, 44, 58, 59, 61, 43, 45, 88, 120]) : character ∉ digits :=
  fun hmem => (isHexDigit_ne (hdigits character hmem)).1 hcharacter

theorem HexData.digits {digits bytes : List UInt8} (hdata : HexData digits bytes) :
    ∀ digit ∈ digits, isHexDigit digit = true := by
  induction hdata with
  | nil => simp
  | cons hhigh hlow _ ih =>
      intro digit hmem
      simp only [List.mem_cons] at hmem
      rcases hmem with rfl | rfl | hmem
      · rw [isHexDigit, hhigh]
        rfl
      · rw [isHexDigit, hlow]
        rfl
      · exact ih digit hmem

theorem HexData.length_eq {digits bytes : List UInt8} (hdata : HexData digits bytes) :
    digits.length = 2 * bytes.length := by
  induction hdata with
  | nil => rfl
  | cons _ _ _ ih =>
      simp only [List.length_cons]
      omega

theorem HexData.append {first second firstBytes secondBytes : List UInt8}
    (hfirst : HexData first firstBytes) (hsecond : HexData second secondBytes) :
    HexData (first ++ second) (firstBytes ++ secondBytes) := by
  induction hfirst with
  | nil => exact hsecond
  | cons hhigh hlow _ ih => exact .cons hhigh hlow ih

/-- Values spelled one behind the other. -/
theorem HexData.flatMap {ι : Type*} {digits bytes : ι → List UInt8} {indices : List ι}
    (hdata : ∀ i ∈ indices, HexData (digits i) (bytes i)) :
    HexData (indices.flatMap digits) (indices.flatMap bytes) := by
  induction indices with
  | nil => exact .nil
  | cons first indices ih =>
      rw [List.flatMap_cons, List.flatMap_cons]
      exact (hdata first List.mem_cons_self).append
        (ih fun i hi => hdata i (List.mem_cons_of_mem _ hi))

/-! ## What the conversions make of strict text -/

/-- What follows a number does not continue it. -/
def EndsNumber (rest : List UInt8) : Prop :=
  ∀ character ∈ rest.head?, isHexDigit character = false ∧ character ≠ 120 ∧ character ≠ 88

theorem endsNumber_nil : EndsNumber [] := by
  simp [EndsNumber]

theorem endsNumber_comma (rest : List UInt8) : EndsNumber (44 :: rest) := by
  intro character hmem
  obtain rfl := Option.some.inj hmem
  decide

theorem EndsNumber.takeWhile_eq {rest : List UInt8} (hrest : EndsNumber rest) :
    rest.takeWhile isHexDigit = [] ∧ rest.dropWhile isHexDigit = rest := by
  cases rest with
  | nil => exact ⟨rfl, rfl⟩
  | cons character rest =>
      have hend := (hrest character rfl).1
      exact ⟨List.takeWhile_cons_of_neg (by simp [hend]),
        List.dropWhile_cons_of_neg (by simp [hend])⟩

theorem scanSign_of_digit {digit : UInt8} (hdigit : isHexDigit digit = true)
    (rest : List UInt8) : scanSign (digit :: rest) = (false, digit :: rest) := by
  obtain ⟨hne, hspace⟩ := isHexDigit_ne hdigit
  simp only [List.mem_cons, not_or] at hne
  rw [scanSign, List.dropWhile_cons_of_neg (by simp [hspace])]
  simp [hne]

theorem scanPrefix_of_digits {digits rest : List UInt8} (hnonempty : digits ≠ [])
    (hdigits : ∀ digit ∈ digits, isHexDigit digit = true) (hrest : EndsNumber rest) :
    scanPrefix (digits ++ rest) = (false, digits ++ rest) := by
  match digits, hnonempty with
  | zero :: [], _ =>
      cases rest with
      | nil => rfl
      | cons character rest =>
          have hend := (hrest character rfl).2
          simp [scanPrefix, hend]
  | zero :: letter :: digits, _ =>
      have hletter := (isHexDigit_ne (hdigits letter (by simp))).1
      simp only [List.mem_cons, not_or] at hletter
      simp [scanPrefix, hletter]

/-- A value out of range is read as the largest one. -/
def saturated (value : ℕ) : ℕ :=
  min value (2 ^ 64 - 1)

theorem saturated_of_lt {value : ℕ} (hvalue : value < 2 ^ 64) : saturated value = value :=
  Nat.min_eq_left (by omega)

/-- A strict number is read, and the rest is left. -/
theorem scanHex_saturated {digits rest : List UInt8} {value : ℕ}
    (hnumber : HexNumber digits value) (hrest : EndsNumber rest) :
    scanHex (digits ++ rest) = some (saturated value, rest) := by
  obtain ⟨htake, hdrop⟩ := hrest.takeWhile_eq
  have hsign : scanSign (digits ++ rest) = (false, digits ++ rest) := by
    cases digits with
    | nil => exact absurd rfl hnumber.nonempty
    | cons digit digits => exact scanSign_of_digit (hnumber.all_digits digit (by simp)) _
  have hfirst : (digits ++ rest).takeWhile isHexDigit = digits := by
    rw [List.takeWhile_append_of_pos hnumber.all_digits, htake, List.append_nil]
  have hlast : (digits ++ rest).dropWhile isHexDigit = rest := by
    rw [List.dropWhile_append_of_pos hnumber.all_digits, hdrop]
  simp only [scanHex, hsign, scanPrefix_of_digits hnumber.nonempty hnumber.all_digits hrest, hfirst,
    hlast, hnumber.value_eq, hnumber.nonempty, false_and, if_false]
  by_cases hrange : 2 ^ 64 ≤ value
  · rw [if_pos hrange, saturated, Nat.min_eq_right (by omega)]
  · rw [if_neg hrange, saturated_of_lt (Nat.lt_of_not_le hrange)]
    simp

theorem scanHexFields_last_saturated {digits : List UInt8} {value : ℕ}
    (hnumber : HexNumber digits value) (fields : ℕ) :
    scanHexFields (fields + 1) digits = [saturated value] := by
  have hscan := scanHex_saturated hnumber endsNumber_nil
  rw [List.append_nil] at hscan
  simp [scanHexFields, hscan]

theorem scanHexFields_cons_saturated {digits : List UInt8} {value : ℕ}
    (hnumber : HexNumber digits value) (fields : ℕ) (rest : List UInt8) :
    scanHexFields (fields + 1) (digits ++ 44 :: rest) =
      saturated value :: scanHexFields fields rest := by
  simp [scanHexFields, scanHex_saturated hnumber (endsNumber_comma rest)]

theorem scanHexFields_last {digits : List UInt8} {value : ℕ} (hnumber : HexNumber digits value)
    (hvalue : value < 2 ^ 64) (fields : ℕ) : scanHexFields (fields + 1) digits = [value] := by
  rw [scanHexFields_last_saturated hnumber, saturated_of_lt hvalue]

theorem scanHexFields_cons {digits : List UInt8} {value : ℕ} (hnumber : HexNumber digits value)
    (hvalue : value < 2 ^ 64) (fields : ℕ) (rest : List UInt8) :
    scanHexFields (fields + 1) (digits ++ 44 :: rest) = value :: scanHexFields fields rest := by
  rw [scanHexFields_cons_saturated hnumber, saturated_of_lt hvalue]

/-! ## Separators -/

/-- The text up to a separator that is not a zero. -/
theorem text_append_cons {first : List UInt8} (hfirst : 0 ∉ first) {separator : UInt8}
    (hseparator : separator ≠ 0) (rest : List UInt8) :
    text (first ++ separator :: rest) = first ++ separator :: text rest := by
  rw [text, List.takeWhile_append_of_pos (bne_of_notMem hfirst),
    List.takeWhile_cons_of_pos (by simp [hseparator]), text]

theorem takeWhile_ne_append {first : List UInt8} {separator : UInt8} (hfirst : separator ∉ first)
    (rest : List UInt8) :
    (first ++ separator :: rest).takeWhile (· != separator) = first := by
  rw [List.takeWhile_append_of_pos (bne_of_notMem hfirst),
    List.takeWhile_cons_of_neg (by simp), List.append_nil]

/-- A block is divided at its first separator. -/
theorem cut_append {first : List UInt8} {separator : UInt8} (hzero : 0 ∉ first)
    (hfirst : separator ∉ first) (hseparator : separator ≠ 0) (rest : List UInt8) :
    cut separator (first ++ separator :: rest) = (first, some rest) := by
  have htext := text_append_cons hzero hseparator rest
  have hname := takeWhile_ne_append hfirst (text rest)
  simp only [cut, htext, hname]
  rw [if_pos (by simp)]
  simp

/-- The next token of a text that begins with it. -/
theorem strtok_append {token : List UInt8} {separator : UInt8} (htoken : separator ∉ token)
    (hnonempty : token ≠ []) (rest : List UInt8) :
    strtok separator (token ++ separator :: rest) = some (token, rest) := by
  obtain ⟨first, others, rfl⟩ := List.exists_cons_of_ne_nil hnonempty
  obtain ⟨hfirst, hothers⟩ := not_or.mp (List.mem_cons.not.mp htoken)
  have hskip : ((first :: others) ++ separator :: rest).dropWhile (· == separator) =
      first :: (others ++ separator :: rest) :=
    List.dropWhile_cons_of_neg (by simpa using Ne.symm hfirst)
  have hall := bne_of_notMem hothers
  rw [strtok, hskip]
  dsimp only
  rw [takeWhile_ne_append hothers, List.dropWhile_append_of_pos hall,
    List.dropWhile_cons_of_neg (by simp), List.drop_one, List.tail_cons]

/-- The last token. -/
theorem strtok_last {token : List UInt8} {separator : UInt8} (htoken : separator ∉ token)
    (hnonempty : token ≠ []) : strtok separator token = some (token, []) := by
  obtain ⟨first, others, rfl⟩ := List.exists_cons_of_ne_nil hnonempty
  obtain ⟨hfirst, hothers⟩ := not_or.mp (List.mem_cons.not.mp htoken)
  have hskip : (first :: others).dropWhile (· == separator) = first :: others :=
    List.dropWhile_cons_of_neg (by simpa using Ne.symm hfirst)
  have hall := bne_of_notMem hothers
  rw [strtok, hskip]
  dsimp only
  rw [List.takeWhile_eq_self_iff.mpr hall, List.dropWhile_eq_nil_iff.mpr hall, List.drop_nil]

/-- What stands behind the zero that ends a text is not looked at. -/
theorem text_append_zero_left (block rest : List UInt8) :
    text (block ++ 0 :: rest) = text block := by
  induction block with
  | nil => rfl
  | cons first block ih =>
      by_cases hfirst : first = 0
      · rw [hfirst]
        rfl
      · have hkeep : ∀ others : List UInt8, text (first :: others) = first :: text others :=
          fun others => List.takeWhile_cons_of_pos (bne_iff_ne.mpr hfirst)
        rw [List.cons_append, hkeep, hkeep, ih]

/-- Where the block behind the separator begins. -/
theorem cut_eq_some {separator : UInt8} {block name content : List UInt8}
    (hcut : cut separator block = (name, some content)) :
    name.length < (text block).length ∧ content = block.drop (name.length + 1) := by
  simp only [cut, Prod.mk.injEq, Option.ite_none_right_eq_some, Option.some.injEq] at hcut
  obtain ⟨rfl, hmem, rfl⟩ := hcut
  refine ⟨?_, rfl⟩
  refine lt_of_le_of_ne (List.takeWhile_prefix _).length_le ?_
  intro hlength
  have hall : (text block).takeWhile (· != separator) = text block :=
    (List.takeWhile_prefix _).eq_of_length hlength
  have hne := List.takeWhile_eq_self_iff.mp hall separator hmem
  simp at hne

/-- A zero behind a block ends its last part, and is in the way of no other. -/
theorem cut_append_zero (separator : UInt8) (block rest : List UInt8) :
    cut separator (block ++ 0 :: rest) =
      ((cut separator block).1, (cut separator block).2.map (· ++ 0 :: rest)) := by
  rcases hcut : cut separator block with ⟨name, content⟩
  have hname : (text block).takeWhile (· != separator) = name := congrArg Prod.fst hcut
  simp only [cut, text_append_zero_left, hname]
  cases content with
  | none =>
      have hnone : separator ∉ text block := by
        intro hmem
        simp [cut, hmem] at hcut
      rw [if_neg hnone, Option.map_none]
  | some content =>
      obtain ⟨hlength, hdrop⟩ := cut_eq_some hcut
      have hmem : separator ∈ text block := by
        by_contra hnone
        simp [cut, hnone] at hcut
      have htext : (text block).length ≤ block.length :=
        (List.takeWhile_prefix _).length_le
      rw [if_pos hmem, Option.map_some, hdrop, List.drop_append_of_le_length (by omega)]

end CString
