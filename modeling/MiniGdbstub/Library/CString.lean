import Mathlib.Data.List.Basic
import Mathlib.Data.List.TakeWhile
import Mathlib.Data.Nat.Digits.Lemmas

/-!
# C strings

A pointer into an array of characters is the block of cells from there to the end
of the array.  Its text is what comes before the first zero.  `cut` is the idiom
of a search with `strchr` followed by a zero written over the separator; `strtok`
takes the next token of a text.

The conversions are those of the C library: `scanHex` and `scanDecimal` are what
`sscanf` does for one `%lx` and one `%ld` (white space, a sign and, for
hexadecimal, a leading `0x` are accepted; a value out of range saturates),
`decimal` and `hexByte` are what `printf` writes for `%d` and `%02x`.
-/

namespace CString

/-! ## Texts -/

/-- What comes before the first zero. -/
def text (block : List UInt8) : List UInt8 :=
  block.takeWhile (· != 0)

/-- The text, if a zero terminates it inside the block. -/
def text? (block : List UInt8) : Option (List UInt8) :=
  if 0 ∈ block then some (text block) else none

/-- `p = strchr(block, separator); if (p) *p++ = 0;` — the text of the first part, and
the block behind the separator if there is one. -/
def cut (separator : UInt8) (block : List UInt8) : List UInt8 × Option (List UInt8) :=
  let name := (text block).takeWhile (· != separator)
  (name, if separator ∈ text block then some (block.drop (name.length + 1)) else none)

/-- `strtok`: the next token and what it leaves for the next call. -/
def strtok (separator : UInt8) (rest : List UInt8) : Option (List UInt8 × List UInt8) :=
  match rest.dropWhile (· == separator) with
  | [] => none
  | first :: rest =>
      some (first :: rest.takeWhile (· != separator),
        (rest.dropWhile (· != separator)).drop 1)

/-! ## Numbers read -/

/-- The value of a hexadecimal digit of either case. -/
def hexValue? (character : UInt8) : Option ℕ :=
  if 48 ≤ character ∧ character ≤ 57 then some (character.toNat - 48)
  else if 97 ≤ character ∧ character ≤ 102 then some (character.toNat - 87)
  else if 65 ≤ character ∧ character ≤ 70 then some (character.toNat - 55)
  else none

def isHexDigit (character : UInt8) : Bool :=
  (hexValue? character).isSome

def isDigit (character : UInt8) : Bool :=
  48 ≤ character && character ≤ 57

/-- `isspace` in the C locale. -/
def isSpace (character : UInt8) : Bool :=
  character == 32 || (9 ≤ character && character ≤ 13)

/-- The number that a list of digits stands for. -/
def digitsValue (base : ℕ) (digits : List UInt8) : ℕ :=
  digits.foldl (fun value digit => value * base + (hexValue? digit).getD 0) 0

/-- White space and a sign: is the number negative, and what follows. -/
def scanSign (input : List UInt8) : Bool × List UInt8 :=
  match input.dropWhile isSpace with
  | [] => (false, [])
  | first :: rest =>
      if first = 45 then (true, rest)
      else if first = 43 then (false, rest)
      else (false, first :: rest)

/-- A leading `0x` or `0X` is dropped; with nothing after it, the zero before the `x`
is the number. -/
def scanPrefix (input : List UInt8) : Bool × List UInt8 :=
  match input with
  | zero :: letter :: rest =>
      if zero = 48 ∧ (letter = 120 ∨ letter = 88) then (true, rest) else (false, input)
  | _ => (false, input)

/-- `%lx`: the converted 64-bit value and what follows it. -/
def scanHex (input : List UInt8) : Option (ℕ × List UInt8) :=
  let (negative, input) := scanSign input
  let (zero, input) := scanPrefix input
  let digits := input.takeWhile isHexDigit
  if digits = [] ∧ zero = false then none
  else
    let value := digitsValue 16 digits
    let value :=
      if 2 ^ 64 ≤ value then 2 ^ 64 - 1
      else if negative then (2 ^ 64 - value) % 2 ^ 64
      else value
    some (value, input.dropWhile isHexDigit)

/-- `%ld`: the converted 64-bit value and what follows it. -/
def scanDecimal (input : List UInt8) : Option (ℤ × List UInt8) :=
  let (negative, input) := scanSign input
  let digits := input.takeWhile isDigit
  if digits = [] then none
  else
    let value : ℤ := if negative then -digitsValue 10 digits else digitsValue 10 digits
    some (max (-2 ^ 63) (min (2 ^ 63 - 1) value), input.dropWhile isDigit)

/-- `%lx,…,%lx`: the values converted before the input stops matching. -/
def scanHexFields : ℕ → List UInt8 → List ℕ
  | 0, _ => []
  | fields + 1, input =>
      match scanHex input with
      | none => []
      | some (value, rest) =>
          value :: (match rest with
            | comma :: rest => if comma = 44 then scanHexFields fields rest else []
            | [] => [])

theorem scanHex_lt {input rest : List UInt8} {value : ℕ}
    (hscan : scanHex input = some (value, rest)) : value < 2 ^ 64 := by
  rw [scanHex] at hscan
  dsimp only at hscan
  split at hscan
  · cases hscan
  · cases hscan
    split
    · omega
    · split <;> omega

/-- The numbers of a text are 64-bit numbers. -/
theorem scanHexFields_lt (fields : ℕ) :
    ∀ {input : List UInt8} {value : ℕ}, value ∈ scanHexFields fields input → value < 2 ^ 64 := by
  induction fields with
  | zero =>
      intro input value hvalue
      cases hvalue
  | succ fields ih =>
      intro input value hvalue
      rw [scanHexFields] at hvalue
      split at hvalue
      · cases hvalue
      · rename_i first rest hscan
        rcases List.mem_cons.mp hvalue with rfl | hlater
        · exact scanHex_lt hscan
        · split at hlater
          · split at hlater
            · exact ih hlater
            · cases hlater
          · cases hlater

/-- A value stored in an `int` keeps its low 32 bits. -/
def asInt (value : ℤ) : ℤ :=
  (Int32.ofInt value).toInt

/-- A value that fits an `int` is the same as an `int`. -/
theorem asInt_of_lt {value : ℕ} (hvalue : value < 2 ^ 31) : asInt value = value := by
  exact Int32.toInt_ofInt_of_le (by omega) (by omega)

/-- An `int` made of a size is never larger than it. -/
theorem toNat_asInt_le (value : ℕ) : (asInt value).toNat ≤ value := by
  rw [asInt, Int32.toInt_ofInt, Int.bmod_def, Int32.size]
  split <;> omega

/-! ## Numbers written -/

/-- The lower-case digit of a value below 16. -/
def hexDigit (value : ℕ) : UInt8 :=
  if value < 10 then (48 + value).toUInt8 else (87 + value).toUInt8

/-- `%02x` of a byte. -/
def hexByte (byte : UInt8) : List UInt8 :=
  [hexDigit (byte.toNat / 16), hexDigit (byte.toNat % 16)]

/-- The decimal digits of a number. -/
def decimalDigits (value : ℕ) : List UInt8 :=
  if value = 0 then [48] else (Nat.digits 10 value).reverse.map hexDigit

/-- `%d` -/
def decimal (value : ℤ) : List UInt8 :=
  if value < 0 then 45 :: decimalDigits value.natAbs else decimalDigits value.natAbs

/-- `%04d`: padded with zeros behind the sign. -/
def decimalPadded (width : ℕ) (value : ℤ) : List UInt8 :=
  let digits := decimalDigits value.natAbs
  if value < 0 then 45 :: (List.replicate (width - 1 - digits.length) 48 ++ digits)
  else List.replicate (width - digits.length) 48 ++ digits

/-! ## Facts about texts -/

/-- No character of a text is a separator that is not in it. -/
theorem bne_of_notMem {separator : UInt8} {block : List UInt8} (hseparator : separator ∉ block) :
    ∀ character ∈ block, (character != separator) = true := by
  intro character hmem
  exact bne_iff_ne.mpr fun heq => hseparator (heq ▸ hmem)

theorem text_append_zero {first : List UInt8} (hfirst : 0 ∉ first) (rest : List UInt8) :
    text (first ++ 0 :: rest) = first := by
  rw [text, List.takeWhile_append_of_pos (bne_of_notMem hfirst)]
  simp

theorem zero_notMem_text (block : List UInt8) : 0 ∉ text block := by
  intro hmem
  have hne := List.mem_takeWhile_imp hmem
  simp at hne

/-- A block with a zero in it is its text, the zero and the rest. -/
theorem exists_eq_text_append {block : List UInt8} (hzero : 0 ∈ block) :
    ∃ rest, block = text block ++ 0 :: rest := by
  induction block with
  | nil => simp at hzero
  | cons first block ih =>
      by_cases hfirst : first = 0
      · exact ⟨block, by simp [text, hfirst]⟩
      · obtain ⟨rest, hrest⟩ := ih (by
          rcases List.mem_cons.mp hzero with heq | hmem
          · exact absurd heq.symm hfirst
          · exact hmem)
        refine ⟨rest, ?_⟩
        have hkeep : text (first :: block) = first :: text block := by simp [text, hfirst]
        rw [hkeep, List.cons_append, ← hrest]

theorem text?_append_zero {first : List UInt8} (hfirst : 0 ∉ first) (rest : List UInt8) :
    text? (first ++ 0 :: rest) = some first := by
  rw [text?, if_pos (by simp), text_append_zero hfirst]

/-- A zero ends the text. -/
theorem length_text_le {block : List UInt8} {position : ℕ}
    (hzero : block[position]? = some 0) : (text block).length ≤ position := by
  by_contra hlong
  have htext : text block <+: block := List.takeWhile_prefix _
  have hcell : (text block)[position]? = some 0 := by
    rw [List.prefix_iff_eq_take.mp htext, List.getElem?_take_of_lt (by omega), hzero]
  exact zero_notMem_text block (List.mem_of_getElem? hcell)

/-! ## Facts about written numbers -/

@[simp] theorem length_hexByte (byte : UInt8) : (hexByte byte).length = 2 := rfl

theorem hexDigit_ne_zero : ∀ value < 16, hexDigit value ≠ 0 := by decide

theorem hexValue?_hexDigit : ∀ value < 16, hexValue? (hexDigit value) = some value := by decide

theorem zero_notMem_hexByte (byte : UInt8) : 0 ∉ hexByte byte := by
  have hhigh : byte.toNat / 16 < 16 := by
    have hbyte := byte.toNat_lt
    omega
  have hlow : byte.toNat % 16 < 16 := Nat.mod_lt _ (by omega)
  simp only [hexByte, List.mem_cons, List.not_mem_nil, or_false, not_or]
  exact ⟨(hexDigit_ne_zero _ hhigh).symm, (hexDigit_ne_zero _ hlow).symm⟩

theorem length_decimalDigits_le {value places : ℕ} (hplaces : 0 < places)
    (hvalue : value < 10 ^ places) : (decimalDigits value).length ≤ places := by
  unfold decimalDigits
  split
  · exact hplaces
  · rw [List.length_map, List.length_reverse]
    exact (Nat.digits_length_le_iff (by omega) value).mpr hvalue

/-- An `int` takes at most eleven characters. -/
theorem length_decimal_le {value : ℤ} (hlow : -2 ^ 31 ≤ value) (hhigh : value < 2 ^ 31) :
    (decimal value).length ≤ 11 := by
  have hdigits : (decimalDigits value.natAbs).length ≤ 10 :=
    length_decimalDigits_le (by omega) (by omega)
  unfold decimal
  split
  · rw [List.length_cons]
    omega
  · omega

end CString
