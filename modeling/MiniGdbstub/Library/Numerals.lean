import MiniGdbstub.Library.HexFields

/-!
# Numbers written in one base and read in another

A number is printed in a base without leading zeros (`printed`); a text of digits is
read in a base by `digitsValue`.  What is read back in the base it was printed in is the
number (`digitsValue_printed`).

The digits of a number below ten are digits in every base up to sixteen too.  A text of
such digits that is read in a larger base and printed again in this base comes back
without its leading zeros (`printed_digitsValue`), whatever number it was in the larger
base: the two bases only have to agree on what the single digits are.
-/

namespace CString

/-! ## Definitions -/

/-- `%d` and `%x` of a number that is not negative, for the bases ten and sixteen. -/
def printed (base value : ℕ) : List UInt8 :=
  if value = 0 then [48] else (Nat.digits base value).reverse.map hexDigit

/-- A text of digits without leading zeros; at least one digit is left. -/
def stripped (digits : List UInt8) : List UInt8 :=
  match digits.dropWhile (· == 48) with
  | [] => [48]
  | first :: rest => first :: rest

/-- Every character is the digit of a value below the base. -/
def DigitsOf (base : ℕ) (digits : List UInt8) : Prop :=
  ∀ digit ∈ digits, ∃ value < base, digit = hexDigit value

theorem decimalDigits_eq_printed (value : ℕ) : decimalDigits value = printed 10 value := rfl

/-! ## Texts of digits -/

section

variable {base larger : ℕ} {digits : List UInt8}

theorem DigitsOf.mono (hdigits : DigitsOf base digits) (hle : base ≤ larger) :
    DigitsOf larger digits := by
  intro digit hmem
  obtain ⟨value, hvalue, rfl⟩ := hdigits digit hmem
  exact ⟨value, by omega, rfl⟩

theorem DigitsOf.tail {digit : UInt8} (hdigits : DigitsOf base (digit :: digits)) :
    DigitsOf base digits :=
  fun other hmem => hdigits other (List.mem_cons_of_mem _ hmem)

theorem DigitsOf.append {others : List UInt8} (hdigits : DigitsOf base digits)
    (hothers : DigitsOf base others) : DigitsOf base (digits ++ others) := by
  intro digit hmem
  rcases List.mem_append.mp hmem with hmem | hmem
  · exact hdigits digit hmem
  · exact hothers digit hmem

theorem digitsOf_zeros (hbase : 0 < base) (count : ℕ) :
    DigitsOf base (List.replicate count 48) := by
  intro digit hmem
  exact ⟨0, hbase, List.eq_of_mem_replicate hmem⟩

theorem digitsOf_printed (hbase : 1 < base) (value : ℕ) : DigitsOf base (printed base value) := by
  intro digit hmem
  unfold printed at hmem
  split at hmem
  · exact ⟨0, by omega, List.mem_singleton.mp hmem⟩
  · obtain ⟨place, hplace, rfl⟩ := List.mem_map.mp hmem
    exact ⟨place, Nat.digits_lt_base hbase (List.mem_reverse.mp hplace), rfl⟩

theorem isDigit_hexDigit : ∀ value < 10, isDigit (hexDigit value) = true := by decide

/-- Digits below ten are what `%d` takes. -/
theorem DigitsOf.isDigit (hdigits : DigitsOf 10 digits) :
    ∀ digit ∈ digits, isDigit digit = true := by
  intro digit hmem
  obtain ⟨value, hvalue, rfl⟩ := hdigits digit hmem
  exact isDigit_hexDigit value hvalue

theorem DigitsOf.isHexDigit (hdigits : DigitsOf base digits) (hbase : base ≤ 16) :
    ∀ digit ∈ digits, isHexDigit digit = true := by
  intro digit hmem
  obtain ⟨value, hvalue, rfl⟩ := hdigits digit hmem
  rw [CString.isHexDigit, hexValue?_hexDigit value (by omega)]
  rfl

/-- `%d` writes digits, and a sign at most. -/
theorem mem_decimal {value : ℤ} {character : UInt8} (hmem : character ∈ decimal value) :
    character = 45 ∨ CString.isDigit character = true := by
  have hdigits : ∀ digit ∈ decimalDigits value.natAbs, CString.isDigit digit = true :=
    (digitsOf_printed (by decide) value.natAbs).isDigit
  unfold decimal at hmem
  split at hmem
  · rcases List.mem_cons.mp hmem with heq | hmem
    · exact .inl heq
    · exact .inr (hdigits character hmem)
  · exact .inr (hdigits character hmem)

/-! ## Reading -/

/-- The value of one digit. -/
def digitValue (digit : UInt8) : ℕ :=
  (hexValue? digit).getD 0

theorem digitValue_hexDigit {value : ℕ} (hvalue : value < 16) :
    digitValue (hexDigit value) = value := by
  rw [digitValue, hexValue?_hexDigit value hvalue, Option.getD_some]

/-- Reading from the first digit on and `Nat.ofDigits` from the last. -/
theorem digitsValue_eq_ofDigits (base : ℕ) (digits : List UInt8) :
    digitsValue base digits = Nat.ofDigits base (digits.map digitValue).reverse := by
  induction digits using List.reverseRecOn with
  | nil => rfl
  | append_singleton digits digit ih =>
      rw [digitsValue, List.foldl_append, List.foldl_cons, List.foldl_nil, ← digitsValue, ih,
        List.map_append, List.reverse_append, List.map_singleton, List.reverse_singleton,
        List.singleton_append, Nat.ofDigits_cons]
      show _ * base + digitValue digit = _
      ring

theorem digitsValue_zero_cons (base : ℕ) (digits : List UInt8) :
    digitsValue base (48 :: digits) = digitsValue base digits := by
  rw [digitsValue, List.foldl_cons, Nat.zero_mul, Nat.zero_add]
  rfl

theorem digitsValue_zeros (base count : ℕ) (digits : List UInt8) :
    digitsValue base (List.replicate count 48 ++ digits) = digitsValue base digits := by
  induction count with
  | zero => rfl
  | succ count ih => rw [List.replicate_succ, List.cons_append, digitsValue_zero_cons, ih]

theorem stripped_zero_cons (digits : List UInt8) : stripped (48 :: digits) = stripped digits :=
  rfl

theorem stripped_cons {digit : UInt8} (hdigit : digit ≠ 48) (digits : List UInt8) :
    stripped (digit :: digits) = digit :: digits := by
  rw [stripped, List.dropWhile_cons_of_neg (by simpa using hdigit)]

theorem DigitsOf.stripped (hbase : 0 < base) (hdigits : DigitsOf base digits) :
    DigitsOf base (stripped digits) := by
  induction digits with
  | nil => exact digitsOf_zeros hbase 1
  | cons digit digits ih =>
      by_cases hdigit : digit = 48
      · rw [hdigit, stripped_zero_cons]
        exact ih hdigits.tail
      · rw [stripped_cons hdigit]
        exact hdigits

theorem stripped_ne_nil (digits : List UInt8) : stripped digits ≠ [] := by
  unfold stripped
  split
  · exact List.cons_ne_nil _ _
  · exact List.cons_ne_nil _ _

/-- Leading zeros do not matter to the value. -/
theorem digitsValue_stripped (base : ℕ) (digits : List UInt8) :
    digitsValue base (stripped digits) = digitsValue base digits := by
  induction digits with
  | nil => exact digitsValue_zero_cons base []
  | cons digit digits ih =>
      by_cases hdigit : digit = 48
      · rw [hdigit, stripped_zero_cons, ih, digitsValue_zero_cons]
      · rw [stripped_cons hdigit]

/-- What is printed reads back in the same base. -/
theorem digitsValue_printed (hbase : 1 < base) (hbase' : base ≤ 16) (value : ℕ) :
    digitsValue base (printed base value) = value := by
  unfold printed
  split
  · rename_i hzero
    rw [hzero, digitsValue_zero_cons]
    rfl
  · have hplaces : (Nat.digits base value).reverse.map (digitValue ∘ hexDigit) =
        (Nat.digits base value).reverse.map id := by
      apply List.map_congr_left
      intro place hplace
      have hlt := Nat.digits_lt_base hbase (List.mem_reverse.mp hplace)
      exact digitValue_hexDigit (by omega)
    calc digitsValue base ((Nat.digits base value).reverse.map hexDigit)
        = Nat.ofDigits base
            (((Nat.digits base value).reverse.map hexDigit).map digitValue).reverse :=
          digitsValue_eq_ofDigits _ _
      _ = Nat.ofDigits base (Nat.digits base value).reverse.reverse := by
          rw [List.map_map, hplaces, List.map_id]
      _ = value := by rw [List.reverse_reverse, Nat.ofDigits_digits]

/-- The number that `%d` has written. -/
def signedValue : List UInt8 → ℤ
  | [] => 0
  | first :: digits =>
      if first = 45 then -(digitsValue 10 digits : ℤ) else digitsValue 10 (first :: digits)

theorem signedValue_of_digits (hdigits : DigitsOf 10 digits) :
    signedValue digits = digitsValue 10 digits := by
  cases digits with
  | nil => rfl
  | cons first digits =>
      obtain ⟨value, hvalue, rfl⟩ := hdigits first List.mem_cons_self
      have hsign : ∀ value < 10, hexDigit value ≠ 45 := by decide
      rw [signedValue, if_neg (hsign value hvalue)]

theorem signedValue_minus (digits : List UInt8) :
    signedValue (45 :: digits) = -(digitsValue 10 digits : ℤ) := by
  rw [signedValue, if_pos rfl]

/-- Padding does not matter to the number. -/
theorem signedValue_decimalPadded (width : ℕ) (value : ℤ) :
    signedValue (decimalPadded width value) = value := by
  have hdigits : DigitsOf 10 (decimalDigits value.natAbs) := digitsOf_printed (by decide) _
  have hvalue : digitsValue 10 (decimalDigits value.natAbs) = value.natAbs :=
    digitsValue_printed (by decide) (by decide) _
  unfold decimalPadded
  dsimp only
  split
  · rw [signedValue_minus, digitsValue_zeros, hvalue]
    omega
  · rw [signedValue_of_digits ((digitsOf_zeros (by decide) _).append hdigits), digitsValue_zeros,
      hvalue]
    omega

theorem decimal_eq_padded (value : ℤ) : decimal value = decimalPadded 0 value := by
  rw [decimal, decimalPadded]
  simp

theorem signedValue_decimal (value : ℤ) : signedValue (decimal value) = value := by
  rw [decimal_eq_padded, signedValue_decimalPadded]

/-- A digit that is no zero begins the number that is printed for it and what follows. -/
theorem printed_digitsValue_cons (hbase : 1 < base) (hbase' : base ≤ 16) {digit : UInt8}
    (hdigit : digit ≠ 48) (hdigits : DigitsOf base (digit :: digits)) :
    printed base (digitsValue base (digit :: digits)) = digit :: digits := by
  let places := (digit :: digits).map digitValue
  have hplaces : ∀ other ∈ digit :: digits,
      digitValue other < base ∧ hexDigit (digitValue other) = other := by
    intro other hmem
    obtain ⟨value, hvalue, rfl⟩ := hdigits other hmem
    rw [digitValue_hexDigit (by omega)]
    exact ⟨hvalue, rfl⟩
  have hbelow : ∀ place ∈ places.reverse, place < base := by
    intro place hmem
    obtain ⟨other, hother, rfl⟩ := List.mem_map.mp (List.mem_reverse.mp hmem)
    exact (hplaces other hother).1
  have hlast : ∀ hne : places.reverse ≠ [], places.reverse.getLast hne ≠ 0 := by
    intro hne hzero
    rw [List.getLast_reverse] at hzero
    apply hdigit
    rw [← (hplaces digit (by simp)).2]
    exact congrArg hexDigit hzero
  have hplacesOf : Nat.digits base (digitsValue base (digit :: digits)) = places.reverse := by
    rw [digitsValue_eq_ofDigits]
    exact Nat.digits_ofDigits base hbase _ hbelow hlast
  have hpos : digitsValue base (digit :: digits) ≠ 0 := by
    intro hzero
    rw [hzero, Nat.digits_zero] at hplacesOf
    exact absurd (List.reverse_eq_nil_iff.mp hplacesOf.symm) (List.cons_ne_nil _ _)
  have hcharacters : (digit :: digits).map (hexDigit ∘ digitValue) = (digit :: digits).map id :=
    List.map_congr_left fun other hmem => (hplaces other hmem).2
  rw [printed, if_neg hpos, hplacesOf, List.reverse_reverse, List.map_map, hcharacters,
    List.map_id]

/-- **A text of digits that is read and printed** comes back without its leading zeros. -/
theorem printed_digitsValue (hbase : 1 < base) (hbase' : base ≤ 16)
    (hdigits : DigitsOf base digits) :
    printed base (digitsValue base digits) = stripped digits := by
  induction digits with
  | nil => rfl
  | cons digit digits ih =>
      by_cases hdigit : digit = 48
      · rw [hdigit, digitsValue_zero_cons, stripped_zero_cons, ih hdigits.tail]
      · rw [printed_digitsValue_cons hbase hbase' hdigit hdigits, stripped_cons hdigit]

/-- A text of digits is read by `%ld` as its value. -/
theorem scanDecimal_of_digits (hdigits : DigitsOf 10 digits) (hnonempty : digits ≠ [])
    (hvalue : digitsValue 10 digits < 2 ^ 63) :
    scanDecimal digits = some ((digitsValue 10 digits : ℤ), []) := by
  obtain ⟨first, rest, rfl⟩ := List.exists_cons_of_ne_nil hnonempty
  have hsign := scanSign_of_digit (hdigits.isHexDigit (by decide) first (by simp)) rest
  have htake := List.takeWhile_eq_self_iff.mpr hdigits.isDigit
  have hdrop := List.dropWhile_eq_nil_iff.mpr hdigits.isDigit
  simp only [scanDecimal, hsign, htake, hdrop, if_neg hnonempty, Bool.false_eq_true, if_false]
  congr 2
  omega

end

end CString
