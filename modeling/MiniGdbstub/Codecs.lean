import MiniGdbstub.Library.Program
import MiniGdbstub.Translate

/-!
# The hexadecimal codecs, store by store

`hex_to_str` and `str_to_hex` as loops that write one character or byte after the other,
with the place of every store.  The places are computed from the counter in `int`
arithmetic, `i * 2` and `bytes * 2`, which overflows from `2 ^ 30` bytes on.

Up to there the stores are those of `hexToStr` and `strToHex`, one for each cell and in
order (`hexToStrStores_eq`, `strToHexStores_eq`), and the two functions are inverse to each
other; `codecsInverse_iff` says that the bound is exact.
-/

namespace MiniGdbstub

open CString

/-! ## Stores -/

/-- A store: the offset from the pointer, and the character or byte. -/
abbrev Store := ℤ × UInt8

/-- The result of an operation on `int`. -/
def intResult (value : ℤ) : Except Fault ℤ :=
  if -2 ^ 31 ≤ value ∧ value < 2 ^ 31 then .ok value else .error .intOverflow

/-- One store into a block. -/
def store (block : List UInt8) (access : Store) : Except Fault (List UInt8) :=
  if 0 ≤ access.1 ∧ access.1.toNat < block.length then
    .ok (block.set access.1.toNat access.2)
  else
    .error .outOfBounds

/-- Stores at consecutive places. -/
def consecutive : ℕ → List UInt8 → List Store
  | _, [] => []
  | place, cell :: cells => (place, cell) :: consecutive (place + 1) cells

/-! ## The two loops -/

/-- The loop of `hex_to_str` from `i` on. -/
def hexToStrLoop (num : List UInt8) : (todo i : ℕ) → Except Fault (List Store)
  | 0, _ => .ok []
  | todo + 1, i => do
      let ch ← inBounds num[i]?
      let high ← intResult (i * 2)
      let low ← intResult (i * 2 + 1)
      let rest ← hexToStrLoop num todo (i + 1)
      return (high, hexchars.getD (ch >>> 4).toNat 0) ::
        (low, hexchars.getD (ch &&& 0xf).toNat 0) :: rest

/-- The stores of `hex_to_str` to `str`. -/
def hexToStrStores (num : List UInt8) (bytes : ℤ) : Except Fault (List Store) := do
  let stores ← hexToStrLoop num bytes.toNat 0
  let last ← intResult (bytes * 2)
  return stores ++ [(last, 0)]

/-- The loop of `str_to_hex` from `i` on. -/
def strToHexLoop (str : List UInt8) : (todo i : ℕ) → Except Fault (List Store)
  | 0, _ => .ok []
  | todo + 1, i => do
      let high ← intResult (i * 2)
      let chHigh ← inBounds str[high.toNat]?
      let low ← intResult (i * 2 + 1)
      let chLow ← inBounds str[low.toNat]?
      let rest ← strToHexLoop str todo (i + 1)
      return ((i : ℤ), charToHex chHigh <<< 4 ||| charToHex chLow) :: rest

/-- The stores of `str_to_hex` to `num`. -/
def strToHexStores (str : List UInt8) (bytes : ℤ) : Except Fault (List Store) :=
  strToHexLoop str bytes.toNat 0

/-- `hex_to_str`: the block `str` after it. -/
def hexToStrInto (num str : List UInt8) (bytes : ℤ) : Except Fault (List UInt8) := do
  let stores ← hexToStrStores num bytes
  stores.foldlM store str

/-- `str_to_hex`: the block `num` after it. -/
def strToHexInto (str num : List UInt8) (bytes : ℤ) : Except Fault (List UInt8) := do
  let stores ← strToHexStores str bytes
  stores.foldlM store num

/-- The two functions are inverse to each other on `n` bytes: whatever the blocks held before,
bytes come back as they were, digits come back in lower case with a zero behind them, the
cells behind stay, and every cell is written once. -/
structure CodecsInverse (n : ℕ) : Prop where
  bytes : ∀ data str num : List UInt8, data.length = n → 2 * n + 1 ≤ str.length →
    n ≤ num.length → ∃ text, hexToStrInto data str (asInt n) = .ok text ∧
      strToHexInto text num (asInt n) = .ok (data ++ num.drop n)
  digits : ∀ digits str num : List UInt8, digits.length = 2 * n →
    (∀ digit ∈ digits, isHexDigit digit = true) → 2 * n + 1 ≤ str.length → n ≤ num.length →
    ∃ data, strToHexInto digits num (asInt n) = .ok data ∧
      hexToStrInto data str (asInt n) =
        .ok (digits.map lowerCase ++ 0 :: str.drop (2 * n + 1))
  encoderStores : ∀ num : List UInt8, n ≤ num.length → ∃ stores,
    hexToStrStores num (asInt n) = .ok stores ∧
      stores.map Prod.fst = (List.range (2 * n + 1)).map Int.ofNat
  decoderStores : ∀ str : List UInt8, 2 * n ≤ str.length → ∃ stores,
    strToHexStores str (asInt n) = .ok stores ∧
      stores.map Prod.fst = (List.range n).map Int.ofNat

/-! ## Consecutive stores -/

theorem intResult_double {i : ℕ} (hi : i < 2 ^ 30) :
    intResult ((i : ℤ) * 2) = .ok ((2 * i : ℕ) : ℤ) := by
  rw [Int.mul_comm, ← Nat.cast_ofNat, ← Nat.cast_mul]
  exact if_pos ⟨by omega, by omega⟩

theorem intResult_double_succ {i : ℕ} (hi : i < 2 ^ 30) :
    intResult ((i : ℤ) * 2 + 1) = .ok ((2 * i + 1 : ℕ) : ℤ) := by
  rw [Int.mul_comm, ← Nat.cast_ofNat, ← Nat.cast_mul, ← Nat.cast_succ]
  exact if_pos ⟨by omega, by omega⟩

theorem consecutive_append (place : ℕ) (first second : List UInt8) :
    consecutive place (first ++ second) =
      consecutive place first ++ consecutive (place + first.length) second := by
  induction first generalizing place with
  | nil => rfl
  | cons cell first ih =>
      rw [List.cons_append, consecutive, consecutive, ih, List.cons_append, List.length_cons]
      congr 3
      omega

theorem consecutive_places (place : ℕ) (cells : List UInt8) :
    (consecutive place cells).map Prod.fst = (List.range' place cells.length).map Int.ofNat := by
  induction cells generalizing place with
  | nil => rfl
  | cons cell cells ih =>
      rw [consecutive, List.map_cons, ih, List.length_cons, List.range'_succ, List.map_cons]
      rfl

/-- Consecutive stores overwrite a part of the block. -/
theorem foldlM_consecutive (place : ℕ) (cells : List UInt8) :
    ∀ block : List UInt8, place + cells.length ≤ block.length →
      (consecutive place cells).foldlM store block = .ok (Block.overwrite block place cells) := by
  induction cells generalizing place with
  | nil =>
      intro block _
      simp [consecutive, Block.overwrite, pure, Except.pure]
  | cons cell cells ih =>
      intro block hfits
      rw [List.length_cons] at hfits
      have hstore : store block ((place : ℤ), cell) = .ok (block.set place cell) :=
        if_pos ⟨by simp, by simp; omega⟩
      rw [consecutive, List.foldlM_cons, hstore]
      dsimp only [bind, Except.bind]
      rw [ih (place + 1) _ (by rw [List.length_set]; omega)]
      congr 1
      have hcursor := set_cursor (show place < block.length by omega) cell cells
      simpa only [Block.overwrite, List.append_assoc, List.cons_append] using hcursor

/-! ## The loops below the bound -/

theorem hexToStrLoop_eq {num : List UInt8} (todo : ℕ) :
    ∀ i, i + todo ≤ num.length → i + todo ≤ 2 ^ 30 →
      hexToStrLoop num todo i = .ok (consecutive (2 * i) (hexText (Block.slice num i todo))) := by
  induction todo with
  | zero =>
      intro i _ _
      rw [Block.slice, List.take_zero]
      rfl
  | succ todo ih =>
      intro i hlength hbound
      have hslice : Block.slice num i (todo + 1) = num[i] :: Block.slice num (i + 1) todo := by
        rw [Block.slice, List.drop_eq_getElem_cons (by omega), List.take_succ_cons]
        rfl
      have hdigits := hexchars_eq_hexByte num[i]
      rw [hslice, hexText_cons, ← hdigits, hexToStrLoop, List.getElem?_eq_getElem (by omega),
        intResult_double (by omega), intResult_double_succ (by omega),
        ih (i + 1) (by omega) (by omega)]
      rfl

theorem strToHexLoop_eq {str : List UInt8} (todo : ℕ) :
    ∀ i, 2 * (i + todo) ≤ str.length → i + todo ≤ 2 ^ 30 →
      strToHexLoop str todo i =
        .ok (consecutive i (hexPairs (Block.slice str (2 * i) (2 * todo)))) := by
  induction todo with
  | zero =>
      intro i _ _
      rw [Nat.mul_zero, Block.slice, List.take_zero]
      rfl
  | succ todo ih =>
      intro i hlength hbound
      have hslice : Block.slice str (2 * i) (2 * (todo + 1)) =
          str[2 * i] :: str[2 * i + 1] :: Block.slice str (2 * (i + 1)) (2 * todo) := by
        rw [Block.slice, List.drop_eq_getElem_cons (by omega),
          List.drop_eq_getElem_cons (i := 2 * i + 1) (by omega)]
        rfl
      rw [hslice, strToHexLoop, intResult_double (by omega), intResult_double_succ (by omega),
        ih (i + 1) (by omega) (by omega)]
      simp only [bind, Except.bind, Int.toNat_natCast]
      rw [List.getElem?_eq_getElem (by omega), List.getElem?_eq_getElem (by omega)]
      rfl

/-- The stores of `hex_to_str` are the cells of `hexToStr`, in order. -/
theorem hexToStrStores_eq {num : List UInt8} {count : ℕ} (hlength : count ≤ num.length)
    (hcount : count < 2 ^ 30) :
    hexToStrStores num count = (hexToStr num count).map (consecutive 0) := by
  rw [hexToStrStores, Int.toNat_natCast, hexToStrLoop_eq count 0 (by omega) (by omega),
    intResult_double hcount, hexToStr_eq hlength]
  have hplace : (hexText (num.take count)).length = 2 * count := by
    rw [length_hexText, List.length_take, Nat.min_eq_left hlength]
  show Except.ok _ = Except.ok _
  rw [consecutive_append, hplace, Nat.zero_add, Block.slice, List.drop_zero]
  rfl

/-- The stores of `str_to_hex` are the cells of `strToHex`, in order. -/
theorem strToHexStores_eq {str : List UInt8} {count : ℕ} (hlength : 2 * count ≤ str.length)
    (hcount : count ≤ 2 ^ 30) :
    strToHexStores str count = (strToHex str count).map (consecutive 0) := by
  rw [strToHexStores, Int.toNat_natCast, strToHexLoop_eq count 0 (by omega) (by omega),
    strToHex_eq (by simpa using hlength), Int.toNat_natCast, Block.slice]
  rfl

/-! ## The two functions -/

theorem hexToStrInto_eq {num str : List UInt8} {count : ℕ} (hlength : count ≤ num.length)
    (hcount : count < 2 ^ 30) (hroom : 2 * count + 1 ≤ str.length) :
    hexToStrInto num str count =
      .ok (hexText (num.take count) ++ 0 :: str.drop (2 * count + 1)) := by
  have hplaces : (hexText (num.take count) ++ [0]).length = 2 * count + 1 := by
    rw [List.length_append, length_hexText, List.length_take, Nat.min_eq_left hlength]
    rfl
  rw [hexToStrInto, hexToStrStores_eq hlength hcount, hexToStr_eq hlength]
  show (consecutive 0 _).foldlM store str = _
  rw [foldlM_consecutive 0 _ str (by omega), Block.overwrite, hplaces]
  simp

theorem strToHexInto_eq {str num : List UInt8} {count : ℕ} (hlength : 2 * count ≤ str.length)
    (hcount : count ≤ 2 ^ 30) (hroom : count ≤ num.length) :
    strToHexInto str num count = .ok (hexPairs (str.take (2 * count)) ++ num.drop count) := by
  have hplaces : (hexPairs (str.take (2 * count))).length = count := by
    rw [length_hexPairs (by rw [List.length_take, Nat.min_eq_left hlength])]
  rw [strToHexInto, strToHexStores_eq hlength hcount, strToHex_eq (by simpa using hlength)]
  show (consecutive 0 _).foldlM store num = _
  rw [Int.toNat_natCast, foldlM_consecutive 0 _ num (by omega), Block.overwrite, hplaces]
  simp

/-! ## From `2 ^ 30` bytes on -/

theorem length_hexToStrLoop {num : List UInt8} (todo : ℕ) :
    ∀ (i : ℕ) (stores : List Store), hexToStrLoop num todo i = .ok stores →
      stores.length = 2 * todo := by
  induction todo with
  | zero =>
      intro i stores hloop
      cases hloop
      rfl
  | succ todo ih =>
      intro i stores hloop
      obtain ⟨ch, -, hloop⟩ := Except.ok_bind_iff.mp hloop
      obtain ⟨high, -, hloop⟩ := Except.ok_bind_iff.mp hloop
      obtain ⟨low, -, hloop⟩ := Except.ok_bind_iff.mp hloop
      obtain ⟨rest, hrest, hloop⟩ := Except.ok_bind_iff.mp hloop
      cases hloop
      rw [List.length_cons, List.length_cons, ih (i + 1) rest hrest]
      omega

/-- What `hex_to_str` needs to write all it should. -/
theorem lt_of_encoderStores {num : List UInt8} {n : ℕ} {stores : List Store}
    (hstores : hexToStrStores num (asInt n) = .ok stores) (hlength : stores.length = 2 * n + 1) :
    n < 2 ^ 30 := by
  obtain ⟨looped, hloop, hstores⟩ := Except.ok_bind_iff.mp hstores
  obtain ⟨last, hlast, hstores⟩ := Except.ok_bind_iff.mp hstores
  cases hstores
  rw [List.length_append, length_hexToStrLoop _ 0 looped hloop, List.length_singleton] at hlength
  have hbound : -2 ^ 31 ≤ asInt n * 2 ∧ asInt n * 2 < 2 ^ 31 := by
    by_contra hover
    rw [intResult, if_neg hover] at hlast
    cases hlast
  omega

/-- **The codecs are inverse below `2 ^ 30` bytes.**  For every number of bytes: the round trips
hold for all bytes and all digits, and every cell is written once, if and only if `bytes * 2` is
an `int`. -/
theorem codecsInverse_iff (n : ℕ) : CodecsInverse n ↔ n < 2 ^ 30 := by
  constructor
  · intro hinverse
    obtain ⟨stores, hstores, hplaces⟩ :=
      hinverse.encoderStores (List.replicate n 0) (by rw [List.length_replicate])
    refine lt_of_encoderStores hstores ?_
    rw [← List.length_map Prod.fst, hplaces, List.length_map, List.length_range]
  · intro hn
    have hint : asInt n = n := asInt_of_lt (by omega)
    refine ⟨?_, ?_, ?_, ?_⟩
    · rintro data str num rfl hstr hnum
      rw [hint]
      refine ⟨_, hexToStrInto_eq le_rfl hn hstr, ?_⟩
      have hplaces : (hexText data).length = 2 * data.length := length_hexText data
      rw [List.take_length, strToHexInto_eq (by rw [List.length_append]; omega) hn.le hnum,
        ← hplaces, List.take_left, hexPairs_hexText]
    · intro digits str num hdigits hhex hstr hnum
      rw [hint]
      refine ⟨_, strToHexInto_eq (by omega) hn.le hnum, ?_⟩
      have hplaces : (hexPairs digits).length = n := length_hexPairs hdigits
      have hdecoded : (hexPairs digits ++ num.drop n).take n = hexPairs digits := by
        rw [← hplaces, List.take_left]
      rw [← hdigits, List.take_length,
        hexToStrInto_eq (by rw [List.length_append, hplaces]; omega) hn (by omega), hdecoded,
        hexText_hexPairs hdigits hhex, hdigits]
    · intro num hnum
      rw [hint, hexToStrStores_eq hnum hn, hexToStr_eq hnum]
      refine ⟨_, rfl, ?_⟩
      rw [consecutive_places, List.length_append, length_hexText, List.length_take,
        Nat.min_eq_left hnum, List.range_eq_range']
      rfl
    · intro str hstr
      rw [hint, strToHexStores_eq hstr hn.le, strToHex_eq (by simpa using hstr)]
      refine ⟨_, rfl, ?_⟩
      rw [consecutive_places, Int.toNat_natCast,
        length_hexPairs (by rw [List.length_take, Nat.min_eq_left hstr]), List.range_eq_range']

/-- `2 ^ 30` bytes: the places of the digits are still of type `int`, and that of the zero
behind them is not. -/
theorem hexToStr_overflows :
    hexToStrStores (List.replicate (2 ^ 30) 0) (asInt (2 ^ 30 : ℕ)) = .error .intOverflow ∧
      ¬ CodecsInverse (2 ^ 30) := by
  have hoverflow : hexToStrStores (List.replicate (2 ^ 30) 0) (asInt (2 ^ 30 : ℕ)) =
      .error .intOverflow := by
    rw [asInt_of_lt (by decide), hexToStrStores, Int.toNat_natCast,
      hexToStrLoop_eq _ 0 (by rw [List.length_replicate]; omega) (by omega)]
    rfl
  refine ⟨hoverflow, fun hinverse => ?_⟩
  obtain ⟨stores, hstores, -⟩ :=
    hinverse.encoderStores (List.replicate (2 ^ 30) 0) (by rw [List.length_replicate])
  rw [hoverflow] at hstores
  cases hstores

end MiniGdbstub
