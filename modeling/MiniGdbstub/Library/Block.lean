import Mathlib.Data.List.Basic

/-!
# Blocks of memory

A block is the list of the cells of one allocated object.  Every access names an
offset and a length and is checked against the block: `read?`, `write?` and
`move?` answer `none` when the access would leave it.  The lemmas say what a
block holds after a write, at the place written and at every place that is
disjoint from it.
-/

namespace Block

variable {α : Type*}

/-- The cells `offset .. offset + count - 1`. -/
def slice (block : List α) (offset count : ℕ) : List α :=
  (block.drop offset).take count

/-- Read `count` cells at `offset`. -/
def read? (block : List α) (offset count : ℕ) : Option (List α) :=
  if offset + count ≤ block.length then some (slice block offset count) else none

/-- The block with `data` written over its cells at `offset`. -/
def overwrite (block : List α) (offset : ℕ) (data : List α) : List α :=
  block.take offset ++ (data ++ block.drop (offset + data.length))

/-- Write `data` at `offset`. -/
def write? (block : List α) (offset : ℕ) (data : List α) : Option (List α) :=
  if offset + data.length ≤ block.length then some (overwrite block offset data) else none

/-- Copy `count` cells from `source` to `target`; the two may overlap, the cells
are read before they are written.  Moving no cells touches nothing. -/
def move? (block : List α) (target source count : ℕ) : Option (List α) :=
  if count = 0 then some block
  else (read? block source count).bind fun cells => write? block target cells

/-! ## Lengths -/

@[simp] theorem length_slice (block : List α) (offset count : ℕ) :
    (slice block offset count).length = min count (block.length - offset) := by
  simp [slice]

theorem length_overwrite {block data : List α} {offset : ℕ}
    (hfits : offset + data.length ≤ block.length) :
    (overwrite block offset data).length = block.length := by
  simp only [overwrite, List.length_append, List.length_take, List.length_drop]
  omega

theorem read?_eq_some {block cells : List α} {offset count : ℕ} :
    read? block offset count = some cells ↔
      offset + count ≤ block.length ∧ slice block offset count = cells := by
  simp [read?, Option.ite_none_right_eq_some]

theorem read?_start {block : List α} {count : ℕ} (hfits : count ≤ block.length) :
    read? block 0 count = some (block.take count) := by
  rw [read?, if_pos (by rwa [Nat.zero_add]), slice, List.drop_zero]

theorem write?_eq_some {block next data : List α} {offset : ℕ} :
    write? block offset data = some next ↔
      offset + data.length ≤ block.length ∧ overwrite block offset data = next := by
  simp [write?, Option.ite_none_right_eq_some]

/-- A write behind a part that stays. -/
theorem write?_append {before rest data : List α} {offset : ℕ} (hoffset : before.length = offset)
    (hfits : data.length ≤ rest.length) :
    write? (before ++ rest) offset data = some (before ++ data ++ rest.drop data.length) := by
  subst hoffset
  refine write?_eq_some.mpr ⟨by rw [List.length_append]; omega, ?_⟩
  rw [overwrite, List.take_left, List.drop_length_add_append, List.append_assoc]

theorem write?_append_eq_none {before rest data : List α} {offset : ℕ}
    (hoffset : before.length = offset) (hlong : rest.length < data.length) :
    write? (before ++ rest) offset data = none := by
  rw [write?, if_neg (by rw [List.length_append]; omega)]

/-! ## Reading what was written -/

theorem getElem?_overwrite {block data : List α} {offset : ℕ}
    (hfits : offset + data.length ≤ block.length) (index : ℕ) :
    (overwrite block offset data)[index]? =
      if offset ≤ index ∧ index < offset + data.length then data[index - offset]?
      else block[index]? := by
  have htake : (block.take offset).length = offset := by
    rw [List.length_take]
    omega
  simp only [overwrite]
  by_cases hbefore : index < offset
  · rw [List.getElem?_append_left (by omega), List.getElem?_take_of_lt hbefore,
      if_neg (by omega)]
  · rw [List.getElem?_append_right (by omega), htake]
    by_cases hinside : index < offset + data.length
    · rw [List.getElem?_append_left (by omega), if_pos (by omega)]
    · rw [List.getElem?_append_right (by omega), if_neg (by omega), List.getElem?_drop]
      congr 1
      omega

theorem getElem?_slice (block : List α) (offset count index : ℕ) :
    (slice block offset count)[index]? =
      if index < count then block[offset + index]? else none := by
  simp only [slice, List.getElem?_take, List.getElem?_drop]

/-- The cells just written are read back. -/
theorem slice_overwrite_self {block data : List α} {offset : ℕ}
    (hfits : offset + data.length ≤ block.length) :
    slice (overwrite block offset data) offset data.length = data := by
  apply List.ext_getElem?
  intro index
  rw [getElem?_slice, getElem?_overwrite hfits]
  by_cases hindex : index < data.length
  · rw [if_pos hindex, if_pos (by omega)]
    congr 1
    omega
  · rw [if_neg hindex, List.getElem?_eq_none (by omega)]

/-- A write leaves every disjoint slice alone. -/
theorem slice_overwrite_of_disjoint {block data : List α} {offset other count : ℕ}
    (hfits : offset + data.length ≤ block.length)
    (hdisjoint : other + count ≤ offset ∨ offset + data.length ≤ other) :
    slice (overwrite block offset data) other count = slice block other count := by
  apply List.ext_getElem?
  intro index
  rw [getElem?_slice, getElem?_slice, getElem?_overwrite hfits]
  by_cases hindex : index < count
  · rw [if_pos hindex, if_pos hindex, if_neg (by omega)]
  · rw [if_neg hindex, if_neg hindex]

/-- Neighbouring slices are one slice. -/
theorem slice_append_slice (block : List α) (offset first second : ℕ) :
    slice block offset first ++ slice block (offset + first) second =
      slice block offset (first + second) := by
  rw [slice, slice, slice, ← List.drop_drop, ← List.take_add]

/-- A move to the front of the block: the cells moved, and behind them what was
there before. -/
theorem move?_zero_eq_some {block next : List α} {source count : ℕ} :
    move? block 0 source count = some next ↔
      (count = 0 ∨ source + count ≤ block.length) ∧
        next = slice block source count ++ block.drop count := by
  simp only [move?]
  split
  · rename_i hcount
    subst hcount
    simp [slice, eq_comm]
  · rename_i hcount
    simp only [Option.bind_eq_some_iff, read?_eq_some, write?_eq_some, hcount, false_or]
    constructor
    · rintro ⟨cells, ⟨hfits, rfl⟩, -, rfl⟩
      refine ⟨hfits, ?_⟩
      rw [overwrite, List.take_zero, List.nil_append, length_slice]
      congr 2
      omega
    · rintro ⟨hfits, rfl⟩
      refine ⟨_, ⟨hfits, rfl⟩, ?_, ?_⟩
      · rw [length_slice]
        omega
      · rw [overwrite, List.take_zero, List.nil_append, length_slice]
        congr 2
        omega

end Block
