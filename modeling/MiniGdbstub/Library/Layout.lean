import Mathlib.Algebra.GroupWithZero.Nat
import MiniGdbstub.Library.Block

/-!
# Slots of different sizes in one block

Consecutive slots, the `i`-th of `size i` cells, fill a block from its beginning.
`offset size i` is where the `i`-th slot starts: a running sum.  Writing one slot
leaves every other slot alone, and a block whose slots are known is known.
-/

namespace Layout

/-- Where slot `i` starts. -/
def offset (size : ℕ → ℕ) : ℕ → ℕ
  | 0 => 0
  | i + 1 => offset size i + size i

@[simp] theorem offset_zero (size : ℕ → ℕ) : offset size 0 = 0 := rfl

theorem offset_succ (size : ℕ → ℕ) (i : ℕ) : offset size (i + 1) = offset size i + size i := rfl

theorem offset_eq_sum (size : ℕ → ℕ) (n : ℕ) :
    offset size n = ((List.range n).map size).sum := by
  induction n with
  | zero => rfl
  | succ n ih => rw [offset_succ, List.range_succ, List.map_append, List.sum_append, ih,
      List.map_singleton, List.sum_singleton]

theorem offset_mono (size : ℕ → ℕ) {i n : ℕ} (hin : i ≤ n) : offset size i ≤ offset size n := by
  induction hin with
  | refl => exact Nat.le_refl _
  | step _ ih =>
      rw [offset_succ]
      omega

/-- A slot ends before the next one starts. -/
theorem offset_add_size_le (size : ℕ → ℕ) {i n : ℕ} (hin : i < n) :
    offset size i + size i ≤ offset size n :=
  offset_mono size hin

/-- Slots that are not empty take at least a cell each. -/
theorem le_offset {size : ℕ → ℕ} {n : ℕ} (hsize : ∀ i < n, 0 < size i) : n ≤ offset size n := by
  induction n with
  | zero => exact Nat.zero_le _
  | succ n ih =>
      have hbefore := ih fun i hi => hsize i (by omega)
      have hlast := hsize n (by omega)
      rw [offset_succ]
      omega

/-- Slots of one size. -/
theorem offset_of_const {size : ℕ → ℕ} {width n : ℕ} (hsize : ∀ i < n, size i = width) :
    offset size n = n * width := by
  induction n with
  | zero => simp
  | succ n ih =>
      rw [offset_succ, ih fun i hi => hsize i (by omega), hsize n (by omega), Nat.succ_mul]

/-- Slots that are on average no larger than the smallest are all of its size. -/
theorem size_eq_of_offset_le {size : ℕ → ℕ} {least : ℕ} (n : ℕ)
    (hleast : ∀ i < n, least ≤ size i) (hoffset : offset size n ≤ n * least) :
    ∀ i < n, size i = least := by
  have hlower : ∀ m ≤ n, m * least ≤ offset size m := by
    intro m
    induction m with
    | zero => simp
    | succ m ih =>
        intro hm
        have hm' := ih (by omega)
        have hsize := hleast m (by omega)
        rw [offset_succ, Nat.succ_mul]
        omega
  induction n with
  | zero => simp
  | succ n ih =>
      have hbelow := hlower n (by omega)
      have hlast := hleast n (by omega)
      rw [offset_succ, Nat.succ_mul] at hoffset
      intro i hi
      rcases Nat.lt_succ_iff_lt_or_eq.mp hi with hlt | rfl
      · exact ih (fun j hj => hleast j (by omega)) (by omega)
          (fun m hm => hlower m (by omega)) i hlt
      · omega

variable {α : Type*}

/-- The cells of slot `i`. -/
def slot (size : ℕ → ℕ) (block : List α) (i : ℕ) : List α :=
  Block.slice block (offset size i) (size i)

theorem length_slot {size : ℕ → ℕ} {block : List α} {i n : ℕ} (hin : i < n)
    (hblock : offset size n ≤ block.length) : (slot size block i).length = size i := by
  have hend := offset_add_size_le size hin
  rw [slot, Block.length_slice]
  omega

/-- A slot that has been written holds what was written. -/
theorem slot_overwrite_self {size : ℕ → ℕ} {block data : List α} {i n : ℕ} (hin : i < n)
    (hblock : offset size n ≤ block.length) (hdata : data.length = size i) :
    slot size (Block.overwrite block (offset size i) data) i = data := by
  have hend := offset_add_size_le size hin
  have hwritten : Block.slice (Block.overwrite block (offset size i) data) (offset size i)
      data.length = data := Block.slice_overwrite_self (by omega)
  rwa [hdata] at hwritten

/-- Writing a slot leaves the others alone. -/
theorem slot_overwrite_of_ne {size : ℕ → ℕ} {block data : List α} {i j n : ℕ} (hin : i < n)
    (hij : j ≠ i) (hblock : offset size n ≤ block.length)
    (hdata : data.length = size i) :
    slot size (Block.overwrite block (offset size i) data) j = slot size block j := by
  have hend := offset_add_size_le size hin
  refine Block.slice_overwrite_of_disjoint (by omega) ?_
  rcases Nat.lt_or_gt_of_ne hij with hlt | hgt
  · exact Or.inl (offset_add_size_le size hlt)
  · rw [hdata]
    exact Or.inr (offset_add_size_le size hgt)

/-- In the values one after the other, each slot holds its value. -/
theorem slot_flatMap {size : ℕ → ℕ} {value : ℕ → List α} {n : ℕ}
    (hsize : ∀ i < n, (value i).length = size i) :
    ((List.range n).flatMap value).length = offset size n ∧
      ∀ i < n, slot size ((List.range n).flatMap value) i = value i := by
  induction n with
  | zero => simp
  | succ n ih =>
      obtain ⟨hlength, hslots⟩ := ih fun i hi => hsize i (by omega)
      have hlast := hsize n (by omega)
      simp only [List.range_succ, List.flatMap_append, List.flatMap_cons, List.flatMap_nil,
        List.append_nil]
      refine ⟨by rw [List.length_append, hlength, hlast, offset_succ], ?_⟩
      intro i hi
      rcases Nat.lt_succ_iff_lt_or_eq.mp hi with hlt | rfl
      · have hend := offset_add_size_le size hlt
        rw [← hslots i hlt, slot, slot, Block.slice, Block.slice,
          List.drop_append_of_le_length (by omega),
          List.take_append_of_le_length (by rw [List.length_drop]; omega)]
      · rw [slot, Block.slice, ← hlength, List.drop_left, ← hlast, List.take_length]

end Layout
