import MiniGdbstub.Library.Block
import MiniGdbstub.Library.CString

/-!
# Texts in arrays

An array of characters that is filled piece by piece, each piece a string with its zero.
Wherever a piece is put, at the start or once there is a text: if the characters of all pieces
are of some kind, so are those of the text (`TextWith.overwrite`).
-/

namespace CString

/-- The text in the array ends inside it and has only characters of this kind. -/
def TextWith (allowed : UInt8 → Prop) (block : List UInt8) : Prop :=
  ∃ position, block[position]? = some 0 ∧ ∀ character ∈ block.take position, allowed character

variable {allowed : UInt8 → Prop} {block : List UInt8}

theorem TextWith.exists_text (htext : TextWith allowed block) :
    ∃ str rest, block = str ++ 0 :: rest ∧ 0 ∉ str ∧ ∀ character ∈ str, allowed character := by
  obtain ⟨position, hzero, hallowed⟩ := htext
  obtain ⟨rest, hblock⟩ := exists_eq_text_append (List.mem_of_getElem? hzero)
  refine ⟨text block, rest, hblock, zero_notMem_text block, fun character hmem => ?_⟩
  have hfront : text block <+: block.take position := by
    have hle : (text block).length ≤ position := length_text_le hzero
    rw [List.prefix_take_iff]
    exact ⟨List.takeWhile_prefix _, hle⟩
  exact hallowed character (hfront.subset hmem)

section

variable {cells : List UInt8} {start position : ℕ}

/-- A piece behind the text leaves it as it is. -/
theorem text_overwrite_behind (hroom : start + (cells ++ [0]).length ≤ block.length)
    (hbehind : position < start) (hzero : block[position]? = some 0)
    (hallowed : ∀ character ∈ block.take position, allowed character) :
    (Block.overwrite block start (cells ++ [0]))[position]? = some 0 ∧
      ∀ character ∈ (Block.overwrite block start (cells ++ [0])).take position,
        allowed character := by
  have htake : (block.take start).length = start := by
    rw [List.length_take]
    omega
  refine ⟨?_, ?_⟩
  · rw [Block.getElem?_overwrite hroom, if_neg (by omega)]
    exact hzero
  · rw [Block.overwrite, List.take_append_of_le_length (by omega), List.take_take,
      Nat.min_eq_left hbehind.le]
    exact hallowed

/-- A piece that begins inside the text, or right behind it, ends it. -/
theorem text_overwrite_inside (hroom : start + (cells ++ [0]).length ≤ block.length)
    (hstart : ∀ character ∈ block.take start, allowed character)
    (hcells : ∀ character ∈ cells, allowed character) :
    (Block.overwrite block start (cells ++ [0]))[start + cells.length]? = some 0 ∧
      ∀ character ∈ (Block.overwrite block start (cells ++ [0])).take (start + cells.length),
        allowed character := by
  have hlength : (cells ++ [0]).length = cells.length + 1 := List.length_append
  have htake : (block.take start).length = start := by
    rw [List.length_take]
    omega
  have hfront : (Block.overwrite block start (cells ++ [0])).take (start + cells.length) =
      block.take start ++ cells := by
    rw [Block.overwrite, List.append_assoc, ← List.append_assoc,
      List.take_left' (by rw [List.length_append, htake])]
  refine ⟨?_, ?_⟩
  · rw [Block.getElem?_overwrite hroom, if_pos ⟨Nat.le_add_right _ _, by omega⟩,
      Nat.add_sub_cancel_left, List.getElem?_append_right le_rfl, Nat.sub_self]
    rfl
  · rw [hfront]
    intro character hmem
    rcases List.mem_append.mp hmem with hmem | hmem
    · exact hstart character hmem
    · exact hcells character hmem

/-- **One piece more.** -/
theorem TextWith.overwrite (hblock : start = 0 ∨ TextWith allowed block)
    (hroom : start + (cells ++ [0]).length ≤ block.length)
    (hcells : ∀ character ∈ cells, allowed character) :
    TextWith allowed (Block.overwrite block start (cells ++ [0])) := by
  rcases hblock with rfl | ⟨position, hzero, hallowed⟩
  · refine ⟨_, text_overwrite_inside hroom (fun character hmem => ?_) hcells⟩
    rw [List.take_zero] at hmem
    cases hmem
  by_cases hbehind : position < start
  · exact ⟨position, text_overwrite_behind hroom hbehind hzero hallowed⟩
  · refine ⟨_, text_overwrite_inside hroom (fun character hmem => ?_) hcells⟩
    exact hallowed character
      ((List.take_prefix_take_left (Nat.le_of_not_lt hbehind)).subset hmem)

end

end CString
