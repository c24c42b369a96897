import Mathlib.Data.List.Basic

/-!
# Heaps

A heap remembers every block that was ever allocated: the length of a block that is live,
and nothing of one that was freed.  Blocks are told apart by their numbers, so a pointer to
a freed block stays different from a pointer to the block allocated next.

`malloc` answers `NULL` when there is no memory, which the caller says; `free?` of a block
that is not live is an error, and of `NULL` nothing.
-/

/-- The blocks allocated so far; `none` is one that was freed. -/
structure Heap where
  blocks : List (Option ℕ)

namespace Heap

def empty : Heap :=
  ⟨[]⟩

variable (heap : Heap)

/-- The length of a live block. -/
def size? (block : ℕ) : Option ℕ :=
  heap.blocks[block]?.join

/-- A new block of so many bytes, or `NULL`. -/
def malloc (available : Bool) (bytes : ℕ) : Option ℕ × Heap :=
  if available then (some heap.blocks.length, ⟨heap.blocks ++ [some bytes]⟩) else (none, heap)

def free? : Option ℕ → Option Heap
  | none => some heap
  | some block => if (heap.size? block).isSome then some ⟨heap.blocks.set block none⟩ else none

/-- The length of what a pointer holds; `NULL` holds nothing. -/
def held (pointer : Option ℕ) : ℕ :=
  (pointer.bind heap.size?).getD 0

variable {heap}

/-- The new block is live. -/
theorem size?_malloc (bytes : ℕ) :
    (heap.malloc true bytes).2.size? heap.blocks.length = some bytes := by
  simp [malloc, size?]

theorem free?_live {block length : ℕ} (hlive : heap.size? block = some length) :
    heap.free? (some block) = some ⟨heap.blocks.set block none⟩ := by
  rw [free?, hlive, Option.isSome_some, if_pos rfl]

theorem held_live {block length : ℕ} (hlive : heap.size? block = some length) :
    heap.held (some block) = length := by
  rw [held, Option.bind_some, hlive, Option.getD_some]

end Heap
