import Mathlib.Data.UInt
import Mathlib.Data.List.Basic

/-!
# Stores of bytes

A store gives a byte to every 64-bit address.  A range is an address and a number of bytes;
it may run over the end of the addresses to their beginning.

What is read from a range that was just written is what was written, and a write changes
no byte outside its range.
-/

/-- A byte at every address. -/
abbrev ByteMap := UInt64 → UInt8

namespace ByteMap

/-- The address of byte `i` of a range. -/
def place (addr i : ℕ) : UInt64 :=
  UInt64.ofNat (addr + i)

/-- The index of an address in the range that begins at `addr`. -/
def indexOf (addr : ℕ) (there : UInt64) : ℕ :=
  (there - UInt64.ofNat addr).toNat

variable (store : ByteMap)

def read (addr len : ℕ) : List UInt8 :=
  (List.range len).map fun i => store (place addr i)

/-- The store with `data` from `addr` on. -/
def write (addr : ℕ) (data : List UInt8) : ByteMap :=
  fun there => (data[indexOf addr there]?).getD (store there)

theorem indexOf_place {addr i : ℕ} (hi : i < 2 ^ 64) : indexOf addr (place addr i) = i := by
  rw [indexOf, place, UInt64.ofNat_add, add_sub_cancel_left]
  exact UInt64.toNat_ofNat_of_lt hi

/-- The bytes written, where they were written. -/
theorem write_place {addr i : ℕ} {data : List UInt8} (hdata : data.length ≤ 2 ^ 64)
    (hi : i < data.length) : store.write addr data (place addr i) = data[i] := by
  rw [write, indexOf_place (by omega), List.getElem?_eq_getElem hi, Option.getD_some]

/-- The other bytes stay. -/
theorem write_of_outside {addr : ℕ} {data : List UInt8} {there : UInt64}
    (houtside : data.length ≤ indexOf addr there) : store.write addr data there = store there := by
  rw [write, List.getElem?_eq_none houtside, Option.getD_none]

/-- A range reads back as it was written. -/
theorem read_write (addr : ℕ) {data : List UInt8} (hdata : data.length ≤ 2 ^ 64) :
    (store.write addr data).read addr data.length = data := by
  apply List.ext_getElem
  · rw [ByteMap.read, List.length_map, List.length_range]
  · intro i hleft hright
    simp only [ByteMap.read, List.getElem_map, List.getElem_range]
    exact write_place store hdata hright

end ByteMap
