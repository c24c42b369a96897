import Mathlib.Algebra.Group.Nat.Defs
import MiniGdbstub.Library.Block
import MiniGdbstub.Library.Framing

/-!
# The packet buffer

`packet.c`: the reader fills one growing buffer from the socket, asks it whether
its first packet is complete and pops that packet.  The buffer is a block of
`2 ^ cap` cells of which the first `size` are valid; the cells behind them keep
whatever they held before, and a read at the wrong place brings that back.

The functions only ever look at a cell to compare its byte, so they are written
for any type of cells with a byte in it (`Octet`): on plain bytes they are the
program, on bytes marked with their place in the client's stream they also tell
where each popped byte came from.

`contents` is what the buffer holds.  The specification lemmas of this module say
what each function does to it in the terms of `Framing`: `pktbufIsComplete_spec`
for the search, `pktbufPopPacket_spec` for the removal, `pktbufFillFromFile_spec`
for the read.
-/

namespace MiniGdbstub

open Framing

/-! ## Faults -/

/-- What ends the program instead of a return value.  The Makefile builds without
`NDEBUG`, so a failed assertion aborts; a loop that never ends gives no value
either; after any of the others C gives the program no meaning any more.

The assertion about the length of what is sent is told apart from the others, and a
store through the `NULL` of a failed `malloc` and a call of an operation that is `NULL` from
the use of any other `NULL`. -/
inductive Fault
  | assertFail
  | sendAssertFail
  | nullDeref
  | nullCall
  | unallocated
  | outOfBounds
  | intOverflow
  | endless
  deriving DecidableEq, Repr

/-- `none`, from a bounds-checked access, is a fault. -/
def inBounds {α : Type} : Option α → Except Fault α
  | some value => .ok value
  | none => .error .outOfBounds

@[simp] theorem inBounds_some {α : Type} (value : α) : inBounds (some value) = .ok value := rfl

@[simp] theorem inBounds_none {α : Type} : inBounds (none : Option α) = .error .outOfBounds := rfl

/-! ## Cells -/

/-- A cell of a buffer: it holds a byte, and there is a cell that holds zero. -/
class Octet (β : Type) where
  byte : β → UInt8
  zero : β

instance : Octet UInt8 := ⟨id, 0⟩

@[simp] theorem byte_uint8 (value : UInt8) : Octet.byte value = value := rfl

/-- The bytes of a text of the source. -/
def ascii (text : String) : List UInt8 :=
  text.toList.map fun character => character.toNat.toUInt8

/-- `CSUM_SIZE` -/
def csumSize : ℕ := 2

/-- `INTR_CHAR` -/
def intrChar : UInt8 := 3

/-- `'$'` -/
def dollar : UInt8 := 36

/-- `'#'` -/
def hash : UInt8 := 35

variable {β : Type} [Octet β]

/-- The frames of the protocol: from `'$'` to `'#'` and two checksum bytes. -/
def gdbFrame : Delimiters β where
  isStart cell := Octet.byte cell == dollar
  isStop cell := Octet.byte cell == hash
  trailer := csumSize

@[simp] theorem gdbFrame_trailer : (gdbFrame : Delimiters β).trailer = csumSize := rfl

/-! ## Packets and the buffer -/

/-- `packet_t` -/
structure Packet (β : Type) where
  endPos : ℕ
  data : List β
  deriving DecidableEq, Repr

/-- `pktbuf_t`; `end_pos` is -1 (`none`) while no complete packet is known. -/
structure Pktbuf (β : Type) where
  size : ℕ
  cap : ℕ
  endPos : Option ℕ
  data : List β
  deriving DecidableEq, Repr

def pktbufClear (buf : Pktbuf β) : Pktbuf β :=
  { buf with endPos := none, size := 0 }

/-- `DEFAULT_CAP` -/
def defaultCap : ℕ := 10

def pktbufInit : Pktbuf β :=
  pktbufClear
    { size := 0, cap := defaultCap, endPos := none,
      data := List.replicate (2 ^ defaultCap) Octet.zero }

/-- `realloc` of a full buffer to twice its length.  `fresh` is what the new upper
half happens to hold; `1 << cap` leaves the range of `int` at 31. -/
def pktbufEnlarge (fresh : List β) (buf : Pktbuf β) : Except Fault (Pktbuf β) :=
  if 2 ^ buf.cap = buf.size then
    if buf.cap + 1 < 31 then
      .ok { buf with cap := buf.cap + 1, data := buf.data ++ fresh }
    else
      .error .intOverflow
  else
    .ok buf

/-- `bytes` is what `read` delivers: nothing, when it fails or meets the end of
the stream, and otherwise at most the room left. -/
def pktbufFillFromFile (bytes fresh : List β) (buf : Pktbuf β) : Except Fault (Pktbuf β) := do
  if buf.size ≤ 2 ^ buf.cap then
    let buf ← pktbufEnlarge fresh buf
    let data ← inBounds (Block.write? buf.data buf.size bytes)
    return { buf with data := data, size := buf.size + bytes.length }
  else
    throw .assertFail

/-- How many bytes `read` is offered: the room left once a full buffer has been
enlarged. -/
def pktbufRoom (buf : Pktbuf β) : ℕ :=
  (if 2 ^ buf.cap = buf.size then 2 ^ (buf.cap + 1) else 2 ^ buf.cap) - buf.size

/-- Move the packet that starts at `head` to the front. -/
def pktbufShift (head : ℕ) (buf : Pktbuf β) : Except Fault (Pktbuf β) := do
  if 0 < head then
    let data ← inBounds (Block.move? buf.data 0 head (buf.size - head))
    return { buf with data := data, size := buf.size - head }
  else
    return buf

def pktbufIsComplete (buf : Pktbuf β) : Except Fault (Bool × Pktbuf β) :=
  match (buf.data.take buf.size).findIdx? (gdbFrame (β := β)).isStart with
  | none => return (false, pktbufClear buf)
  | some head => do
      let buf ← pktbufShift head buf
      match (buf.data.take buf.size).findIdx? (gdbFrame (β := β)).isStop with
      | none => return (false, buf)
      | some stop =>
          let endPos := stop + csumSize
          -- `end_pos > size`: a second checksum byte still to come is not noticed
          if buf.size < endPos then
            return (false, buf)
          else
            return (true, { buf with endPos := some endPos })

def pktbufPopPacket (buf : Pktbuf β) : Except Fault (Option (Packet β) × Pktbuf β) :=
  match buf.endPos with
  | none => return (none, buf)
  | some endPos => do
      let oldPktSize := endPos + 1
      let bytes ← inBounds (Block.read? buf.data 0 oldPktSize)
      -- a negative `size - old_pkt_size` is a huge `size_t`
      if buf.size < oldPktSize then
        throw .outOfBounds
      else
        let data ← inBounds (Block.move? buf.data 0 (oldPktSize + 1) (buf.size - oldPktSize))
        return (some { endPos := endPos, data := bytes ++ [Octet.zero] },
          { buf with data := data, size := buf.size - oldPktSize, endPos := none })

/-! ## What the buffer holds -/

/-- The valid cells. -/
def Pktbuf.contents (buf : Pktbuf β) : List β :=
  buf.data.take buf.size

/-- The valid cells lie inside the block, and the block has the length that `cap`
says. -/
structure Pktbuf.Sound (buf : Pktbuf β) : Prop where
  size_le : buf.size ≤ buf.data.length
  length_data : buf.data.length = 2 ^ buf.cap

namespace Pktbuf

omit [Octet β]

theorem Sound.length_contents {buf : Pktbuf β} (hsound : buf.Sound) :
    buf.contents.length = buf.size := by
  rw [contents, List.length_take, Nat.min_eq_left hsound.size_le]

theorem Sound.clear {buf : Pktbuf β} (hsound : buf.Sound) : (pktbufClear buf).Sound :=
  ⟨Nat.zero_le _, hsound.length_data⟩

@[simp] theorem contents_clear (buf : Pktbuf β) : (pktbufClear buf).contents = [] := by
  simp [contents, pktbufClear]

end Pktbuf

theorem pktbufInit_sound : (pktbufInit : Pktbuf β).Sound :=
  ⟨Nat.zero_le _, by simp [pktbufInit, pktbufClear]⟩

@[simp] theorem contents_pktbufInit : (pktbufInit : Pktbuf β).contents = [] := by
  simp [pktbufInit]

@[simp] theorem pktbufRoom_pktbufInit : pktbufRoom (pktbufInit : Pktbuf β) = 2 ^ 10 := rfl

/-! ### Reading into the buffer -/

omit [Octet β] in
/-- A read that fits the room is appended to the contents. -/
theorem pktbufFillFromFile_spec {buf : Pktbuf β} (hsound : buf.Sound) {bytes fresh : List β}
    (hroom : bytes.length ≤ pktbufRoom buf)
    (hfresh : 2 ^ buf.cap = buf.size → fresh.length = 2 ^ buf.cap)
    (hcap : 2 ^ buf.cap = buf.size → buf.cap + 1 < 31) :
    ∃ next, pktbufFillFromFile bytes fresh buf = .ok next ∧ next.Sound ∧
      next.contents = buf.contents ++ bytes ∧ next.endPos = buf.endPos := by
  have hlength := hsound.length_data
  have hsize : buf.size ≤ 2 ^ buf.cap := hlength ▸ hsound.size_le
  have happend : ∀ data : List β, buf.size + bytes.length ≤ data.length →
      data.take buf.size = buf.contents →
      (Block.overwrite data buf.size bytes).take (buf.size + bytes.length) =
        buf.contents ++ bytes := by
    intro data hfits htake
    rw [Block.overwrite, htake, ← List.append_assoc, List.take_left' (by
      rw [List.length_append, hsound.length_contents])]
  unfold pktbufFillFromFile pktbufEnlarge
  simp only [hsize, if_true]
  -- only a full block is doubled, and the fresh half is behind the contents
  by_cases hfull : 2 ^ buf.cap = buf.size
  · have hpow : 2 ^ (buf.cap + 1) = 2 ^ buf.cap + 2 ^ buf.cap := by rw [Nat.pow_succ]; omega
    have hfits : buf.size + bytes.length ≤ (buf.data ++ fresh).length := by
      have hlong := hfresh hfull
      unfold pktbufRoom at hroom
      rw [if_pos hfull] at hroom
      rw [List.length_append]
      omega
    refine ⟨{ buf with
      cap := buf.cap + 1
      data := Block.overwrite (buf.data ++ fresh) buf.size bytes
      size := buf.size + bytes.length }, ?_, ⟨?_, ?_⟩, ?_, rfl⟩
    · have hwrite : Block.write? (buf.data ++ fresh) buf.size bytes = some _ :=
        Block.write?_eq_some.mpr ⟨hfits, rfl⟩
      simp [hfull, hcap hfull, hwrite, bind, Except.bind, pure, Except.pure]
    · rw [Block.length_overwrite hfits]
      exact hfits
    · rw [Block.length_overwrite hfits, List.length_append, hlength, hfresh hfull, hpow]
    · exact happend _ hfits (List.take_append_of_le_length hsound.size_le)
  · have hfits : buf.size + bytes.length ≤ buf.data.length := by
      unfold pktbufRoom at hroom
      rw [if_neg hfull] at hroom
      omega
    refine ⟨{ buf with
      data := Block.overwrite buf.data buf.size bytes
      size := buf.size + bytes.length }, ?_, ⟨?_, ?_⟩, ?_, rfl⟩
    · have hwrite : Block.write? buf.data buf.size bytes = some _ :=
        Block.write?_eq_some.mpr ⟨hfits, rfl⟩
      simp [hfull, hwrite, bind, Except.bind, pure, Except.pure]
    · rw [Block.length_overwrite hfits]
      exact hfits
    · rw [Block.length_overwrite hfits, hlength]
    · exact happend _ hfits rfl

/-! ### Looking for the first packet -/

omit [Octet β] in
theorem pktbufShift_spec {buf : Pktbuf β} (hsound : buf.Sound) {head : ℕ}
    (hhead : head ≤ buf.size) :
    ∃ next, pktbufShift head buf = .ok next ∧ next.Sound ∧
      next.contents = buf.contents.drop head ∧ next.endPos = buf.endPos ∧
      next.size = buf.size - head := by
  have hsize := hsound.size_le
  unfold pktbufShift
  by_cases hpos : 0 < head
  · let data := Block.slice buf.data head (buf.size - head) ++ buf.data.drop (buf.size - head)
    have hmove : Block.move? buf.data 0 head (buf.size - head) = some data :=
      Block.move?_zero_eq_some.mpr ⟨Or.inr (by omega), rfl⟩
    have hlength : data.length = buf.data.length := by
      simp only [data, List.length_append, Block.length_slice, List.length_drop]
      omega
    refine ⟨{ buf with data := data, size := buf.size - head }, ?_, ⟨?_, ?_⟩, ?_, rfl, rfl⟩
    · simp [hpos, hmove, bind, Except.bind, pure, Except.pure]
    · show buf.size - head ≤ data.length
      omega
    · show data.length = 2 ^ buf.cap
      rw [hlength, hsound.length_data]
    · show data.take (buf.size - head) = (buf.data.take buf.size).drop head
      rw [List.take_left' (by rw [Block.length_slice]; omega), Block.slice, List.drop_take]
  · have hzero : head = 0 := Nat.eq_zero_of_not_pos hpos
    subst hzero
    exact ⟨buf, rfl, hsound, by simp, rfl, by simp⟩

/-- **The search.**  It shifts the contents to their first `'$'` (and so drops only
what stands before it), and answers `true` as soon as a `'#'` and *one* byte after
it are there. -/
theorem pktbufIsComplete_spec {buf : Pktbuf β} (hsound : buf.Sound) :
    ∃ found next, pktbufIsComplete buf = .ok (found, next) ∧ next.Sound ∧
      next.contents = skip gdbFrame buf.contents ∧
      (found = true ↔ csumSize ≤ (fromStop gdbFrame next.contents).length) ∧
      (found = true → next.endPos = some ((upToStop gdbFrame next.contents).length + csumSize)) ∧
      (found = false → buf.endPos = none → next.endPos = none) := by
  unfold pktbufIsComplete
  rw [show buf.data.take buf.size = buf.contents from rfl, findIdx?_isStart]
  -- without a `'$'` the buffer is cleared, otherwise what stands before it is shifted out
  by_cases hskip : skip gdbFrame buf.contents = []
  · rw [if_pos hskip]
    refine ⟨false, pktbufClear buf, rfl, hsound.clear, ?_, ?_, by simp, fun _ _ => rfl⟩
    · rw [Pktbuf.contents_clear, hskip]
    · simp [fromStop, csumSize]
  · rw [if_neg hskip]
    have hle : (buf.contents.takeWhile fun cell => !(gdbFrame (β := β)).isStart cell).length ≤
        buf.size := by
      rw [← hsound.length_contents]
      exact (List.takeWhile_sublist _).length_le
    obtain ⟨shifted, hshift, hshifted, hcontents, hend, -⟩ := pktbufShift_spec hsound hle
    rw [drop_length_takeWhile] at hcontents
    simp only [hshift, bind, Except.bind]
    rw [show shifted.data.take shifted.size = shifted.contents from rfl, findIdx?_isStop]
    have hsplit : (upToStop gdbFrame shifted.contents).length +
        (fromStop gdbFrame shifted.contents).length = shifted.size := by
      rw [← List.length_append, upToStop_append_fromStop, hshifted.length_contents]
    by_cases hstop : fromStop gdbFrame shifted.contents = []
    · rw [if_pos hstop]
      refine ⟨false, shifted, rfl, hshifted, hcontents, ?_, by simp, fun _ h => hend.trans h⟩
      simp [hstop, csumSize]
    · rw [if_neg hstop]
      by_cases hshort : shifted.size < (upToStop gdbFrame shifted.contents).length + csumSize
      · refine ⟨false, shifted, ?_, hshifted, hcontents, ?_, by simp, fun _ h => hend.trans h⟩
        · simp [hshort, pure, Except.pure]
        · simp only [Bool.false_eq_true, false_iff, not_le]
          omega
      · refine ⟨true, { shifted with
            endPos := some ((upToStop gdbFrame shifted.contents).length + csumSize) },
          ?_, ⟨hshifted.size_le, hshifted.length_data⟩, hcontents, ?_, fun _ => rfl, by simp⟩
        · simp [hshort, pure, Except.pure]
        · simp only [true_iff]
          change csumSize ≤ (fromStop gdbFrame shifted.contents).length
          omega

/-! ### Removing the first packet -/

/-- A frame as the packet that is popped for it: its cells and a terminating zero. -/
def Packet.ofFrame (frame : List β) : Packet β :=
  { endPos := frame.length - 1, data := frame ++ [Octet.zero] }

/-- **The removal** of a packet whose second checksum byte has been received.  The
packet is exact.  Of what followed it the first cell is lost and, for it, the cell
behind the contents becomes valid; when the block ends there, the copy reads past
it. -/
theorem pktbufPopPacket_spec {buf : Pktbuf β} (hsound : buf.Sound) {endPos : ℕ}
    (hend : buf.endPos = some endPos) (hinside : endPos < buf.size) :
    let frame := buf.contents.take (endPos + 1)
    let rest := buf.contents.drop (endPos + 1)
    (rest ≠ [] ∧ buf.size = buf.data.length ∧ pktbufPopPacket buf = .error .outOfBounds) ∨
      ∃ next, pktbufPopPacket buf = .ok (some (Packet.ofFrame frame), next) ∧ next.Sound ∧
        next.endPos = none ∧
        (rest = [] ∧ next.contents = [] ∨
          ∃ stale, buf.data[buf.size]? = some stale ∧ rest ≠ [] ∧
            next.contents = rest.tail ++ [stale]) := by
  intro frame rest
  have hsize := hsound.size_le
  have hframe : frame.length = endPos + 1 := by
    rw [List.length_take, hsound.length_contents]
    omega
  have hread : Block.read? buf.data 0 (endPos + 1) = some frame := by
    show _ = some ((buf.data.take buf.size).take (endPos + 1))
    rw [Block.read?_start (by omega), List.take_take, Nat.min_eq_left (by omega)]
  have hrest : rest.length = buf.size - (endPos + 1) := by
    rw [List.length_drop, hsound.length_contents]
  have hpacket : Packet.ofFrame frame =
      { endPos := endPos, data := frame ++ [Octet.zero] } := by
    rw [Packet.ofFrame, hframe, Nat.add_sub_cancel]
  unfold pktbufPopPacket
  simp only [hend, hread, inBounds_some, bind, Except.bind,
    if_neg (show ¬ buf.size < endPos + 1 by omega), hpacket]
  by_cases hnil : rest = []
  · -- nothing follows the packet, nothing is moved
    have hcount : buf.size - (endPos + 1) = 0 := by rw [← hrest, hnil, List.length_nil]
    refine Or.inr ⟨{ buf with data := buf.data, size := 0, endPos := none }, ?_,
      ⟨Nat.zero_le _, hsound.length_data⟩, rfl, Or.inl ⟨hnil, by simp [Pktbuf.contents]⟩⟩
    simp [hcount, Block.move?, pure, Except.pure]
  · have hpos : 0 < rest.length := List.length_pos_iff.mpr hnil
    -- the copy starts one cell late, so its last cell is the one behind the contents
    by_cases hfull : buf.size = buf.data.length
    · refine Or.inl ⟨hnil, hfull, ?_⟩
      have hmove : Block.move? buf.data 0 (endPos + 1 + 1) (buf.size - (endPos + 1)) = none := by
        rw [Option.eq_none_iff_forall_ne_some]
        intro data hsome
        obtain ⟨hcount | hfits, -⟩ := Block.move?_zero_eq_some.mp hsome <;> omega
      simp [hmove]
    · have hlt : buf.size < buf.data.length := by omega
      let data := Block.slice buf.data (endPos + 1 + 1) (buf.size - (endPos + 1)) ++
        buf.data.drop (buf.size - (endPos + 1))
      have hmove : Block.move? buf.data 0 (endPos + 1 + 1) (buf.size - (endPos + 1)) =
          some data := Block.move?_zero_eq_some.mpr ⟨Or.inr (by omega), rfl⟩
      have hlength : data.length = buf.data.length := by
        simp only [data, List.length_append, Block.length_slice, List.length_drop]
        omega
      refine Or.inr ⟨{ buf with data := data, size := buf.size - (endPos + 1), endPos := none },
        ?_, ⟨?_, ?_⟩, rfl, Or.inr ⟨buf.data[buf.size], List.getElem?_eq_getElem hlt, hnil, ?_⟩⟩
      · simp [hmove, pure, Except.pure]
      · show buf.size - (endPos + 1) ≤ data.length
        omega
      · show data.length = 2 ^ buf.cap
        rw [hlength, hsound.length_data]
      · -- the cells moved are the rest without its first cell, and one cell more
        show data.take (buf.size - (endPos + 1)) = rest.tail ++ [buf.data[buf.size]]
        have hcells : buf.data.take (buf.size + 1) = buf.contents ++ [buf.data[buf.size]] :=
          List.take_succ_eq_append_getElem hlt
        rw [List.take_left' (by rw [Block.length_slice]; omega), Block.slice, List.tail_drop,
          ← List.drop_append_of_le_length (by rw [hsound.length_contents]; omega), ← hcells,
          List.drop_take]
        congr 1
        omega

end MiniGdbstub
