import MiniGdbstub.FirstPacket
import MiniGdbstub.Library.Machine

/-!
# The growth of the packet buffer

The reader fills the buffer, asks whether a packet is complete, and as long as the answer
is no it fills the buffer again.  `bufferGrowth` is that loop; a run of it is a list of
what the reads deliver.  Bytes in front of the first `'$'` are dropped by each search, so
what the buffer holds before a read is the unfinished part of the stream: everything from
the first `'$'` on.

The capacity is doubled when this part fills it.  At the capacity of `2 ^ 30` bytes the
doubled size is no `int` any more, and nothing stops the reader before.  So the reads of a
run are safe as long as the unfinished part is shorter than that
(`fillSafe_throughout_iff`), and a client that never sends a `'#'` reaches it
(`endlessPacket_overflows`).
-/

namespace MiniGdbstub

open Framing

/-! ## The loop -/

/-- What one read delivers, and what the new half of a buffer doubled for it holds. -/
structure BufferRead where
  bytes : List UInt8
  fresh : List UInt8

/-- The bytes fit the room that `read` is offered, and the new half is as long as the
old one. -/
def BufferRead.Delivers (read : BufferRead) (buf : Pktbuf UInt8) : Prop :=
  read.bytes.length ≤ pktbufRoom buf ∧ (2 ^ buf.cap = buf.size → read.fresh.length = 2 ^ buf.cap)

instance (read : BufferRead) (buf : Pktbuf UInt8) : Decidable (read.Delivers buf) :=
  inferInstanceAs (Decidable (_ ∧ (_ → _)))

/-- A read, and a search that finds no complete packet. -/
def growthStep (buf : Pktbuf UInt8) (read : BufferRead) : Option (Pktbuf UInt8) :=
  if read.Delivers buf then
    match pktbufFillFromFile read.bytes read.fresh buf with
    | .error _ => none
    | .ok filled =>
        match pktbufIsComplete filled with
        | .ok (false, next) => some next
        | _ => none
  else
    none

def bufferGrowth : Machine (Pktbuf UInt8) BufferRead where
  start := pktbufInit
  step := growthStep

theorem bufferGrowth_step (buf : Pktbuf UInt8) (read : BufferRead) :
    bufferGrowth.step buf read = growthStep buf read := rfl

/-- All bytes that a list of reads delivers. -/
def received (reads : List BufferRead) : List UInt8 :=
  reads.flatMap BufferRead.bytes

/-- The next read is safe, whatever it delivers: the assertion holds, `1 << cap` is an
`int` that bounds the size before and after, and `read` is offered at least one byte. -/
def FillSafe (buf : Pktbuf UInt8) : Prop :=
  buf.size ≤ 2 ^ buf.cap ∧ 2 ^ buf.cap < 2 ^ 31 ∧
    ∀ read : BufferRead, read.Delivers buf →
      ∃ filled, pktbufFillFromFile read.bytes read.fresh buf = .ok filled ∧
        filled.size ≤ 2 ^ filled.cap ∧ 2 ^ filled.cap < 2 ^ 31 ∧ buf.size < 2 ^ filled.cap

/-! ## The capacity -/

/-- A search changes no capacity. -/
theorem pktbufIsComplete_cap {buf next : Pktbuf UInt8} {found : Bool}
    (hcomplete : pktbufIsComplete buf = .ok (found, next)) : next.cap = buf.cap := by
  have hshift : ∀ {head shifted}, pktbufShift head buf = .ok shifted → shifted.cap = buf.cap := by
    intro head shifted heq
    unfold pktbufShift at heq
    split at heq
    · rcases hmove : inBounds (Block.move? buf.data 0 head (buf.size - head)) with fault | data
      · rw [hmove] at heq
        cases heq
      · rw [hmove] at heq
        cases heq
        rfl
    · cases heq
      rfl
  unfold pktbufIsComplete at hcomplete
  split at hcomplete
  · cases hcomplete
    rfl
  · rename_i head hhead
    rcases hmoved : pktbufShift head buf with fault | shifted
    · rw [hmoved] at hcomplete
      cases hcomplete
    · rw [hmoved] at hcomplete
      simp only [bind, Except.bind, pure, Except.pure] at hcomplete
      have hcap := hshift hmoved
      split at hcomplete
      · cases hcomplete
        exact hcap
      · split at hcomplete
        · cases hcomplete
          exact hcap
        · cases hcomplete
          exact hcap

/-- A read doubles a full buffer and no other. -/
theorem pktbufFillFromFile_cap {buf filled : Pktbuf UInt8} {bytes fresh : List UInt8}
    (hfill : pktbufFillFromFile bytes fresh buf = .ok filled) :
    filled.cap = if 2 ^ buf.cap = buf.size then buf.cap + 1 else buf.cap := by
  unfold pktbufFillFromFile at hfill
  split at hfill
  · rcases henlarge : pktbufEnlarge fresh buf with fault | enlarged
    · rw [henlarge] at hfill
      cases hfill
    · rw [henlarge] at hfill
      rcases hwrite : inBounds (Block.write? enlarged.data enlarged.size bytes) with fault | data
      · simp [hwrite, bind, Except.bind] at hfill
      · simp only [hwrite, bind, Except.bind, pure, Except.pure, Except.ok.injEq] at hfill
        unfold pktbufEnlarge at henlarge
        rw [← hfill]
        split at henlarge
        · rename_i hfull
          rw [if_pos hfull]
          split at henlarge
          · cases henlarge
            rfl
          · cases henlarge
        · rename_i hroom
          rw [if_neg hroom]
          cases henlarge
          rfl
  · cases hfill

/-- Below `2 ^ 30` bytes a full buffer can be doubled. -/
theorem cap_lt_of_full {buf : Pktbuf UInt8} (hsize : buf.size < 2 ^ 30)
    (hfull : 2 ^ buf.cap = buf.size) : buf.cap + 1 < 31 := by
  rw [← hfull] at hsize
  have hcap := (Nat.pow_lt_pow_iff_right (by decide)).mp hsize
  omega

/-! ## What holds before every read -/

/-- The buffer holds the unfinished part of what was received, and it was never asked to
grow beyond `2 ^ 30` bytes. -/
structure Unfinished (reads : List BufferRead) (buf : Pktbuf UInt8) : Prop where
  sound : buf.Sound
  contents : buf.contents = skip gdbFrame (received reads)
  cap_le : buf.cap ≤ 30

namespace Unfinished

variable {reads : List BufferRead} {buf : Pktbuf UInt8}

theorem size_eq (hbuf : Unfinished reads buf) :
    buf.size = (skip gdbFrame (received reads)).length := by
  rw [← hbuf.contents, hbuf.sound.length_contents]

theorem size_le (hbuf : Unfinished reads buf) : buf.size ≤ 2 ^ buf.cap := by
  rw [← hbuf.sound.length_data]
  exact hbuf.sound.size_le

theorem pow_lt (hbuf : Unfinished reads buf) : 2 ^ buf.cap < 2 ^ 31 :=
  Nat.pow_lt_pow_right (by decide) (Nat.lt_succ_of_le hbuf.cap_le)

theorem start : Unfinished [] pktbufInit :=
  ⟨pktbufInit_sound, by simp [received], by decide⟩

/-- The read is safe below `2 ^ 30` bytes. -/
theorem fillSafe (hbuf : Unfinished reads buf) (hsize : buf.size < 2 ^ 30) : FillSafe buf := by
  refine ⟨hbuf.size_le, hbuf.pow_lt, ?_⟩
  rintro read ⟨hroom, hfresh⟩
  obtain ⟨filled, hfill, hsound, -, -⟩ :=
    pktbufFillFromFile_spec hbuf.sound hroom hfresh (cap_lt_of_full hsize)
  have hcap := pktbufFillFromFile_cap hfill
  refine ⟨filled, hfill, ?_, ?_, ?_⟩
  · rw [← hsound.length_data]
    exact hsound.size_le
  · apply Nat.pow_lt_pow_right (by decide)
    rw [hcap]
    split
    · exact cap_lt_of_full hsize ‹_›
    · exact Nat.lt_succ_of_le hbuf.cap_le
  · rw [hcap]
    split
    · rename_i hfull
      rw [← hfull]
      exact Nat.pow_lt_pow_right (by decide) (Nat.lt_succ_self _)
    · rename_i hroom
      exact lt_of_le_of_ne hbuf.size_le (Ne.symm hroom)

/-- A buffer of `2 ^ 30` bytes is full and cannot be doubled. -/
theorem overflow (hbuf : Unfinished reads buf) (hsize : 2 ^ 30 ≤ buf.size)
    (bytes fresh : List UInt8) :
    2 ^ buf.cap = buf.size ∧ pktbufFillFromFile bytes fresh buf = .error .intOverflow := by
  have hcap : buf.cap = 30 := by
    have hpow := (Nat.pow_le_pow_iff_right (by decide)).mp (hsize.trans hbuf.size_le)
    exact Nat.le_antisymm hbuf.cap_le hpow
  have hfull : 2 ^ buf.cap = buf.size := by
    have hle := hbuf.size_le
    rw [hcap] at hle ⊢
    exact Nat.le_antisymm hsize hle
  refine ⟨hfull, ?_⟩
  unfold pktbufFillFromFile pktbufEnlarge
  rw [if_pos hbuf.size_le, if_pos hfull, if_neg (by omega)]
  rfl

theorem fillSafe_iff (hbuf : Unfinished reads buf) :
    FillSafe buf ↔ (skip gdbFrame (received reads)).length < 2 ^ 30 := by
  rw [← hbuf.size_eq]
  constructor
  · rintro ⟨-, -, hreads⟩
    by_contra hlong
    have hoverflow := hbuf.overflow (Nat.le_of_not_lt hlong)
    obtain ⟨filled, hfill, -⟩ := hreads ⟨[], List.replicate (2 ^ buf.cap) 0⟩
      ⟨Nat.zero_le _, fun _ => List.length_replicate⟩
    rw [(hoverflow _ _).2] at hfill
    cases hfill
  · exact hbuf.fillSafe

/-- **The step.**  A read that succeeds and a search without success keep the invariant. -/
theorem step (hbuf : Unfinished reads buf) {read : BufferRead} {next : Pktbuf UInt8}
    (hstep : growthStep buf read = some next) : Unfinished (reads ++ [read]) next := by
  unfold growthStep at hstep
  split at hstep
  · rename_i hdelivers
    obtain ⟨hroom, hfresh⟩ := hdelivers
    split at hstep
    · cases hstep
    · rename_i filled hfill
      -- the read succeeded, so there was less than the limit
      have hsize : buf.size < 2 ^ 30 := by
        by_contra hlong
        rw [(hbuf.overflow (Nat.le_of_not_lt hlong) _ _).2] at hfill
        cases hfill
      obtain ⟨filled', hfill', hfilled, hcontents, -⟩ :=
        pktbufFillFromFile_spec hbuf.sound hroom hfresh (cap_lt_of_full hsize)
      rw [hfill] at hfill'
      cases hfill'
      obtain ⟨found, next', hcomplete, hnext, hskip, -, -, -⟩ := pktbufIsComplete_spec hfilled
      rw [hcomplete] at hstep
      cases found with
      | true => cases hstep
      | false =>
          cases hstep
          refine ⟨hnext, ?_, ?_⟩
          · have hstream : received (reads ++ [read]) = received reads ++ read.bytes := by
              simp [received]
            rw [hskip, hcontents, hbuf.contents, hstream]
            rw [skip_append, skip_append, skip_skip]
          · rw [pktbufIsComplete_cap hcomplete, pktbufFillFromFile_cap hfill]
            split
            · exact Nat.le_of_lt_succ (cap_lt_of_full hsize ‹_›)
            · exact hbuf.cap_le
  · cases hstep

end Unfinished

/-- What holds before every read of a run. -/
theorem unfinished_of_run {reads : List BufferRead} {buf : Pktbuf UInt8}
    (hrun : bufferGrowth.run reads = some buf) : Unfinished reads buf :=
  Machine.run_induction (motive := Unfinished) Unfinished.start
    (fun _ _ _ _ _ hbuf hstep => hbuf.step hstep) hrun

/-- **When the buffer grows safely.**  Every read of a run, and the one after it, is safe if
and only if the unfinished part of what was received is shorter than `2 ^ 30` bytes before
each of them. -/
theorem fillSafe_throughout_iff (reads : List BufferRead) :
    bufferGrowth.Throughout FillSafe reads ↔
      ∀ first, first <+: reads → (bufferGrowth.run first).isSome →
        (skip gdbFrame (received first)).length < 2 ^ 30 := by
  constructor
  · intro hsafe first hfirst hrun
    obtain ⟨buf, hbuf⟩ := Option.isSome_iff_exists.mp hrun
    exact (unfinished_of_run hbuf).fillSafe_iff.mp (hsafe first hfirst buf hbuf)
  · intro hshort first hfirst buf hbuf
    exact (unfinished_of_run hbuf).fillSafe_iff.mpr
      (hshort first hfirst (Option.isSome_iff_exists.mpr ⟨buf, hbuf⟩))

/-! ## A packet without an end -/

/-- Reads that fill the buffer each time, with a packet that never ends: after `k + 1` of
them it holds `2 ^ (10 + k)` bytes. -/
def endlessPacket : ℕ → List BufferRead
  | 0 => [⟨List.replicate (2 ^ 10) dollar, []⟩]
  | k + 1 => endlessPacket k ++
      [⟨List.replicate (2 ^ (10 + k)) dollar, List.replicate (2 ^ (10 + k)) 0⟩]

theorem received_endlessPacket (k : ℕ) :
    received (endlessPacket k) = List.replicate (2 ^ (10 + k)) dollar := by
  induction k with
  | zero => exact List.append_nil _
  | succ k ih =>
      calc received (endlessPacket (k + 1))
          = received (endlessPacket k) ++ List.replicate (2 ^ (10 + k)) dollar := by
            rw [endlessPacket, received, received, List.flatMap_append, List.flatMap_singleton]
        _ = List.replicate (2 ^ (10 + k) + 2 ^ (10 + k)) dollar := by
            rw [ih, List.replicate_append_replicate]
        _ = List.replicate (2 ^ (10 + (k + 1))) dollar := by
            rw [← Nat.add_assoc, Nat.pow_succ, Nat.mul_two]

/-- A text of nothing but `'$'` is the beginning of one packet. -/
theorem skip_replicate_dollar (count : ℕ) :
    skip gdbFrame (List.replicate count dollar) = List.replicate count dollar := by
  apply skip_eq_self
  intro symbol hsymbol
  rw [List.eq_of_mem_replicate (List.mem_of_mem_head? hsymbol)]
  rfl

/-- A read that leaves nothing but `'$'` in the buffer is a step. -/
theorem growthStep_dollars {buf : Pktbuf UInt8} (hsound : buf.Sound) (read : BufferRead)
    (hdelivers : read.Delivers buf) (hcap : 2 ^ buf.cap = buf.size → buf.cap + 1 < 31)
    (count : ℕ) (hcontents : buf.contents ++ read.bytes = List.replicate count dollar) :
    ∃ next, growthStep buf read = some next ∧
      next.cap = if 2 ^ buf.cap = buf.size then buf.cap + 1 else buf.cap := by
  obtain ⟨filled, hfill, hfilled, happended, -⟩ :=
    pktbufFillFromFile_spec hsound hdelivers.1 hdelivers.2 hcap
  obtain ⟨found, next, hcomplete, -, hskip, hfound, -, -⟩ := pktbufIsComplete_spec hfilled
  rw [happended, hcontents, skip_replicate_dollar] at hskip
  have hstop : fromStop gdbFrame next.contents = [] := by
    rw [hskip]
    apply List.dropWhile_eq_nil_iff.mpr
    intro symbol hsymbol
    rw [List.eq_of_mem_replicate hsymbol]
    rfl
  have hfalse : found = false := by
    rw [hstop] at hfound
    simpa [csumSize] using hfound
  refine ⟨next, ?_, ?_⟩
  · rw [growthStep, if_pos hdelivers, hfill]
    simp only [hcomplete, hfalse]
  · rw [pktbufIsComplete_cap hcomplete, pktbufFillFromFile_cap hfill]

/-- The run up to the limit: the buffer is full after each read. -/
theorem endlessPacket_run (k : ℕ) (hk : k ≤ 20) :
    ∃ buf, bufferGrowth.run (endlessPacket k) = some buf ∧ buf.cap = 10 + k ∧
      buf.size = 2 ^ (10 + k) := by
  have hsize : ∀ {k buf}, bufferGrowth.run (endlessPacket k) = some buf →
      buf.size = 2 ^ (10 + k) := by
    intro k buf hrun
    rw [(unfinished_of_run hrun).size_eq, received_endlessPacket, skip_replicate_dollar,
      List.length_replicate]
  induction k with
  | zero =>
      have hnotFull : ¬ 2 ^ (pktbufInit : Pktbuf UInt8).cap = (pktbufInit : Pktbuf UInt8).size := by
        decide
      obtain ⟨next, hstep, hcap⟩ := growthStep_dollars pktbufInit_sound
        ⟨List.replicate (2 ^ 10) dollar, []⟩
        ⟨by rw [List.length_replicate, pktbufRoom_pktbufInit], fun hfull => absurd hfull hnotFull⟩
        (fun hfull => absurd hfull hnotFull)
        (2 ^ 10) (by rw [contents_pktbufInit, List.nil_append])
      have hrun : bufferGrowth.run (endlessPacket 0) = some next := by
        rw [endlessPacket, ← List.nil_append [_]]
        exact Machine.run_concat (Machine.run_nil bufferGrowth)
          ((bufferGrowth_step _ _).trans hstep)
      exact ⟨next, hrun, by rw [hcap, if_neg hnotFull]; rfl, hsize hrun⟩
  | succ k ih =>
      obtain ⟨buf, hrun, hcap, hfill⟩ := ih (by omega)
      have hbuf := unfinished_of_run hrun
      have hfull : 2 ^ buf.cap = buf.size := by rw [hcap, hfill]
      have hroom : pktbufRoom buf = 2 ^ (10 + k) := by
        rw [pktbufRoom, if_pos hfull, hcap, hfill, Nat.pow_succ]
        omega
      obtain ⟨next, hstep, hnext⟩ := growthStep_dollars hbuf.sound
        ⟨List.replicate (2 ^ (10 + k)) dollar, List.replicate (2 ^ (10 + k)) 0⟩
        ⟨by rw [hroom, List.length_replicate], fun _ => by rw [List.length_replicate, hcap]⟩
        (fun _ => by omega) (2 ^ (10 + k) + 2 ^ (10 + k))
        (by rw [hbuf.contents, received_endlessPacket, skip_replicate_dollar,
          List.replicate_append_replicate])
      have hrun' : bufferGrowth.run (endlessPacket (k + 1)) = some next :=
        Machine.run_concat hrun hstep
      exact ⟨next, hrun', by rw [hnext, if_pos hfull, hcap, Nat.add_assoc], hsize hrun'⟩

/-- After `2 ^ 30` bytes of a packet without an end the next read shifts a bit out of the
`int`. -/
theorem endlessPacket_overflows :
    ∃ buf, bufferGrowth.run (endlessPacket 20) = some buf ∧ ¬ FillSafe buf ∧
      pktbufFillFromFile [] (List.replicate (2 ^ 30) 0) buf = .error .intOverflow := by
  obtain ⟨buf, hrun, -, hsize⟩ := endlessPacket_run 20 le_rfl
  have hbuf := unfinished_of_run hrun
  have hlong : 2 ^ 30 ≤ buf.size := hsize.ge
  refine ⟨buf, hrun, ?_, (hbuf.overflow hlong _ _).2⟩
  rw [hbuf.fillSafe_iff, ← hbuf.size_eq]
  exact Nat.not_lt.mpr hlong

end MiniGdbstub
