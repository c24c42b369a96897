import MiniGdbstub.Packet

/-!
# The first packet of the buffer

What `pktbuf_is_complete` and `pktbuf_pop_packet` should do, said without them: the
contents of the buffer are divided by `FirstFrame` at their first `'$'` and the first
`'#'` behind it, and the packet that is popped is everything up to the second byte
behind the `'#'`.

Two comparisons are off by one.  The search is satisfied with one byte behind the
`'#'`, so it recognises a complete packet exactly when the number of these bytes is
not one (`recognisesComplete_iff`).  The removal moves what follows the packet from one
cell too far, so it removes exactly the packet only if nothing follows it
(`popsFirst_iff`).  To tell a byte from an equal one at another place the buffer can be
`marked`: the cells then hold their index too.
-/

namespace MiniGdbstub

open Framing

/-! ## What is asked of the two functions -/

/-- The contents divided at the first `'$'` and at the first `'#'` behind it. -/
structure FirstFrame (contents before body behind : List UInt8) : Prop where
  eq : contents = before ++ dollar :: (body ++ hash :: behind)
  before : dollar ∉ before
  body : hash ∉ body

/-- There is a frame with both its checksum bytes. -/
def HoldsPacket (contents : List UInt8) : Prop :=
  ∃ before body behind, FirstFrame contents before body behind ∧ csumSize ≤ behind.length

/-- `pktbuf_is_complete` returns, and it is right: about the answer, about the buffer it
leaves after each answer, and about `end_pos`. -/
def RecognisesComplete (buf : Pktbuf UInt8) : Prop :=
  ∃ found next, pktbufIsComplete buf = .ok (found, next) ∧
    (found = true ↔ HoldsPacket buf.contents) ∧
    (found = true → ∀ before body behind, FirstFrame buf.contents before body behind →
      next.contents = dollar :: (body ++ hash :: behind) ∧
        next.endPos = some (body.length + 1 + csumSize) ∧
        body.length + 1 + csumSize < next.size) ∧
    (found = false → ∃ before, buf.contents = before ++ next.contents ∧ dollar ∉ before ∧
      ∀ first ∈ next.contents.head?, first = dollar)

variable {β : Type} [Octet β]

/-- `pktbuf_pop_packet` reads nothing at or beyond `size` and leaves no negative `size`:
it returns also if there is nothing behind the contents. -/
def PopStaysInside (buf : Pktbuf β) : Prop :=
  ∃ packet next, pktbufPopPacket { buf with data := buf.contents } = .ok (packet, next)

/-- `pktbuf_pop_packet` returns the first `end_pos + 1` cells as the packet and leaves
exactly the others. -/
def PopsFirst (buf : Pktbuf β) : Prop :=
  ∃ endPos ∈ buf.endPos, ∃ bytes next, bytes.length = endPos + 1 ∧
    pktbufPopPacket buf = .ok (some { endPos := endPos, data := bytes ++ [Octet.zero] }, next) ∧
    buf.contents = bytes ++ next.contents

/-- A byte and the index of its cell. -/
instance : Octet (UInt8 × ℕ) := ⟨Prod.fst, (0, 0)⟩

/-- The buffer with every cell marked by its index. -/
def Pktbuf.marked (buf : Pktbuf UInt8) : Pktbuf (UInt8 × ℕ) :=
  { size := buf.size, cap := buf.cap, endPos := buf.endPos, data := buf.data.zipIdx }

theorem Pktbuf.Sound.marked {buf : Pktbuf UInt8} (hsound : buf.Sound) : buf.marked.Sound :=
  ⟨by simpa [Pktbuf.marked] using hsound.size_le, by
    simpa [Pktbuf.marked] using hsound.length_data⟩

/-! ## Frames by their parts -/

theorem takeWhile_ne_append_cons {first : List UInt8} {mark : UInt8} (hfirst : mark ∉ first)
    (rest : List UInt8) :
    (first ++ mark :: rest).takeWhile (fun cell => !(cell == mark)) = first ∧
      (first ++ mark :: rest).dropWhile (fun cell => !(cell == mark)) = mark :: rest := by
  have hall : ∀ cell ∈ first, (!(cell == mark)) = true := by
    intro cell hmem
    rw [Bool.not_eq_true', beq_eq_false_iff_ne]
    exact fun heq => hfirst (heq ▸ hmem)
  constructor
  · rw [List.takeWhile_append_of_pos hall, List.takeWhile_cons_of_neg (by simp),
      List.append_nil]
  · rw [List.dropWhile_append_of_pos hall, List.dropWhile_cons_of_neg (by simp)]

/-- The parts are what `Framing` computes. -/
theorem FirstFrame.parts {contents before body behind : List UInt8}
    (hframe : FirstFrame contents before body behind) :
    skip gdbFrame contents = dollar :: (body ++ hash :: behind) ∧
      upToStop gdbFrame (dollar :: (body ++ hash :: behind)) = dollar :: body ∧
      fromStop gdbFrame (dollar :: (body ++ hash :: behind)) = hash :: behind := by
  have hbody : hash ∉ dollar :: body := by
    rw [List.mem_cons, not_or]
    exact ⟨by decide, hframe.body⟩
  obtain ⟨hup, hfrom⟩ := takeWhile_ne_append_cons hbody behind
  refine ⟨?_, hup, hfrom⟩
  rw [hframe.eq]
  exact (takeWhile_ne_append_cons hframe.before (body ++ hash :: behind)).2

theorem FirstFrame.unique {contents before body behind before' body' behind' : List UInt8}
    (hframe : FirstFrame contents before body behind)
    (hframe' : FirstFrame contents before' body' behind') :
    body = body' ∧ behind = behind' := by
  obtain ⟨hskip, hup, hfrom⟩ := hframe.parts
  obtain ⟨hskip', hup', hfrom'⟩ := hframe'.parts
  rw [← hskip, hskip'] at hup hfrom
  exact ⟨(List.cons.inj (hup.symm.trans hup')).2, (List.cons.inj (hfrom.symm.trans hfrom')).2⟩

/-- No `'$'`, a `'$'` with no `'#'` behind it, or a first frame. -/
theorem firstFrame_cases (contents : List UInt8) :
    fromStop gdbFrame (skip gdbFrame contents) = [] ∨
      ∃ before body behind, FirstFrame contents before body behind := by
  by_cases hstart : dollar ∈ contents
  · obtain ⟨before, head, rfl, hbefore⟩ := List.eq_append_cons_of_mem hstart
    by_cases hstop : hash ∈ head
    · obtain ⟨body, behind, rfl, hbody⟩ := List.eq_append_cons_of_mem hstop
      exact .inr ⟨before, body, behind, rfl, hbefore, hbody⟩
    · left
      have hskip : skip gdbFrame (before ++ dollar :: head) = dollar :: head :=
        (takeWhile_ne_append_cons hbefore head).2
      rw [hskip]
      apply List.dropWhile_eq_nil_iff.mpr
      intro cell hmem
      show (!(cell == hash)) = true
      rw [Bool.not_eq_true', beq_eq_false_iff_ne]
      rintro rfl
      rcases List.mem_cons.mp hmem with heq | hmem
      · exact absurd heq (by decide)
      · exact hstop hmem
  · left
    have hskip : skip gdbFrame contents = [] := by
      apply List.dropWhile_eq_nil_iff.mpr
      intro cell hmem
      show (!(cell == dollar)) = true
      rw [Bool.not_eq_true', beq_eq_false_iff_ne]
      rintro rfl
      exact hstart hmem
    rw [hskip]
    rfl

/-! ## The search -/

/-- One byte behind the `'#'` is enough for the search. -/
theorem found_iff {buf next : Pktbuf UInt8} {found : Bool} (hsound : buf.Sound)
    (hcomplete : pktbufIsComplete buf = .ok (found, next)) :
    found = true ↔
      ∃ before body behind, FirstFrame buf.contents before body behind ∧ behind ≠ [] := by
  obtain ⟨found', next', hspec, -, hcontents, hfound, -, -⟩ := pktbufIsComplete_spec hsound
  rw [hspec] at hcomplete
  cases hcomplete
  rw [hfound, hcontents]
  constructor
  · intro hlong
    rcases firstFrame_cases buf.contents with hnone | ⟨before, body, behind, hframe⟩
    · rw [hnone] at hlong
      exact absurd hlong (by decide)
    · obtain ⟨hskip, -, hfrom⟩ := hframe.parts
      rw [hskip, hfrom, csumSize, List.length_cons] at hlong
      exact ⟨before, body, behind, hframe, List.length_pos_iff.mp (by omega)⟩
  · rintro ⟨before, body, behind, hframe, hbehind⟩
    obtain ⟨hskip, -, hfrom⟩ := hframe.parts
    have hpos := List.length_pos_iff.mpr hbehind
    rw [hskip, hfrom, csumSize, List.length_cons]
    omega

/-- **The search is right unless exactly one byte stands behind the `'#'`.** -/
theorem recognisesComplete_iff {buf : Pktbuf UInt8} (hsound : buf.Sound) :
    RecognisesComplete buf ↔
      ∀ before body behind, FirstFrame buf.contents before body behind → behind.length ≠ 1 := by
  obtain ⟨found, next, hspec, hnext, hcontents, -, hendPos, -⟩ := pktbufIsComplete_spec hsound
  have hfound := found_iff hsound hspec
  constructor
  -- one checksum character is enough for the search, but not for a packet
  · rintro ⟨found', next', hspec', hholds, -, -⟩ before body behind hframe hone
    rw [hspec] at hspec'
    cases hspec'
    have htrue : found = true :=
      hfound.mpr ⟨before, body, behind, hframe, List.length_pos_iff.mp (by omega)⟩
    obtain ⟨before', body', behind', hframe', hlong⟩ := hholds.mp htrue
    rw [← (hframe.unique hframe').2, hone] at hlong
    exact absurd hlong (by decide)
  · intro hbehind
    have hholds : found = true ↔ HoldsPacket buf.contents := by
      rw [hfound]
      constructor
      · rintro ⟨before, body, behind, hframe, hne⟩
        have hpos := List.length_pos_iff.mpr hne
        have hnotOne := hbehind before body behind hframe
        exact ⟨before, body, behind, hframe, by rw [csumSize]; omega⟩
      · rintro ⟨before, body, behind, hframe, hlong⟩
        rw [csumSize] at hlong
        exact ⟨before, body, behind, hframe, List.length_pos_iff.mp (by omega)⟩
    refine ⟨found, next, hspec, hholds, ?_, ?_⟩
    · intro htrue before body behind hframe
      obtain ⟨hskip, hup, -⟩ := hframe.parts
      obtain ⟨before', body', behind', hframe', hlong⟩ := hholds.mp htrue
      rw [← (hframe.unique hframe').2, csumSize] at hlong
      have hlength := hnext.length_contents
      have hends := hendPos htrue
      rw [hcontents, hskip] at hlength hends
      rw [hup] at hends
      simp only [List.length_cons, List.length_append] at hlength hends
      refine ⟨hcontents.trans hskip, hends, ?_⟩
      rw [csumSize]
      omega
    · intro _
      refine ⟨buf.contents.takeWhile fun cell => !(gdbFrame (β := UInt8)).isStart cell, ?_, ?_, ?_⟩
      · rw [hcontents]
        exact List.takeWhile_append_dropWhile.symm
      · intro hmem
        have hmark := List.mem_takeWhile_imp hmem
        exact absurd hmark (by decide)
      · intro first hfirst
        rw [hcontents] at hfirst
        exact eq_of_beq (isStart_of_mem_head?_skip first hfirst)

/-! ## The removal -/

/-- The removal reads the cell behind the contents if anything follows the packet. -/
theorem popStaysInside_iff {buf : Pktbuf β} (hsound : buf.Sound) {endPos : ℕ}
    (hend : buf.endPos = some endPos) : PopStaysInside buf ↔ endPos + 1 = buf.size := by
  have hlength := hsound.length_contents
  have hread : ∀ cells, Block.read? buf.contents 0 (endPos + 1) = some cells →
      endPos + 1 ≤ buf.size := by
    intro cells hsome
    have hfits := (Block.read?_eq_some.mp hsome).1
    omega
  constructor
  · rintro ⟨packet, next, hpop⟩
    simp only [pktbufPopPacket, hend] at hpop
    cases hcells : Block.read? buf.contents 0 (endPos + 1) with
    | none =>
        rw [hcells] at hpop
        exact absurd hpop (by simp [bind, Except.bind])
    | some cells =>
        have hfits := hread cells hcells
        rw [hcells] at hpop
        by_contra hne
        -- the copy begins one cell behind the packet and moves all that was there
        have hmove : Block.move? buf.contents 0 (endPos + 1 + 1) (buf.size - (endPos + 1)) =
            none := by
          rw [Option.eq_none_iff_forall_ne_some]
          intro data hsome
          obtain ⟨hcount | hinside, -⟩ := Block.move?_zero_eq_some.mp hsome <;> omega
        simp [bind, Except.bind, show ¬ buf.size < endPos + 1 by omega, hmove] at hpop
  · intro hexact
    have hcells : Block.read? buf.contents 0 (endPos + 1) = some buf.contents := by
      rw [Block.read?_start (by omega), List.take_of_length_le (by omega)]
    refine ⟨some { endPos := endPos, data := buf.contents ++ [Octet.zero] },
      { buf with data := buf.contents, size := 0, endPos := none }, ?_⟩
    simp [pktbufPopPacket, hend, hcells, bind, Except.bind, pure, Except.pure,
      show ¬ buf.size < endPos + 1 by omega, show buf.size - (endPos + 1) = 0 by omega,
      Block.move?]

/-- When nothing follows the packet, the removal takes exactly it. -/
theorem popsFirst_of_last {buf : Pktbuf β} (hsound : buf.Sound) {endPos : ℕ}
    (hend : buf.endPos = some endPos) (hlast : endPos + 1 = buf.size) : PopsFirst buf := by
  have hlength := hsound.length_contents
  rcases pktbufPopPacket_spec hsound hend (by omega) with ⟨hrest, -, -⟩ |
      ⟨next, hpop, -, -, hcontents⟩
  · exact absurd (List.drop_eq_nil_iff.mpr (by omega)) hrest
  · have hall : buf.contents.take (endPos + 1) = buf.contents :=
      List.take_of_length_le (by omega)
    rw [hall, Packet.ofFrame, show buf.contents.length - 1 = endPos by omega] at hpop
    refine ⟨endPos, hend, buf.contents, next, by omega, hpop, ?_⟩
    rcases hcontents with ⟨-, hnil⟩ | ⟨stale, -, hrest, -⟩
    · rw [hnil, List.append_nil]
    · exact absurd (List.drop_eq_nil_iff.mpr (by omega)) hrest

/-- The cells of a marked buffer know their index. -/
theorem Pktbuf.marked_index {buf : Pktbuf UInt8} {index : ℕ} {cell : UInt8 × ℕ}
    (hcell : buf.marked.data[index]? = some cell) : cell.2 = index := by
  rw [Pktbuf.marked, List.getElem?_zipIdx] at hcell
  obtain ⟨byte, -, rfl⟩ := Option.map_eq_some_iff.mp hcell
  exact Nat.zero_add index

/-- When something follows the packet, the cell behind the contents becomes valid. -/
theorem last_of_popsFirst_marked {buf : Pktbuf UInt8} (hsound : buf.Sound) {endPos : ℕ}
    (hend : buf.endPos = some endPos) (hinside : endPos < buf.size)
    (hpops : PopsFirst buf.marked) : endPos + 1 = buf.size := by
  obtain ⟨endPos', hend', bytes, next, hbytes, hpop, hcontents⟩ := hpops
  obtain rfl : endPos = endPos' := Option.some.inj (hend.symm.trans hend')
  have hlength : buf.marked.contents.length = buf.size := hsound.marked.length_contents
  rcases pktbufPopPacket_spec hsound.marked (show buf.marked.endPos = some endPos from hend)
      (show endPos < buf.marked.size from hinside) with ⟨-, -, hfault⟩ |
      ⟨next', hpop', -, -, hcontents'⟩
  · rw [hfault] at hpop
    cases hpop
  · rw [hpop', Except.ok.injEq, Prod.mk.injEq] at hpop
    obtain ⟨-, rfl⟩ := hpop
    have hrest : next'.contents = buf.marked.contents.drop (endPos + 1) := by
      rw [hcontents, List.drop_left' hbytes]
    rcases hcontents' with ⟨hnil, -⟩ | ⟨stale, hstale, -, htail⟩
    · have hle := List.drop_eq_nil_iff.mp hnil
      omega
    · -- the stale cell has the index `size`, and no valid cell has it
      have hsize : buf.marked.size = buf.size := rfl
      have hmem : stale ∈ buf.marked.contents := by
        apply List.mem_of_mem_drop (i := endPos + 1)
        rw [← hrest, htail]
        simp
      obtain ⟨index, hindex, hcell⟩ := List.mem_iff_getElem.mp hmem
      have hvalid : buf.marked.data[index]? = some stale := by
        rw [← hcell, ← List.getElem?_eq_getElem hindex]
        exact (List.getElem?_take_of_lt (by omega)).symm
      have hplace := Pktbuf.marked_index hvalid
      have hbehind := Pktbuf.marked_index hstale
      omega

/-- **The removal takes exactly the packet if and only if nothing follows it.**  The buffer
is one that the search has just left with both checksum bytes received. -/
theorem popsFirst_iff {found buf : Pktbuf UInt8} (hfound : found.Sound)
    (hcomplete : pktbufIsComplete found = .ok (true, buf)) {endPos : ℕ}
    (hend : buf.endPos = some endPos) (hreceived : endPos < buf.size) :
    PopsFirst buf ∧ PopsFirst buf.marked ↔ endPos + 1 = buf.size := by
  obtain ⟨_, next, hspec, hsound, -⟩ := pktbufIsComplete_spec hfound
  rw [hspec] at hcomplete
  cases hcomplete
  constructor
  · rintro ⟨-, hmarked⟩
    exact last_of_popsFirst_marked hsound hend hreceived hmarked
  · intro hlast
    exact ⟨popsFirst_of_last hsound hend hlast, popsFirst_of_last hsound.marked hend hlast⟩

/-- A buffer of eight cells that holds these bytes and zeros behind them. -/
def smallPktbuf (bytes : List UInt8) : Pktbuf UInt8 :=
  { size := bytes.length, cap := 3, endPos := none,
    data := bytes ++ List.replicate (8 - bytes.length) 0 }

theorem popsFirst_iff_alone :
    PopsFirst { smallPktbuf (ascii "$a#61") with endPos := some 4 } ∧
      PopsFirst (Pktbuf.marked { smallPktbuf (ascii "$a#61") with endPos := some 4 }) := by
  have hsound : (smallPktbuf (ascii "$a#61")).Sound := ⟨by decide, by decide⟩
  have hfound : pktbufIsComplete (smallPktbuf (ascii "$a#61")) =
      .ok (true, { smallPktbuf (ascii "$a#61") with endPos := some 4 }) := by decide +kernel
  exact (popsFirst_iff hsound hfound rfl (by decide)).mpr (by decide)

/-- A `'+'` behind the packet is lost, and a zero that was never received takes its
place. -/
theorem pop_loses_plus :
    ∃ buf, pktbufIsComplete (smallPktbuf (ascii "$a#61+")) = .ok (true, buf) ∧
      buf.contents = ascii "$a#61+" ∧ buf.endPos = some 4 ∧ 4 < buf.size ∧
      (∃ packet next, pktbufPopPacket buf = .ok (some packet, next) ∧ next.contents = [0]) ∧
      ¬ PopsFirst buf := by
  refine ⟨{ smallPktbuf (ascii "$a#61+") with endPos := some 4 }, by decide +kernel, by decide,
    rfl, by decide, ⟨Packet.ofFrame (ascii "$a#61"),
      { size := 1, cap := 3, endPos := none, data := [0, 97, 35, 54, 49, 43, 0, 0] },
      by decide +kernel, by decide⟩, ?_⟩
  rintro ⟨endPos, hend, bytes, next, hbytes, hpop, hcontents⟩
  have hvalue : pktbufPopPacket { smallPktbuf (ascii "$a#61+") with endPos := some 4 } =
      .ok (some (Packet.ofFrame (ascii "$a#61")),
        { size := 1, cap := 3, endPos := none, data := [0, 97, 35, 54, 49, 43, 0, 0] }) := by
    decide +kernel
  rw [hvalue, Except.ok.injEq, Prod.mk.injEq] at hpop
  obtain ⟨-, rfl⟩ := hpop
  have hzero : (0 : UInt8) ∈ Pktbuf.contents { smallPktbuf (ascii "$a#61+") with
      endPos := some 4 } := by
    rw [hcontents]
    exact List.mem_append_right bytes (by decide)
  exact absurd hzero (by decide)

/-! ## Both together -/

/-- **Completeness is recognised, and the removal that follows stays inside the contents,
unless one byte or more than two stand behind the `'#'`.**  The search alone is right unless
it is one. -/
theorem completeness_iff {buf : Pktbuf UInt8} (hsound : buf.Sound) :
    (RecognisesComplete buf ↔
      ∀ before body behind, FirstFrame buf.contents before body behind → behind.length ≠ 1) ∧
    (RecognisesComplete buf ∧
        (∀ next, pktbufIsComplete buf = .ok (true, next) → PopStaysInside next) ↔
      ∀ before body behind, FirstFrame buf.contents before body behind →
        behind.length = 0 ∨ behind.length = csumSize) := by
  refine ⟨recognisesComplete_iff hsound, ?_⟩
  obtain ⟨found, next, hspec, hnext, hcontents, -, hendPos, -⟩ := pktbufIsComplete_spec hsound
  -- where the packet ends, compared with the contents the search leaves
  have hinside : ∀ before body behind, FirstFrame buf.contents before body behind →
      found = true → (PopStaysInside next ↔ behind.length = csumSize) := by
    intro before body behind hframe htrue
    obtain ⟨hskip, hup, -⟩ := hframe.parts
    have hlength := hnext.length_contents
    have hends := hendPos htrue
    rw [hcontents, hskip] at hlength hends
    rw [hup] at hends
    rw [popStaysInside_iff hnext hends]
    simp only [List.length_cons, List.length_append, csumSize] at hlength ⊢
    omega
  constructor
  · rintro ⟨hright, hpop⟩ before body behind hframe
    -- with no character behind the `'#'` the search reports nothing, and nothing is popped
    by_cases hnil : behind = []
    · exact .inl (by rw [hnil, List.length_nil])
    · have htrue := (found_iff hsound hspec).mpr ⟨before, body, behind, hframe, hnil⟩
      rw [htrue] at hspec
      exact .inr ((hinside before body behind hframe htrue).mp (hpop next hspec))
  · intro hbehind
    refine ⟨(recognisesComplete_iff hsound).mpr ?_, ?_⟩
    · intro before body behind hframe hone
      rcases hbehind before body behind hframe with hzero | htwo
      · omega
      · rw [hone] at htwo
        exact absurd htwo (by decide)
    · intro next' hspec'
      rw [hspec] at hspec'
      cases hspec'
      obtain ⟨before, body, behind, hframe, hne⟩ := (found_iff hsound hspec).mp rfl
      rcases hbehind before body behind hframe with hzero | htwo
      · exact absurd (List.length_eq_zero_iff.mp hzero) hne
      · exact (hinside before body behind hframe rfl).mpr htwo

theorem completeness_iff_cutTwice :
    RecognisesComplete (smallPktbuf (ascii "$a#")) ∧
      ∀ next, pktbufIsComplete (smallPktbuf (ascii "$a#")) = .ok (true, next) →
        PopStaysInside next := by
  have hsound : (smallPktbuf (ascii "$a#")).Sound := ⟨by decide, by decide⟩
  refine (completeness_iff hsound).2.mpr ?_
  intro before body behind hframe
  have hknown : FirstFrame (smallPktbuf (ascii "$a#")).contents [] (ascii "a") [] :=
    ⟨by decide, by decide, by decide⟩
  exact .inl (by rw [← (hknown.unique hframe).2, List.length_nil])

/-- With one checksum byte received the packet is taken for complete; `size` is then less
than the packet that is removed. -/
theorem cut_checksum_recognised :
    ¬ RecognisesComplete (smallPktbuf (ascii "$a#6")) ∧
      ∃ next, pktbufIsComplete (smallPktbuf (ascii "$a#6")) = .ok (true, next) ∧
        pktbufPopPacket next = .error .outOfBounds := by
  have hfound : pktbufIsComplete (smallPktbuf (ascii "$a#6")) =
      .ok (true, { smallPktbuf (ascii "$a#6") with endPos := some 4 }) := by decide +kernel
  refine ⟨?_, _, hfound, by decide +kernel⟩
  rintro ⟨found, next, hcomplete, hholds, -, -⟩
  rw [hfound] at hcomplete
  cases hcomplete
  obtain ⟨before, body, behind, hframe, hlong⟩ := hholds.mp rfl
  have hknown : FirstFrame (smallPktbuf (ascii "$a#6")).contents [] (ascii "a") (ascii "6") :=
    ⟨by decide, by decide, by decide⟩
  rw [← (hknown.unique hframe).2] at hlong
  exact absurd hlong (by decide)

end MiniGdbstub
