import MiniGdbstub.Library.Machine
import MiniGdbstub.Packet

/-!
# The reader thread

`socket_reader` as a machine.  One turn of its loop is a read into the packet
buffer, a scan of the bytes just read for the interrupt character, one step for
each of them, and then the loop over complete packets, one step for each
evaluation of its condition.

The machine keeps what the client sent (`received`), what was popped (`popped`)
and what the scan did about each received byte (`scanned`).  Two results:

* `popped_eq_frames`: in a run in which every packet is popped with nothing
  harmful behind it (`PopsExactly`), the packets popped are the frames of the
  stream, however the stream was cut into reads;
* `scan_iff_outside`: the scan looks at the raw bytes, so it agrees with "an
  interrupt is a 0x03 outside the frames" exactly when no frame contains one.
-/

namespace MiniGdbstub

open Framing

variable {β : Type} [Octet β]

/-! ## The steps of `socket_reader` -/

/-- Where the reader is in its loop: before the next `poll` and `read`, scanning
byte `i` of the `nread` just read, or in the loop over complete packets. -/
inductive ReaderPhase
  | poll
  | scan (nread i : ℕ)
  | assemble
  | crashed (fault : Fault)
  deriving DecidableEq, Repr

structure Reader (β : Type) where
  phase : ReaderPhase
  pktbuf : Pktbuf β

/-- `pktbuf_fill_from_file`.  Without a byte (`EINTR`, `EAGAIN`) the loop
continues. -/
def readerRead (bytes fresh : List β) (reader : Reader β) : Option (Reader β) :=
  if reader.phase = .poll ∧ bytes.length ≤ pktbufRoom reader.pktbuf ∧
      (2 ^ reader.pktbuf.cap = reader.pktbuf.size → fresh.length = 2 ^ reader.pktbuf.cap) then
    match pktbufFillFromFile bytes fresh reader.pktbuf with
    | .error fault => some { reader with phase := .crashed fault }
    | .ok buf =>
        some { phase := if bytes = [] then .poll else .scan bytes.length 0, pktbuf := buf }
  else
    none

/-- One turn of the scan: is byte `i` of the bytes just read the interrupt
character? -/
def readerScan (reader : Reader β) : Option (Bool × Reader β) :=
  match reader.phase with
  | .scan nread i =>
      match reader.pktbuf.data[reader.pktbuf.size - nread + i]? with
      | none => some (false, { reader with phase := .crashed .outOfBounds })
      | some cell => some (Octet.byte cell == intrChar,
          { reader with phase := if i + 1 < nread then .scan nread (i + 1) else .assemble })
  | _ => none

/-- One turn of the loop over complete packets, with the packet that it pops. -/
def readerAssemble (reader : Reader β) : Option (Option (Packet β) × Reader β) :=
  match reader.phase with
  | .assemble =>
      match pktbufIsComplete reader.pktbuf with
      | .error fault => some (none, { reader with phase := .crashed fault })
      | .ok (false, buf) => some (none, { phase := .poll, pktbuf := buf })
      | .ok (true, buf) =>
          match pktbufPopPacket buf with
          | .error fault => some (none, { phase := .crashed fault, pktbuf := buf })
          | .ok (packet, buf) => some (packet, { phase := .assemble, pktbuf := buf })
  | _ => none

/-- What the scan did about one received byte: the value of `async_io_enable` that
it loaded (or would have), whether it called `on_interrupt`, whether it called
`pktqueue_signal_interrupt`. -/
structure ScanRecord where
  async : Bool
  onInterrupt : Bool
  signalled : Bool
  deriving DecidableEq, Repr

structure ReaderRun (β : Type) where
  reader : Reader β
  received : List β
  popped : List (Packet β)
  scanned : List ScanRecord

inductive ReaderLabel (β : Type)
  | read (bytes fresh : List β)
  | scan (async : Bool)
  | assemble

/-- The reader thread by itself; `hasOnInterrupt` says whether the target has an
`on_interrupt`. -/
def socketReader (β : Type) [Octet β] (hasOnInterrupt : Bool) :
    Machine (ReaderRun β) (ReaderLabel β) where
  start :=
    { reader := { phase := .poll, pktbuf := pktbufInit }, received := [], popped := [],
      scanned := [] }
  step run
    | .read bytes fresh => (readerRead bytes fresh run.reader).map fun reader =>
        { run with reader := reader, received := run.received ++ bytes }
    | .scan async => (readerScan run.reader).map fun (hit, reader) =>
        { run with
          reader := reader
          scanned := run.scanned ++ [⟨async, hit && async && hasOnInterrupt, hit⟩] }
    | .assemble => (readerAssemble run.reader).map fun (packet, reader) =>
        { run with reader := reader, popped := run.popped ++ packet.toList }

/-! ## What a step can do -/

/-- The buffer of a reader that has not crashed. -/
structure Reader.Sound (reader : Reader β) : Prop where
  pktbuf : reader.pktbuf.Sound
  endPos : reader.pktbuf.endPos = none

omit [Octet β] in
theorem readerRead_cases {reader next : Reader β} (hsound : reader.Sound) {bytes fresh : List β}
    (hread : readerRead bytes fresh reader = some next) :
    reader.phase = .poll ∧
      ((2 ^ reader.pktbuf.cap = reader.pktbuf.size ∧ 31 ≤ reader.pktbuf.cap + 1 ∧
          next.phase = .crashed .intOverflow) ∨
        (next.Sound ∧ next.pktbuf.contents = reader.pktbuf.contents ++ bytes ∧
          next.phase = if bytes = [] then .poll else .scan bytes.length 0)) := by
  unfold readerRead at hread
  split at hread
  · rename_i hfits
    obtain ⟨hphase, hroom, hfresh⟩ := hfits
    refine ⟨hphase, ?_⟩
    by_cases hcap : 2 ^ reader.pktbuf.cap = reader.pktbuf.size → reader.pktbuf.cap + 1 < 31
    · obtain ⟨buf, hfill, hbuf, hcontents, hend⟩ :=
        pktbufFillFromFile_spec hsound.pktbuf hroom hfresh hcap
      rw [hfill] at hread
      cases hread
      exact Or.inr ⟨⟨hbuf, hend.trans hsound.endPos⟩, hcontents, rfl⟩
    · push Not at hcap
      obtain ⟨hfull, hcap⟩ := hcap
      have hsize : reader.pktbuf.size ≤ 2 ^ reader.pktbuf.cap := hfull.ge
      have hfill : pktbufFillFromFile bytes fresh reader.pktbuf = .error .intOverflow := by
        unfold pktbufFillFromFile pktbufEnlarge
        simp [hfull, not_lt.mpr hcap, bind, Except.bind]
      rw [hfill] at hread
      cases hread
      exact Or.inl ⟨hfull, hcap, rfl⟩
  · exact absurd hread (by simp)

theorem pktbufPopPacket_of_short {buf : Pktbuf β} {endPos : ℕ}
    (hend : buf.endPos = some endPos) (hshort : buf.size ≤ endPos) :
    pktbufPopPacket buf = .error .outOfBounds := by
  unfold pktbufPopPacket
  simp only [hend]
  cases hread : Block.read? buf.data 0 (endPos + 1) with
  | none => rfl
  | some bytes =>
      simp only [inBounds_some, bind, Except.bind, if_pos (show buf.size < endPos + 1 by omega)]
      rfl

/-- **One turn of the loop over complete packets**: the packet is not complete and
the contents are cut down to its beginning; or its frame is popped and something
near what followed it stays; or the copy of what followed reads or writes out of
bounds. -/
theorem readerAssemble_cases {reader next : Reader β} (hsound : reader.Sound)
    {packet : Option (Packet β)} (hstep : readerAssemble reader = some (packet, next)) :
    reader.phase = .assemble ∧
      ((packet = none ∧ next.phase = .poll ∧ next.Sound ∧
          next.pktbuf.contents = skip gdbFrame reader.pktbuf.contents ∧
          nextFrame? gdbFrame reader.pktbuf.contents = none) ∨
        (∃ frame rest, nextFrame? gdbFrame reader.pktbuf.contents = some (frame, rest) ∧
          packet = some (Packet.ofFrame frame) ∧ next.phase = .assemble ∧ next.Sound ∧
          ∃ found, pktbufIsComplete reader.pktbuf = .ok (true, found) ∧
            found.contents = frame ++ rest ∧ found.endPos = some (frame.length - 1) ∧
            (rest = [] ∧ next.pktbuf.contents = [] ∨
              ∃ stale, found.data[found.size]? = some stale ∧ rest ≠ [] ∧
                next.pktbuf.contents = rest.tail ++ [stale])) ∨
        (packet = none ∧ next.phase = .crashed .outOfBounds ∧
          ∃ found, pktbufIsComplete reader.pktbuf = .ok (true, found) ∧
            pktbufPopPacket found = .error .outOfBounds)) := by
  obtain ⟨complete, found, hsearch, hfound, hcontents, hcomplete, hend, hnone⟩ :=
    pktbufIsComplete_spec hsound.pktbuf
  unfold readerAssemble at hstep
  split at hstep
  case h_2 => exact absurd hstep (by simp)
  case h_1 hphase =>
    refine ⟨hphase, ?_⟩
    rw [hsearch] at hstep
    have hsplit : upToStop gdbFrame found.contents ++ fromStop gdbFrame found.contents =
        found.contents := upToStop_append_fromStop _
    have hlength := congrArg List.length hsplit
    rw [List.length_append, hfound.length_contents] at hlength
    cases complete with
    | false =>
        cases hstep
        refine Or.inl ⟨rfl, rfl, ⟨hfound, hnone rfl hsound.endPos⟩, hcontents, ?_⟩
        rw [nextFrame?_eq_none, ← hcontents]
        have hshort : ¬ csumSize ≤ (fromStop gdbFrame found.contents).length := by
          rw [← hcomplete]
          simp
        show (fromStop gdbFrame found.contents).length ≤ csumSize
        omega
    | true =>
        have hlong := hcomplete.mp rfl
        by_cases hdigits : (fromStop gdbFrame found.contents).length = csumSize
        · -- the second checksum byte is still missing
          have hpop : pktbufPopPacket found = .error .outOfBounds :=
            pktbufPopPacket_of_short (hend rfl) (by omega)
          simp only [hpop] at hstep
          cases hstep
          exact Or.inr (Or.inr ⟨rfl, rfl, found, hsearch, hpop⟩)
        · have hinside : (upToStop gdbFrame found.contents).length + csumSize < found.size := by
            omega
          have hnext := nextFrame?_eq_take (d := gdbFrame) reader.pktbuf.contents
            (by rw [← hcontents, gdbFrame_trailer]; omega)
          rw [← hcontents] at hnext
          -- the pop leaves the block when the contents fill it
          rcases pktbufPopPacket_spec hfound (hend rfl) hinside with
            ⟨-, -, hpop⟩ | ⟨buf, hpop, hbuf, hbufEnd, hrest⟩
          · simp only [hpop] at hstep
            cases hstep
            exact Or.inr (Or.inr ⟨rfl, rfl, found, hsearch, hpop⟩)
          · simp only [hpop] at hstep
            cases hstep
            refine Or.inr (Or.inl ⟨_, _, hnext, rfl, rfl, ⟨hbuf, hbufEnd⟩, found, hsearch,
              (List.take_append_drop _ _).symm, ?_, hrest⟩)
            rw [hend rfl, List.length_take, hfound.length_contents, gdbFrame_trailer]
            congr 1
            omega

/-- A turn of the scan looks at one of the bytes just read. -/
theorem readerScan_cases {reader next : Reader β} {hit : Bool}
    (hstep : readerScan reader = some (hit, next)) :
    ∃ nread i, reader.phase = .scan nread i ∧ next.pktbuf = reader.pktbuf ∧
      ((reader.pktbuf.data[reader.pktbuf.size - nread + i]? = none ∧
          next.phase = .crashed .outOfBounds) ∨
        ∃ cell, reader.pktbuf.data[reader.pktbuf.size - nread + i]? = some cell ∧
          hit = (Octet.byte cell == intrChar) ∧
          next.phase = if i + 1 < nread then .scan nread (i + 1) else .assemble) := by
  unfold readerScan at hstep
  split at hstep
  case h_2 => exact absurd hstep (by simp)
  case h_1 nread i hphase =>
    refine ⟨nread, i, hphase, ?_⟩
    split at hstep
    · rename_i hcell
      cases hstep
      exact ⟨rfl, Or.inl ⟨hcell, rfl⟩⟩
    · rename_i cell hcell
      cases hstep
      exact ⟨rfl, Or.inr ⟨cell, hcell, rfl, rfl⟩⟩

/-! ## Packets are the frames of the stream -/

/-- The state in which `pktbuf_pop_packet` is called, if the loop over complete
packets is about to call it. -/
def popState? (reader : Reader β) : Option (Pktbuf β) :=
  match pktbufIsComplete reader.pktbuf with
  | .ok (true, buf) => some buf
  | _ => none

/-- The state before a pop is harmless: both checksum bytes of the packet have been
received, and either nothing follows the packet in the buffer, or what follows
does not start with `'$'` and ends outside a frame, and the cell behind the
contents is in the block and no `'$'`. -/
def PopHarmless (buf : Pktbuf β) : Prop :=
  ∃ endPos ∈ buf.endPos, endPos < buf.size ∧
    let rest := buf.contents.drop (endPos + 1)
    (rest = [] ∨ (∀ cell ∈ rest.head?, ¬ gdbFrame.isStart cell) ∧
      (∃ stale ∈ buf.data[buf.size]?, ¬ gdbFrame.isStart stale) ∧ residual gdbFrame rest = [])

/-- What a step of the reader needs: a full buffer can still be enlarged, and a
packet is popped in a harmless state. -/
def PopsExactly (run : ReaderRun β) : ReaderLabel β → Prop
  | .read _ _ => 2 ^ run.reader.pktbuf.cap = run.reader.pktbuf.size →
      run.reader.pktbuf.cap + 1 < 31
  | .scan _ => True
  | .assemble => ∀ buf ∈ popState? run.reader, PopHarmless buf

instance [DecidableEq β] (buf : Pktbuf β) : Decidable (PopHarmless buf) :=
  inferInstanceAs (Decidable (∃ endPos ∈ buf.endPos, _))

instance [DecidableEq β] (run : ReaderRun β) : ∀ label, Decidable (PopsExactly run label)
  | .read _ _ => inferInstanceAs (Decidable (_ → _))
  | .scan _ => inferInstanceAs (Decidable True)
  | .assemble => inferInstanceAs (Decidable (∀ buf ∈ popState? run.reader, _))

/-- A harmless pop leaves a buffer that is framed like what followed the packet. -/
theorem frames_of_harmless {found : Pktbuf β} (hharmless : PopHarmless found)
    {frame rest : List β} (hcontents : found.contents = frame ++ rest)
    (hend : found.endPos = some (frame.length - 1)) (hframe : 0 < frame.length)
    {left : List β} (hleft : rest = [] ∧ left = [] ∨
      ∃ stale, found.data[found.size]? = some stale ∧ rest ≠ [] ∧ left = rest.tail ++ [stale]) :
    frames gdbFrame left = frames gdbFrame rest ∧
      residual gdbFrame left = residual gdbFrame rest := by
  obtain ⟨endPos, hmem, -, hrest⟩ := hharmless
  rw [hend] at hmem
  obtain rfl := Option.some.inj hmem
  rw [Nat.sub_add_cancel hframe, hcontents, List.drop_left] at hrest
  rcases hleft with ⟨rfl, rfl⟩ | ⟨stale, hstale, hne, rfl⟩
  · exact ⟨rfl, rfl⟩
  · obtain hnil | ⟨hhead, ⟨stale', hstale', hquiet⟩, hresidual⟩ := hrest
    · exact absurd hnil hne
    · rw [hstale] at hstale'
      obtain rfl := Option.some.inj hstale'
      obtain ⟨first, rest, rfl⟩ := List.exists_cons_of_ne_nil hne
      have hfirst : ¬ gdbFrame.isStart first := hhead first rfl
      rw [residual_cons_of_not_isStart hfirst] at hresidual ⊢
      rw [frames_cons_of_not_isStart hfirst, List.tail_cons, frames_append, residual_append,
        hresidual, List.nil_append, frames_cons_of_not_isStart hquiet,
        residual_cons_of_not_isStart hquiet]
      simp

/-- The invariant of the reader in runs that pop exactly: the frames of the stream
are those already popped and those of the buffer, and the stream and the buffer
leave the same frame unfinished. -/
structure ReaderRun.Exact (run : ReaderRun β) : Prop where
  sound : run.reader.Sound
  running : ∀ fault, run.reader.phase ≠ .crashed fault
  frames_eq : (frames gdbFrame run.received).map Packet.ofFrame =
    run.popped ++ (frames gdbFrame run.reader.pktbuf.contents).map Packet.ofFrame
  residual_eq : residual gdbFrame run.received = residual gdbFrame run.reader.pktbuf.contents
  idle : run.reader.phase = .poll → nextFrame? gdbFrame run.reader.pktbuf.contents = none
  scanning : ∀ nread i, run.reader.phase = .scan nread i →
    i < nread ∧ nread ≤ run.reader.pktbuf.size

theorem ReaderRun.Exact.start {hasOnInterrupt : Bool} :
    (socketReader β hasOnInterrupt).start.Exact where
  sound := ⟨pktbufInit_sound, rfl⟩
  running := by simp [socketReader]
  frames_eq := by simp [socketReader]
  residual_eq := by simp [socketReader]
  idle := by simp [socketReader]
  scanning := by simp [socketReader]

theorem ReaderRun.Exact.read {run : ReaderRun β} (hrun : run.Exact) {bytes fresh : List β}
    (hguard : PopsExactly run (.read bytes fresh)) {reader : Reader β}
    (hread : readerRead bytes fresh run.reader = some reader) :
    ReaderRun.Exact { run with reader := reader, received := run.received ++ bytes } := by
  obtain ⟨hphase, ⟨hfull, hcap, -⟩ | ⟨hsound, hcontents, hnext⟩⟩ :=
    readerRead_cases hrun.sound hread
  -- the guard rules out a block that cannot be doubled
  · exact absurd (hguard hfull) (by omega)
  · have hnone := hrun.idle hphase
    have hframes : frames gdbFrame run.reader.pktbuf.contents = [] := frames_of_none hnone
    constructor
    · exact hsound
    · intro fault
      rw [hnext]
      split <;> simp
    · show (frames gdbFrame (run.received ++ bytes)).map _ = _
      rw [frames_append, List.map_append, hrun.frames_eq, hframes, hcontents,
        frames_append run.reader.pktbuf.contents, hframes, hrun.residual_eq]
      simp
    · show residual gdbFrame (run.received ++ bytes) = _
      rw [residual_append, hrun.residual_eq, hcontents,
        residual_append run.reader.pktbuf.contents]
    · intro hpoll
      rw [hnext] at hpoll
      split at hpoll
      · rename_i hbytes
        rw [hcontents, hbytes, List.append_nil]
        exact hnone
      · exact absurd hpoll (by simp)
    · intro nread i hscan
      rw [hnext] at hscan
      split at hscan
      · exact absurd hscan (by simp)
      · rename_i hbytes
        cases hscan
        have hlength := congrArg List.length hcontents
        rw [hsound.pktbuf.length_contents, List.length_append] at hlength
        refine ⟨List.length_pos_iff.mpr hbytes, ?_⟩
        show bytes.length ≤ reader.pktbuf.size
        omega

theorem ReaderRun.Exact.scan {run : ReaderRun β} (hrun : run.Exact) {hit : Bool}
    {reader : Reader β} (hscan : readerScan run.reader = some (hit, reader))
    (record : ScanRecord) :
    ReaderRun.Exact { run with reader := reader, scanned := run.scanned ++ [record] } := by
  obtain ⟨nread, i, hphase, hbuf, hcell⟩ := readerScan_cases hscan
  obtain ⟨hi, hnread⟩ := hrun.scanning nread i hphase
  have hsize := hrun.sound.pktbuf.size_le
  rcases hcell with ⟨hnone, -⟩ | ⟨cell, -, -, hnext⟩
  · rw [List.getElem?_eq_none_iff] at hnone
    omega
  · constructor
    · exact ⟨hbuf ▸ hrun.sound.pktbuf, hbuf ▸ hrun.sound.endPos⟩
    · intro fault
      rw [hnext]
      split <;> simp
    · show (frames gdbFrame run.received).map _ =
        run.popped ++ (frames gdbFrame reader.pktbuf.contents).map _
      rw [hbuf]
      exact hrun.frames_eq
    · show residual gdbFrame run.received = residual gdbFrame reader.pktbuf.contents
      rw [hbuf]
      exact hrun.residual_eq
    · intro hpoll
      rw [hnext] at hpoll
      split at hpoll <;> exact absurd hpoll (by simp)
    · intro nread' i' hscan'
      rw [hnext] at hscan'
      split at hscan'
      · rename_i hlt
        cases hscan'
        rw [hbuf]
        exact ⟨hlt, hnread⟩
      · exact absurd hscan' (by simp)

theorem ReaderRun.Exact.assemble {run : ReaderRun β} (hrun : run.Exact)
    (hguard : PopsExactly run .assemble) {packet : Option (Packet β)} {reader : Reader β}
    (hassemble : readerAssemble run.reader = some (packet, reader)) :
    ReaderRun.Exact { run with reader := reader, popped := run.popped ++ packet.toList } := by
  obtain ⟨-, hcases⟩ := readerAssemble_cases hrun.sound hassemble
  rcases hcases with ⟨rfl, hphase, hsound, hcontents, hnone⟩ |
    ⟨frame, rest, hnext, rfl, hphase, hsound, found, hsearch, hfound, hend, hleft⟩ |
    ⟨rfl, -, found, hsearch, hpop⟩
  · -- the packet is not complete: the contents are cut to what is unfinished
    have hskip : nextFrame? gdbFrame reader.pktbuf.contents = none := by
      rw [hcontents, nextFrame?_skip, hnone]
    constructor
    · exact hsound
    · simp [hphase]
    · show (frames gdbFrame run.received).map _ = run.popped ++ [] ++ _
      rw [hrun.frames_eq, frames_of_none hnone, frames_of_none hskip, List.append_nil]
    · show residual gdbFrame run.received = _
      rw [hrun.residual_eq, residual_of_none hnone, residual_of_none hskip, hcontents, skip_skip]
    · exact fun _ => hskip
    · simp [hphase]
  · -- its first frame is popped
    have hharmless : PopHarmless found := hguard found (by simp [popState?, hsearch])
    have hframe := (nextFrame?_eq_some hnext).2
    obtain ⟨hframes, hresidual⟩ :=
      frames_of_harmless hharmless hfound hend (Nat.zero_lt_of_lt hframe) hleft
    constructor
    · exact hsound
    · simp [hphase]
    · show (frames gdbFrame run.received).map _ = run.popped ++ [Packet.ofFrame frame] ++ _
      rw [hrun.frames_eq, frames_of_some hnext, hframes]
      simp
    · show residual gdbFrame run.received = _
      rw [hrun.residual_eq, residual_of_some hnext, hresidual]
    · simp [hphase]
    · simp [hphase]
  · -- the copy leaves the block: not from a harmless state
    have hharmless : PopHarmless found := hguard found (by simp [popState?, hsearch])
    obtain ⟨complete, found', hsearch', hfound, -⟩ := pktbufIsComplete_spec hrun.sound.pktbuf
    rw [hsearch] at hsearch'
    cases hsearch'
    obtain ⟨endPos, hend, hinside, hrest⟩ := hharmless
    rcases pktbufPopPacket_spec hfound hend hinside with ⟨hne, hfull, -⟩ | ⟨next, hok, -⟩
    · obtain hnil | ⟨-, ⟨stale, hstale, -⟩, -⟩ := hrest
      · exact absurd hnil hne
      · rw [hfull, List.getElem?_eq_none le_rfl] at hstale
        exact absurd hstale (by simp)
    · rw [hpop] at hok
      exact absurd hok (by simp)

/-- The invariant holds along every run that pops exactly. -/
theorem exact_of_popsExactly {hasOnInterrupt : Bool} {labels : List (ReaderLabel β)}
    {run : ReaderRun β}
    (hguard : (socketReader β hasOnInterrupt).Guarded PopsExactly labels)
    (hrun : (socketReader β hasOnInterrupt).run labels = some run) : run.Exact := by
  refine Machine.run_guarded ReaderRun.Exact.start ?_ hguard hrun
  intro run label next hexact hmeets hstep
  cases label with
  | read bytes fresh =>
      obtain ⟨reader, hread, rfl⟩ := Option.map_eq_some_iff.mp hstep
      exact hexact.read hmeets hread
  | scan async =>
      obtain ⟨⟨hit, reader⟩, hscan, rfl⟩ := Option.map_eq_some_iff.mp hstep
      exact hexact.scan hscan _
  | assemble =>
      obtain ⟨⟨packet, reader⟩, hassemble, rfl⟩ := Option.map_eq_some_iff.mp hstep
      exact hexact.assemble hmeets hassemble

/-! ### The loop over complete packets ends -/

/-- Every packet popped makes the contents shorter. -/
theorem length_contents_lt {reader next : Reader β} (hsound : reader.Sound)
    {packet : Option (Packet β)} (hstep : readerAssemble reader = some (packet, next))
    (hphase : next.phase = .assemble) :
    next.Sound ∧ next.pktbuf.contents.length < reader.pktbuf.contents.length := by
  obtain ⟨-, hcases⟩ := readerAssemble_cases hsound hstep
  rcases hcases with ⟨-, hpoll, -⟩ |
    ⟨frame, rest, hnext, -, -, hnextSound, found, -, -, -, hleft⟩ | ⟨-, hcrash, -⟩
  · exact absurd (hphase.symm.trans hpoll) (by simp)
  · have hrest := length_rest_lt hnext
    refine ⟨hnextSound, ?_⟩
    rcases hleft with ⟨rfl, hcontents⟩ | ⟨stale, -, hne, hcontents⟩
    · rwa [hcontents]
    · have hpos := List.length_pos_iff.mpr hne
      rw [hcontents, List.length_append, List.length_tail, List.length_singleton,
        Nat.sub_add_cancel hpos]
      exact hrest
  · exact absurd (hphase.symm.trans hcrash) (by simp)

theorem readerAssemble_enabled {reader : Reader β} (hphase : reader.phase = .assemble) :
    ∃ packet next, readerAssemble reader = some (packet, next) := by
  unfold readerAssemble
  rw [hphase]
  cases hsearch : pktbufIsComplete reader.pktbuf with
  | error fault => exact ⟨_, _, rfl⟩
  | ok found =>
      obtain ⟨complete, buf⟩ := found
      cases complete with
      | false => exact ⟨_, _, rfl⟩
      | true =>
          simp only
          cases pktbufPopPacket buf with
          | error fault => exact ⟨_, _, rfl⟩
          | ok popped => exact ⟨_, _, rfl⟩

theorem assemble_ends (hasOnInterrupt : Bool) :
    ∀ (size : ℕ) (run : ReaderRun β), run.reader.Sound → run.reader.phase = .assemble →
      run.reader.pktbuf.contents.length ≤ size →
      ∃ turns final, (socketReader β hasOnInterrupt).runFrom run
        (List.replicate turns .assemble) = some final ∧ final.reader.phase ≠ .assemble := by
  intro size
  induction size with
  | zero =>
      intro run hsound hphase hsize
      obtain ⟨packet, next, hstep⟩ := readerAssemble_enabled hphase
      refine ⟨1, { run with reader := next, popped := run.popped ++ packet.toList }, ?_, ?_⟩
      · simp [socketReader, hstep]
      · intro hnext
        have hshorter := (length_contents_lt hsound hstep hnext).2
        omega
  | succ size ih =>
      intro run hsound hphase hsize
      obtain ⟨packet, next, hstep⟩ := readerAssemble_enabled hphase
      by_cases hnext : next.phase = .assemble
      · obtain ⟨hnextSound, hshorter⟩ := length_contents_lt hsound hstep hnext
        obtain ⟨turns, final, hrun, hfinal⟩ :=
          ih { run with reader := next, popped := run.popped ++ packet.toList } hnextSound hnext
            (by show next.pktbuf.contents.length ≤ size; omega)
        refine ⟨turns + 1, final, ?_, hfinal⟩
        rw [List.replicate_succ, Machine.runFrom_cons]
        simpa [socketReader, hstep] using hrun
      · refine ⟨1, { run with reader := next, popped := run.popped ++ packet.toList }, ?_, hnext⟩
        simp [socketReader, hstep]

/-! ### The reader frames the stream -/

/-- **Framing does not depend on how the stream is cut.**  In a run that pops
exactly, the reader does not crash, at every moment it has popped the first frames
of what it received, and before every read it has popped all of them; its loop over
complete packets ends. -/
theorem popped_eq_frames {hasOnInterrupt : Bool} {labels : List (ReaderLabel UInt8)}
    {run : ReaderRun UInt8}
    (hguard : (socketReader UInt8 hasOnInterrupt).Guarded PopsExactly labels)
    (hrun : (socketReader UInt8 hasOnInterrupt).run labels = some run) :
    (∀ fault, run.reader.phase ≠ .crashed fault) ∧
      run.popped <+: (frames gdbFrame run.received).map Packet.ofFrame ∧
      (run.reader.phase = .poll →
        run.popped = (frames gdbFrame run.received).map Packet.ofFrame) ∧
      (run.reader.phase = .assemble → ∃ turns final,
        (socketReader UInt8 hasOnInterrupt).run (labels ++ List.replicate turns .assemble) =
          some final ∧ final.reader.phase ≠ .assemble) := by
  have hexact := exact_of_popsExactly hguard hrun
  refine ⟨hexact.running, ?_, ?_, ?_⟩
  · rw [hexact.frames_eq]
    exact List.prefix_append _ _
  · intro hpoll
    rw [hexact.frames_eq, frames_of_none (hexact.idle hpoll)]
    simp
  · intro hphase
    obtain ⟨turns, final, hfinal, hne⟩ :=
      assemble_ends hasOnInterrupt _ run hexact.sound hphase le_rfl
    exact ⟨turns, final, by rw [Machine.run_append, hrun]; exact hfinal, hne⟩

/-- A frame cut in the middle of its body and behind its `'#'`. -/
def cutFrame : List (ReaderLabel UInt8) :=
  [.read (ascii "$a") [], .scan false, .scan false, .assemble,
    .read (ascii "b#") [], .scan false, .scan false, .assemble,
    .read (ascii "c3") [], .scan false, .scan false, .assemble, .assemble]

theorem popped_eq_frames_cutFrame :
    ∃ run, (socketReader UInt8 true).run cutFrame = some run ∧
      run.popped = (frames gdbFrame (ascii "$ab#c3")).map Packet.ofFrame := by
  have hguard : (socketReader UInt8 true).Guarded PopsExactly cutFrame := by decide +kernel
  have hfinal : (((socketReader UInt8 true).run cutFrame).map fun run =>
      (run.reader.phase, run.received)) = some (.poll, ascii "$ab#c3") := by decide +kernel
  obtain ⟨run, hrun, heq⟩ := Option.map_eq_some_iff.mp hfinal
  obtain ⟨hphase, hreceived⟩ := Prod.mk.inj heq
  refine ⟨run, hrun, ?_⟩
  rw [(popped_eq_frames hguard hrun).2.2.1 hphase, hreceived]

/-- Two frames in one read. -/
def backToBack : List (ReaderLabel UInt8) :=
  .read (ascii "$a#61$b#62") [] :: List.replicate 10 (.scan false) ++
    [.assemble, .assemble]

/-- A read that ends between the two checksum digits. -/
def cutChecksum : List (ReaderLabel UInt8) :=
  .read (ascii "$a#6") [] :: List.replicate 4 (.scan false) ++ [.assemble]

/-- Of two frames in one read the second loses its `'$'` and is not popped; a read
that ends between the checksum digits makes the pop run out of bounds. -/
theorem backToBack_loses_frame :
    (∃ run, (socketReader UInt8 true).run backToBack = some run ∧ run.reader.phase = .poll ∧
        run.popped ≠ (frames gdbFrame run.received).map Packet.ofFrame) ∧
      ∃ run, (socketReader UInt8 true).run cutChecksum = some run ∧
        run.reader.phase = .crashed .outOfBounds := by
  constructor
  · have hfinal : (((socketReader UInt8 true).run backToBack).map fun run =>
        (run.reader.phase, run.popped.length, run.received)) =
          some (.poll, 1, ascii "$a#61$b#62") := by decide +kernel
    obtain ⟨run, hrun, heq⟩ := Option.map_eq_some_iff.mp hfinal
    simp only [Prod.mk.injEq] at heq
    obtain ⟨hphase, hpopped, hreceived⟩ := heq
    refine ⟨run, hrun, hphase, fun hframes => ?_⟩
    have hfirst : nextFrame? gdbFrame (ascii "$a#61$b#62") =
        some (ascii "$a#61", ascii "$b#62") := by decide
    have hsecond : nextFrame? gdbFrame (ascii "$b#62") = some (ascii "$b#62", []) := by decide
    rw [hreceived, frames_of_some hfirst, frames_of_some hsecond, frames_nil] at hframes
    rw [hframes] at hpopped
    exact absurd hpopped (by decide)
  · have hfinal : (((socketReader UInt8 true).run cutChecksum).map fun run =>
        run.reader.phase) = some (.crashed .outOfBounds) := by decide +kernel
    obtain ⟨run, hrun, hphase⟩ := Option.map_eq_some_iff.mp hfinal
    exact ⟨run, hrun, hphase⟩

/-! ## The scan looks at raw bytes -/

/-- What the scan has recorded: one entry for each received byte it has passed, which
signals exactly when that byte is the interrupt character. -/
structure ReaderRun.Scanned (hasOnInterrupt : Bool) (run : ReaderRun β) : Prop where
  sound : (∀ fault, run.reader.phase ≠ .crashed fault) → run.reader.Sound
  scanning : ∀ nread i, run.reader.phase = .scan nread i → i < nread ∧
    ∃ before earlier bytes, run.reader.pktbuf.contents = before ++ bytes ∧
      run.received = earlier ++ bytes ∧ bytes.length = nread ∧
      run.scanned.length = earlier.length + i
  done : run.reader.phase = .poll ∨ run.reader.phase = .assemble →
    run.scanned.length = run.received.length
  marks : ∀ (position : ℕ) (record : ScanRecord), run.scanned[position]? = some record →
    ∃ cell : β, run.received[position]? = some cell ∧
      record.signalled = (Octet.byte cell == intrChar) ∧
      record.onInterrupt = (record.signalled && record.async && hasOnInterrupt)

theorem ReaderRun.Scanned.start {hasOnInterrupt : Bool} :
    (socketReader β hasOnInterrupt).start.Scanned hasOnInterrupt where
  sound := fun _ => ⟨pktbufInit_sound, rfl⟩
  scanning := by simp [socketReader]
  done := by simp [socketReader]
  marks := by simp [socketReader]

theorem ReaderRun.Scanned.read {hasOnInterrupt : Bool} {run : ReaderRun β}
    (hrun : run.Scanned hasOnInterrupt) {bytes fresh : List β} {reader : Reader β}
    (hread : readerRead bytes fresh run.reader = some reader) :
    ReaderRun.Scanned hasOnInterrupt
      { run with reader := reader, received := run.received ++ bytes } := by
  have hmarks : ∀ (position : ℕ) (record : ScanRecord), run.scanned[position]? = some record →
      ∃ cell : β, (run.received ++ bytes)[position]? = some cell ∧
        record.signalled = (Octet.byte cell == intrChar) ∧
        record.onInterrupt = (record.signalled && record.async && hasOnInterrupt) := by
    intro position record hrecord
    obtain ⟨cell, hcell, hsignal⟩ := hrun.marks position record hrecord
    have hposition := (List.getElem?_eq_some_iff.mp hcell).1
    exact ⟨cell, by rw [List.getElem?_append_left hposition, hcell], hsignal⟩
  have hpoll : run.reader.phase = .poll := by
    unfold readerRead at hread
    split at hread
    · rename_i hfits
      exact hfits.1
    · exact absurd hread (by simp)
  have hsound : run.reader.Sound := hrun.sound (by simp [hpoll])
  have hdone := hrun.done (Or.inl hpoll)
  rcases (readerRead_cases hsound hread).2 with ⟨-, -, hcrash⟩ | ⟨hnext, hcontents, hphase⟩
  · exact ⟨fun hrunning => absurd hcrash (hrunning _), by simp [hcrash], by simp [hcrash], hmarks⟩
  -- a read without bytes leaves the reader at the poll, with nothing to scan
  · by_cases hbytes : bytes = []
    · rw [if_pos hbytes] at hphase
      refine ⟨fun _ => hnext, by simp [hphase], fun _ => ?_, hmarks⟩
      show run.scanned.length = (run.received ++ bytes).length
      rw [hbytes, List.append_nil, hdone]
    · rw [if_neg hbytes] at hphase
      refine ⟨fun _ => hnext, ?_, by simp [hphase], hmarks⟩
      intro nread i hscan
      rw [show reader.phase = _ from hphase] at hscan
      cases hscan
      exact ⟨List.length_pos_iff.mpr hbytes, _, _, bytes, hcontents, rfl, rfl, hdone⟩

theorem ReaderRun.Scanned.scan {hasOnInterrupt : Bool} {run : ReaderRun β}
    (hrun : run.Scanned hasOnInterrupt) {hit : Bool} {reader : Reader β}
    (hscan : readerScan run.reader = some (hit, reader)) (async : Bool) :
    ReaderRun.Scanned hasOnInterrupt
      { run with
        reader := reader
        scanned := run.scanned ++ [⟨async, hit && async && hasOnInterrupt, hit⟩] } := by
  obtain ⟨nread, i, hphase, hbuf, hcell⟩ := readerScan_cases hscan
  have hsound : run.reader.Sound := hrun.sound (by simp [hphase])
  obtain ⟨hi, before, earlier, bytes, hcontents, hreceived, hbytes, hscanned⟩ :=
    hrun.scanning nread i hphase
  have hsize : before.length + bytes.length = run.reader.pktbuf.size := by
    rw [← hsound.pktbuf.length_contents, hcontents, List.length_append]
  -- byte `i` of the read, in the buffer and in the stream
  have hindex : run.reader.pktbuf.size - nread + i = before.length + i := by omega
  have hbyte : run.reader.pktbuf.data[before.length + i]? = bytes[i]? := by
    have htake : run.reader.pktbuf.contents[before.length + i]? =
        run.reader.pktbuf.data[before.length + i]? :=
      List.getElem?_take_of_lt (by omega)
    rw [← htake, hcontents, List.getElem?_append_right (by omega), Nat.add_sub_cancel_left]
  rw [hindex, hbyte] at hcell
  rcases hcell with ⟨hnone, -⟩ | ⟨cell, hcell, rfl, hnext⟩
  · rw [List.getElem?_eq_none_iff] at hnone
    omega
  · constructor
    · exact fun _ => ⟨hbuf ▸ hsound.pktbuf, hbuf ▸ hsound.endPos⟩
    · intro nread' i' hscan'
      rw [show reader.phase = _ from hnext] at hscan'
      split at hscan'
      · rename_i hlt
        cases hscan'
        refine ⟨hlt, before, earlier, bytes, by rw [hbuf]; exact hcontents, hreceived, hbytes, ?_⟩
        rw [List.length_append, hscanned, List.length_singleton, Nat.add_assoc]
      · exact absurd hscan' (by simp)
    · intro hfinished
      rw [show reader.phase = _ from hnext] at hfinished
      split at hfinished
      · simp at hfinished
      · show (run.scanned ++ [_]).length = run.received.length
        rw [List.length_append, hscanned, hreceived, List.length_append, List.length_singleton]
        omega
    · intro position record hrecord
      rcases Nat.lt_or_ge position run.scanned.length with hlt | hge
      · rw [List.getElem?_append_left hlt] at hrecord
        exact hrun.marks position record hrecord
      · rw [List.getElem?_append_right hge] at hrecord
        have hposition : position = run.scanned.length := by
          have hinside := (List.getElem?_eq_some_iff.mp hrecord).1
          rw [List.length_singleton] at hinside
          omega
        rw [hposition, Nat.sub_self] at hrecord
        cases hrecord
        refine ⟨cell, ?_, rfl, rfl⟩
        rw [hposition, hscanned, hreceived, List.getElem?_append_right (by omega),
          Nat.add_sub_cancel_left, hcell]

theorem ReaderRun.Scanned.assemble {hasOnInterrupt : Bool} {run : ReaderRun β}
    (hrun : run.Scanned hasOnInterrupt) {packet : Option (Packet β)} {reader : Reader β}
    (hassemble : readerAssemble run.reader = some (packet, reader)) :
    ReaderRun.Scanned hasOnInterrupt
      { run with reader := reader, popped := run.popped ++ packet.toList } := by
  have hphase : run.reader.phase = .assemble := by
    unfold readerAssemble at hassemble
    split at hassemble
    · assumption
    · exact absurd hassemble (by simp)
  have hsound : run.reader.Sound := hrun.sound (by simp [hphase])
  have hdone := hrun.done (Or.inr hphase)
  rcases (readerAssemble_cases hsound hassemble).2 with
    ⟨-, hnext, hnextSound, -⟩ | ⟨frame, rest, -, -, hnext, hnextSound, -⟩ | ⟨-, hnext, -⟩
  · exact ⟨fun _ => hnextSound, by simp [hnext], fun _ => hdone, hrun.marks⟩
  · exact ⟨fun _ => hnextSound, by simp [hnext], fun _ => hdone, hrun.marks⟩
  · exact ⟨fun hrunning => absurd hnext (hrunning _), by simp [hnext], by simp [hnext],
      hrun.marks⟩

/-- Every run scans what it receives, whatever becomes of the packets. -/
theorem scanned_of_run {hasOnInterrupt : Bool} {labels : List (ReaderLabel β)}
    {run : ReaderRun β} (hrun : (socketReader β hasOnInterrupt).run labels = some run) :
    run.Scanned hasOnInterrupt := by
  refine Machine.run_invariant ReaderRun.Scanned.start ?_ hrun
  intro run label next hscanned hstep
  cases label with
  | read bytes fresh =>
      obtain ⟨reader, hread, rfl⟩ := Option.map_eq_some_iff.mp hstep
      exact hscanned.read hread
  | scan async =>
      obtain ⟨⟨hit, reader⟩, hscan, rfl⟩ := Option.map_eq_some_iff.mp hstep
      exact hscanned.scan hscan async
  | assemble =>
      obtain ⟨⟨packet, reader⟩, hassemble, rfl⟩ := Option.map_eq_some_iff.mp hstep
      exact hscanned.assemble hassemble

/-- The byte at this position of the client's stream is the interrupt character and
lies outside every frame. -/
def IsInterrupt (stream : List UInt8) (position : ℕ) : Prop :=
  stream[position]? = some intrChar ∧ (inFrames gdbFrame stream)[position]? ≠ some true

/-- **The scan agrees with the framing exactly when no frame contains 0x03.**  For
every run and whatever the client sends after it: the scan has signalled
`on_interrupt` (when async I/O is enabled) and `pktqueue_signal_interrupt` exactly
for the interrupts outside the frames of the stream if and only if no 0x03 that it
scanned lies inside a frame.  Before every read it has scanned all it received. -/
theorem scan_iff_outside {hasOnInterrupt : Bool} {labels : List (ReaderLabel UInt8)}
    {run : ReaderRun UInt8} (hrun : (socketReader UInt8 hasOnInterrupt).run labels = some run)
    (unread : List UInt8) :
    ((run.reader.phase = .poll → run.scanned.length = run.received.length) ∧
      ∀ (position : ℕ) (record : ScanRecord), run.scanned[position]? = some record →
        (record.signalled = true ↔ IsInterrupt (run.received ++ unread) position) ∧
        (record.onInterrupt = true ↔ IsInterrupt (run.received ++ unread) position ∧
          record.async = true ∧ hasOnInterrupt = true)) ↔
      ∀ position < run.scanned.length,
        (run.received ++ unread)[position]? = some intrChar →
          (inFrames gdbFrame (run.received ++ unread))[position]? ≠ some true := by
  have hscanned := scanned_of_run hrun
  have hbyte : ∀ (position : ℕ) (record : ScanRecord), run.scanned[position]? = some record →
      (record.signalled = true ↔ (run.received ++ unread)[position]? = some intrChar) ∧
        record.onInterrupt = (record.signalled && record.async && hasOnInterrupt) := by
    intro position record hrecord
    obtain ⟨cell, hcell, hsignal, hcall⟩ := hscanned.marks position record hrecord
    have hposition := (List.getElem?_eq_some_iff.mp hcell).1
    refine ⟨?_, hcall⟩
    rw [List.getElem?_append_left hposition, hcell, hsignal]
    simp
  constructor
  · rintro ⟨-, hagree⟩ position hposition hintr
    have hrecord := List.getElem?_eq_getElem hposition
    have hsignal := ((hbyte position _ hrecord).1).mpr hintr
    exact (((hagree position _ hrecord).1).mp hsignal).2
  · intro houtside
    refine ⟨fun hpoll => hscanned.done (Or.inl hpoll), ?_⟩
    intro position record hrecord
    obtain ⟨hsignal, hcall⟩ := hbyte position record hrecord
    have hposition := (List.getElem?_eq_some_iff.mp hrecord).1
    have hiff : record.signalled = true ↔ IsInterrupt (run.received ++ unread) position := by
      rw [hsignal]
      exact ⟨fun hintr => ⟨hintr, houtside position hposition hintr⟩, fun hintr => hintr.1⟩
    refine ⟨hiff, ?_⟩
    rw [hcall, Bool.and_eq_true, Bool.and_eq_true, hiff, and_assoc]

/-- The binary data of an `X` packet, received in one read. -/
def binaryWrite : List (ReaderLabel UInt8) :=
  .read (ascii "$X0,1:" ++ [3] ++ ascii "#1c") [] :: List.replicate 10 (.scan true)

theorem scan_iff_outside_binaryWrite :
    ∃ run, (socketReader UInt8 true).run (binaryWrite.take 3) = some run ∧
      ∀ record : ScanRecord, run.scanned[0]? = some record → record.signalled = false := by
  have hfinal : (((socketReader UInt8 true).run (binaryWrite.take 3)).map fun run =>
      (run.scanned.length, run.received)) =
        some (2, ascii "$X0,1:" ++ [3] ++ ascii "#1c") := by decide +kernel
  obtain ⟨run, hrun, heq⟩ := Option.map_eq_some_iff.mp hfinal
  obtain ⟨hlength, hreceived⟩ := Prod.mk.inj heq
  refine ⟨run, hrun, fun record hrecord => ?_⟩
  have houtside := (scan_iff_outside hrun []).mpr (by
    intro position hposition hintr
    rw [hlength] at hposition
    rw [hreceived] at hintr
    obtain rfl | rfl : position = 0 ∨ position = 1 := by omega
    · exact absurd hintr (by decide)
    · exact absurd hintr (by decide))
  have hsignal := (houtside.2 0 record hrecord).1
  rw [← Bool.not_eq_true, hsignal]
  rintro ⟨hintr, -⟩
  rw [hreceived] at hintr
  exact absurd hintr (by decide)

/-- The 0x03 at position 6 is data of the packet, and it is signalled as an
interrupt, to the target too. -/
theorem binaryWrite_interrupts :
    ∃ run, (socketReader UInt8 true).run binaryWrite = some run ∧
      ∃ record : ScanRecord, run.scanned[6]? = some record ∧ record.signalled = true ∧
        record.onInterrupt = true ∧ ¬ IsInterrupt run.received 6 := by
  have hfinal : (((socketReader UInt8 true).run binaryWrite).map fun run =>
      (run.scanned[6]?, run.received)) =
        some (some ⟨true, true, true⟩, ascii "$X0,1:" ++ [3] ++ ascii "#1c") := by decide +kernel
  obtain ⟨run, hrun, heq⟩ := Option.map_eq_some_iff.mp hfinal
  obtain ⟨hrecord, hreceived⟩ := Prod.mk.inj heq
  refine ⟨run, hrun, _, hrecord, rfl, rfl, ?_⟩
  rintro ⟨-, houtside⟩
  have hframe : nextFrame? gdbFrame (ascii "$X0,1:" ++ [3] ++ ascii "#1c") =
      some (ascii "$X0,1:" ++ [3] ++ ascii "#1c", []) := by decide
  rw [hreceived, inFrames_of_some hframe] at houtside
  exact houtside (by decide)

end MiniGdbstub
