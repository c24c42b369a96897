import MiniGdbstub.Emulator
import MiniGdbstub.Reader
import MiniGdbstub.Session

/-!
# Stopping a running target

A continue on the reference target beside the reader thread.  The reader is the machine
of `Reader`, here on cells that carry their place in the client's stream; the main thread
takes one step for each access to something the reader touches too: `async_io_enable`,
the start of the run, every test of the loop in `emu_cont`, `async_io_disable`.

The start of the run clears the flag that an interrupt raises, so an interrupt scanned
before it is lost; one scanned after it is not, because async I/O is enabled from before
the start until after the loop.  `interruptKept_iff` says that there is no other case.
-/

namespace MiniGdbstub

/-! ## Marked bytes -/

/-- A byte, and its place in the client's stream if it was received. -/
structure Marked where
  byte : UInt8
  position : Option ℕ
  deriving DecidableEq, Repr

instance : Octet Marked := ⟨Marked.byte, ⟨0, none⟩⟩

/-- Bytes received from place `start` of the stream on. -/
def mark (start : ℕ) (bytes : List UInt8) : List Marked :=
  bytes.mapIdx fun i byte => ⟨byte, some (start + i)⟩

/-- The packet that the main thread sees. -/
def Packet.bytes (pkt : Packet Marked) : Packet UInt8 :=
  { endPos := pkt.endPos, data := pkt.data.map Marked.byte }

/-- The packet ends before this place of the stream. -/
def Packet.Before (pkt : Packet Marked) (position : ℕ) : Prop :=
  ∃ cell ∈ pkt.data[pkt.endPos]?, ∃ last ∈ cell.position, last < position

instance (pkt : Packet Marked) (position : ℕ) : Decidable (pkt.Before position) :=
  inferInstanceAs (Decidable (∃ cell ∈ pkt.data[pkt.endPos]?, _))

/-! ## The main thread, step by step -/

section

variable {σ : Type} (stub : Gdbstub σ)

/-- The turn of `gdbstub_run` for a packet up to the event; no event if the checksum is
wrong. -/
def gdbstubReceive (pkt : Packet UInt8) : StubM σ (Option Event) := do
  let csumOk ← Program.lift (packetCsumVerify pkt)
  gdbstubAcknowledge csumOk
  if csumOk then do
    Program.update fun state => { state with failureCount := 0 }
    let event ← gdbstubProcessPacket stub pkt
    return some event
  else do
    Program.update fun state => { state with failureCount := state.failureCount + 1 }
    return none

/-- What `gdbstub_run` does after the action; the value is what it returns, if it
returns. -/
def gdbstubAct (act : Action) : StubM σ (Option Bool) :=
  match act with
  | .resume => do
      gdbstubActResume
      return none
  | .shutdown => return some true
  | .none => return none

/-- The two parts, with the target's turn between them, are the turn of `gdbstub_run`. -/
theorem gdbstubTurn_eq (pkt : Packet UInt8) :
    gdbstubTurn stub pkt = gdbstubReceive stub pkt >>= fun
      | some event => gdbstubHandleEvent stub event >>= gdbstubAct
      | none => Program.get >>= fun state =>
          pure (if connMaxFailures ≤ state.failureCount then some false else none) := by
  unfold gdbstubTurn gdbstubReceive
  rw [Program.assoc]
  congr 1
  funext csumOk
  rw [Program.assoc]
  congr 1
  funext _
  cases csumOk with
  | true =>
      rw [gdbstubServe, if_pos rfl, if_pos rfl, Program.assoc]
      congr 1
      funext _
      rw [Program.assoc]
      congr 1
  | false => rfl

end

/-- Where the main thread is.  `test` and `body` are inside the loop of `emu_cont`. -/
inductive ContTurn
  | pop
  | isShutdown
  | checkInterrupt
  | receive (pkt : Packet Marked)
  | handle (event : Event)
  | enable (pkt : Packet Marked)
  | startRun (pkt : Packet Marked)
  | test (pkt : Packet Marked)
  | body (pkt : Packet Marked)
  | disable (act : Action)
  | act (act : Action)
  | returned (value : Bool)
  | crashed (fault : Fault)

/-- Where the event of a packet, or its wrong checksum, leads the main thread. -/
def ContTurn.afterReceive (pkt : Packet Marked) : Option Event × ℕ → ContTurn
  | (some .cont, _) => .enable pkt
  | (some event, _) => .handle event
  | (none, failureCount) =>
      if connMaxFailures ≤ failureCount then .returned false else .pop

/-- Where a turn that is over leaves the main thread. -/
def ContTurn.afterAct : Option Bool → ContTurn
  | none => .pop
  | some value => .returned value

/-- The reader and the main thread on the reference target. -/
structure Running where
  reader : ReaderRun Marked
  queue : Pktqueue (Packet Marked)
  main : ContTurn
  stub : StubState Emu

inductive RunningLabel
  | read (count : ℕ) (fresh : List UInt8)
  | scan
  | assemble (allocated acquired : Bool)
  | shutdown
  | main

variable (stub : Gdbstub Emu) (stream : List UInt8)

/-- The target of the stub was changed. -/
def Running.setTarget (running : Running) (emu : Emu) : Running :=
  { running with stub := { running.stub with target := emu } }

/-- What the scan of a byte does outside the reader. -/
def Running.scanned (running : Running) (record : ScanRecord) : Running :=
  let running :=
    if record.onInterrupt then running.setTarget (emuOnInterrupt running.stub.target) else running
  if record.signalled then
    { running with queue := pktqueueSignalInterrupt running.queue }
  else running

/-- What a complete packet does outside the reader. -/
def Running.popped (running : Running) (allocated acquired : Bool) (pkt : Packet Marked) :
    Running :=
  if allocated then
    { running with
      queue := pktqueuePush running.queue pkt
      stub := (connTrySendStr acquired (ascii "+") running.stub).2 }
  else running

/-- A step of the reader thread: a step of `socketReader`, and what it does outside.  A
read delivers the next bytes of the stream. -/
def runningReader (running : Running) : RunningLabel → Option Running
  | .read count fresh =>
      let start := running.reader.received.length
      if start + count ≤ stream.length then
        ((socketReader Marked true).step running.reader
          (.read (mark start ((stream.drop start).take count))
            (fresh.map fun byte => ⟨byte, none⟩))).map fun reader =>
          { running with reader := reader }
      else none
  | .scan =>
      ((socketReader Marked true).step running.reader
        (.scan running.stub.asyncIoEnable)).map fun reader =>
        (reader.scanned.drop running.reader.scanned.length).foldl Running.scanned
          { running with reader := reader }
  | .assemble allocated acquired =>
      ((socketReader Marked true).step running.reader .assemble).map fun reader =>
        (reader.popped.drop running.reader.popped.length).foldl
          (fun running => running.popped allocated acquired) { running with reader := reader }
  | .shutdown =>
      if running.reader.reader.phase = .poll then
        some { running with queue := pktqueueSignalShutdown running.queue }
      else none
  | .main => none

/-- Run a part of the main thread's turn. -/
def Running.exec {α : Type} (running : Running) (program : StubM Emu α) (next : α → ContTurn) :
    Running :=
  match program running.stub with
  | (.ok value, after) => { running with stub := after, main := next value }
  | (.error fault, after) => { running with stub := after, main := .crashed fault }

/-- A step of the main thread. -/
def runningMain (running : Running) : Option Running :=
  match running.main with
  | .pop => (pktqueuePop running.queue).map fun (pkt?, queue) =>
      { running with
        queue := queue
        main := match pkt? with
          | none => .isShutdown
          | some pkt => .receive pkt }
  | .isShutdown =>
      some { running with
        main := if pktqueueIsShutdown running.queue then .returned true else .checkInterrupt }
  | .checkInterrupt =>
      some { running with queue := (pktqueueCheckInterrupt running.queue).2, main := .pop }
  | .receive pkt =>
      some (running.exec (do
        let event ← gdbstubReceive stub pkt.bytes
        let state ← Program.get
        return (event, state.failureCount)) (.afterReceive pkt))
  | .handle event => some (running.exec (gdbstubHandleEvent stub event) .act)
  | .enable pkt =>
      some { running with
        stub := { running.stub with asyncIoEnable := true }
        main := .startRun pkt }
  | .startRun pkt =>
      some { running.setTarget (emuStartRun running.stub.target) with main := .test pkt }
  | .test pkt =>
      some { running with
        main := if emuContTest running.stub.target then .body pkt else .disable .resume }
  | .body pkt =>
      match emuContBody running.stub.target with
      | .error fault => some { running with main := .crashed fault }
      | .ok (none, emu) => some { running.setTarget emu with main := .test pkt }
      | .ok (some act, emu) => some { running.setTarget emu with main := .disable act }
  | .disable act =>
      some { running with
        stub := { running.stub with asyncIoEnable := false }
        main := .act act }
  | .act act => some (running.exec (gdbstubAct act) .afterAct)
  | .returned _ => none
  | .crashed _ => none

/-- `gdbstub_run` on the reference target, and the reader thread. -/
def interruptible (emu : Emu) : Machine Running RunningLabel where
  start :=
    { reader := (socketReader Marked true).start, queue := pktqueueInit, main := .pop,
      stub := StubState.init emu }
  step running label :=
    match label with
    | .main => runningMain stub running
    | label => if running.queue.shutdown then none else runningReader stream running label

/-! ## Interrupts are kept -/

/-- The packet whose continue the main thread is in the loop of. -/
def ContTurn.inLoop : ContTurn → Option (Packet Marked)
  | .test pkt => some pkt
  | .body pkt => some pkt
  | _ => none

/-- If the main thread is in the loop for a packet and the reader has scanned an interrupt
that comes after that packet, then the loop will stop at its next test. -/
def InterruptKept (running : Running) : Prop :=
  ∀ pkt ∈ running.main.inLoop, ∀ position < running.reader.scanned.length,
    IsInterrupt stream position → pkt.Before position →
      emuIsHalt running.stub.target = true

/-- The packet whose run the main thread is about to start. -/
def ContTurn.starting : ContTurn → Option (Packet Marked)
  | .startRun pkt => some pkt
  | _ => none

/-- The run for a packet starts before any interrupt after that packet has been
scanned. -/
def StartsFirst (running : Running) : RunningLabel → Prop
  | .main => ∀ pkt ∈ running.main.starting, ∀ position < running.reader.scanned.length,
      IsInterrupt stream position → ¬ pkt.Before position
  | _ => True

instance (position : ℕ) : Decidable (IsInterrupt stream position) :=
  inferInstanceAs (Decidable (_ ∧ _))

instance (running : Running) : ∀ label, Decidable (StartsFirst stream running label)
  | .main => inferInstanceAs (Decidable (∀ pkt ∈ running.main.starting, _))
  | .read _ _ => inferInstanceAs (Decidable True)
  | .scan => inferInstanceAs (Decidable True)
  | .assemble _ _ => inferInstanceAs (Decidable True)
  | .shutdown => inferInstanceAs (Decidable True)

/-- Is async I/O enabled here? -/
def ContTurn.asyncIo : ContTurn → Bool
  | .startRun _ => true
  | .test _ => true
  | .body _ => true
  | _ => false

/-- What every run keeps: the reader is a run of `socketReader` on the stream, and async I/O
is enabled around the loop. -/
structure Running.Sound (running : Running) : Prop where
  reader : ∃ labels, (socketReader Marked true).run labels = some running.reader
  received : running.reader.received.map Octet.byte =
    stream.take running.reader.received.length
  asyncIo : running.main.asyncIo = true → running.stub.asyncIoEnable = true

variable {stub stream}

/-! ### What a step of the reader can do -/

/-- What the scan of a byte leaves alone, and that an interrupt raises the flag. -/
theorem scanned_spec (running : Running) (record : ScanRecord) :
    (running.scanned record).reader = running.reader ∧
      (running.scanned record).main = running.main ∧
      (running.scanned record).stub.asyncIoEnable = running.stub.asyncIoEnable ∧
      emuIsHalt (running.scanned record).stub.target =
        (emuIsHalt running.stub.target || record.onInterrupt) := by
  unfold Running.scanned
  cases record.onInterrupt <;> cases record.signalled <;>
    simp [Running.setTarget, emuOnInterrupt, emuHalt, emuIsHalt]

/-- A complete packet leaves the main thread and the target alone. -/
theorem popped_spec (allocated acquired : Bool) (packets : List (Packet Marked)) :
    ∀ running : Running,
      let after := packets.foldl (fun running => running.popped allocated acquired) running
      after.reader = running.reader ∧ after.main = running.main ∧
        after.stub.asyncIoEnable = running.stub.asyncIoEnable ∧
        after.stub.target = running.stub.target := by
  induction packets with
  | nil => exact fun running => ⟨rfl, rfl, rfl, rfl⟩
  | cons pkt packets ih =>
      intro running
      obtain ⟨hreader, hmain, hasync, htarget⟩ := ih (running.popped allocated acquired pkt)
      have hone : (running.popped allocated acquired pkt).reader = running.reader ∧
          (running.popped allocated acquired pkt).main = running.main ∧
          (running.popped allocated acquired pkt).stub.asyncIoEnable =
            running.stub.asyncIoEnable ∧
          (running.popped allocated acquired pkt).stub.target = running.stub.target := by
        unfold Running.popped connTrySendStr
        cases allocated <;> cases acquired <;> exact ⟨rfl, rfl, rfl, rfl⟩
      exact ⟨hreader.trans hone.1, hmain.trans hone.2.1, hasync.trans hone.2.2.1,
        htarget.trans hone.2.2.2⟩

/-- The bytes received stay the first bytes of the stream. -/
theorem received_mark {received : List Marked} {count : ℕ}
    (hcount : received.length + count ≤ stream.length)
    (hreceived : received.map Octet.byte = stream.take received.length) :
    (received ++ mark received.length ((stream.drop received.length).take count)).map
        Octet.byte =
      stream.take (received ++ mark received.length
        ((stream.drop received.length).take count)).length := by
  have hbytes : ∀ (start : ℕ) (bytes : List UInt8),
      (mark start bytes).map Octet.byte = bytes := by
    intro start bytes
    apply List.ext_getElem
    · simp [mark]
    · intro i _ _
      simp [mark, Octet.byte]
  have hlength : (mark received.length ((stream.drop received.length).take count)).length =
      count := by
    rw [mark, List.length_mapIdx, List.length_take, List.length_drop]
    omega
  rw [List.map_append, hreceived, hbytes, List.length_append, hlength, List.take_add]

/-- **A step of the reader**: it receives the next bytes of the stream or none, the main
thread stays where it is, and unless the step is a scan the flag and the number of bytes
scanned do too. -/
theorem runningReader_step {running next : Running} {label : RunningLabel}
    (hstep : runningReader stream running label = some next) :
    next.main = running.main ∧
      next.stub.asyncIoEnable = running.stub.asyncIoEnable ∧
      (next.reader = running.reader ∨
        ∃ move, (socketReader Marked true).step running.reader move = some next.reader) ∧
      (running.reader.received.map Octet.byte = stream.take running.reader.received.length →
        next.reader.received.map Octet.byte = stream.take next.reader.received.length) ∧
      (next.reader.scanned = running.reader.scanned ∧
          next.stub.target = running.stub.target ∨
        ∃ record : ScanRecord, next.reader.scanned = running.reader.scanned ++ [record] ∧
          record.async = running.stub.asyncIoEnable ∧
          emuIsHalt next.stub.target = (emuIsHalt running.stub.target || record.onInterrupt)) := by
  cases label with
  | read count fresh =>
      obtain ⟨hcount, hread⟩ := Option.ite_none_right_eq_some.mp hstep
      obtain ⟨reader, hreader, rfl⟩ := Option.map_eq_some_iff.mp hread
      refine ⟨rfl, rfl, .inr ⟨_, hreader⟩, ?_, ?_⟩
      · intro hreceived
        obtain ⟨_, -, rfl⟩ := Option.map_eq_some_iff.mp hreader
        exact received_mark hcount hreceived
      · obtain ⟨_, -, rfl⟩ := Option.map_eq_some_iff.mp hreader
        exact .inl ⟨rfl, rfl⟩
  | scan =>
      -- only a scan looks at the flag and halts the emulator
      obtain ⟨reader, hreader, rfl⟩ := Option.map_eq_some_iff.mp hstep
      have hmove := hreader
      obtain ⟨⟨hit, moved⟩, -, rfl⟩ := Option.map_eq_some_iff.mp hreader
      rw [List.drop_left]
      obtain ⟨hafter, hmain, hasync, hhalt⟩ := scanned_spec
        { running with reader := _ } ⟨running.stub.asyncIoEnable, _, hit⟩
      exact ⟨hmain, hasync, .inr ⟨_, by rw [List.foldl_cons, List.foldl_nil, hafter]; exact hmove⟩,
        fun hreceived => by rw [List.foldl_cons, List.foldl_nil, hafter]; exact hreceived,
        .inr ⟨_, by rw [List.foldl_cons, List.foldl_nil, hafter], rfl, hhalt⟩⟩
  | assemble allocated acquired =>
      obtain ⟨reader, hreader, rfl⟩ := Option.map_eq_some_iff.mp hstep
      have hmove := hreader
      obtain ⟨⟨packet, moved⟩, -, rfl⟩ := Option.map_eq_some_iff.mp hreader
      obtain ⟨hafter, hmain, hasync, htarget⟩ := popped_spec allocated acquired
        ((running.reader.popped ++ packet.toList).drop running.reader.popped.length)
        { running with reader := _ }
      exact ⟨hmain, hasync, .inr ⟨_, by rw [hafter]; exact hmove⟩,
        fun hreceived => by rw [hafter]; exact hreceived, .inl ⟨by rw [hafter], htarget⟩⟩
  | shutdown =>
      obtain ⟨-, hnext⟩ := Option.ite_none_right_eq_some.mp hstep
      cases hnext
      exact ⟨rfl, rfl, .inl rfl, fun hreceived => hreceived, .inl ⟨rfl, rfl⟩⟩
  | main => cases hstep

/-! ### What a step of the main thread can do -/

theorem exec_spec {α : Type} (running : Running) (program : StubM Emu α) (next : α → ContTurn) :
    (running.exec program next).reader = running.reader ∧
      ((∃ value, (running.exec program next).main = next value) ∨
        ∃ fault, (running.exec program next).main = .crashed fault) := by
  unfold Running.exec
  rcases program running.stub with ⟨fault | value, after⟩
  · exact ⟨rfl, .inr ⟨fault, rfl⟩⟩
  · exact ⟨rfl, .inl ⟨value, rfl⟩⟩

/-- A part of the turn that does not end at a continue is outside the loop, and async I/O is
not its business. -/
theorem exec_outside {α : Type} (running : Running) (program : StubM Emu α)
    {next : α → ContTurn} (hloop : ∀ value, (next value).inLoop = none)
    (hasync : ∀ value, (next value).asyncIo = false) :
    (running.exec program next).main.inLoop = none ∧
      (running.exec program next).main.asyncIo = false := by
  rcases (exec_spec running program next).2 with ⟨value, hmain⟩ | ⟨fault, hmain⟩
  · rw [hmain]
    exact ⟨hloop value, hasync value⟩
  · rw [hmain]
    exact ⟨rfl, rfl⟩

/-- What a step of the main thread does to the reader, to async I/O and to the loop: it is in
the loop after the step because it was before, with the flag unchanged, or because it starts
the run, with the flag cleared. -/
structure MainMoves (running next : Running) : Prop where
  reader : next.reader = running.reader
  asyncIo : (running.main.asyncIo = true → running.stub.asyncIoEnable = true) →
    next.main.asyncIo = true → next.stub.asyncIoEnable = true
  inLoop : ∀ pkt ∈ next.main.inLoop,
    (pkt ∈ running.main.inLoop ∧ emuIsHalt next.stub.target = emuIsHalt running.stub.target) ∨
      (running.main = .startRun pkt ∧ emuIsHalt next.stub.target = false)

/-- A step that leaves the loop or stays outside. -/
theorem MainMoves.outside {running next : Running} (hreader : next.reader = running.reader)
    (hloop : next.main.inLoop = none) (hasync : next.main.asyncIo = false) :
    MainMoves running next := by
  refine ⟨hreader, fun _ henabled => ?_, fun pkt hpkt => ?_⟩
  · rw [hasync] at henabled
    cases henabled
  · rw [hloop] at hpkt
    cases hpkt

theorem afterReceive_outside (pkt : Packet Marked) :
    ∀ received, (ContTurn.afterReceive pkt received).inLoop = none ∧
      (ContTurn.afterReceive pkt received).asyncIo = false := by
  rintro ⟨_ | event, failureCount⟩
  · by_cases hfailures : connMaxFailures ≤ failureCount
    · rw [ContTurn.afterReceive, if_pos hfailures]
      exact ⟨rfl, rfl⟩
    · rw [ContTurn.afterReceive, if_neg hfailures]
      exact ⟨rfl, rfl⟩
  · cases event <;> exact ⟨rfl, rfl⟩

/-- **A step of the main thread.** -/
theorem runningMain_step {running next : Running} (hstep : runningMain stub running = some next) :
    MainMoves running next := by
  unfold runningMain at hstep
  cases hmain : running.main with
  | pop =>
      rw [hmain] at hstep
      dsimp only at hstep
      obtain ⟨⟨pkt?, queue⟩, -, rfl⟩ := Option.map_eq_some_iff.mp hstep
      cases pkt? with
      | none => exact .outside rfl rfl rfl
      | some pkt => exact .outside rfl rfl rfl
  | isShutdown =>
      rw [hmain] at hstep
      cases hstep
      cases hshutdown : pktqueueIsShutdown running.queue with
      | true => exact .outside rfl rfl rfl
      | false => exact .outside rfl rfl rfl
  | checkInterrupt =>
      rw [hmain] at hstep
      cases hstep
      exact .outside rfl rfl rfl
  | receive pkt =>
      rw [hmain] at hstep
      cases hstep
      obtain ⟨hloop, hasync⟩ := exec_outside running _
        (fun received => (afterReceive_outside pkt received).1)
        fun received => (afterReceive_outside pkt received).2
      exact .outside (exec_spec _ _ _).1 hloop hasync
  | handle event =>
      rw [hmain] at hstep
      cases hstep
      obtain ⟨hloop, hasync⟩ := exec_outside running (gdbstubHandleEvent stub event)
        (fun _ => rfl : ∀ act, (ContTurn.act act).inLoop = none) fun _ => rfl
      exact .outside (exec_spec _ _ _).1 hloop hasync
    -- async I/O is enabled outside the loop; the next step clears the flag and enters it
  | enable pkt =>
      rw [hmain] at hstep
      cases hstep
      exact ⟨rfl, fun _ _ => rfl, fun _ hpkt => by cases hpkt⟩
  | startRun pkt =>
      rw [hmain] at hstep
      cases hstep
      refine ⟨rfl, fun henabled _ => henabled (by rw [hmain]; rfl), ?_⟩
      intro started hstarted
      cases hstarted
      exact .inr ⟨hmain, rfl⟩
  | test pkt =>
      rw [hmain] at hstep
      cases hstep
      cases htest : emuContTest running.stub.target with
      | true =>
          refine ⟨rfl, fun henabled _ => henabled (by rw [hmain]; rfl), ?_⟩
          intro tested htested
          cases htested
          exact .inl ⟨by rw [hmain]; rfl, rfl⟩
      | false => exact .outside rfl rfl rfl
  | body pkt =>
      rw [hmain] at hstep
      dsimp only at hstep
      split at hstep
      · cases hstep
        exact .outside rfl rfl rfl
      · rename_i emu hbody
        cases hstep
        refine ⟨rfl, fun henabled _ => henabled (by rw [hmain]; rfl), ?_⟩
        intro looped hlooped
        cases hlooped
        exact .inl ⟨by rw [hmain]; rfl, emuContBody_halt hbody⟩
      · cases hstep
        exact .outside rfl rfl rfl
  | disable act =>
      rw [hmain] at hstep
      cases hstep
      exact .outside rfl rfl rfl
  | act act =>
      rw [hmain] at hstep
      cases hstep
      obtain ⟨hloop, hasync⟩ := exec_outside running (gdbstubAct act)
        (fun ret => by cases ret <;> rfl : ∀ ret, (ContTurn.afterAct ret).inLoop = none)
        fun ret => by cases ret <;> rfl
      exact .outside (exec_spec _ _ _).1 hloop hasync
  | returned value =>
      rw [hmain] at hstep
      cases hstep
  | crashed fault =>
      rw [hmain] at hstep
      cases hstep

/-! ### No interrupt is lost -/

theorem Running.Sound.step {emu : Emu} {running next : Running} {label : RunningLabel}
    (hsound : running.Sound stream)
    (hstep : (interruptible stub stream emu).step running label = some next) :
    next.Sound stream := by
  cases label with
  | main =>
      obtain ⟨hreader, hasync, -⟩ := runningMain_step hstep
      obtain ⟨labels, hrun⟩ := hsound.reader
      exact ⟨⟨labels, hreader ▸ hrun⟩, hreader ▸ hsound.received, hasync hsound.asyncIo⟩
  | _ =>
      obtain ⟨-, hmove⟩ := Option.ite_none_left_eq_some.mp hstep
      obtain ⟨hmain, hasync, hreader, hreceived, -⟩ := runningReader_step hmove
      refine ⟨?_, hreceived hsound.received, ?_⟩
      · obtain ⟨labels, hrun⟩ := hsound.reader
        rcases hreader with hsame | ⟨move, hnext⟩
        · exact ⟨labels, hsame ▸ hrun⟩
        · exact ⟨labels ++ [move], Machine.run_concat hrun hnext⟩
      · rw [hmain, hasync]
        exact hsound.asyncIo

/-- An interrupt that has just been scanned raises the flag if async I/O is enabled. -/
theorem interrupt_raises {running next : Running} (hnext : next.Sound stream)
    {record : ScanRecord} (hscanned : next.reader.scanned = running.reader.scanned ++ [record])
    (hasync : record.async = true)
    (hinterrupt : IsInterrupt stream running.reader.scanned.length) :
    record.onInterrupt = true := by
  obtain ⟨labels, hrun⟩ := hnext.reader
  obtain ⟨cell, hcell, hsignalled, hcalled⟩ := (scanned_of_run hrun).marks
    running.reader.scanned.length record (by rw [hscanned, List.getElem?_concat_length])
  have hposition := (List.getElem?_eq_some_iff.mp hcell).1
  have hbyte : Octet.byte cell = intrChar := by
    have hmap := congrArg (fun bytes => bytes[running.reader.scanned.length]?) hnext.received
    simp only [List.getElem?_map, hcell, Option.map_some] at hmap
    rw [List.getElem?_take_of_lt hposition, hinterrupt.1] at hmap
    exact Option.some.inj hmap
  rw [hcalled, hsignalled, hasync, hbyte]
  rfl

theorem InterruptKept.step {emu : Emu} {running next : Running} {label : RunningLabel}
    (hkept : InterruptKept stream running) (hsound : running.Sound stream)
    (hfirst : StartsFirst stream running label)
    (hstep : (interruptible stub stream emu).step running label = some next) :
    InterruptKept stream next := by
  have hnext := hsound.step hstep
  intro pkt hpkt position hposition hinterrupt hbefore
  cases label with
  | main =>
      obtain ⟨hreader, -, hloop⟩ := runningMain_step hstep
      rw [hreader] at hposition
      rcases hloop pkt hpkt with ⟨hinside, hhalt⟩ | ⟨hstart, -⟩
      · rw [hhalt]
        exact hkept pkt hinside position hposition hinterrupt hbefore
      · -- the run starts before any interrupt that comes after its packet
        have hstarting : pkt ∈ running.main.starting := by
          rw [hstart]
          rfl
        exact absurd hbefore (hfirst pkt hstarting position hposition hinterrupt)
  | _ =>
      obtain ⟨-, hmove⟩ := Option.ite_none_left_eq_some.mp hstep
      obtain ⟨hmain, -, -, -, hscan⟩ := runningReader_step hmove
      rw [hmain] at hpkt
      rcases hscan with ⟨hscanned, htarget⟩ | ⟨record, hscanned, hasync, hhalt⟩
      · rw [hscanned] at hposition
        rw [htarget]
        exact hkept pkt hpkt position hposition hinterrupt hbefore
      · rw [hhalt, Bool.or_eq_true]
        rcases Nat.lt_or_ge position running.reader.scanned.length with hearlier | hlast
        · exact .inl (hkept pkt hpkt position hearlier hinterrupt hbefore)
        · -- the byte scanned in this step
          rw [hscanned, List.length_append, List.length_singleton] at hposition
          obtain rfl : position = running.reader.scanned.length := by omega
          have henabled : running.stub.asyncIoEnable = true := by
            apply hsound.asyncIo
            revert hpkt
            cases running.main <;> simp [ContTurn.inLoop, ContTurn.asyncIo]
          exact .inr (interrupt_raises hnext hscanned (hasync.trans henabled) hinterrupt)

/-- **An interrupt is kept exactly when the run starts first.**  For every stream, every
way of cutting it into reads and every interleaving: wherever a run passes, an interrupt
that has been scanned and comes after the packet whose continue the main thread is in the
loop of will stop the loop, if and only if no run for a packet is started after an interrupt
that follows the packet was scanned. -/
theorem interruptKept_iff {emu : Emu} {labels : List RunningLabel} {running : Running}
    (hrun : (interruptible stub stream emu).run labels = some running) :
    (interruptible stub stream emu).Throughout (InterruptKept stream) labels ↔
      (interruptible stub stream emu).Guarded (StartsFirst stream) labels := by
  have hstart : (interruptible stub stream emu).start.Sound stream :=
    ⟨⟨[], rfl⟩, rfl, fun henabled => by cases henabled⟩
  refine Machine.throughout_iff_guarded ⟨hstart, fun _ hpkt => by cases hpkt⟩ ?_ hrun
  intro running label next hsound hstep
  refine ⟨hsound.step hstep, fun hkept => ⟨fun hkept' => ?_, fun hmeets => ?_⟩⟩
  · cases label with
    | main =>
        intro pkt hpkt position hposition hinterrupt hbefore
        have hmain : running.main = .startRun pkt := by
          revert hpkt
          cases running.main <;> simp [ContTurn.starting]
        -- the flag has just been cleared
        have hmove : runningMain stub running = some next := hstep
        rw [runningMain, hmain] at hmove
        cases hmove
        have hcleared : false = true := hkept' pkt rfl position hposition hinterrupt hbefore
        cases hcleared
    | _ => trivial
  · exact hkept.step hsound hmeets hstep

/-- A program that jumps to itself. -/
def spinning : Emu :=
  emuInit
    { mem := [0x6f, 0, 0, 0] ++ List.replicate 4092 0, codeSize := 4,
      length_mem := by decide +kernel, codeSize_le := by decide }

/-- A stub for the reference target.  Of `cont` only its presence counts. -/
def emuStub : Gdbstub Emu where
  ops :=
    { cont := some fun emu => (.resume, emuStartRun emu)
      stepi := none
      getRegBytes := fun _ => regsz
      readReg := none
      writeReg := none
      readMem := none
      writeMem := none
      setBp := none
      delBp := none
      onInterrupt := some emuOnInterrupt
      setCpu := none
      getCpu := none
      length_readReg := by simp
      length_readMem := by simp }
  arch := { targetDesc := none, smp := 1, regNum := 33, zero_notMem := zero_notMem_of_none }
  totalRegBytes := 33 * regsz
  mallocs := fun _ _ => true
  junk := fun _ => 0
  totalRegBytes_eq := by decide

/-- A continue, and then an interrupt. -/
def continueThenInterrupt : List UInt8 :=
  ascii "$c#63" ++ [3]

/-- The reader takes in so many bytes and the packets in them. -/
def takeIn (count : ℕ) : List RunningLabel :=
  .read count [] :: List.replicate count .scan

/-- The continue is read and started before the interrupt is read. -/
def interruptAfterStart : List RunningLabel :=
  takeIn 5 ++ [.assemble true false, .assemble true false, .main, .main, .main, .main] ++
    takeIn 1 ++ [.main]

/-- The interrupt stops the run. -/
theorem interruptKept_iff_afterStart :
    ∃ running, (interruptible emuStub continueThenInterrupt spinning).run
        interruptAfterStart = some running ∧
      (interruptible emuStub continueThenInterrupt spinning).Throughout
        (InterruptKept continueThenInterrupt) interruptAfterStart := by
  have hfinal : (((interruptible emuStub continueThenInterrupt spinning).run
      interruptAfterStart).map fun running => running.reader.scanned.length) = some 6 := by
    decide +kernel
  obtain ⟨running, hrun, -⟩ := Option.map_eq_some_iff.mp hfinal
  exact ⟨running, hrun, (interruptKept_iff hrun).mpr (by decide +kernel)⟩

/-- The continue and the interrupt arrive in one read. -/
def interruptWithContinue : List RunningLabel :=
  takeIn 6 ++ [.assemble true false, .assemble true false, .main, .main, .main, .main]

/-- The main thread is in the loop, the interrupt has been scanned, and nothing stops the
loop. -/
theorem interrupt_lost :
    ∃ running, (interruptible emuStub continueThenInterrupt spinning).run
        interruptWithContinue = some running ∧
      IsInterrupt continueThenInterrupt 5 ∧ running.reader.scanned.length = 6 ∧
      emuIsHalt running.stub.target = false ∧
      ¬ InterruptKept continueThenInterrupt running := by
  have hfinal : (((interruptible emuStub continueThenInterrupt spinning).run
      interruptWithContinue).map fun running => (running.reader.scanned.length,
        emuIsHalt running.stub.target, running.main.inLoop.map fun pkt => decide (pkt.Before 5))) =
      some (6, false, some true) := by
    decide +kernel
  obtain ⟨running, hrun, heq⟩ := Option.map_eq_some_iff.mp hfinal
  simp only [Prod.mk.injEq] at heq
  obtain ⟨hscanned, hhalt, hloop⟩ := heq
  obtain ⟨pkt, hpkt, hbefore⟩ := Option.map_eq_some_iff.mp hloop
  have hinterrupt : IsInterrupt continueThenInterrupt 5 := by decide +kernel
  refine ⟨running, hrun, hinterrupt, hscanned, hhalt, fun hkept => ?_⟩
  have hstop := hkept pkt hpkt 5 (by omega) hinterrupt (of_decide_eq_true hbefore)
  rw [hhalt] at hstop
  cases hstop

end MiniGdbstub
