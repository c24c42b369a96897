import MiniGdbstub.BufferGrowth
import MiniGdbstub.Closing
import MiniGdbstub.Server

/-!
# The server holds what it should

`lifecycle` leaves the packets out: a label says where the data sends a thread.  The server of
`Server.lean` has the data, and no blocks.  The two belong together: whatever the server does,
`lifecycle` has a run that does the same, packet by packet and byte by byte (`Lives`).  So what is
proved there holds here: whenever `gdbstub_run` has returned, `gdbstub_close` can be called and
comes back (`server_closes`).
-/

namespace MiniGdbstub

open Framing

/-! ## What a turn of the reader does to its buffer -/

/-- The process is not over. -/
def ReaderPhase.running : ReaderPhase → Bool
  | .crashed _ => false
  | _ => true

def Server.running {σ : Type} (server : Server σ) : Bool :=
  server.reader.reader.phase.running && server.session.main.running

theorem readerRead_filled {reader next : Reader UInt8} (hsound : reader.Sound)
    {bytes fresh : List UInt8} (hread : readerRead bytes fresh reader = some next)
    (hrunning : next.phase.running = true) :
    reader.phase = .poll ∧ bytes.length ≤ pktbufRoom reader.pktbuf ∧ next.Sound ∧
      next.phase = (if bytes = [] then .poll else .scan bytes.length 0) ∧
      next.pktbuf.size = reader.pktbuf.size + bytes.length ∧
      next.pktbuf.cap = if 2 ^ reader.pktbuf.cap = reader.pktbuf.size then reader.pktbuf.cap + 1
        else reader.pktbuf.cap := by
  obtain ⟨hphase, hcases⟩ := readerRead_cases hsound hread
  rcases hcases with ⟨-, -, hcrashed⟩ | ⟨hnext, hcontents, hscan⟩
  · rw [hcrashed] at hrunning
    cases hrunning
  have hlength := congrArg List.length hcontents
  rw [List.length_append, hnext.pktbuf.length_contents, hsound.pktbuf.length_contents] at hlength
  obtain ⟨⟨-, hroom, -⟩, hfill⟩ := Option.ite_none_right_eq_some.mp hread
  refine ⟨hphase, hroom, hnext, hscan, hlength, ?_⟩
  cases hfilled : pktbufFillFromFile bytes fresh reader.pktbuf with
  | error fault =>
      rw [hfilled] at hfill
      cases hfill
      cases hrunning
  | ok buf =>
      rw [hfilled] at hfill
      cases hfill
      exact pktbufFillFromFile_cap hfilled

theorem pktbufPopPacket_cap {buf next : Pktbuf UInt8} {packet : Option (Packet UInt8)}
    (hpop : pktbufPopPacket buf = .ok (packet, next)) : next.cap = buf.cap := by
  unfold pktbufPopPacket at hpop
  split at hpop
  · cases hpop
    rfl
  · rename_i endPos hend
    obtain ⟨bytes, -, hpop⟩ := Except.ok_bind_iff.mp hpop
    split at hpop
    · cases hpop
    · obtain ⟨data, -, hpop⟩ := Except.ok_bind_iff.mp hpop
      cases hpop
      rfl

theorem readerAssemble_sizes {reader next : Reader UInt8} (hsound : reader.Sound)
    {packet : Option (Packet UInt8)} (hstep : readerAssemble reader = some (packet, next))
    (hrunning : next.phase.running = true) :
    reader.phase = .assemble ∧ next.Sound ∧ next.pktbuf.cap = reader.pktbuf.cap ∧
      ((packet = none ∧ next.phase = .poll ∧ next.pktbuf.size ≤ reader.pktbuf.size) ∨
        ∃ pkt, packet = some pkt ∧ next.phase = .assemble ∧
          next.pktbuf.size < reader.pktbuf.size) := by
  obtain ⟨hphase, hcases⟩ := readerAssemble_cases hsound hstep
  have hcap : next.pktbuf.cap = reader.pktbuf.cap := by
    unfold readerAssemble at hstep
    rw [hphase] at hstep
    dsimp only at hstep
    split at hstep
    · cases hstep
      cases hrunning
    · rename_i found hcomplete
      cases hstep
      exact pktbufIsComplete_cap hcomplete
    · rename_i found hcomplete
      split at hstep
      · cases hstep
        cases hrunning
      · rename_i popped buf hpop
        cases hstep
        exact (pktbufPopPacket_cap hpop).trans (pktbufIsComplete_cap hcomplete)
  have hbefore := hsound.pktbuf.length_contents
  rcases hcases with ⟨hnone, hpoll, hnext, hskip, -⟩ |
    ⟨frame, rest, hfirst, hsome, hagain, hnext, found, -, -, -, hrest⟩ | ⟨-, hcrashed, -⟩
  · refine ⟨hphase, hnext, hcap, .inl ⟨hnone, hpoll, ?_⟩⟩
    have hlength := congrArg List.length hskip
    rw [hnext.pktbuf.length_contents] at hlength
    rw [hlength, ← hbefore]
    exact (List.dropWhile_sublist _).length_le
  · refine ⟨hphase, hnext, hcap, .inr ⟨Packet.ofFrame frame, hsome, hagain, ?_⟩⟩
    have hless := length_rest_lt hfirst
    rw [hbefore] at hless
    rw [← hnext.pktbuf.length_contents]
    rcases hrest with ⟨-, hempty⟩ | ⟨stale, -, hne, hstale⟩
    · rw [hempty]
      exact (Nat.zero_le _).trans_lt hless
    · have hpos := List.length_pos_iff.mpr hne
      rw [hstale, List.length_append, List.length_tail, List.length_singleton]
      omega
  · rw [hcrashed] at hrunning
    cases hrunning

theorem readerScan_sizes {reader next : Reader UInt8} {hit : Bool}
    (hstep : readerScan reader = some (hit, next)) (hrunning : next.phase.running = true) :
    next.pktbuf = reader.pktbuf ∧ ∃ nread i, reader.phase = .scan nread i ∧
      next.phase = if i + 1 < nread then .scan nread (i + 1) else .assemble := by
  unfold readerScan at hstep
  split at hstep
  · rename_i nread i hphase
    split at hstep
    · cases hstep
      cases hrunning
    · cases hstep
      exact ⟨rfl, nread, i, hphase, rfl⟩
  · cases hstep

namespace Lifecycle

open Ledger LinkedList

variable {σ : Type} {stub : Gdbstub σ} {stream : List UInt8} {target : σ}

/-! ## The same place, with and without the data -/

/-- The reader thread between the steps of `Server`. -/
def ReaderAt : ReaderTurn → ReaderPhase → ReaderPoint → Prop
  | .reading, .poll, point => point = .testing
  | .reading, .scan nread i, point => point = .scanning (nread - i)
  | .reading, .assemble, point => point = .assembling
  | .acking, .assemble, point => point = .acking
  | .finished, _, point => point = .finished
  | _, _, _ => False

/-- The main thread in `gdbstub_run`, or behind it. -/
def MainAt : MainTurn → MainPoint → Prop
  | .pop, point => point = .popping
  | .isShutdown, point => point = .noPacket
  | .checkInterrupt, point => point = .clearing
  | .verify _, point => ∃ pkt, point = .holding pkt
  | .acknowledge _ _, point => ∃ pkt, point = .holding pkt
  | .serve _ true, point => ∃ pkt, point = .serving pkt
  | .serve _ false, point => ∃ pkt, point = .holding pkt
  | .shutdownSeen, point => point = .ready
  | .returned _, point => point = .ready
  | .crashed _, _ => False

/-- The packet buffer, and the block behind it. -/
structure BufferAt (pktbuf : Pktbuf UInt8) (thread : ReaderThread) : Prop where
  data : thread.data.isSome = true
  cap : thread.cap = pktbuf.cap
  size : thread.size = pktbuf.size

/-- The nodes hold one block for each packet. -/
def QueueAt (packets : Pktqueue (Packet UInt8)) (queue : LinkedPktqueue ℕ) : Prop :=
  ∃ addrs blocks, Represents queue addrs
    { packets := blocks
      shutdown := packets.shutdown
      interrupted := packets.interrupted } ∧ blocks.length = packets.packets.length

/-- The process is where the server is. -/
structure Lives (server : Server σ) (process : Process) : Prop where
  going : process.crashed = false
  stop : process.threadStop = false
  kept : process.lost = 0
  pktbuf : server.reader.reader.Sound
  thread : ∃ thread, process.thread = some thread ∧
    ReaderAt server.session.reader server.reader.reader.phase thread.point ∧
    (server.session.reader ≠ .finished → BufferAt server.reader.reader.pktbuf thread)
  main : MainAt server.session.main process.main
  queue : QueueAt server.session.queue process.queue

/-! ## Steps of the process that come one after another -/

/-- The process can come to where the property holds. -/
def Process.Comes (process : Process) (property : Process → Prop) : Prop :=
  ∃ steps next, lifecycle.runFrom process steps = some next ∧ next.Sound ∧ property next

variable {process : Process} {property : Process → Prop}

theorem Process.Sound.comes (hsound : process.Sound) (hproperty : property process) :
    process.Comes property :=
  ⟨[], process, rfl, hsound, hproperty⟩

/-- What can be done is done soundly. -/
theorem Process.Sound.can_step (hsound : process.Sound) (hgoing : process.crashed = false)
    {label : Label} {effect : Effect Process} (heffect : processStep process label = some effect)
    (hyields : Yields effect property) :
    ∃ next ledger, lifecycle.step process label = some { next with ledger := ledger } ∧
      Process.Sound { next with ledger := ledger } ∧ property next := by
  obtain ⟨addrs, packets, hcontrolled, haccounts⟩ := hsound
  have hends := processStep_ends hcontrolled heffect
  have hnext := (perform_sound haccounts hends).1
  obtain ⟨next, ledger, hperform, hproperty⟩ := perform_yields haccounts hends hyields
  rw [hperform] at hnext
  refine ⟨next, ledger, ?_, hnext, hproperty⟩
  show (if process.crashed || process.misused then none else _) = _
  rw [hgoing, hcontrolled.used, heffect, ← hperform]
  rfl

/-- A step, and what comes behind it. -/
theorem Process.Sound.comes_step (hsound : process.Sound) (hgoing : process.crashed = false)
    {label : Label} {effect : Effect Process} (heffect : processStep process label = some effect)
    (hyields : Yields effect fun next => ∀ ledger, Process.Sound { next with ledger := ledger } →
      Process.Comes { next with ledger := ledger } property) : process.Comes property := by
  obtain ⟨next, ledger, hstep, hnext, hcomes⟩ := hsound.can_step hgoing heffect hyields
  obtain ⟨steps, last, hsteps, hlast⟩ := hcomes ledger hnext
  refine ⟨label :: steps, last, ?_, hlast⟩
  rw [Machine.runFrom_cons, hstep]
  exact hsteps

theorem Process.Sound.comes_thread (hsound : process.Sound) (hgoing : process.crashed = false)
    {thread : ReaderThread} (hthread : process.thread = some thread) {label : ThreadLabel}
    {effect : Effect Process} (heffect : threadStep process thread label = some effect)
    (hyields : Yields effect fun next => ∀ ledger, Process.Sound { next with ledger := ledger } →
      Process.Comes { next with ledger := ledger } property) : process.Comes property := by
  have hstep : processStep process (.thread label) = some effect := by
    rw [processStep, hthread]
    exact heffect
  exact hsound.comes_step hgoing hstep hyields

theorem Process.Sound.comes_main (hsound : process.Sound) (hgoing : process.crashed = false)
    {label : MainLabel} {effect : Effect Process} (heffect : mainStep process label = some effect)
    (hyields : Yields effect fun next => ∀ ledger, Process.Sound { next with ledger := ledger } →
      Process.Comes { next with ledger := ledger } property) : process.Comes property := by
  have hstep : processStep process (.main label) = some effect := heffect
  exact hsound.comes_step hgoing hstep hyields

/-! ## Steps of the reader thread -/

theorem acquire_yields : Yields (acquire true) fun handle => handle.isSome = true := by
  rintro ledger value next hrun
  cases hrun
  rfl

/-- Where the reader thread is between two turns of its loop. -/
theorem Lives.thread_reading {server : Server σ} (hlives : Lives server process)
    (hreading : server.session.reader = .reading) :
    ∃ thread, process.thread = some thread ∧
      ReaderAt .reading server.reader.reader.phase thread.point ∧
      BufferAt server.reader.reader.pktbuf thread := by
  obtain ⟨thread, hthread, hat, hbuffer⟩ := hlives.thread
  rw [hreading] at hat
  exact ⟨thread, hthread, hat, hbuffer (by rw [hreading]; exact fun h => (by cases h))⟩

/-- A turn begins: there is something to read. -/
theorem Process.Sound.comes_filling (hsound : process.Sound) (hgoing : process.crashed = false)
    (hstop : process.threadStop = false) {thread : ReaderThread}
    (hthread : process.thread = some thread) (hpoint : thread.point = .testing)
    (hnext : ∀ ledger,
      Process.Sound { process.goto thread .filling with ledger := ledger } →
      Process.Comes { process.goto thread .filling with ledger := ledger } property) :
    process.Comes property := by
  obtain ⟨tid, point, data, cap, size⟩ := thread
  obtain rfl : point = .testing := hpoint
  refine hsound.comes_thread hgoing hthread
    (rfl : threadStep process ⟨tid, .testing, data, cap, size⟩ .test = some _) ?_
  refine withPriv_yields fun _ => .pure fun ledger hsound => ?_
  rw [hstop] at hsound ⊢
  refine hsound.comes_thread hgoing rfl
    (rfl : threadStep _ ⟨tid, .polling, data, cap, size⟩ (.poll .readable) = some _) ?_
  exact withPriv_yields fun _ => .pure hnext

/-- The buffer is made larger if it is full. -/
theorem Process.Sound.comes_enlarged (hsound : process.Sound) (hgoing : process.crashed = false)
    {thread : ReaderThread} (hthread : process.thread = some thread)
    (hpoint : thread.point = .filling) (hdata : thread.data.isSome = true)
    (hnext : ∀ data cap ledger, data.isSome = true →
      (cap = if 2 ^ thread.cap = thread.size then thread.cap + 1 else thread.cap) →
      2 ^ cap ≠ thread.size →
      Process.Sound { process with
        thread := some { thread with data := data, cap := cap }, ledger := ledger } →
      Process.Comes { process with
        thread := some { thread with data := data, cap := cap }, ledger := ledger } property) :
    process.Comes property := by
  by_cases hfull : 2 ^ thread.cap = thread.size
  · have hmore : 2 ^ (thread.cap + 1) ≠ thread.size := by
      rw [← hfull, Nat.pow_succ]
      have := Nat.two_pow_pos thread.cap
      omega
    have hstep : threadStep process thread (.enlarge true) =
        some (process.enlarge thread true) := by
      unfold threadStep
      rw [hpoint]
      exact if_pos hfull
    refine hsound.comes_thread hgoing hthread hstep ?_
    refine acquire_yields.bind fun data hsome => ?_
    obtain ⟨data, rfl⟩ := Option.isSome_iff_exists.mp hsome
    refine Yields.after fun _ => .pure fun ledger hsound => ?_
    exact hnext (some data) (thread.cap + 1) ledger rfl (if_pos hfull).symm hmore hsound
  · have hcomes := hnext thread.data thread.cap process.ledger hdata (if_neg hfull).symm hfull
    rw [← hthread] at hcomes
    exact hcomes hsound

/-- What a read is offered is the room in the enlarged buffer. -/
theorem BufferAt.room {pktbuf : Pktbuf UInt8} {thread : ReaderThread}
    (hbuffer : BufferAt pktbuf thread) (hpktbuf : pktbuf.Sound) {nread cap : ℕ}
    (hroom : nread ≤ pktbufRoom pktbuf)
    (hcap : cap = if 2 ^ thread.cap = thread.size then thread.cap + 1 else thread.cap) :
    thread.size + nread ≤ 2 ^ cap := by
  have hsize : pktbuf.size ≤ 2 ^ pktbuf.cap := hpktbuf.length_data ▸ hpktbuf.size_le
  rw [hcap, hbuffer.cap, hbuffer.size]
  unfold pktbufRoom at hroom
  by_cases hfull : 2 ^ pktbuf.cap = pktbuf.size
  · rw [if_pos hfull] at hroom ⊢
    rw [Nat.pow_succ] at hroom ⊢
    omega
  · rw [if_neg hfull] at hroom ⊢
    omega

theorem threadStep_read {thread : ReaderThread} (hpoint : thread.point = .filling)
    (hroom : 2 ^ thread.cap ≠ thread.size) {outcome : ReadOutcome}
    (hread : thread.canRead outcome = true) :
    threadStep process thread (.read outcome) = some (process.read thread outcome) := by
  unfold threadStep
  rw [hpoint]
  exact if_pos ⟨hroom, hread⟩

theorem Lives.read {server next : Server σ} (hlives : Lives server process)
    (hsound : process.Sound) (hreading : server.session.reader = .reading) {count : ℕ}
    {fresh : List UInt8}
    (hstep : serverReader stub stream target server (.read count fresh) = some next)
    (hrunning : next.running = true) : process.Comes (Lives next) := by
  obtain ⟨-, hstep⟩ := Option.ite_none_right_eq_some.mp hstep
  obtain ⟨run, hreader, rfl⟩ := Option.map_eq_some_iff.mp hstep
  obtain ⟨reader, hread, rfl⟩ := Option.map_eq_some_iff.mp hreader
  obtain ⟨hphase, hroom, hpktbuf, hscan, hsize, hcap⟩ :=
    readerRead_filled hlives.pktbuf hread (Bool.and_eq_true_iff.mp hrunning).1
  obtain ⟨thread, hthread, hat, hbuffer⟩ := hlives.thread_reading hreading
  rw [hphase] at hat
  refine hsound.comes_filling hlives.going hlives.stop hthread hat fun ledger hsound => ?_
  refine hsound.comes_enlarged hlives.going rfl rfl hbuffer.data
    fun data cap ledger hdata hnewCap hroomLeft hsound => ?_
  have hfits := hbuffer.room hlives.pktbuf.pktbuf hroom hnewCap
  have hcap : cap = reader.pktbuf.cap := by
    rw [hnewCap, hcap, ← hbuffer.cap, ← hbuffer.size]
  -- a read of nothing goes back to the test, the bytes of any other are scanned
  by_cases hempty : (stream.drop server.reader.received.length).take count = []
  · rw [hempty] at hscan hsize
    have hagain : ReaderThread.canRead ⟨thread.tid, .filling, data, cap, thread.size⟩ .again =
        true := rfl
    refine hsound.comes_thread hlives.going rfl (threadStep_read rfl hroomLeft hagain) ?_
    refine withPriv_yields fun _ => Yields.after fun _ => .pure fun ledger hsound => ?_
    refine hsound.comes
      { going := hlives.going
        stop := hlives.stop
        kept := hlives.kept
        pktbuf := hpktbuf
        thread := ⟨_, rfl, ?_, fun _ => ⟨hdata, hcap, ?_⟩⟩
        main := hlives.main
        queue := hlives.queue }
    · show ReaderAt server.session.reader reader.phase .testing
      rw [hreading, hscan]
      rfl
    · rw [hsize]
      exact hbuffer.size
  · rw [if_neg hempty] at hscan
    have hread : ReaderThread.canRead ⟨thread.tid, .filling, data, cap, thread.size⟩
        (.bytes ((stream.drop server.reader.received.length).take count).length) = true := by
      simp only [ReaderThread.canRead, hdata, Bool.and_true, Bool.and_eq_true, decide_eq_true_eq]
      exact ⟨List.length_pos_iff.mpr hempty, hfits⟩
    refine hsound.comes_thread hlives.going rfl (threadStep_read rfl hroomLeft hread) ?_
    refine withPriv_yields fun _ => Yields.after fun _ => .pure fun ledger hsound => ?_
    refine hsound.comes
      { going := hlives.going
        stop := hlives.stop
        kept := hlives.kept
        pktbuf := hpktbuf
        thread := ⟨_, rfl, ?_, fun _ => ⟨hdata, hcap, ?_⟩⟩
        main := hlives.main
        queue := hlives.queue }
    · show ReaderAt server.session.reader reader.phase (.scanning _)
      rw [hreading, hscan]
      rfl
    · rw [hsize]
      show thread.size + _ = _
      rw [hbuffer.size]

/-- What the scan of a byte does to the other thread: it may interrupt it. -/
theorem scanEffects_session {session next : Session σ} {record : ScanRecord}
    (hrun : (gdbstubSession stub target).runFrom session (scanEffects stub session record) =
      some next) :
    next.reader = session.reader ∧ next.main = session.main ∧
      next.queue = if record.signalled then pktqueueSignalInterrupt session.queue
        else session.queue := by
  rw [scanEffects, Machine.runFrom_append] at hrun
  obtain ⟨called, hcalled, hsignalled⟩ := Option.bind_eq_some_iff.mp hrun
  -- `on_interrupt` is a call of the target only
  have hsame : called.reader = session.reader ∧ called.main = session.main ∧
      called.queue = session.queue := by
    cases honInterrupt : record.onInterrupt with
    | false =>
        rw [honInterrupt] at hcalled
        cases hcalled
        exact ⟨rfl, rfl, rfl⟩
    | true =>
        rw [honInterrupt] at hcalled
        cases hop : stub.ops.onInterrupt with
        | none =>
            rw [hop] at hcalled
            cases hcalled
            exact ⟨rfl, rfl, rfl⟩
        | some op =>
            rw [hop] at hcalled
            obtain ⟨after, hstep, hlast⟩ := Option.bind_eq_some_iff.mp hcalled
            cases hlast
            cases (gdbstubSession_step stub hstep).2
            exact ⟨rfl, rfl, rfl⟩
  cases hsignal : record.signalled with
  | false =>
      rw [hsignal] at hsignalled
      cases hsignalled
      exact hsame
  | true =>
      rw [hsignal] at hsignalled
      obtain ⟨after, hstep, hlast⟩ := Option.bind_eq_some_iff.mp hsignalled
      cases hlast
      cases (gdbstubSession_step stub hstep).2
      refine ⟨hsame.1, hsame.2.1, ?_⟩
      rw [hsame.2.2]
      rfl

theorem QueueAt.interrupted {packets : Pktqueue (Packet UInt8)} {queue : LinkedPktqueue ℕ}
    (hqueue : QueueAt packets queue) (hit : Bool) :
    QueueAt (if hit then pktqueueSignalInterrupt packets else packets)
      (if hit then linkedSignalInterrupt queue else queue) := by
  cases hit with
  | false => exact hqueue
  | true =>
      obtain ⟨addrs, blocks, hrepresents, hlength⟩ := hqueue
      refine ⟨addrs, blocks, ?_, hlength⟩
      exact ⟨hrepresents.chain, hrepresents.tail, hrepresents.shutdown, rfl⟩

theorem Lives.scan {server next : Server σ} (hlives : Lives server process)
    (hsound : process.Sound) (hreading : server.session.reader = .reading)
    (hstep : serverReader stub stream target server .scan = some next)
    (hrunning : next.running = true) : process.Comes (Lives next) := by
  obtain ⟨run, hreader, hstep⟩ := Option.bind_eq_some_iff.mp hstep
  obtain ⟨session, hsession, hstep⟩ := Option.bind_eq_some_iff.mp hstep
  cases hstep
  obtain ⟨⟨hit, reader⟩, hscan, rfl⟩ := Option.map_eq_some_iff.mp hreader
  dsimp only at hsession
  rw [List.drop_left, List.flatMap_singleton] at hsession
  obtain ⟨hsame, hmain, hsignalled⟩ := scanEffects_session hsession
  obtain ⟨hpktbuf, nread, i, hphase, hnext⟩ :=
    readerScan_sizes hscan (Bool.and_eq_true_iff.mp hrunning).1
  obtain ⟨thread, hthread, hat, hbuffer⟩ := hlives.thread_reading hreading
  rw [hphase] at hat
  obtain ⟨tid, point, data, cap, size⟩ := thread
  obtain rfl : point = .scanning (nread - i) := hat
  refine hsound.comes_thread hlives.going hthread
    (rfl : threadStep process ⟨tid, .scanning (nread - i), data, cap, size⟩ (.scan hit) =
      some _) ?_
  refine withPriv_yields fun _ => Yields.after fun _ => .pure fun ledger hsound => ?_
  refine hsound.comes
    { going := hlives.going
      stop := hlives.stop
      kept := hlives.kept
      pktbuf := ?_
      thread := ⟨_, rfl, ?_, fun _ => ?_⟩
      main := ?_
      queue := ?_ }
  · exact ⟨hpktbuf ▸ hlives.pktbuf.pktbuf, hpktbuf ▸ hlives.pktbuf.endPos⟩
  · show ReaderAt session.reader reader.phase _
    rw [hsame, hreading, hnext]
    dsimp only
    by_cases hlast : i + 1 < nread
    · rw [if_pos hlast, if_neg (by omega)]
      show ReaderPoint.scanning _ = ReaderPoint.scanning _
      rw [Nat.sub_add_eq]
    · rw [if_neg hlast, if_pos (by omega)]
      rfl
  · rw [hpktbuf]
    exact ⟨hbuffer.data, hbuffer.cap, hbuffer.size⟩
  · rw [hmain]
    exact hlives.main
  · rw [hsignalled]
    exact hlives.queue.interrupted hit

theorem MainAt.ne_releasing {turn : MainTurn} {point : MainPoint} (hmain : MainAt turn point)
    (node : ℕ) : point ≠ .releasing node := by
  rintro rfl
  cases turn with
  | serve pkt csumOk =>
      cases csumOk with
      | true =>
          obtain ⟨_, heq⟩ := hmain
          cases heq
      | false =>
          obtain ⟨_, heq⟩ := hmain
          cases heq
  | verify pkt =>
      obtain ⟨_, heq⟩ := hmain
      cases heq
  | acknowledge pkt csumOk =>
      obtain ⟨_, heq⟩ := hmain
      cases heq
  | _ => cases hmain

/-- There is always an address for a new node. -/
theorem Process.Sound.exists_fresh (hsound : process.Sound)
    (hmain : ∀ node, process.main ≠ .releasing node) :
    ∃ addr, process.queue.nodes addr = none := by
  obtain ⟨addrs, packets, hcontrolled, -⟩ := hsound
  obtain ⟨addr, hnot⟩ := Infinite.exists_notMem_finset addrs.toFinset
  refine ⟨addr, ?_⟩
  by_contra hnode
  rcases hcontrolled.stray addr hnode with hmem | hreleasing
  · exact hnot (List.mem_toFinset.mpr hmem)
  · exact hmain addr hreleasing

theorem QueueAt.push {packets : Pktqueue (Packet UInt8)} {queue : LinkedPktqueue ℕ}
    (hqueue : QueueAt packets queue) {addr : ℕ} (hfresh : queue.nodes addr = none)
    (block : ℕ) (pkt : Packet UInt8) :
    ∃ next, linkedPush (some addr) block queue = .ok (true, next) ∧
      QueueAt (pktqueuePush packets pkt) next := by
  obtain ⟨addrs, blocks, hrepresents, hlength⟩ := hqueue
  obtain ⟨next, hpush, hnext, -⟩ := hrepresents.push hfresh block
  refine ⟨next, hpush, addrs ++ [addr], blocks ++ [block], hnext, ?_⟩
  rw [pktqueuePush, List.length_append, List.length_append, hlength]
  rfl

/-- A packet is popped, and there is memory for it. -/
theorem Process.Sound.comes_popped (hsound : process.Sound) (hgoing : process.crashed = false)
    {thread : ReaderThread} (hthread : process.thread = some thread)
    (hpoint : thread.point = .assembling) {left : ℕ} (hleft : left < thread.size)
    (hnext : ∀ pkt ledger,
      Process.Sound { process with
        thread := some { thread with point := .pushing pkt, size := left }, ledger := ledger } →
      Process.Comes { process with
        thread := some { thread with point := .pushing pkt, size := left }, ledger := ledger }
        property) :
    process.Comes property := by
  have hstep : threadStep process thread (.pop left true) =
      some (process.pop thread left true) := by
    unfold threadStep
    rw [hpoint]
    exact if_pos hleft
  refine hsound.comes_thread hgoing hthread hstep ?_
  refine Yields.after fun _ => acquire_yields.bind fun pkt hsome => ?_
  obtain ⟨pkt, rfl⟩ := Option.isSome_iff_exists.mp hsome
  exact .pure fun ledger hsound => hnext pkt ledger hsound

theorem threadStep_push {thread : ReaderThread} {pkt : ℕ} (hpoint : thread.point = .pushing pkt)
    {node : Option ℕ} (hfresh : ∀ addr ∈ node, process.queue.nodes addr = none) :
    threadStep process thread (.push node) = some (process.push thread pkt node) := by
  unfold threadStep
  rw [hpoint]
  exact if_pos fun addr hmem => Option.isNone_iff_eq_none.mpr (hfresh addr hmem)

theorem Lives.assemble {server next : Server σ} (hlives : Lives server process)
    (hsound : process.Sound) (hreading : server.session.reader = .reading) {allocated : Bool}
    (hstep : serverReader stub stream target server (.assemble allocated) = some next)
    (hrunning : next.running = true) : process.Comes (Lives next) := by
  obtain ⟨run, hreader, hstep⟩ := Option.bind_eq_some_iff.mp hstep
  obtain ⟨session, hsession, hstep⟩ := Option.bind_eq_some_iff.mp hstep
  cases hstep
  obtain ⟨⟨packet, reader⟩, hassemble, rfl⟩ := Option.map_eq_some_iff.mp hreader
  dsimp only at hsession
  rw [List.drop_left] at hsession
  obtain ⟨hphase, hpktbuf, hcap, hcases⟩ :=
    readerAssemble_sizes hlives.pktbuf hassemble (Bool.and_eq_true_iff.mp hrunning).1
  obtain ⟨thread, hthread, hat, hbuffer⟩ := hlives.thread_reading hreading
  rw [hphase] at hat
  rcases hcases with ⟨rfl, hpoll, hsize⟩ | ⟨pkt, rfl, hagain, hsize⟩
  · -- no packet is complete, and the reader is back at the head of its loop
    cases hsession
    have hstep : threadStep process thread (.incomplete reader.pktbuf.size) =
        some (process.incomplete thread reader.pktbuf.size) := by
      unfold threadStep
      rw [show thread.point = .assembling from hat]
      exact if_pos (hbuffer.size ▸ hsize)
    refine hsound.comes_thread hlives.going hthread hstep ?_
    refine Yields.after fun _ => .pure fun ledger hsound => ?_
    refine hsound.comes
      { going := hlives.going
        stop := hlives.stop
        kept := hlives.kept
        pktbuf := hpktbuf
        thread := ⟨_, rfl, ?_, fun _ => ⟨hbuffer.data, hbuffer.cap.trans hcap.symm, rfl⟩⟩
        main := hlives.main
        queue := hlives.queue }
    show ReaderAt server.session.reader reader.phase .testing
    rw [hreading, hpoll]
    rfl
  · refine hsound.comes_popped hlives.going hthread hat (hbuffer.size ▸ hsize)
      fun block ledger hsound => ?_
    obtain ⟨after, hpush, hlast⟩ := Option.bind_eq_some_iff.mp hsession
    cases hlast
    have hmoved := (gdbstubSession_step stub hpush).2
    -- a push that gets no node releases the packet again, and the reader goes on
    cases allocated with
    | true =>
        cases hmoved
        obtain ⟨addr, hfresh⟩ := hsound.exists_fresh hlives.main.ne_releasing
        obtain ⟨queue, hlinked, hqueue⟩ := hlives.queue.push hfresh block pkt
        have hnode : ∀ other ∈ some addr, process.queue.nodes other = none := by
          rintro other ⟨⟩
          exact hfresh
        refine hsound.comes_thread hlives.going rfl (threadStep_push rfl hnode) ?_
        refine withPriv_yields fun _ => ?_
        rw [hlinked, checked_ok, pure_bind]
        refine .pure fun ledger hsound => hsound.comes
          { going := hlives.going
            stop := hlives.stop
            kept := hlives.kept
            pktbuf := hpktbuf
            thread := ⟨_, rfl, ?_, fun _ => ⟨hbuffer.data, hbuffer.cap.trans hcap.symm, rfl⟩⟩
            main := hlives.main
            queue := hqueue }
        show ReaderAt .acking reader.phase .acking
        rw [hagain]
        rfl
    | false =>
        cases hmoved
        have hnode : ∀ other ∈ (none : Option ℕ), process.queue.nodes other = none :=
          fun _ hmem => (by cases hmem)
        refine hsound.comes_thread hlives.going rfl (threadStep_push rfl hnode) ?_
        have hlinked : linkedPush none block process.queue = .ok (false, process.queue) := rfl
        refine withPriv_yields fun _ => ?_
        rw [hlinked, checked_ok, pure_bind]
        refine Yields.after fun _ => .pure fun ledger hsound => hsound.comes
          { going := hlives.going
            stop := hlives.stop
            kept := hlives.kept
            pktbuf := hpktbuf
            thread := ⟨_, rfl, ?_, fun _ => ⟨hbuffer.data, hbuffer.cap.trans hcap.symm, rfl⟩⟩
            main := hlives.main
            queue := hlives.queue }
        show ReaderAt server.session.reader reader.phase .assembling
        rw [hreading, hagain]
        rfl

theorem Lives.ack {server : Server σ} (hlives : Lives server process) (hsound : process.Sound)
    {acquired : Bool} {session : Session σ}
    (hstep : (gdbstubSession stub target).step server.session (.ack acquired) = some session) :
    process.Comes (Lives { server with session := session }) := by
  have hmoved : server.session.reader = .acking ∧ session.reader = .reading ∧
      session.main = server.session.main ∧ session.queue = server.session.queue := by
    cases (gdbstubSession_step stub hstep).2 with
    | ack hacking => exact ⟨hacking, rfl, rfl, rfl⟩
    | ackSkipped hacking => exact ⟨hacking, rfl, rfl, rfl⟩
  obtain ⟨hacking, hreading, hmain, hqueue⟩ := hmoved
  obtain ⟨⟨tid, point, data, cap, size⟩, hthread, hat, hbuffer⟩ := hlives.thread
  have hphase : server.reader.reader.phase = .assemble ∧ point = .acking := by
    rw [hacking] at hat
    cases hphase : server.reader.reader.phase with
    | assemble =>
        rw [hphase] at hat
        exact ⟨rfl, hat⟩
    | _ =>
        rw [hphase] at hat
        cases hat
  obtain ⟨hphase, rfl⟩ := hphase
  have hbuffer := hbuffer (by rw [hacking]; exact fun h => (by cases h))
  refine hsound.comes_thread hlives.going hthread
    (rfl : threadStep process ⟨tid, .acking, data, cap, size⟩ .ack = some _) ?_
  refine withPriv_yields fun _ => .pure fun ledger hsound => hsound.comes
    { going := hlives.going
      stop := hlives.stop
      kept := hlives.kept
      pktbuf := hlives.pktbuf
      thread := ⟨_, rfl, ?_, fun _ => ⟨hbuffer.data, hbuffer.cap, hbuffer.size⟩⟩
      main := ?_
      queue := ?_ }
  · show ReaderAt session.reader server.reader.reader.phase .assembling
    rw [hreading, hphase]
    rfl
  · rw [hmain]
    exact hlives.main
  · rw [hqueue]
    exact hlives.queue

theorem Lives.shutdown {server : Server σ} (hlives : Lives server process)
    (hsound : process.Sound) (hphase : server.reader.reader.phase = .poll) {session : Session σ}
    (hstep : (gdbstubSession stub target).step server.session .shutdown = some session) :
    process.Comes (Lives { server with session := session }) := by
  cases (gdbstubSession_step stub hstep).2 with
  | shutdown hreading =>
      obtain ⟨⟨tid, point, data, cap, size⟩, hthread, hat, hbuffer⟩ :=
        hlives.thread_reading hreading
      rw [hphase] at hat
      obtain rfl : point = .testing := hat
      refine hsound.comes_thread hlives.going hthread
        (rfl : threadStep process ⟨tid, .testing, data, cap, size⟩ .test = some _) ?_
      refine withPriv_yields fun _ => .pure fun ledger hsound => ?_
      rw [hlives.stop] at hsound ⊢
      refine hsound.comes_thread hlives.going rfl
        (rfl : threadStep _ ⟨tid, .polling, data, cap, size⟩ (.poll .failed) = some _) ?_
      refine withPriv_yields fun _ => .pure fun ledger hsound => ?_
      refine hsound.comes_thread hlives.going rfl
        (rfl : threadStep _ ⟨tid, .leaving, data, cap, size⟩ .leave = some _) ?_
      refine Yields.after fun _ => .pure fun ledger hsound => ?_
      refine hsound.comes_thread hlives.going rfl
        (rfl : threadStep _ ⟨tid, .signalling, data, cap, size⟩ .signal = some _) ?_
      refine withPriv_yields fun _ => .pure fun ledger hsound => hsound.comes
        { going := hlives.going
          stop := hlives.stop
          kept := hlives.kept
          pktbuf := hlives.pktbuf
          thread := ⟨_, rfl, rfl, fun hnot => absurd rfl hnot⟩
          main := hlives.main
          queue := ?_ }
      obtain ⟨addrs, blocks, hrepresents, hlength⟩ := hlives.queue
      refine ⟨addrs, blocks, ?_, hlength⟩
      exact ⟨hrepresents.chain, hrepresents.tail, rfl, hrepresents.interrupted⟩

/-! ## Steps of the main thread -/

/-- A pop takes a node when it takes a packet. -/
theorem QueueAt.take {packets next : Pktqueue (Packet UInt8)} {queue : LinkedPktqueue ℕ}
    (hqueue : QueueAt packets queue) {pkt? : Option (Packet UInt8)}
    (hpop : pktqueuePop packets = some (pkt?, next)) :
    (pkt? = none ∧ next = packets ∧ linkedTake queue = some (.ok (none, queue))) ∨
      ∃ pkt addr node after, pkt? = some pkt ∧ linkedTake queue = some (.ok (some addr, after)) ∧
        after.nodes addr = some node ∧
        QueueAt next { after with nodes := Function.update after.nodes addr none } := by
  obtain ⟨addrs, blocks, hrepresents, hlength⟩ := hqueue
  rcases pktqueuePop_cases hpop with ⟨rfl, hnil, rfl⟩ | ⟨pkt, rest, rfl, hpackets, rfl⟩
  · rw [hnil] at hlength
    obtain rfl := List.length_eq_zero_iff.mp hlength
    have hflags : (next.shutdown || next.interrupted) = true := by
      unfold pktqueuePop at hpop
      rw [hnil] at hpop
      exact (Option.ite_none_right_eq_some.mp hpop).1
    rcases hrepresents.take with ⟨-, hwaits⟩ | ⟨hnull, -⟩ |
      ⟨_, _, _, _, _, -, -, -, -, hpackets, -⟩
    · unfold pktqueuePop at hwaits
      rw [if_pos hflags] at hwaits
      cases hwaits
    · exact .inl ⟨rfl, rfl, hnull⟩
    · cases hpackets
  · rw [hpackets] at hlength
    rcases hrepresents.take with ⟨-, hwaits⟩ | ⟨-, -, hnil, -⟩ |
      ⟨addr, others, node, after, left, rfl, hnode, htake, hnodes, hblocks, -, hafter⟩
    · cases blocks with
      | nil => cases hlength
      | cons block blocks => cases hwaits
    · obtain rfl : blocks = [] := hnil
      cases hlength
    · have hnot : addr ∉ others := (List.nodup_cons.mp hrepresents.chain.nodup).1
      refine .inr ⟨pkt, addr, node, after, rfl, htake, hnodes ▸ hnode, others, left,
        hafter.release hnot, ?_⟩
      obtain rfl : blocks = node.value :: left := hblocks
      exact Nat.succ.inj hlength

/-- The main thread has moved, and the reader thread has not. -/
theorem Lives.moved {server : Server σ} (hlives : Lives server process) {session : Session σ}
    {next : Process} (hreader : session.reader = server.session.reader)
    (hgoing : next.crashed = process.crashed) (hstop : next.threadStop = process.threadStop)
    (hkept : next.lost = process.lost) (hthread : next.thread = process.thread)
    (hmain : MainAt session.main next.main) (hqueue : QueueAt session.queue next.queue) :
    Lives { server with session := session } next where
  going := hgoing.trans hlives.going
  stop := hstop.trans hlives.stop
  kept := hkept.trans hlives.kept
  pktbuf := hlives.pktbuf
  thread := by
    rw [hthread]
    show ∃ thread, _ ∧ ReaderAt session.reader _ _ ∧ (session.reader ≠ _ → _)
    rw [hreader]
    exact hlives.thread
  main := hmain
  queue := hqueue

theorem release_step {node : ℕ} (hmain : process.main = .releasing node) {found : Node ℕ}
    (hfound : process.queue.nodes node = some found) :
    mainStep process .release = some (pure { process with
      queue := { process.queue with nodes := Function.update process.queue.nodes node none }
      main := .holding found.value }) := by
  unfold mainStep
  rw [hmain]
  dsimp only
  rw [Process.release, linkedRelease_eq hfound, checked_ok, pure_bind]

theorem Lives.pop {server : Server σ} (hlives : Lives server process) (hsound : process.Sound)
    (hturn : server.session.main = .pop) {session : Session σ}
    (hstep : sessionMain stub server.session = some session) :
    process.Comes (Lives { server with session := session }) := by
  have hat := hlives.main
  rw [hturn] at hat
  have hmain : process.main = .popping := hat
  unfold sessionMain at hstep
  rw [hturn] at hstep
  dsimp only at hstep
  cases hpop : pktqueuePop server.session.queue with
  | none =>
      rw [hpop] at hstep
      cases hstep
  | some popped =>
      obtain ⟨pkt?, queue⟩ := popped
      rw [hpop] at hstep
      have htaken : ∀ {taken}, linkedTake process.queue = some taken →
          mainStep process .take = some (process.take taken) := by
        intro taken htaken
        unfold mainStep
        rw [hmain]
        dsimp only
        rw [htaken]
        rfl
      rcases hlives.queue.take hpop with ⟨rfl, rfl, hnull⟩ |
        ⟨pkt, addr, node, after, rfl, htake, hnode, hafter⟩
      · cases hstep
        refine hsound.comes_main hlives.going (htaken hnull) ?_
        refine withPriv_yields fun _ => ?_
        rw [checked_ok, pure_bind]
        refine .pure fun ledger hsound => hsound.comes ?_
        exact hlives.moved rfl rfl rfl rfl rfl rfl hlives.queue
      · cases hstep
        refine hsound.comes_main hlives.going (htaken htake) ?_
        refine withPriv_yields fun _ => ?_
        rw [checked_ok, pure_bind]
        refine .pure fun ledger hsound => ?_
        refine hsound.comes_main hlives.going (release_step rfl hnode) ?_
        refine .pure fun ledger hsound => hsound.comes ?_
        exact hlives.moved rfl rfl rfl rfl rfl ⟨_, rfl⟩ hafter

/-- A step of the main thread at which nothing is acquired, released or used. -/
theorem Lives.stays {server : Server σ} (hlives : Lives server process) (hsound : process.Sound)
    {session : Session σ} (hreader : session.reader = server.session.reader)
    (hqueue : session.queue = server.session.queue) (hmain : MainAt session.main process.main) :
    process.Comes (Lives { server with session := session }) := by
  refine hsound.comes (hlives.moved hreader rfl rfl rfl rfl hmain ?_)
  rw [hqueue]
  exact hlives.queue

theorem Lives.isShutdown {server : Server σ} (hlives : Lives server process)
    (hsound : process.Sound) (hturn : server.session.main = .isShutdown) {session : Session σ}
    (hstep : sessionMain stub server.session = some session) :
    process.Comes (Lives { server with session := session }) := by
  have hat := hlives.main
  rw [hturn] at hat
  have hmain : process.main = .noPacket := hat
  have heffect : mainStep process .isShutdown = some process.isShutdown := by
    unfold mainStep
    rw [hmain]
  unfold sessionMain at hstep
  rw [hturn] at hstep
  cases hstep
  have hflag : process.queue.shutdown = server.session.queue.shutdown := by
    obtain ⟨addrs, blocks, hrepresents, -⟩ := hlives.queue
    exact hrepresents.shutdown
  refine hsound.comes_main hlives.going heffect ?_
  refine withPriv_yields fun _ => .pure fun ledger hsound => hsound.comes ?_
  refine hlives.moved rfl rfl rfl rfl rfl ?_ hlives.queue
  show MainAt (if server.session.queue.shutdown then _ else _)
    (if process.queue.shutdown then .ready else .clearing)
  rw [hflag]
  cases server.session.queue.shutdown <;> rfl

theorem Lives.checkInterrupt {server : Server σ} (hlives : Lives server process)
    (hsound : process.Sound) (hturn : server.session.main = .checkInterrupt) {session : Session σ}
    (hstep : sessionMain stub server.session = some session) :
    process.Comes (Lives { server with session := session }) := by
  have hat := hlives.main
  rw [hturn] at hat
  have hmain : process.main = .clearing := hat
  have heffect : mainStep process .checkInterrupt = some process.checkInterrupt := by
    unfold mainStep
    rw [hmain]
  unfold sessionMain at hstep
  rw [hturn] at hstep
  cases hstep
  refine hsound.comes_main hlives.going heffect ?_
  refine withPriv_yields fun _ => .pure fun ledger hsound => hsound.comes ?_
  refine hlives.moved rfl rfl rfl rfl rfl rfl ?_
  obtain ⟨addrs, blocks, hrepresents, hlength⟩ := hlives.queue
  refine ⟨addrs, blocks, ?_, hlength⟩
  exact ⟨hrepresents.chain, hrepresents.tail, hrepresents.shutdown, rfl⟩

theorem Lives.acknowledge {server : Server σ} (hlives : Lives server process)
    (hsound : process.Sound) {pkt : Packet UInt8} {csumOk : Bool}
    (hturn : server.session.main = .acknowledge pkt csumOk) {session : Session σ}
    (hreader : session.reader = server.session.reader)
    (hqueue : session.queue = server.session.queue)
    (hnext : session.main = .serve pkt csumOk) :
    process.Comes (Lives { server with session := session }) := by
  have hat := hlives.main
  rw [hturn] at hat
  obtain ⟨block, hmain⟩ := hat
  cases csumOk with
  | false =>
      refine hlives.stays hsound hreader hqueue ?_
      rw [hnext]
      exact ⟨block, hmain⟩
  | true =>
      have heffect : mainStep process .accept = some (process.accept block) := by
        unfold mainStep
        rw [hmain]
      refine hsound.comes_main hlives.going heffect ?_
      refine withPriv_yields fun _ => Yields.after fun _ => .pure fun ledger hsound => ?_
      refine hsound.comes (hlives.moved hreader rfl rfl rfl rfl ?_ ?_)
      · rw [hnext]
        exact ⟨block, rfl⟩
      · rw [hqueue]
        exact hlives.queue

theorem Lives.serve {server : Server σ} (hlives : Lives server process)
    (hsound : process.Sound) {pkt : Packet UInt8} {csumOk : Bool}
    (hturn : server.session.main = .serve pkt csumOk) {session : Session σ} {ret : Option Bool}
    (hreader : session.reader = server.session.reader)
    (hqueue : session.queue = server.session.queue)
    (hnext : session.main = .afterServe ret) :
    process.Comes (Lives { server with session := session }) := by
  have hat := hlives.main
  rw [hturn] at hat
  have hfinish : ∃ label block, mainStep process label =
      some (process.finish block ret.isNone) := by
    cases csumOk with
    | true =>
        obtain ⟨block, hmain⟩ := hat
        refine ⟨.served ret.isNone, block, ?_⟩
        unfold mainStep
        rw [hmain]
    | false =>
        obtain ⟨block, hmain⟩ := hat
        refine ⟨.discard ret.isNone, block, ?_⟩
        unfold mainStep
        rw [hmain]
  obtain ⟨label, block, heffect⟩ := hfinish
  refine hsound.comes_main hlives.going heffect ?_
  refine withPriv_yields fun _ => Yields.after fun _ => .pure fun ledger hsound => ?_
  refine hsound.comes (hlives.moved hreader rfl rfl rfl rfl ?_ ?_)
  · rw [hnext]
    cases ret <;> rfl
  · rw [hqueue]
    exact hlives.queue

/-- **A step of the main thread.** -/
theorem Lives.step_main {server : Server σ} (hlives : Lives server process)
    (hsound : process.Sound) {session : Session σ}
    (hstep : (gdbstubSession stub target).step server.session .main = some session)
    (hrunning : session.main.running = true) :
    process.Comes (Lives { server with session := session }) := by
  have hmain := (Option.ite_none_right_eq_some.mp hstep).2
  cases (gdbstubSession_step stub hstep).2 with
  | popNull hturn _ => exact hlives.pop hsound hturn hmain
  | popPacket _ _ hturn _ => exact hlives.pop hsound hturn hmain
  | shutdownSeen hturn _ => exact hlives.isShutdown hsound hturn hmain
  | notShutdown hturn _ => exact hlives.isShutdown hsound hturn hmain
  | checkInterrupt hturn => exact hlives.checkInterrupt hsound hturn hmain
  | verified pkt csumOk hturn _ =>
      refine hlives.stays hsound rfl rfl ?_
      have hat := hlives.main
      rw [hturn] at hat
      exact hat
  | acknowledged pkt csumOk hturn _ => exact hlives.acknowledge hsound hturn rfl rfl rfl
  | notAcknowledged pkt csumOk hturn _ => exact hlives.acknowledge hsound hturn rfl rfl rfl
  | served pkt csumOk ret after hturn _ => exact hlives.serve hsound hturn rfl rfl rfl
  | crashed fault after _ => cases hrunning

/-! ## Every run -/

/-- **A step of the server.** -/
theorem Lives.step {server next : Server σ} (hlives : Lives server process)
    (hsound : process.Sound) {label : ServerLabel}
    (hstep : (gdbstubServer stub stream target).step server label = some next)
    (hrunning : next.running = true) : process.Comes (Lives next) := by
  cases label with
  | main =>
      obtain ⟨session, hsession, rfl⟩ := Option.map_eq_some_iff.mp hstep
      exact hlives.step_main hsound hsession (Bool.and_eq_true_iff.mp hrunning).2
  | ack acquired =>
      obtain ⟨session, hsession, rfl⟩ := Option.map_eq_some_iff.mp hstep
      exact hlives.ack hsound hsession
  | read count fresh =>
      obtain ⟨⟨hreading, -⟩, hstep⟩ := Option.ite_none_right_eq_some.mp hstep
      exact hlives.read hsound hreading hstep hrunning
  | scan =>
      obtain ⟨⟨hreading, -⟩, hstep⟩ := Option.ite_none_right_eq_some.mp hstep
      exact hlives.scan hsound hreading hstep hrunning
  | assemble allocated =>
      obtain ⟨⟨hreading, -⟩, hstep⟩ := Option.ite_none_right_eq_some.mp hstep
      exact hlives.assemble hsound hreading hstep hrunning
  | shutdown =>
      obtain ⟨-, hstep⟩ := Option.ite_none_right_eq_some.mp hstep
      obtain ⟨hphase, hstep⟩ := Option.ite_none_right_eq_some.mp hstep
      obtain ⟨session, hsession, rfl⟩ := Option.map_eq_some_iff.mp hstep
      exact hlives.shutdown hsound hphase hsession

/-- A process that is over stays over. -/
theorem running_before {server next : Server σ} {label : ServerLabel}
    (hstep : (gdbstubServer stub stream target).step server label = some next)
    (hrunning : next.running = true) : server.running = true := by
  obtain ⟨hreader, -⟩ := Bool.and_eq_true_iff.mp hrunning
  refine Bool.and_eq_true_iff.mpr ?_
  cases label with
  | main =>
      obtain ⟨session, hsession, rfl⟩ := Option.map_eq_some_iff.mp hstep
      exact ⟨hreader, (Option.ite_none_right_eq_some.mp hsession).1⟩
  | ack acquired =>
      obtain ⟨session, hsession, rfl⟩ := Option.map_eq_some_iff.mp hstep
      exact ⟨hreader, (Option.ite_none_right_eq_some.mp hsession).1⟩
  | read count fresh =>
      obtain ⟨⟨-, hmain⟩, hstep⟩ := Option.ite_none_right_eq_some.mp hstep
      obtain ⟨-, hstep⟩ := Option.ite_none_right_eq_some.mp hstep
      obtain ⟨run, hrun, -⟩ := Option.map_eq_some_iff.mp hstep
      obtain ⟨reader, hread, -⟩ := Option.map_eq_some_iff.mp hrun
      have hphase := (Option.ite_none_right_eq_some.mp hread).1.1
      exact ⟨by rw [hphase]; rfl, hmain⟩
  | scan =>
      obtain ⟨⟨-, hmain⟩, hstep⟩ := Option.ite_none_right_eq_some.mp hstep
      obtain ⟨run, hrun, -⟩ := Option.bind_eq_some_iff.mp hstep
      obtain ⟨⟨hit, reader⟩, hscan, -⟩ := Option.map_eq_some_iff.mp hrun
      refine ⟨?_, hmain⟩
      unfold readerScan at hscan
      cases hphase : server.reader.reader.phase with
      | scan nread i => rfl
      | _ =>
          rw [hphase] at hscan
          cases hscan
  | assemble allocated =>
      obtain ⟨⟨-, hmain⟩, hstep⟩ := Option.ite_none_right_eq_some.mp hstep
      obtain ⟨run, hrun, -⟩ := Option.bind_eq_some_iff.mp hstep
      obtain ⟨⟨packet, reader⟩, hassemble, -⟩ := Option.map_eq_some_iff.mp hrun
      refine ⟨?_, hmain⟩
      unfold readerAssemble at hassemble
      cases hphase : server.reader.reader.phase with
      | assemble => rfl
      | _ =>
          rw [hphase] at hassemble
          cases hassemble
  | shutdown =>
      obtain ⟨⟨-, hmain⟩, hstep⟩ := Option.ite_none_right_eq_some.mp hstep
      have hphase := (Option.ite_none_right_eq_some.mp hstep).1
      exact ⟨by rw [hphase]; rfl, hmain⟩

/-- `gdbstub_init`, `gdbstub_run` and `socket_reader` up to the loops. -/
def opening : List Label :=
  [.main (.init allCalls (some [58, 49]) true), .main (.run true), .thread (.start true)]

theorem lives_start :
    ∃ process, lifecycle.run opening = some process ∧ process.Sound ∧
      Lives (gdbstubServer stub stream target).start process := by
  have hopened : (lifecycle.run opening).map (fun process =>
      (process.main, process.crashed, process.threadStop, process.lost)) =
      some (.popping, false, false, 0) := by
    decide +kernel
  have hthread : (lifecycle.run opening).map (fun process => process.thread.map fun thread =>
      (thread.point, thread.data.isSome, thread.cap, thread.size)) =
      some (some (.testing, true, 10, 0)) := by
    decide +kernel
  have hqueue : (lifecycle.run opening).map (fun process =>
      (process.queue.head, process.queue.tail, process.queue.shutdown,
        process.queue.interrupted)) = some (none, none, false, false) := by
    decide +kernel
  obtain ⟨process, hrun, hopened⟩ := Option.map_eq_some_iff.mp hopened
  rw [hrun, Option.map_some] at hthread hqueue
  obtain ⟨thread, hthread, hat⟩ := Option.map_eq_some_iff.mp (Option.some.inj hthread)
  simp only [Option.some.injEq, Prod.mk.injEq] at hopened hat hqueue
  refine ⟨process, hrun, (run_sound hrun).1, ?_⟩
  exact
    { going := hopened.2.1
      stop := hopened.2.2.1
      kept := hopened.2.2.2
      pktbuf := ⟨pktbufInit_sound, rfl⟩
      thread := ⟨thread, hthread, hat.1, fun _ => ⟨hat.2.1, hat.2.2.1, hat.2.2.2⟩⟩
      main := hopened.1
      queue := ⟨[], [], ⟨hqueue.1 ▸ .nil, hqueue.2.1, hqueue.2.2.1, hqueue.2.2.2⟩, rfl⟩ }

/-- Every run of the server is a run of the process, which holds what it should. -/
theorem server_lives {labels : List ServerLabel} {server : Server σ}
    (hrun : (gdbstubServer stub stream target).run labels = some server)
    (hrunning : server.running = true) :
    ∃ steps process, lifecycle.run steps = some process ∧ process.Sound ∧
      Lives server process := by
  have hstart : ∃ steps process, lifecycle.run steps = some process ∧
      ((gdbstubServer stub stream target).start.running = true → process.Sound ∧
        Lives (gdbstubServer stub stream target).start process) := by
    obtain ⟨process, hopening, hstart⟩ := lives_start
    exact ⟨opening, process, hopening, fun _ => hstart⟩
  have hstep : ∀ (server : Server σ) label next (process : Process),
      (server.running = true → process.Sound ∧ Lives server process) →
      (gdbstubServer stub stream target).step server label = some next →
      ∃ steps after, lifecycle.runFrom process steps = some after ∧
        (next.running = true → after.Sound ∧ Lives next after) := by
    intro server label next process hrelated hstep
    by_cases hrunning : next.running = true
    · obtain ⟨hsound, hlives⟩ := hrelated (running_before hstep hrunning)
      obtain ⟨steps, after, hsteps, hafter, hnext⟩ := hlives.step hsound hstep hrunning
      exact ⟨steps, after, hsteps, fun _ => ⟨hafter, hnext⟩⟩
    · exact ⟨[], process, rfl, fun hnext => absurd hnext hrunning⟩
  obtain ⟨steps, process, hsteps, hlives⟩ := Machine.run_simulated hstart hstep hrun
  exact ⟨steps, process, hsteps, hlives hrunning⟩

/-- Has `gdbstub_run` returned? -/
def hasReturned : MainTurn → Bool
  | .shutdownSeen => true
  | .returned _ => true
  | _ => false

theorem MainAt.ready {turn : MainTurn} {point : MainPoint} (hmain : MainAt turn point)
    (hreturned : hasReturned turn = true) : point = .ready := by
  cases turn with
  | shutdownSeen => exact hmain
  | returned value => exact hmain
  | _ => cases hreturned

theorem close_step (hmain : process.main = .ready) :
    mainStep process .close = some process.close := by
  unfold mainStep
  rw [hmain]

theorem close_yields : Yields process.close fun next => next.main.closing = true := by
  refine withPriv_yields fun _ => ?_
  split
  · exact .pure rfl
  · exact .pure rfl

/-- **The server can be closed.**  Whatever `gdbstub_run` does with whatever the client sends, in
whatever interleaving, the process does the same, and holds what it should.  When `gdbstub_run` has
returned, it is where `gdbstub_close` can be called, and this comes back.  Wherever the program has
then come to that is outside, there is no thread, and nothing is held but the buffers that a
`realloc` which failed since the call has left behind. -/
theorem server_closes {labels : List ServerLabel} {server : Server σ}
    (hrun : (gdbstubServer stub stream target).run labels = some server)
    (hrunning : server.running = true) :
    ∃ steps process, lifecycle.run steps = some process ∧ process.Sound ∧ Lives server process ∧
      (hasReturned server.session.main = true → ∃ closing,
        lifecycle.step process (.main .close) = some closing ∧
        lifecycle.Inevitable Process.Back closing ∧
        ∀ more last, lifecycle.runFrom closing more = some last → last.main = .outside →
          last.thread = none ∧ last.ledger.held.card = (more.map Label.losses).sum) := by
  obtain ⟨steps, process, hsteps, hsound, hlives⟩ := server_lives hrun hrunning
  refine ⟨steps, process, hsteps, hsound, hlives, fun hreturned => ?_⟩
  have hclose : processStep process (.main .close) = some process.close :=
    close_step (hlives.main.ready hreturned)
  obtain ⟨closing, ledger, hstep, hsoundClosing, hclosing⟩ :=
    hsound.can_step hlives.going hclose close_yields
  refine ⟨_, hstep, hsoundClosing.closing_back hclosing, ?_⟩
  intro more last hmore hmain
  have hbefore := Machine.run_concat hsteps hstep
  have hrun : lifecycle.run (steps ++ [.main .close] ++ more) = some last := by
    rw [Machine.run_append, hbefore]
    exact hmore
  obtain ⟨hsoundLast, hlost⟩ := run_sound hrun
  obtain ⟨hthread, -, hheld⟩ := hsoundLast.outside hmain
  have hkept := (run_sound hsteps).2
  rw [hlives.kept] at hkept
  refine ⟨hthread, ?_⟩
  rw [hheld, hlost]
  simp only [List.map_append, List.sum_append, ← hkept, Multiset.card_zero, List.map_cons,
    List.map_nil, Label.losses, List.sum_cons, List.sum_nil, zero_add]

/-- The client hangs up behind its last packet. -/
theorem server_closes_overlap :
    let stub := byteStoreStub fun addr len => addr + len ≤ 2 ^ 64
    ∃ server process closing, (gdbstubServer stub overlapStream fun _ => 7).run
        (overlapLabels ++ [.shutdown, .main, .main]) = some server ∧ Lives server process ∧
      lifecycle.step process (.main .close) = some closing ∧
      lifecycle.Inevitable Process.Back closing := by
  intro stub
  have hfinal : (((gdbstubServer stub overlapStream fun _ => 7).run
      (overlapLabels ++ [.shutdown, .main, .main])).map fun server =>
      (server.running, hasReturned server.session.main)) = some (true, true) := by decide +kernel
  obtain ⟨server, hrun, heq⟩ := Option.map_eq_some_iff.mp hfinal
  obtain ⟨hrunning, hreturned⟩ := Prod.mk.inj heq
  obtain ⟨steps, process, -, -, hlives, hcloses⟩ := server_closes hrun hrunning
  obtain ⟨closing, hclose, hback, -⟩ := hcloses hreturned
  exact ⟨server, process, closing, hrun, hlives, hclose, hback⟩

end Lifecycle

end MiniGdbstub
