import MiniGdbstub.Disconnect
import MiniGdbstub.Reader
import MiniGdbstub.RemoteSession
import MiniGdbstub.Serving

/-!
# From the stream to the target

The reader thread, the queue and the main thread as one machine, for any target.  A step of
`socket_reader` is a step of its machine, and what it does to the other thread are steps of the
session.  A read delivers the next bytes of the client's stream, as many as it likes.

`Server.Linked` ties the parts together: the packets pushed are the frames popped, and the main
thread has done what the loop does on those it took.  So whatever the interleaving and however the
stream was cut, the stub has at every moment answered some of the requests in the stream, the first
ones, and done nothing else (`server_serves`); it comes to a stand only when it has answered all of
them (`server_stands`).  The client sends no 0x03 here: the interrupt is another chapter.
-/

namespace MiniGdbstub

open CString Framing

variable {σ : Type} (stub : Gdbstub σ) (stream : List UInt8) (target : σ)

/-! ## The machine -/

/-- The reader thread, and the session of the two threads. -/
structure Server (σ : Type) where
  reader : ReaderRun UInt8
  session : Session σ

/-- A `read` brings so many bytes, the block may have been enlarged by `fresh`; a complete packet
finds room in the queue; the connection is free for its acknowledgement; the client hangs up. -/
inductive ServerLabel
  | read (count : ℕ) (fresh : List UInt8)
  | scan
  | assemble (allocated : Bool)
  | ack (acquired : Bool)
  | shutdown
  | main

/-- What the scan of a byte does to the other thread. -/
def scanEffects (session : Session σ) (record : ScanRecord) : List (SessionLabel σ) :=
  (if record.onInterrupt then
    (stub.ops.onInterrupt.map fun op => .target (op session.stub.target)).toList else []) ++
    if record.signalled then [.interrupt] else []

/-- A step of the reader thread in its loop. -/
def serverReader (server : Server σ) : ServerLabel → Option (Server σ)
  | .read count fresh =>
      let start := server.reader.received.length
      if start + count ≤ stream.length then
        ((socketReader UInt8 stub.ops.onInterrupt.isSome).step server.reader
          (.read ((stream.drop start).take count) fresh)).map fun reader =>
            { server with reader := reader }
      else none
  | .scan => do
      let reader ← (socketReader UInt8 stub.ops.onInterrupt.isSome).step server.reader
        (.scan server.session.stub.asyncIoEnable)
      let records := reader.scanned.drop server.reader.scanned.length
      let session ← (gdbstubSession stub target).runFrom server.session
        (records.flatMap (scanEffects stub server.session))
      return { reader := reader, session := session }
  | .assemble allocated => do
      let reader ← (socketReader UInt8 stub.ops.onInterrupt.isSome).step server.reader .assemble
      let packets := reader.popped.drop server.reader.popped.length
      let session ← (gdbstubSession stub target).runFrom server.session
        (packets.map fun pkt => .push pkt allocated)
      return { reader := reader, session := session }
  | .shutdown =>
      if server.reader.reader.phase = .poll then
        ((gdbstubSession stub target).step server.session .shutdown).map fun session =>
          { server with session := session }
      else none
  | _ => none

/-- `gdbstub_run` on a client's stream. -/
def gdbstubServer : Machine (Server σ) ServerLabel where
  start :=
    { reader := (socketReader UInt8 stub.ops.onInterrupt.isSome).start
      session := (gdbstubSession stub target).start }
  step server label :=
    match label with
    | .main => ((gdbstubSession stub target).step server.session .main).map fun session =>
        { server with session := session }
    | .ack acquired => ((gdbstubSession stub target).step server.session (.ack acquired)).map
        fun session => { server with session := session }
    | label =>
        if server.session.reader = .reading ∧ server.session.main.running = true then
          serverReader stub stream target server label
        else none

/-- The reader can go on: it pops its packets exactly, and there is memory for them. -/
def Undisturbed (server : Server σ) : ServerLabel → Prop
  | .read _ fresh => PopsExactly server.reader (.read [] fresh)
  | .assemble allocated => PopsExactly server.reader .assemble ∧ allocated = true
  | _ => True

instance (server : Server σ) : ∀ label, Decidable (Undisturbed server label)
  | .read _ fresh => inferInstanceAs (Decidable (PopsExactly server.reader (.read [] fresh)))
  | .scan => inferInstanceAs (Decidable True)
  | .assemble allocated =>
      inferInstanceAs (Decidable (PopsExactly server.reader .assemble ∧ allocated = true))
  | .ack _ => inferInstanceAs (Decidable True)
  | .shutdown => inferInstanceAs (Decidable True)
  | .main => inferInstanceAs (Decidable True)

/-- The packets in the stream. -/
def packetsIn (stream : List UInt8) : List (Packet UInt8) :=
  (frames gdbFrame stream).map Packet.ofFrame

/-! ## The parts are linked -/

/-- What every undisturbed run keeps. -/
structure Server.Linked (server : Server σ) : Prop where
  reader : ∃ labels, (socketReader UInt8 stub.ops.onInterrupt.isSome).Guarded PopsExactly labels ∧
    (socketReader UInt8 stub.ops.onInterrupt.isSome).run labels = some server.reader
  received : server.reader.received <+: stream
  session : ∃ labels, (∀ label ∈ labels, label.Quiet) ∧
    (gdbstubSession stub target).run labels = some server.session
  pushed : server.session.pushed = server.reader.popped

variable {stub stream target}

section

variable {server : Server σ}

theorem Server.Linked.exact (hlinked : server.Linked stub stream target) :
    server.reader.Exact := by
  obtain ⟨labels, hguard, hrun⟩ := hlinked.reader
  exact exact_of_popsExactly hguard hrun

theorem Server.Linked.ordered (hlinked : server.Linked stub stream target) :
    server.session.Ordered := by
  obtain ⟨labels, -, hrun⟩ := hlinked.session
  exact session_ordered hrun

theorem Server.Linked.follows (hlinked : server.Linked stub stream target) :
    server.session.Follows stub target := by
  obtain ⟨labels, hquiet, hrun⟩ := hlinked.session
  exact session_follows hquiet hrun

/-- A step of the reader's machine. -/
theorem Server.Linked.readerStep (hlinked : server.Linked stub stream target)
    {label : ReaderLabel UInt8} {next : ReaderRun UInt8} (hmeets : PopsExactly server.reader label)
    (hstep : (socketReader UInt8 stub.ops.onInterrupt.isSome).step server.reader label =
      some next) :
    ∃ labels, (socketReader UInt8 stub.ops.onInterrupt.isSome).Guarded PopsExactly labels ∧
      (socketReader UInt8 stub.ops.onInterrupt.isSome).run labels = some next := by
  obtain ⟨labels, hguard, hrun⟩ := hlinked.reader
  exact ⟨labels ++ [label], hguard.concat hrun hmeets, Machine.run_concat hrun hstep⟩

/-- Steps of the session. -/
theorem Server.Linked.sessionRun (hlinked : server.Linked stub stream target)
    {effects : List (SessionLabel σ)} {next : Session σ}
    (hquiet : ∀ label ∈ effects, label.Quiet)
    (hsteps : (gdbstubSession stub target).runFrom server.session effects = some next) :
    ∃ labels, (∀ label ∈ labels, label.Quiet) ∧
      (gdbstubSession stub target).run labels = some next := by
  obtain ⟨labels, hearlier, hrun⟩ := hlinked.session
  refine ⟨labels ++ effects, ?_, ?_⟩
  · intro label hmem
    rcases List.mem_append.mp hmem with hmem | hmem
    · exact hearlier label hmem
    · exact hquiet label hmem
  · rw [Machine.run_append, hrun]
    exact hsteps

/-- A single step of the session that pushes nothing. -/
theorem Server.Linked.sessionStep (hlinked : server.Linked stub stream target)
    {label : SessionLabel σ} {next : Session σ} (hquiet : label.Quiet)
    (hpushes : ∀ pkt, label ≠ .push pkt true)
    (hstep : (gdbstubSession stub target).step server.session label = some next) :
    Server.Linked stub stream target { server with session := next } := by
  have hpushed : next.pushed = server.session.pushed := by
    cases (gdbstubSession_step stub hstep).2 with
    | push pkt _ => exact absurd rfl (hpushes pkt)
    | _ => rfl
  have hquiets : ∀ other ∈ [label], other.Quiet := by
    intro other hmem
    rw [List.mem_singleton.mp hmem]
    exact hquiet
  have hsteps : (gdbstubSession stub target).runFrom server.session [label] = some next := by
    rw [Machine.runFrom_cons, hstep]
    rfl
  exact { hlinked with
    session := hlinked.sessionRun hquiets hsteps
    pushed := hpushed.trans hlinked.pushed }

theorem Server.Linked.start :
    (gdbstubServer stub stream target).start.Linked stub stream target where
  reader := ⟨[], trivial, rfl⟩
  received := List.nil_prefix
  session := ⟨[], fun _ hmem => absurd hmem List.not_mem_nil, rfl⟩
  pushed := rfl

/-! ### A step of the reader -/

theorem Server.Linked.read (hlinked : server.Linked stub stream target) {count : ℕ}
    {fresh : List UInt8} (hmeets : PopsExactly server.reader (.read [] fresh)) {next : Server σ}
    (hstep : serverReader stub stream target server (.read count fresh) = some next) :
    next.Linked stub stream target := by
  obtain ⟨-, hstep⟩ := Option.ite_none_right_eq_some.mp hstep
  obtain ⟨reader, hreader, rfl⟩ := Option.map_eq_some_iff.mp hstep
  have hmeets : PopsExactly server.reader
    (.read ((stream.drop server.reader.received.length).take count) fresh) := hmeets
  have hrun := hlinked.readerStep hmeets hreader
  obtain ⟨filled, -, rfl⟩ := Option.map_eq_some_iff.mp hreader
  refine { hlinked with reader := hrun, received := ?_, pushed := hlinked.pushed }
  obtain ⟨rest, hrest⟩ := hlinked.received
  show server.reader.received ++ (stream.drop server.reader.received.length).take count <+: stream
  rw [← hrest, List.drop_left]
  exact List.prefix_append_right_inj _ |>.mpr (List.take_prefix count rest)

/-- In a stream without 0x03 the scan finds nothing. -/
theorem scanEffects_quiet (hintr : intrChar ∉ stream) {reader : ReaderRun UInt8}
    {hasOnInterrupt : Bool} (hscanned : reader.Scanned hasOnInterrupt)
    (hreceived : reader.received <+: stream) {records : List ScanRecord}
    (hrecords : ∀ record ∈ records, record ∈ reader.scanned) (session : Session σ) :
    records.flatMap (scanEffects stub session) = [] := by
  rw [List.flatMap_eq_nil_iff]
  intro record hmem
  obtain ⟨position, hposition⟩ := List.mem_iff_getElem?.mp (hrecords record hmem)
  obtain ⟨cell, hcell, hsignalled, honInterrupt⟩ := hscanned.marks position record hposition
  have hne : cell ≠ intrChar := by
    rintro rfl
    exact hintr (hreceived.subset (List.mem_of_getElem? hcell))
  have hquiet : record.signalled = false := by
    rw [hsignalled]
    exact beq_false_of_ne hne
  rw [scanEffects, honInterrupt, hquiet]
  rfl

theorem Server.Linked.scan (hintr : intrChar ∉ stream) (hlinked : server.Linked stub stream target)
    {next : Server σ} (hstep : serverReader stub stream target server .scan = some next) :
    next.Linked stub stream target := by
  obtain ⟨reader, hreader, hstep⟩ := Option.bind_eq_some_iff.mp hstep
  obtain ⟨session, hsession, hstep⟩ := Option.bind_eq_some_iff.mp hstep
  cases hstep
  have hmeets : PopsExactly server.reader (.scan server.session.stub.asyncIoEnable) := trivial
  obtain ⟨labels, hguard, hrun⟩ := hlinked.readerStep hmeets hreader
  obtain ⟨⟨hit, scanned⟩, -, rfl⟩ := Option.map_eq_some_iff.mp hreader
  rw [scanEffects_quiet hintr (scanned_of_run hrun) hlinked.received
    (fun record => List.mem_of_mem_drop)] at hsession
  cases hsession
  exact ⟨⟨labels, hguard, hrun⟩, hlinked.received, hlinked.session, hlinked.pushed⟩

/-- Packets pushed one after another are pushed in this order. -/
theorem pushed_of_pushes (packets : List (Packet UInt8)) :
    ∀ {session next : Session σ},
      (gdbstubSession stub target).runFrom session (packets.map fun pkt => .push pkt true) =
        some next → next.pushed = session.pushed ++ packets := by
  induction packets with
  | nil =>
      intro session next hrun
      cases hrun
      exact (List.append_nil _).symm
  | cons pkt packets ih =>
      intro session next hrun
      obtain ⟨between, hstep, hrest⟩ := Option.bind_eq_some_iff.mp hrun
      cases (gdbstubSession_step stub hstep).2
      rw [ih hrest]
      exact List.append_assoc _ [pkt] packets

theorem Server.Linked.assemble (hlinked : server.Linked stub stream target)
    (hmeets : PopsExactly server.reader .assemble) {next : Server σ}
    (hstep : serverReader stub stream target server (.assemble true) = some next) :
    next.Linked stub stream target := by
  obtain ⟨reader, hreader, hstep⟩ := Option.bind_eq_some_iff.mp hstep
  obtain ⟨session, hsession, hstep⟩ := Option.bind_eq_some_iff.mp hstep
  cases hstep
  have hrun := hlinked.readerStep hmeets hreader
  obtain ⟨⟨packet, assembled⟩, -, rfl⟩ := Option.map_eq_some_iff.mp hreader
  dsimp only at hsession
  rw [List.drop_left] at hsession
  refine ⟨hrun, hlinked.received, hlinked.sessionRun ?_ hsession, ?_⟩
  · intro label hmem
    obtain ⟨pkt, -, rfl⟩ := List.mem_map.mp hmem
    trivial
  · show session.pushed = server.reader.popped ++ packet.toList
    rw [pushed_of_pushes _ hsession, hlinked.pushed]

/-- **A step of the server.** -/
theorem Server.Linked.step (hintr : intrChar ∉ stream)
    (hlinked : server.Linked stub stream target) {label : ServerLabel} {next : Server σ}
    (hmeets : Undisturbed server label)
    (hstep : (gdbstubServer stub stream target).step server label = some next) :
    next.Linked stub stream target := by
  cases label with
  | read count fresh =>
      exact hlinked.read hmeets (Option.ite_none_right_eq_some.mp hstep).2
  | scan => exact hlinked.scan hintr (Option.ite_none_right_eq_some.mp hstep).2
  | assemble allocated =>
      obtain ⟨hexact, rfl⟩ := hmeets
      exact hlinked.assemble hexact (Option.ite_none_right_eq_some.mp hstep).2
  | ack acquired =>
      obtain ⟨session, hsession, rfl⟩ := Option.map_eq_some_iff.mp hstep
      have hquiet : (SessionLabel.ack acquired : SessionLabel σ).Quiet := trivial
      exact hlinked.sessionStep hquiet (fun _ heq => by cases heq) hsession
  | shutdown =>
      obtain ⟨-, hstep⟩ :=
        Option.ite_none_right_eq_some.mp (Option.ite_none_right_eq_some.mp hstep).2
      obtain ⟨session, hsession, rfl⟩ := Option.map_eq_some_iff.mp hstep
      have hquiet : (SessionLabel.shutdown : SessionLabel σ).Quiet := trivial
      exact hlinked.sessionStep hquiet (fun _ heq => by cases heq) hsession
  | main =>
      obtain ⟨session, hsession, rfl⟩ := Option.map_eq_some_iff.mp hstep
      have hquiet : (SessionLabel.main : SessionLabel σ).Quiet := trivial
      exact hlinked.sessionStep hquiet (fun _ heq => by cases heq) hsession

theorem server_linked (hintr : intrChar ∉ stream) {labels : List ServerLabel}
    (hguard : (gdbstubServer stub stream target).Guarded Undisturbed labels)
    (hrun : (gdbstubServer stub stream target).run labels = some server) :
    server.Linked stub stream target :=
  Machine.run_guarded Server.Linked.start
    (fun _ _ _ hlinked hmeets hstep => hlinked.step hintr hmeets hstep) hguard hrun

/-! ## What has been served -/

/-- The packets taken are the first in the stream. -/
theorem Server.Linked.taken_prefix (hlinked : server.Linked stub stream target) :
    server.session.taken.map Taken.pkt <+: packetsIn stream := by
  have htaken : server.session.taken.map Taken.pkt <+: server.session.pushed :=
    ⟨_, hlinked.ordered.fifo⟩
  have hpopped : server.reader.popped <+: packetsIn server.reader.received := by
    rw [packetsIn, hlinked.exact.frames_eq]
    exact List.prefix_append _ _
  have hreceived : packetsIn server.reader.received <+: packetsIn stream := by
    obtain ⟨rest, hrest⟩ := hlinked.received
    rw [← hrest, packetsIn, packetsIn, frames_append, List.map_append]
    exact List.prefix_append _ _
  rw [hlinked.pushed] at htaken
  exact (htaken.trans hpopped).trans hreceived

/-- The whole stream has been received, and every packet in it has been served. -/
structure Server.CaughtUp (stream : List UInt8) (server : Server σ) : Prop where
  received : server.reader.received = stream
  assembled : server.reader.reader.phase = .poll
  queue : server.session.queue.packets = []
  inHand : server.session.main.inHand = []

/-- There is nothing left to do, or `gdbstub_run` has returned. -/
def Server.Done (stream : List UInt8) (server : Server σ) : Prop :=
  server.session.main.ended ≠ .waits ∨ server.CaughtUp stream

theorem Server.CaughtUp.taken (hcaughtUp : server.CaughtUp stream)
    (hlinked : server.Linked stub stream target) :
    server.session.taken.map Taken.pkt = packetsIn stream := by
  have hfifo := hlinked.ordered.fifo
  rw [hcaughtUp.queue, List.append_nil] at hfifo
  have hexact := hlinked.exact
  rw [hfifo, hlinked.pushed, packetsIn, ← hcaughtUp.received, hexact.frames_eq,
    frames_of_none (hexact.idle hcaughtUp.assembled)]
  exact (List.append_nil _).symm

/-- What the stub has done, and what it has done in the end. -/
theorem Server.Linked.serves (hlinked : server.Linked stub stream target) :
    ∃ served after, served <+: packetsIn stream ∧
      gdbstubRun stub served (StubState.init target) = (server.session.main.ended, after) ∧
      SameEffect server.session.stub after ∧
      (server.Done stream → gdbstubRun stub (packetsIn stream) (StubState.init target) =
        (server.session.main.ended, after)) := by
  obtain ⟨served, after, htaken, hrun, hstates⟩ := hlinked.follows.serves
  have hprefix : served <+: packetsIn stream :=
    (List.prefix_append served _).trans (htaken ▸ hlinked.taken_prefix)
  refine ⟨served, after, hprefix, hrun, hstates.same, ?_⟩
  rintro (hended | hcaughtUp)
  · obtain ⟨rest, hrest⟩ := hprefix
    rw [← hrest, gdbstubRun_append_of_ended stub (by rw [hrun]; exact hended), hrun]
  · rw [hcaughtUp.inHand, List.append_nil, hcaughtUp.taken hlinked] at htaken
    rw [htaken, hrun]

theorem FewCorrupted.of_prefix {first pkts : List (Packet UInt8)} (hfew : FewCorrupted pkts)
    (hfirst : first <+: pkts) : FewCorrupted first := by
  obtain ⟨rest, rfl⟩ := hfirst
  rintro before row after rfl hrow
  exact hfew before row (after ++ rest) (List.append_assoc _ _ _) hrow

/-- The first packets of a stream carry the first requests. -/
theorem intact_of_prefix {first pkts : List (Packet UInt8)} {bodies : List (List UInt8)}
    (hpkts : intactPackets pkts = packetsOf bodies) (hfirst : first <+: pkts) :
    ∃ count, intactPackets first = packetsOf (bodies.take count) := by
  have hprefix : intactPackets first <+: packetsOf bodies := hpkts ▸ hfirst.filter _
  refine ⟨(intactPackets first).length, ?_⟩
  rw [packetsOf, List.map_take]
  exact List.prefix_iff_eq_take.mp hprefix

/-- The requests that have been served, and that all of them have in the end. -/
theorem Server.Linked.served (hlinked : server.Linked stub stream target)
    (halloc : ∀ k bytes, stub.mallocs k bytes = true)
    {bodies : List (List UInt8)} {asks : List Ask}
    (hpkts : intactPackets (packetsIn stream) = packetsOf bodies)
    (hfew : FewCorrupted (packetsIn stream)) (hasks : List.Forall₂ (Asks stub) bodies asks)
    (hfits : ∀ answer ∈ (stub.session asks target).1, answer.Fits) :
    (∃ count, Served (StubState.init target) (server.session.main.ended, server.session.stub)
        (stub.session (asks.take count) target)) ∧
      (server.Done stream →
        Served (StubState.init target) (server.session.main.ended, server.session.stub)
          (stub.session asks target)) := by
  obtain ⟨served, after, hprefix, hserved, hsame, hdone⟩ := hlinked.serves
  -- the stub differs from the loop in acknowledgements only
  have hcarry : ∀ {expected : List Answer × Ended × σ},
      Served (StubState.init target) (server.session.main.ended, after) expected →
      Served (StubState.init target) (server.session.main.ended, server.session.stub) expected :=
    fun hexpected => ⟨hexpected.ended, hsame.target.trans hexpected.target,
      hsame.replies.trans hexpected.replies⟩
  constructor
  · obtain ⟨count, hintact⟩ := intact_of_prefix hpkts hprefix
    refine ⟨count, hcarry ?_⟩
    rw [← hserved]
    refine gdbstubRun_carries halloc hintact (hfew.of_prefix hprefix)
      (List.forall₂_take count hasks) regbufInit_sound rfl ?_
    intro answer hmem
    exact hfits answer ((session_take count asks target).subset hmem)
  · intro hended
    refine hcarry ?_
    rw [← hdone hended]
    exact gdbstubRun_carries halloc hpkts hfew hasks regbufInit_sound rfl hfits

/-- **From the stream to the target.**  However the client's stream is cut into reads and the two
threads are interleaved, the stub has at every moment done what the target does on some of the
requests in the stream, the first ones, and sent their answers; when nothing is left to do, on all
of them. -/
theorem server_serves (halloc : ∀ k bytes, stub.mallocs k bytes = true) (hintr : intrChar ∉ stream)
    {bodies : List (List UInt8)} {asks : List Ask}
    (hpkts : intactPackets (packetsIn stream) = packetsOf bodies)
    (hfew : FewCorrupted (packetsIn stream)) (hasks : List.Forall₂ (Asks stub) bodies asks)
    (hfits : ∀ answer ∈ (stub.session asks target).1, answer.Fits) {labels : List ServerLabel}
    (hguard : (gdbstubServer stub stream target).Guarded Undisturbed labels)
    (hrun : (gdbstubServer stub stream target).run labels = some server) :
    (∃ count, Served (StubState.init target) (server.session.main.ended, server.session.stub)
        (stub.session (asks.take count) target)) ∧
      (server.Done stream →
        Served (StubState.init target) (server.session.main.ended, server.session.stub)
          (stub.session asks target)) :=
  (server_linked hintr hguard hrun).served halloc hpkts hfew hasks hfits

end

/-! ### A stream -/

/-- The packets of `overlapPackets`, one behind the other. -/
def overlapStream : List UInt8 :=
  pktstrFrame (ascii "M10,2:aBcD") ++ ascii "$m11,2#00" ++ pktstrFrame (ascii "m11,2") ++
    pktstrFrame (ascii "?")

/-- The reader receives the bytes that are missing to a packet. -/
def takesIn (count : ℕ) : List ServerLabel :=
  .read count [] :: List.replicate count .scan ++ [.assemble true, .ack true, .assemble true]

/-- The first packet comes in two reads; the main thread takes it while the third is received. -/
def overlapLabels : List ServerLabel :=
  [.read 5 []] ++ List.replicate 5 .scan ++ [.assemble true] ++ takesIn 9 ++ takesIn 9 ++
    [.main, .main] ++ takesIn 9 ++ [.main] ++ takesIn 5 ++ List.replicate 13 .main

theorem server_serves_overlap :
    let stub := byteStoreStub fun addr len => addr + len ≤ 2 ^ 64
    ∃ server, (gdbstubServer stub overlapStream fun _ => 7).run overlapLabels = some server ∧
      Served (StubState.init fun _ => 7) (server.session.main.ended, server.session.stub)
        (stub.session overlapAsks fun _ => 7) := by
  intro stub
  have hguard : (gdbstubServer stub overlapStream fun _ => 7).Guarded Undisturbed
      overlapLabels := by decide +kernel
  have hfinal : (((gdbstubServer stub overlapStream fun _ => 7).run overlapLabels).map
      fun server => (server.reader.received, server.reader.reader.phase,
        server.session.queue.packets.length, server.session.main.inHand.length)) =
      some (overlapStream, .poll, 0, 0) := by decide +kernel
  obtain ⟨server, hrun, heq⟩ := Option.map_eq_some_iff.mp hfinal
  simp only [Prod.mk.injEq, List.length_eq_zero_iff] at heq
  obtain ⟨hreceived, hphase, hqueue, hinHand⟩ := heq
  have hfits : ∀ answer ∈ (stub.session overlapAsks fun _ => 7).1, answer.Fits := by
    rw [show (stub.session overlapAsks fun _ => 7).1 = _ from overlap_session]
    simp [Answer.Fits, maxSendPacketSize]
  have hpackets : packetsIn overlapStream = overlapPackets := by decide +kernel
  have hserves := server_serves (fun _ _ => rfl) (by decide) (hpackets ▸ overlap_intact)
    (hpackets ▸ fewCorrupted_of_length (by decide)) overlap_asks hfits hguard hrun
  exact ⟨server, hrun, hserves.2 (.inr ⟨hreceived, hphase, hqueue, hinHand⟩)⟩

/-! ## The server does not come to a stand before -/

section

variable {server : Server σ}

variable (stub stream target) in
/-- Neither thread can go on, with one more byte read, memory for a packet, and the connection
free. -/
structure Server.Stands (server : Server σ) : Prop where
  main : (gdbstubServer stub stream target).step server .main = none
  ack : (gdbstubServer stub stream target).step server (.ack true) = none
  scan : (gdbstubServer stub stream target).step server .scan = none
  assemble : (gdbstubServer stub stream target).step server (.assemble true) = none
  read : ∀ fresh, (gdbstubServer stub stream target).step server (.read 1 fresh) = none

/-- The main thread waits for nothing but a packet. -/
theorem sessionMain_stands {session : Session σ} (hstands : sessionMain stub session = none) :
    session.main = .pop ∧ session.queue.packets = [] ∨ session.main = .shutdownSeen ∨
      session.main.ended ≠ .waits := by
  unfold sessionMain at hstands
  cases hmain : session.main with
  | pop =>
      rw [hmain] at hstands
      dsimp only at hstands
      split at hstands
      · rename_i hpop
        unfold pktqueuePop at hpop
        split at hpop
        · cases hpop
        · rename_i hpackets
          exact .inl ⟨rfl, hpackets⟩
      · cases hstands
      · cases hstands
  | isShutdown =>
      rw [hmain] at hstands
      cases hstands
  | checkInterrupt =>
      rw [hmain] at hstands
      cases hstands
  | verify pkt =>
      rw [hmain] at hstands
      dsimp only at hstands
      split at hstands <;> cases hstands
  | acknowledge pkt csumOk =>
      rw [hmain] at hstands
      dsimp only at hstands
      split at hstands <;> cases hstands
  | serve pkt csumOk =>
      rw [hmain] at hstands
      dsimp only at hstands
      split at hstands <;> cases hstands
  | shutdownSeen => exact .inr (.inl rfl)
  | returned value => exact .inr (.inr fun hwaits => by cases hwaits)
  | crashed fault => exact .inr (.inr fun hwaits => by cases hwaits)

theorem readerScan_enabled {reader : Reader UInt8} {nread i : ℕ}
    (hphase : reader.phase = .scan nread i) : ∃ result, readerScan reader = some result := by
  unfold readerScan
  rw [hphase]
  dsimp only
  split
  · exact ⟨_, rfl⟩
  · exact ⟨_, rfl⟩

/-- A `read` of one byte is possible: a full block is enlarged before. -/
theorem readerRead_enabled {reader : Reader UInt8} (hsound : reader.Sound)
    (hphase : reader.phase = .poll) (byte : UInt8) :
    ∃ fresh result, readerRead [byte] fresh reader = some result := by
  have hsize := hsound.pktbuf.size_le
  rw [hsound.pktbuf.length_data] at hsize
  have hroom : 1 ≤ pktbufRoom reader.pktbuf := by
    have hpos : 0 < 2 ^ reader.pktbuf.cap := Nat.two_pow_pos _
    unfold pktbufRoom
    split
    · rw [Nat.pow_succ]
      omega
    · omega
  refine ⟨List.replicate (2 ^ reader.pktbuf.cap) 0, ?_⟩
  unfold readerRead
  rw [if_pos ⟨hphase, hroom, fun _ => List.length_replicate⟩]
  split
  · exact ⟨_, rfl⟩
  · exact ⟨_, rfl⟩

/-- A reader that can still read is not in its loop over complete packets, nor scanning. -/
theorem Server.Stands.assembled (hintr : intrChar ∉ stream)
    (hlinked : server.Linked stub stream target) (hstands : server.Stands stub stream target)
    (hreading : server.session.reader = .reading) (hrunning : server.session.main.running = true) :
    server.reader.reader.phase = .poll := by
  have hturn : server.session.reader = .reading ∧ server.session.main.running = true :=
    ⟨hreading, hrunning⟩
  cases hphase : server.reader.reader.phase with
  | poll => rfl
  | crashed fault => exact absurd hphase (hlinked.exact.running fault)
  | scan nread i =>
      -- a byte of the stream can be scanned: without a 0x03 nothing comes of it
      obtain ⟨⟨hit, scanned⟩, hscan⟩ := readerScan_enabled hphase
      have hstep := hstands.scan
      let record : ScanRecord :=
        ⟨server.session.stub.asyncIoEnable,
          hit && server.session.stub.asyncIoEnable && stub.ops.onInterrupt.isSome, hit⟩
      have hreader : (socketReader UInt8 stub.ops.onInterrupt.isSome).step server.reader
          (.scan server.session.stub.asyncIoEnable) = some { server.reader with
            reader := scanned
            scanned := server.reader.scanned ++ [record] } := by
        show (readerScan server.reader.reader).map _ = _
        rw [hscan]
        rfl
      have hmeets : PopsExactly server.reader (.scan server.session.stub.asyncIoEnable) := trivial
      obtain ⟨labels, -, hrun⟩ := hlinked.readerStep hmeets hreader
      have hrecords : ∀ other ∈ [record], other ∈ server.reader.scanned ++ [record] :=
        fun other hmem => List.mem_append_right _ hmem
      have heffects : [record].flatMap (scanEffects stub server.session) = [] :=
        scanEffects_quiet hintr (scanned_of_run hrun) hlinked.received hrecords server.session
      rw [show (gdbstubServer stub stream target).step server .scan =
        if _ then serverReader stub stream target server .scan else none from rfl, if_pos hturn,
        serverReader, hreader] at hstep
      simp only [Option.bind_eq_bind, Option.bind_some, List.drop_left, heffects,
        Machine.runFrom_nil] at hstep
      cases hstep
  | assemble =>
      -- the buffer can be searched, and what is popped can be pushed
      obtain ⟨packet, assembled, hassemble⟩ := readerAssemble_enabled hphase
      have hstep := hstands.assemble
      have hreader : (socketReader UInt8 stub.ops.onInterrupt.isSome).step server.reader
          .assemble = some { server.reader with
            reader := assembled
            popped := server.reader.popped ++ packet.toList } := by
        show (readerAssemble server.reader.reader).map _ = _
        rw [hassemble]
        rfl
      rw [show (gdbstubServer stub stream target).step server (.assemble true) =
        if _ then serverReader stub stream target server (.assemble true) else none from rfl,
        if_pos hturn, serverReader, hreader] at hstep
      simp only [Option.bind_eq_bind, Option.bind_some, List.drop_left] at hstep
      cases packet with
      | none =>
          rw [Option.toList_none, List.map_nil, Machine.runFrom_nil] at hstep
          cases hstep
      | some pkt =>
          have hpush : (gdbstubSession stub target).step server.session (.push pkt true) =
              some { server.session with
                queue := pktqueuePush server.session.queue pkt
                reader := .acking
                pushed := server.session.pushed ++ [pkt] } := by
            show (if _ then sessionReader _ _ else none) = _
            rw [if_pos hrunning, sessionReader, if_pos hreading]
            rfl
          rw [Option.toList_some, List.map_singleton, Machine.runFrom_cons, hpush] at hstep
          cases hstep

/-- **No deadlock.**  As long as the client does not hang up, the threads go on until the whole
stream has been received and served. -/
theorem server_stands (hintr : intrChar ∉ stream) {labels : List ServerLabel}
    (hguard : (gdbstubServer stub stream target).Guarded Undisturbed labels)
    (hrun : (gdbstubServer stub stream target).run labels = some server)
    (hopen : server.session.reader ≠ .finished) (hstands : server.Stands stub stream target) :
    server.Done stream := by
  have hlinked := server_linked hintr hguard hrun
  by_cases hended : server.session.main.ended = .waits
  swap
  · exact .inl hended
  have hrunning : server.session.main.running = true := by
    cases hmain : server.session.main with
    | crashed fault =>
        rw [hmain] at hended
        cases hended
    | _ => rfl
  -- the main thread waits for a packet
  have hmain : sessionMain stub server.session = none := by
    have hstep := Option.map_eq_none_iff.mp hstands.main
    rwa [show (gdbstubSession stub target).step server.session .main =
      if _ then sessionMain stub server.session else none from rfl, if_pos hrunning] at hstep
  have hpop : server.session.main = .pop ∧ server.session.queue.packets = [] := by
    rcases sessionMain_stands hmain with hpop | hseen | hreturned
    · exact hpop
    · obtain ⟨sessionLabels, -, hsession⟩ := hlinked.session
      rcases drained_or_abandoned hsession with ⟨-, hdrained⟩ | ⟨-, habandoned⟩
      · exact absurd (hdrained.finished.mp (hdrained.seen hseen).1) hopen
      · exact absurd habandoned.reader hopen
    · exact absurd hended hreturned
  -- and the reader for the client
  have hreading : server.session.reader = .reading := by
    cases hreader : server.session.reader with
    | reading => rfl
    | finished => exact absurd hreader hopen
    | acking =>
        have hstep := Option.map_eq_none_iff.mp hstands.ack
        rw [show (gdbstubSession stub target).step server.session (.ack true) =
          if _ then sessionReader server.session (.ack true) else none from rfl,
          if_pos hrunning, sessionReader, if_pos hreader] at hstep
        cases hstep
  have hphase := hstands.assembled hintr hlinked hreading hrunning
  refine .inr ⟨?_, hphase, hpop.2, by rw [hpop.1]; rfl⟩
  by_contra hmore
  have hshort : server.reader.received.length < stream.length := by
    refine lt_of_le_of_ne hlinked.received.length_le fun hlength => hmore ?_
    exact hlinked.received.eq_of_length hlength
  obtain ⟨byte, hbyte⟩ : ∃ byte,
      (stream.drop server.reader.received.length).take 1 = [byte] := by
    rw [List.drop_eq_getElem_cons hshort]
    exact ⟨_, rfl⟩
  obtain ⟨fresh, reader, hread⟩ := readerRead_enabled hlinked.exact.sound hphase byte
  have hstep := hstands.read fresh
  rw [show (gdbstubServer stub stream target).step server (.read 1 fresh) =
    if _ then serverReader stub stream target server (.read 1 fresh) else none from rfl,
    if_pos ⟨hreading, hrunning⟩, serverReader, if_pos (by omega), hbyte] at hstep
  have hreader : (socketReader UInt8 stub.ops.onInterrupt.isSome).step server.reader
      (.read [byte] fresh) = some { server.reader with
        reader := reader
        received := server.reader.received ++ [byte] } := by
    show (readerRead [byte] fresh server.reader.reader).map _ = _
    rw [hread]
    rfl
  rw [hreader] at hstep
  cases hstep

end

theorem server_stands_overlap :
    let stub := byteStoreStub fun addr len => addr + len ≤ 2 ^ 64
    ∃ server, (gdbstubServer stub overlapStream fun _ => 7).run overlapLabels = some server ∧
      server.Done overlapStream := by
  intro stub
  let machine := gdbstubServer stub overlapStream fun _ => 7
  have hguard : machine.Guarded Undisturbed overlapLabels := by decide +kernel
  have hfinal : ((machine.run overlapLabels).map fun server =>
      (server.reader.received, server.session.reader, (machine.step server .main).isNone,
        (machine.step server (.ack true)).isNone, (machine.step server .scan).isNone,
        (machine.step server (.assemble true)).isNone)) =
      some (overlapStream, .reading, true, true, true, true) := by decide +kernel
  obtain ⟨server, hrun, heq⟩ := Option.map_eq_some_iff.mp hfinal
  simp only [Prod.mk.injEq, Option.isNone_iff_eq_none] at heq
  obtain ⟨hreceived, hreader, hmain, hack, hscan, hassemble⟩ := heq
  have hread : ∀ fresh, machine.step server (.read 1 fresh) = none := by
    intro fresh
    show (if _ then serverReader stub overlapStream (fun _ => 7) server (.read 1 fresh)
      else none) = none
    rw [serverReader, hreceived, if_neg (Nat.not_succ_le_self _), ite_self]
  exact ⟨server, hrun, server_stands (by decide) hguard hrun (by rw [hreader]; decide)
    ⟨hmain, hack, hscan, hassemble, hread⟩⟩

end MiniGdbstub
