import MiniGdbstub.LinkedQueue
import MiniGdbstub.Resources

/-!
# From `gdbstub_init` to `gdbstub_close`

The whole life of a stub, as the program that uses it sees it: `gdbstub_init`, `gdbstub_run` as
often as one likes, `gdbstub_close`, and all this again.  Beside the main thread runs the reader
thread that `gdbstub_run` creates and `gdbstub_close` joins.  Every statement of the two that
acquires, releases or uses a block, a descriptor or a lock is a step here, in any interleaving;
what is in the packets is not, so a label says which way the data sends a thread and how a call of
the library ends.  The queue is that of `LinkedQueue`, node by node; its values are the blocks of
the packets.

A step that releases or uses what is not held, or follows a pointer to a freed node, is a misuse.
There is none in any run, and between `gdbstub_close` and the next `gdbstub_init` nothing is held,
but for the packet buffers that a failed `realloc` has left behind (`lifecycle_balanced`).  One use
is looked at apart, because the process goes on with whatever is there: `strtok` keeps a pointer
into the packet of an earlier request.
-/

namespace MiniGdbstub.Lifecycle

open Ledger LinkedList

/-! ## The two threads -/

/-- Where the reader thread is in `socket_reader`; `scanning` has so many bytes left, `pushing`
holds a packet. -/
inductive ReaderPoint
  | starting
  | testing
  | polling
  | filling
  | scanning (left : ℕ)
  | assembling
  | pushing (pkt : ℕ)
  | acking
  | leaving
  | signalling
  | finished
  deriving DecidableEq

def ReaderPoint.isFinished : ReaderPoint → Bool
  | .finished => true
  | _ => false

/-- The reader thread and its `pktbuf_t`. -/
structure ReaderThread where
  tid : ℕ
  point : ReaderPoint
  data : Option ℕ
  cap : ℕ
  size : ℕ

/-- Where the main thread is: outside of `gdbstub_init` and `gdbstub_close`, between them, in
`gdbstub_run`, or in `gdbstub_close`.  `releasing` has a node that it has taken from the queue,
`handled` has come back from a handler, `destroying` has come to a node of the list. -/
inductive MainPoint
  | outside
  | ready
  | popping
  | releasing (node : ℕ)
  | noPacket
  | clearing
  | holding (pkt : ℕ)
  | serving (pkt : ℕ)
  | handled (pkt : ℕ)
  | joining
  | destroying (node : Option ℕ)
  deriving DecidableEq

/-- The process: what it holds, `gdbstub->priv`, the queue and the two threads.  `lost` are the
blocks that a failed `realloc` has left behind, `saved` is the block that `strtok` was last in, and
`stale` says that it has gone on there when the block was not held. -/
structure Process where
  ledger : Ledger
  priv : Option Private
  queue : LinkedPktqueue ℕ
  threadStop : Bool
  thread : Option ReaderThread
  main : MainPoint
  lost : Multiset ℕ
  saved : Option ℕ
  stale : Bool
  crashed : Bool
  misused : Bool

/-- What a handler allocates, whether there is memory, and whether it is accessed; and for
`qXfer:features`, whether there is anything behind. -/
inductive HandlerBlocks
  | memory (available accessed : Bool)
  | registers (first second : Bool)
  | register (accessed : Bool)
  | transfer (hasArgs : Bool)
  deriving DecidableEq

/-- How the main thread's calls end, and where the data sends it. -/
inductive MainLabel
  | init (calls : InitCalls) (s : Option (List UInt8)) (hasOps : Bool)
  | run (created : Bool)
  | take
  | release
  | isShutdown
  | checkInterrupt
  | discard (goesOn : Bool)
  | accept
  | regbufGet (available : Bool)
  | handler (blocks : HandlerBlocks)
  | served (goesOn : Bool)
  | close
  | join
  | destroyNode
  | destroy

inductive PollOutcome
  | readable
  | again
  | failed

inductive ReadOutcome
  | bytes (nread : ℕ)
  | again
  | ended

/-- How the reader thread's calls end, and where the data sends it. -/
inductive ThreadLabel
  | start (available : Bool)
  | test
  | poll (outcome : PollOutcome)
  | enlarge (available : Bool)
  | read (outcome : ReadOutcome)
  | scan (hit : Bool)
  | incomplete (left : ℕ)
  | pop (left : ℕ) (available : Bool)
  | push (node : Option ℕ)
  | ack
  | leave
  | signal

inductive Label
  | main (label : MainLabel)
  | thread (label : ThreadLabel)

/-! ## What a step uses -/

/-- A misuse. -/
def misuse {α : Type} : Effect α := fun _ => none

/-- A pointer to a freed node is not followed. -/
def checked {α : Type} : Except Fault α → Effect α
  | .ok value => pure value
  | .error _ => misuse

/-- What is done with `gdbstub->priv` and these handles in it. -/
def Process.withPriv (process : Process) (uses : Private → List ℕ)
    (body : Private → Effect Process) : Effect Process :=
  match process.priv with
  | some priv => do
      requireAll (uses priv)
      body priv
  | none => misuse

def Private.uses (priv : Private) : List ℕ :=
  [priv.block]

/-- What an operation on the queue uses. -/
def Private.queueUses (priv : Private) : List ℕ :=
  [priv.block, priv.queue.mutex, priv.queue.cond]

/-- What a read from the socket uses. -/
def Private.readUses (priv : Private) : List ℕ :=
  [priv.block, priv.conn.socketFd]

/-- What a send uses. -/
def Private.sendUses (priv : Private) : List ℕ :=
  [priv.block, priv.conn.sendMutex, priv.conn.socketFd]

/-! ## Steps of the main thread -/

/-- `gdbstub_run` goes on, or it returns. -/
def MainPoint.after (goesOn : Bool) : MainPoint :=
  if goesOn then .popping else .ready

/-- `gdbstub_init`. -/
def Process.init (process : Process) (calls : InitCalls) (s : Option (List UInt8))
    (hasOps : Bool) : Effect Process := do
  match ← gdbstubInit calls s hasOps with
  | none => return process
  | some priv =>
      return { process with
        priv := some priv
        queue := linkedInit
        threadStop := false
        main := .ready }

/-- `gdbstub_run` up to its loop: a thread is created if there is none. -/
def Process.run (process : Process) (created : Bool) : Effect Process :=
  process.withPriv Private.uses fun _ => do
    if process.thread.isSome then
      return { process with main := .popping }
    else match ← acquire created with
      | none => return process
      | some tid =>
          return { process with
            threadStop := false
            thread := some { tid := tid, point := .starting, data := none, cap := 10, size := 0 }
            main := .popping }

/-- The critical section of `pktqueue_pop`. -/
def Process.take (process : Process)
    (taken : Except Fault (Option ℕ × LinkedPktqueue ℕ)) : Effect Process :=
  process.withPriv Private.queueUses fun _ => do
    let (node, queue) ← checked taken
    return { process with
      queue := queue
      main := node.elim .noPacket .releasing }

/-- The rest of `pktqueue_pop`. -/
def Process.release (process : Process) (node : ℕ) : Effect Process := do
  let (pkt, queue) ← checked (linkedRelease node process.queue)
  return { process with queue := queue, main := .holding pkt }

def Process.isShutdown (process : Process) : Effect Process :=
  process.withPriv Private.queueUses fun _ =>
    return { process with main := if process.queue.shutdown then .ready else .clearing }

def Process.checkInterrupt (process : Process) : Effect Process :=
  process.withPriv Private.queueUses fun _ =>
    return { process with queue := linkedCheckInterrupt process.queue, main := .popping }

/-- A packet with a right checksum is acknowledged. -/
def Process.accept (process : Process) (pkt : ℕ) : Effect Process :=
  process.withPriv Private.sendUses fun _ => do
    require pkt
    return { process with main := .serving pkt }

/-- A packet is done with: its checksum is wrong, or it has been served. -/
def Process.finish (process : Process) (pkt : ℕ) (goesOn : Bool) : Effect Process :=
  process.withPriv Private.sendUses fun _ => do
    Ledger.release pkt
    return { process with main := .after goesOn }

/-- A handler asks for a register buffer that is longer than the present one. -/
def Process.regbufGet (process : Process) (available : Bool) : Effect Process :=
  process.withPriv Private.uses fun priv => do
    let regbuf ← regbufGrow available priv.regbuf
    return { process with priv := some { priv with regbuf := regbuf } }

/-- `process_mem_read` and `process_mem_write`, which do not ask whether there is memory. -/
def Process.memory (process : Process) (pkt : ℕ) (available accessed : Bool) :
    Effect Process := do
  require pkt
  let mval ← acquire available
  if ← access accessed mval then do
    releaseSome mval
    return { process with main := .handled pkt }
  else return { process with crashed := true }

/-- `process_reg_write`, which does, and frees both blocks on all its ways out. -/
def Process.registers (process : Process) (pkt : ℕ) (first second : Bool) : Effect Process := do
  require pkt
  let newValues ← acquire first
  let backupValues ← acquire second
  requireAll (if first && second then newValues.toList ++ backupValues.toList else [])
  releaseSome newValues
  releaseSome backupValues
  return { process with main := .handled pkt }

/-- A register in what `regbuf_get` has returned; `process_reg_read` goes on to the next. -/
def Process.register (process : Process) (pkt : ℕ) (accessed : Bool) : Effect Process :=
  process.withPriv Private.uses fun priv => do
    require pkt
    if ← access accessed priv.regbuf then return process
    else return { process with crashed := true }

/-- `process_xfer`: without arguments `strtok` goes on where it was last. -/
def Process.transfer (process : Process) (pkt : ℕ) (hasArgs : Bool) : Effect Process := do
  require pkt
  if hasArgs then return { process with saved := some pkt, main := .handled pkt }
  else match process.saved with
    | some block => do
        let held ← holds block
        return { process with stale := process.stale || !held, main := .handled pkt }
    | none => return { process with crashed := true }

def Process.handler (process : Process) (pkt : ℕ) : HandlerBlocks → Effect Process
  | .memory available accessed => process.memory pkt available accessed
  | .registers first second => process.registers pkt first second
  | .register accessed => process.register pkt accessed
  | .transfer hasArgs => process.transfer pkt hasArgs

/-- `gdbstub_close` up to the join. -/
def Process.close (process : Process) : Effect Process :=
  process.withPriv Private.queueUses fun _ =>
    if process.thread.isSome then
      return { process with
        threadStop := true
        queue := linkedSignalShutdown process.queue
        main := .joining }
    else return { process with main := .destroying process.queue.head }

/-- `pthread_join`, when the thread has come to its end. -/
def Process.join (process : Process) (thread : ReaderThread) : Effect Process :=
  process.withPriv Private.uses fun _ => do
    Ledger.release thread.tid
    return { process with thread := none, main := .destroying process.queue.head }

/-- A turn of the loop in `pktqueue_destroy`. -/
def Process.destroyNode (process : Process) (addr : ℕ) : Effect Process :=
  process.withPriv Private.queueUses fun _ => do
    let node ← checked (nodeAt process.queue.nodes addr)
    Ledger.release node.value
    return { process with
      queue := { process.queue with nodes := Function.update process.queue.nodes addr none }
      main := .destroying node.next }

/-- What is behind that loop. -/
def Process.destroy (process : Process) : Effect Process :=
  process.withPriv Private.uses fun priv => do
    priv.release
    return { process with
      priv := none
      queue := { process.queue with head := none, tail := none }
      main := .outside }

/-- A step of the main thread. -/
def mainStep (process : Process) (label : MainLabel) : Option (Effect Process) :=
  match process.main, label with
  | .outside, .init calls s hasOps => some (process.init calls s hasOps)
  | .ready, .run created => some (process.run created)
  | .popping, .take => (linkedTake process.queue).map process.take
  | .releasing node, .release => some (process.release node)
  | .noPacket, .isShutdown => some process.isShutdown
  | .clearing, .checkInterrupt => some process.checkInterrupt
  | .holding pkt, .discard goesOn => some (process.finish pkt goesOn)
  | .holding pkt, .accept => some (process.accept pkt)
  | .serving _, .regbufGet available => some (process.regbufGet available)
  | .serving pkt, .handler blocks => some (process.handler pkt blocks)
  | .serving pkt, .served goesOn => some (process.finish pkt goesOn)
  | .handled pkt, .served goesOn => some (process.finish pkt goesOn)
  | .ready, .close => some process.close
  | .joining, .join => do
      let thread ← process.thread
      if thread.point.isFinished then some (process.join thread) else none
  | .destroying (some addr), .destroyNode => some (process.destroyNode addr)
  | .destroying none, .destroy => some process.destroy
  | _, _ => none

/-- The steps of the main thread. -/
inductive MainMove (process : Process) : MainLabel → Effect Process → Prop
  | init (calls : InitCalls) (s : Option (List UInt8)) (hasOps : Bool) :
      process.main = .outside →
      MainMove process (.init calls s hasOps) (process.init calls s hasOps)
  | run (created : Bool) : process.main = .ready →
      MainMove process (.run created) (process.run created)
  | take (taken : Except Fault (Option ℕ × LinkedPktqueue ℕ)) : process.main = .popping →
      linkedTake process.queue = some taken → MainMove process .take (process.take taken)
  | release (node : ℕ) : process.main = .releasing node →
      MainMove process .release (process.release node)
  | isShutdown : process.main = .noPacket → MainMove process .isShutdown process.isShutdown
  | checkInterrupt : process.main = .clearing →
      MainMove process .checkInterrupt process.checkInterrupt
  | discard (pkt : ℕ) (goesOn : Bool) : process.main = .holding pkt →
      MainMove process (.discard goesOn) (process.finish pkt goesOn)
  | accept (pkt : ℕ) : process.main = .holding pkt → MainMove process .accept (process.accept pkt)
  | regbufGet (pkt : ℕ) (available : Bool) : process.main = .serving pkt →
      MainMove process (.regbufGet available) (process.regbufGet available)
  | handler (pkt : ℕ) (blocks : HandlerBlocks) : process.main = .serving pkt →
      MainMove process (.handler blocks) (process.handler pkt blocks)
  | served (pkt : ℕ) (goesOn : Bool) :
      process.main = .serving pkt ∨ process.main = .handled pkt →
      MainMove process (.served goesOn) (process.finish pkt goesOn)
  | close : process.main = .ready → MainMove process .close process.close
  | join (thread : ReaderThread) : process.main = .joining → process.thread = some thread →
      thread.point.isFinished = true → MainMove process .join (process.join thread)
  | destroyNode (addr : ℕ) : process.main = .destroying (some addr) →
      MainMove process .destroyNode (process.destroyNode addr)
  | destroy : process.main = .destroying none → MainMove process .destroy process.destroy

theorem mainMove_of_step {process : Process} {label : MainLabel} {effect : Effect Process}
    (hstep : mainStep process label = some effect) : MainMove process label effect := by
  unfold mainStep at hstep
  split at hstep
  · rename_i calls s hasOps hmain
    cases hstep
    exact .init calls s hasOps hmain
  · rename_i created hmain
    cases hstep
    exact .run created hmain
  · rename_i hmain
    obtain ⟨taken, htaken, rfl⟩ := Option.map_eq_some_iff.mp hstep
    exact .take taken hmain htaken
  · rename_i node hmain
    cases hstep
    exact .release node hmain
  · rename_i hmain
    cases hstep
    exact .isShutdown hmain
  · rename_i hmain
    cases hstep
    exact .checkInterrupt hmain
  · rename_i pkt goesOn hmain
    cases hstep
    exact .discard pkt goesOn hmain
  · rename_i pkt hmain
    cases hstep
    exact .accept pkt hmain
  · rename_i pkt available hmain
    cases hstep
    exact .regbufGet pkt available hmain
  · rename_i pkt blocks hmain
    cases hstep
    exact .handler pkt blocks hmain
  · rename_i pkt goesOn hmain
    cases hstep
    exact .served pkt goesOn (.inl hmain)
  · rename_i pkt goesOn hmain
    cases hstep
    exact .served pkt goesOn (.inr hmain)
  · rename_i hmain
    cases hstep
    exact .close hmain
  · -- `pthread_join` waits for a thread that has finished
    rename_i hmain
    obtain ⟨thread, hthread, hjoin⟩ := Option.bind_eq_some_iff.mp hstep
    obtain ⟨hfinished, hjoin⟩ := Option.ite_none_right_eq_some.mp hjoin
    cases hjoin
    exact .join thread hmain hthread hfinished
  · rename_i addr hmain
    cases hstep
    exact .destroyNode addr hmain
  · rename_i hmain
    cases hstep
    exact .destroy hmain
  · cases hstep

/-! ## Steps of the reader thread -/

/-- The reader thread goes on elsewhere. -/
def Process.goto (process : Process) (thread : ReaderThread) (point : ReaderPoint) : Process :=
  { process with thread := some { thread with point := point } }

/-- `pktbuf_init`, which does not ask whether there is memory. -/
def Process.start (process : Process) (thread : ReaderThread) (available : Bool) :
    Effect Process :=
  process.withPriv Private.uses fun _ => do
    let data ← acquire available
    return { process with thread := some { thread with
      point := .testing
      data := data
      cap := 10
      size := 0 } }

def Process.test (process : Process) (thread : ReaderThread) : Effect Process :=
  process.withPriv Private.uses fun _ =>
    return process.goto thread (if process.threadStop then .leaving else .polling)

def Process.poll (process : Process) (thread : ReaderThread) (outcome : PollOutcome) :
    Effect Process :=
  process.withPriv Private.readUses fun _ =>
    return process.goto thread (match outcome with
      | .readable => .filling
      | .again => .testing
      | .failed => .leaving)

/-- `realloc`: if it fails, `pktbuf->data` is overwritten with `NULL`. -/
def Process.enlarge (process : Process) (thread : ReaderThread) (available : Bool) :
    Effect Process := do
  match ← acquire available with
  | some data => do
      releaseSome thread.data
      return { process with thread := some { thread with
        data := some data
        cap := thread.cap + 1 } }
  | none =>
      return { process with
        thread := some { thread with data := none, cap := thread.cap + 1 }
        lost := process.lost + handles thread.data }

/-- `read` into the packet buffer. -/
def Process.read (process : Process) (thread : ReaderThread) (outcome : ReadOutcome) :
    Effect Process :=
  process.withPriv Private.readUses fun _ => do
    requireAll thread.data.toList
    match outcome with
    | .bytes nread =>
        return { process with thread := some { thread with
          point := .scanning nread
          size := thread.size + nread } }
    | .again => return process.goto thread .testing
    | .ended => return process.goto thread .leaving

/-- A byte of those just read is looked at. -/
def Process.scan (process : Process) (thread : ReaderThread) (left : ℕ) (hit : Bool) :
    Effect Process :=
  process.withPriv Private.queueUses fun _ => do
    requireAll thread.data.toList
    return { process with
      queue := if hit then linkedSignalInterrupt process.queue else process.queue
      thread := some { thread with
        point := if left ≤ 1 then .assembling else .scanning (left - 1) } }

/-- No packet is complete; so many bytes are kept. -/
def Process.incomplete (process : Process) (thread : ReaderThread) (left : ℕ) :
    Effect Process := do
  requireAll thread.data.toList
  return { process with thread := some { thread with point := .testing, size := left } }

/-- A packet is popped, and so many bytes are kept; a packet without memory is written to. -/
def Process.pop (process : Process) (thread : ReaderThread) (left : ℕ) (available : Bool) :
    Effect Process := do
  requireAll thread.data.toList
  match ← acquire available with
  | some pkt =>
      return { process with thread := some { thread with point := .pushing pkt, size := left } }
  | none => return { process with crashed := true }

/-- `pktqueue_push`, and what `socket_reader` does when it fails. -/
def Process.push (process : Process) (thread : ReaderThread) (pkt : ℕ) (node : Option ℕ) :
    Effect Process :=
  process.withPriv Private.queueUses fun _ => do
    let (pushed, queue) ← checked (linkedPush node pkt process.queue)
    if pushed then
      return { process with queue := queue, thread := some { thread with point := .acking } }
    else do
      Ledger.release pkt
      return process.goto thread .assembling

def Process.ack (process : Process) (thread : ReaderThread) : Effect Process :=
  process.withPriv Private.sendUses fun _ => return process.goto thread .assembling

/-- `pktbuf_destroy`. -/
def Process.leave (process : Process) (thread : ReaderThread) : Effect Process := do
  releaseSome thread.data
  return process.goto thread .signalling

def Process.signal (process : Process) (thread : ReaderThread) : Effect Process :=
  process.withPriv Private.queueUses fun _ =>
    return { process with
      queue := linkedSignalShutdown process.queue
      thread := some { thread with point := .finished } }

/-- Can a `read` into the buffer end so?  A read into `NULL` fails. -/
def ReaderThread.canRead (thread : ReaderThread) : ReadOutcome → Bool
  | .bytes nread => 0 < nread && thread.size + nread ≤ 2 ^ thread.cap && thread.data.isSome
  | .again => true
  | .ended => true

/-- A step of the reader thread. -/
def threadStep (process : Process) (thread : ReaderThread) (label : ThreadLabel) :
    Option (Effect Process) :=
  match thread.point, label with
  | .starting, .start available => some (process.start thread available)
  | .testing, .test => some (process.test thread)
  | .polling, .poll outcome => some (process.poll thread outcome)
  | .filling, .enlarge available =>
      if 2 ^ thread.cap = thread.size then some (process.enlarge thread available) else none
  | .filling, .read outcome =>
      if 2 ^ thread.cap ≠ thread.size ∧ thread.canRead outcome then
        some (process.read thread outcome)
      else none
  | .scanning left, .scan hit => some (process.scan thread left hit)
  | .assembling, .incomplete left =>
      if left ≤ thread.size then some (process.incomplete thread left) else none
  | .assembling, .pop left available =>
      if left < thread.size then some (process.pop thread left available) else none
  | .pushing pkt, .push node =>
      -- `malloc` returns no memory that is in use
      if ∀ addr ∈ node, (process.queue.nodes addr).isNone then
        some (process.push thread pkt node)
      else none
  | .acking, .ack => some (process.ack thread)
  | .leaving, .leave => some (process.leave thread)
  | .signalling, .signal => some (process.signal thread)
  | _, _ => none

/-- The steps of the reader thread. -/
inductive ThreadMove (process : Process) (thread : ReaderThread) :
    ThreadLabel → Effect Process → Prop
  | start (available : Bool) : thread.point = .starting →
      ThreadMove process thread (.start available) (process.start thread available)
  | test : thread.point = .testing → ThreadMove process thread .test (process.test thread)
  | poll (outcome : PollOutcome) : thread.point = .polling →
      ThreadMove process thread (.poll outcome) (process.poll thread outcome)
  | enlarge (available : Bool) : thread.point = .filling → 2 ^ thread.cap = thread.size →
      ThreadMove process thread (.enlarge available) (process.enlarge thread available)
  | read (outcome : ReadOutcome) : thread.point = .filling → 2 ^ thread.cap ≠ thread.size →
      thread.canRead outcome = true →
      ThreadMove process thread (.read outcome) (process.read thread outcome)
  | scan (left : ℕ) (hit : Bool) : thread.point = .scanning left →
      ThreadMove process thread (.scan hit) (process.scan thread left hit)
  | incomplete (left : ℕ) : thread.point = .assembling → left ≤ thread.size →
      ThreadMove process thread (.incomplete left) (process.incomplete thread left)
  | pop (left : ℕ) (available : Bool) : thread.point = .assembling → left < thread.size →
      ThreadMove process thread (.pop left available) (process.pop thread left available)
  | push (pkt : ℕ) (node : Option ℕ) : thread.point = .pushing pkt →
      (∀ addr ∈ node, (process.queue.nodes addr).isNone = true) →
      ThreadMove process thread (.push node) (process.push thread pkt node)
  | ack : thread.point = .acking → ThreadMove process thread .ack (process.ack thread)
  | leave : thread.point = .leaving → ThreadMove process thread .leave (process.leave thread)
  | signal : thread.point = .signalling →
      ThreadMove process thread .signal (process.signal thread)

theorem threadMove_of_step {process : Process} {thread : ReaderThread} {label : ThreadLabel}
    {effect : Effect Process} (hstep : threadStep process thread label = some effect) :
    ThreadMove process thread label effect := by
  unfold threadStep at hstep
  split at hstep
  · rename_i available hpoint
    cases hstep
    exact .start available hpoint
  · rename_i hpoint
    cases hstep
    exact .test hpoint
  · rename_i outcome hpoint
    cases hstep
    exact .poll outcome hpoint
  · rename_i available hpoint
    obtain ⟨hfull, hstep⟩ := Option.ite_none_right_eq_some.mp hstep
    cases hstep
    exact .enlarge available hpoint hfull
  · rename_i outcome hpoint
    obtain ⟨⟨hroom, hread⟩, hstep⟩ := Option.ite_none_right_eq_some.mp hstep
    cases hstep
    exact .read outcome hpoint hroom hread
  · rename_i left hit hpoint
    cases hstep
    exact .scan left hit hpoint
  · rename_i left hpoint
    obtain ⟨hleft, hstep⟩ := Option.ite_none_right_eq_some.mp hstep
    cases hstep
    exact .incomplete left hpoint hleft
  · rename_i left available hpoint
    obtain ⟨hleft, hstep⟩ := Option.ite_none_right_eq_some.mp hstep
    cases hstep
    exact .pop left available hpoint hleft
  · rename_i pkt node hpoint
    obtain ⟨hfresh, hstep⟩ := Option.ite_none_right_eq_some.mp hstep
    cases hstep
    exact .push pkt node hpoint hfresh
  · rename_i hpoint
    cases hstep
    exact .ack hpoint
  · rename_i hpoint
    cases hstep
    exact .leave hpoint
  · rename_i hpoint
    cases hstep
    exact .signal hpoint
  · cases hstep

/-! ## The process -/

/-- What an effect makes of the process. -/
def Process.perform (process : Process) (effect : Effect Process) : Process :=
  match effect process.ledger with
  | some (next, ledger) => { next with ledger := ledger }
  | none => { process with misused := true }

/-- A step of one of the threads. -/
def processStep (process : Process) : Label → Option (Effect Process)
  | .main label => mainStep process label
  | .thread label => do
      let thread ← process.thread
      threadStep process thread label

/-- The two threads; a process that has crashed or misused something takes no step. -/
def lifecycle : Machine Process Label where
  start :=
    { ledger := Ledger.empty, priv := none, queue := linkedInit, threadStop := false,
      thread := none, main := .outside, lost := 0, saved := none, stale := false,
      crashed := false, misused := false }
  step process label :=
    if process.crashed || process.misused then none
    else (processStep process label).map process.perform

end MiniGdbstub.Lifecycle
