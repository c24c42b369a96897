import MiniGdbstub.Library.CString
import MiniGdbstub.Library.Ledger

/-!
# What the stub holds

`gdbstub_init`, `gdbstub_close` and what they call, as far as they acquire and release: blocks,
descriptors, a condition and two mutexes.  How every call of the library ends is a parameter, so
every way out of `gdbstub_init` and `conn_init` is here, with the labels the source jumps to.

`gdbstubInit_trades`: wherever `gdbstub_init` gives up, it has released what it had acquired, in an
order in which nothing is used after its release; and otherwise it holds what `gdbstub_close`
releases (`Private.release_trades`).
-/

namespace MiniGdbstub.Lifecycle

open CString Ledger

/-! ## The parts -/

/-- `conn_t`. -/
structure Conn where
  listenFd : ℕ
  socketFd : ℕ
  sendMutex : ℕ
  deriving DecidableEq

/-- The locks of `pktqueue_t`. -/
structure QueueLocks where
  mutex : ℕ
  cond : ℕ
  deriving DecidableEq

/-- `struct gdbstub_private`: its own block and what it points to. -/
structure Private where
  block : ℕ
  regbuf : Option ℕ
  queue : QueueLocks
  conn : Conn
  deriving DecidableEq

def Conn.handles (conn : Conn) : Multiset ℕ :=
  {conn.listenFd} + {conn.socketFd} + {conn.sendMutex}

def QueueLocks.handles (queue : QueueLocks) : Multiset ℕ :=
  {queue.mutex} + {queue.cond}

def Private.handles (priv : Private) : Multiset ℕ :=
  {priv.block} + Ledger.handles priv.regbuf + priv.queue.handles + priv.conn.handles

/-- What `conn_init` binds to; a path is cut to the room in `sun_path`. -/
inductive Address
  | inet (host : List UInt8) (port : ℕ)
  | unix (path : List UInt8)
  deriving DecidableEq

/-- How the calls of the library in `gdbstub_init` end, in the order of the calls. -/
structure InitCalls where
  calloc : Bool
  strdup : Bool
  regbuf : Bool
  queueMutex : Bool
  queueCond : Bool
  sendMutex : Bool
  inetAton : List UInt8 → Bool
  socket : Bool
  reuseAddr : Bool
  bind : Address → Bool
  listen : Bool
  accept : Bool

/-! ## `conn_init` and `conn_close` -/

def connAddress (calls : InitCalls) (addrStr : List UInt8) (port : ℤ) : Address :=
  if calls.inetAton addrStr then .inet addrStr (port % 2 ^ 16).toNat else .unix (addrStr.take 107)

/-- Can the listening socket be made ready?  Only TCP sets `SO_REUSEADDR`. -/
def connListens (calls : InitCalls) (address : Address) : Bool :=
  (match address with
    | .inet _ _ => calls.reuseAddr
    | .unix _ => true) && calls.bind address && calls.listen

/-- `mutex_fail` in `conn_init`. -/
def mutexFail (sendMutex : ℕ) : Effect (Option Conn) := do
  release sendMutex
  return none

/-- `fail` in `conn_init`. -/
def connFail (listenFd sendMutex : ℕ) : Effect (Option Conn) := do
  release listenFd
  mutexFail sendMutex

/-- `conn_init`.  That `TCP_NODELAY` cannot be set is only warned about. -/
def connInit (calls : InitCalls) (addrStr : List UInt8) (port : ℤ) : Effect (Option Conn) := do
  match ← acquire calls.sendMutex with
  | none => return none
  | some sendMutex =>
      match ← acquire calls.socket with
      | none => mutexFail sendMutex
      | some listenFd =>
          if connListens calls (connAddress calls addrStr port) then
            match ← acquire calls.accept with
            | none => connFail listenFd sendMutex
            | some socketFd =>
                return some { listenFd := listenFd, socketFd := socketFd, sendMutex := sendMutex }
          else connFail listenFd sendMutex

def connClose (conn : Conn) : Effect Unit := do
  release conn.socketFd
  release conn.listenFd
  release conn.sendMutex

theorem mutexFail_trades (sendMutex : ℕ) :
    Trades (mutexFail sendMutex) {sendMutex} fun conn => conn.elim 0 Conn.handles :=
  (Trades.release sendMutex).next (.pure rfl)

theorem connFail_trades (listenFd sendMutex : ℕ) :
    Trades (connFail listenFd sendMutex) ({listenFd} + {sendMutex}) fun conn =>
      conn.elim 0 Conn.handles := by
  refine (Trades.release listenFd).andThen {sendMutex} rfl fun _ => ?_
  exact (mutexFail_trades sendMutex).rearrange (zero_add _) fun _ => rfl

theorem connInit_trades (calls : InitCalls) (addrStr : List UInt8) (port : ℤ) :
    Trades (connInit calls addrStr port) 0 fun conn => conn.elim 0 Conn.handles := by
  refine (Trades.acquire _).bind fun sendMutex => ?_
  cases sendMutex with
  | none => exact .pure rfl
  | some sendMutex =>
      refine (Trades.acquire _).andThen {sendMutex} (zero_add _).symm fun listenFd => ?_
      cases listenFd with
      | none => exact (mutexFail_trades sendMutex).rearrange (zero_add _) fun _ => rfl
      | some listenFd =>
          have hfail := connFail_trades listenFd sendMutex
          refine Trades.ite (fun _ => ?_) (fun _ => hfail)
          refine (Trades.acquire _).andThen _ (zero_add _).symm fun socketFd => ?_
          cases socketFd with
          | none => exact hfail.rearrange (zero_add _) fun _ => rfl
          | some socketFd =>
              refine .pure ?_
              show {socketFd} + ({listenFd} + {sendMutex}) = {listenFd} + {socketFd} + {sendMutex}
              abel

theorem connClose_trades (conn : Conn) : Trades (connClose conn) conn.handles fun _ => 0 := by
  refine (Trades.release conn.socketFd).andThen ({conn.listenFd} + {conn.sendMutex}) ?_ fun _ => ?_
  · rw [Conn.handles]
    abel
  refine (Trades.release conn.listenFd).andThen {conn.sendMutex} (zero_add _) fun _ => ?_
  exact (Trades.release conn.sendMutex).rearrange (zero_add _) fun _ => rfl

/-! ## The queue and the register buffer -/

/-- `pktqueue_init`; the list is empty. -/
def pktqueueInit (calls : InitCalls) : Effect (Option QueueLocks) := do
  match ← acquire calls.queueMutex with
  | none => return none
  | some mutex =>
      match ← acquire calls.queueCond with
      | some cond => return some { mutex := mutex, cond := cond }
      | none => do
          release mutex
          return none

/-- The end of `pktqueue_destroy`, behind the loop over the packets that are left. -/
def pktqueueDestroy (queue : QueueLocks) : Effect Unit := do
  require queue.mutex
  release queue.cond
  release queue.mutex

/-- `regbuf_get` when the buffer is too short: a `malloc` that fails leaves `NULL`. -/
def regbufGrow (available : Bool) (buf : Option ℕ) : Effect (Option ℕ) := do
  releaseSome buf
  acquire available

theorem pktqueueInit_trades (calls : InitCalls) :
    Trades (pktqueueInit calls) 0 fun queue => queue.elim 0 QueueLocks.handles := by
  refine (Trades.acquire _).bind fun mutex => ?_
  cases mutex with
  | none => exact .pure rfl
  | some mutex =>
      refine (Trades.acquire _).andThen {mutex} (zero_add _).symm fun cond => ?_
      cases cond with
      | none =>
          refine (Trades.release mutex).andThen 0 (add_comm _ _) fun _ => ?_
          exact .pure rfl
      | some cond => exact .pure (add_comm _ _)

theorem pktqueueDestroy_trades (queue : QueueLocks) :
    Trades (pktqueueDestroy queue) queue.handles fun _ => 0 := by
  have hmutex : queue.mutex ∈ queue.handles := by simp [QueueLocks.handles]
  refine (Trades.require hmutex).next ?_
  refine (Trades.release queue.cond).andThen {queue.mutex} (add_comm _ _) fun _ => ?_
  exact (Trades.release queue.mutex).rearrange (zero_add _) fun _ => rfl

theorem regbufGrow_trades (available : Bool) (buf : Option ℕ) :
    Trades (regbufGrow available buf) (Ledger.handles buf) Ledger.handles :=
  (Trades.releaseSome buf).next (Trades.acquire available)

/-! ## `gdbstub_init` and `gdbstub_close` -/

/-- The number behind the colon; 0 if there is no colon, and none if there is no number. -/
def portNumber (portStr : Option (List UInt8)) : Option ℤ :=
  match portStr with
  | none => some 0
  | some portStr => (scanDecimal (text portStr)).map Prod.fst

/-- `priv_fail` in `gdbstub_init`. -/
def privFail (block : ℕ) : Effect (Option Private) := do
  release block
  return none

/-- `addr_fail` in `gdbstub_init`. -/
def addrFail (addrStr block : ℕ) : Effect (Option Private) := do
  release addrStr
  privFail block

/-- `regbuf_fail` in `gdbstub_init`. -/
def regbufFail (regbuf addrStr block : ℕ) : Effect (Option Private) := do
  release regbuf
  addrFail addrStr block

/-- `pktqueue_fail` in `gdbstub_init`. -/
def pktqueueFail (queue : QueueLocks) (regbuf addrStr block : ℕ) : Effect (Option Private) := do
  pktqueueDestroy queue
  regbufFail regbuf addrStr block

/-- `gdbstub_init`; `hasOps` says whether `ops` is given. -/
def gdbstubInit (calls : InitCalls) (s : Option (List UInt8)) (hasOps : Bool) :
    Effect (Option Private) :=
  match s, hasOps with
  | some s, true => do
      match ← acquire calls.calloc with
      | none => return none
      | some block =>
      match ← acquire calls.strdup with
      | none => privFail block
      | some addrStr =>
      let (host, portStr) := cut 58 (s ++ [0])
      match portNumber portStr with
      | none => addrFail addrStr block
      | some port =>
      match ← acquire calls.regbuf with
      | none => addrFail addrStr block
      | some regbuf =>
      match ← pktqueueInit calls with
      | none => regbufFail regbuf addrStr block
      | some queue =>
      match ← connInit calls host port with
      | none => pktqueueFail queue regbuf addrStr block
      | some conn => do
          release addrStr
          return some { block := block, regbuf := some regbuf, queue := queue, conn := conn }
  | _, _ => return none

/-- `gdbstub_close` when the reader thread is gone and the packets are freed. -/
def Private.release (priv : Private) : Effect Unit := do
  pktqueueDestroy priv.queue
  releaseSome priv.regbuf
  connClose priv.conn
  Ledger.release priv.block

theorem Private.release_trades (priv : Private) :
    Trades priv.release priv.handles fun _ => 0 := by
  refine (pktqueueDestroy_trades priv.queue).andThen
    (Ledger.handles priv.regbuf + priv.conn.handles + {priv.block}) ?_ fun _ => ?_
  · rw [Private.handles]
    abel
  refine (Trades.releaseSome priv.regbuf).andThen (priv.conn.handles + {priv.block}) ?_ fun _ => ?_
  · abel
  refine (connClose_trades priv.conn).andThen {priv.block} (zero_add _) fun _ => ?_
  exact (Trades.release priv.block).rearrange (zero_add _) fun _ => rfl

theorem privFail_trades (block : ℕ) :
    Trades (privFail block) {block} fun priv => priv.elim 0 Private.handles :=
  (Trades.release block).next (.pure rfl)

theorem addrFail_trades (addrStr block : ℕ) :
    Trades (addrFail addrStr block) ({addrStr} + {block}) fun priv =>
      priv.elim 0 Private.handles := by
  refine (Trades.release addrStr).andThen {block} rfl fun _ => ?_
  exact (privFail_trades block).rearrange (zero_add _) fun _ => rfl

theorem regbufFail_trades (regbuf addrStr block : ℕ) :
    Trades (regbufFail regbuf addrStr block) ({regbuf} + ({addrStr} + {block})) fun priv =>
      priv.elim 0 Private.handles := by
  refine (Trades.release regbuf).andThen _ rfl fun _ => ?_
  exact (addrFail_trades addrStr block).rearrange (zero_add _) fun _ => rfl

theorem pktqueueFail_trades (queue : QueueLocks) (regbuf addrStr block : ℕ) :
    Trades (pktqueueFail queue regbuf addrStr block)
      (queue.handles + ({regbuf} + ({addrStr} + {block}))) fun priv =>
        priv.elim 0 Private.handles := by
  refine (pktqueueDestroy_trades queue).andThen _ rfl fun _ => ?_
  exact (regbufFail_trades regbuf addrStr block).rearrange (zero_add _) fun _ => rfl

/-- **`gdbstub_init`.**  It gives up with nothing, or it holds what `gdbstub_close` releases. -/
theorem gdbstubInit_trades (calls : InitCalls) (s : Option (List UInt8)) (hasOps : Bool) :
    Trades (gdbstubInit calls s hasOps) 0 fun priv => priv.elim 0 Private.handles := by
  unfold gdbstubInit
  split
  case h_2 => exact .pure rfl
  refine (Trades.acquire _).bind fun block => ?_
  cases block with
  | none => exact .pure rfl
  | some block =>
  refine (Trades.acquire _).andThen {block} (zero_add _).symm fun addrStr => ?_
  cases addrStr with
  | none => exact (privFail_trades block).rearrange (zero_add _) fun _ => rfl
  | some addrStr =>
  have haddrFail := addrFail_trades addrStr block
  dsimp only
  split
  · exact haddrFail
  refine (Trades.acquire _).andThen ({addrStr} + {block}) (zero_add _).symm fun regbuf => ?_
  cases regbuf with
  | none => exact haddrFail.rearrange (zero_add _) fun _ => rfl
  | some regbuf =>
  refine (pktqueueInit_trades calls).andThen _ (zero_add _).symm fun queue => ?_
  cases queue with
  | none => exact (regbufFail_trades regbuf addrStr block).rearrange (zero_add _) fun _ => rfl
  | some queue =>
  refine (connInit_trades calls _ _).andThen _ (zero_add _).symm fun conn => ?_
  cases conn with
  | none =>
      exact (pktqueueFail_trades queue regbuf addrStr block).rearrange (zero_add _) fun _ => rfl
  | some conn =>
      refine (Trades.release addrStr).andThen
        ({block} + {regbuf} + queue.handles + conn.handles) ?_ fun _ => ?_
      · show conn.handles + (queue.handles + ({regbuf} + ({addrStr} + {block}))) = _
        abel
      · exact .pure (zero_add _)

/-! ## Nothing that was released is held again -/

theorem mutexFail_fresh (sendMutex : ℕ) : Fresh (mutexFail sendMutex) :=
  (Fresh.release sendMutex).bind fun _ => .pure _

theorem connFail_fresh (listenFd sendMutex : ℕ) : Fresh (connFail listenFd sendMutex) :=
  (Fresh.release listenFd).bind fun _ => mutexFail_fresh sendMutex

theorem connInit_fresh (calls : InitCalls) (addrStr : List UInt8) (port : ℤ) :
    Fresh (connInit calls addrStr port) := by
  refine (Fresh.acquire _).bind fun sendMutex => ?_
  cases sendMutex with
  | none => exact .pure _
  | some sendMutex =>
      refine (Fresh.acquire _).bind fun listenFd => ?_
      cases listenFd with
      | none => exact mutexFail_fresh sendMutex
      | some listenFd =>
          have hfail := connFail_fresh listenFd sendMutex
          refine Leaves.ite ?_ hfail
          refine (Fresh.acquire _).bind fun socketFd => ?_
          cases socketFd with
          | none => exact hfail
          | some socketFd => exact .pure _

theorem connClose_fresh (conn : Conn) : Fresh (connClose conn) :=
  (Fresh.release conn.socketFd).bind fun _ =>
    (Fresh.release conn.listenFd).bind fun _ => Fresh.release conn.sendMutex

theorem pktqueueInit_fresh (calls : InitCalls) : Fresh (pktqueueInit calls) := by
  refine (Fresh.acquire _).bind fun mutex => ?_
  cases mutex with
  | none => exact .pure _
  | some mutex =>
      refine (Fresh.acquire _).bind fun cond => ?_
      cases cond with
      | none => exact (Fresh.release mutex).bind fun _ => .pure _
      | some cond => exact .pure _

theorem pktqueueDestroy_fresh (queue : QueueLocks) : Fresh (pktqueueDestroy queue) :=
  (Fresh.require queue.mutex).bind fun _ =>
    (Fresh.release queue.cond).bind fun _ => Fresh.release queue.mutex

theorem regbufGrow_fresh (available : Bool) (buf : Option ℕ) :
    Fresh (regbufGrow available buf) :=
  (Fresh.releaseSome buf).bind fun _ => Fresh.acquire available

theorem privFail_fresh (block : ℕ) : Fresh (privFail block) :=
  (Fresh.release block).bind fun _ => .pure _

theorem addrFail_fresh (addrStr block : ℕ) : Fresh (addrFail addrStr block) :=
  (Fresh.release addrStr).bind fun _ => privFail_fresh block

theorem regbufFail_fresh (regbuf addrStr block : ℕ) : Fresh (regbufFail regbuf addrStr block) :=
  (Fresh.release regbuf).bind fun _ => addrFail_fresh addrStr block

theorem pktqueueFail_fresh (queue : QueueLocks) (regbuf addrStr block : ℕ) :
    Fresh (pktqueueFail queue regbuf addrStr block) :=
  (pktqueueDestroy_fresh queue).bind fun _ => regbufFail_fresh regbuf addrStr block

theorem gdbstubInit_fresh (calls : InitCalls) (s : Option (List UInt8)) (hasOps : Bool) :
    Fresh (gdbstubInit calls s hasOps) := by
  unfold gdbstubInit
  split
  case h_2 => exact .pure _
  refine (Fresh.acquire _).bind fun block => ?_
  cases block with
  | none => exact .pure _
  | some block =>
  refine (Fresh.acquire _).bind fun addrStr => ?_
  cases addrStr with
  | none => exact privFail_fresh block
  | some addrStr =>
  have haddrFail := addrFail_fresh addrStr block
  dsimp only
  split
  · exact haddrFail
  refine (Fresh.acquire _).bind fun regbuf => ?_
  cases regbuf with
  | none => exact haddrFail
  | some regbuf =>
  refine (pktqueueInit_fresh calls).bind fun queue => ?_
  cases queue with
  | none => exact regbufFail_fresh regbuf addrStr block
  | some queue =>
  refine (connInit_fresh calls _ _).bind fun conn => ?_
  cases conn with
  | none => exact pktqueueFail_fresh queue regbuf addrStr block
  | some conn => exact (Fresh.release addrStr).bind fun _ => .pure _

theorem Private.release_fresh (priv : Private) : Fresh priv.release :=
  (pktqueueDestroy_fresh priv.queue).bind fun _ =>
    (Fresh.releaseSome priv.regbuf).bind fun _ =>
      (connClose_fresh priv.conn).bind fun _ => Fresh.release priv.block

end MiniGdbstub.Lifecycle
