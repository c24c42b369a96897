import MiniGdbstub.Library.Program
import MiniGdbstub.Translate

/-!
# The stub, its target and its connection

`gdbstub.h`, `regbuf.c` and the sending half of `conn.c`: the table of target
operations, the architecture description, the register buffer and the functions
that send a reply.

A handler is a `Program` over `StubState`.  The state of the target is a value of
any type `σ`; `calls` records every target operation invoked and `sent` every
string written to the socket, in order.  Three things the program does not decide are
part of the stub: which allocations succeed, what cells hold that were never
written, and what is left of a packet that has been freed.
-/

namespace MiniGdbstub

open CString

/-! ## Events, actions, the target -/

/-- `gdb_event_t` -/
inductive Event
  | none
  | cont
  | detach
  | step
  deriving DecidableEq, Repr

/-- `gdb_action_t` -/
inductive Action
  | none
  | resume
  | shutdown
  deriving DecidableEq, Repr

/-- `struct target_ops`.  An operation that reads returns its code and the value it
stored; when the code is zero the value has the length asked for.  An operation
that writes is given the bytes found behind its pointer, as many as are there of
those it was told to take. -/
structure TargetOps (σ : Type) where
  cont : Option (σ → Action × σ)
  stepi : Option (σ → Action × σ)
  getRegBytes : ℤ → ℕ
  readReg : Option (σ → ℤ → (Int32 × List UInt8) × σ)
  writeReg : Option (σ → ℤ → List UInt8 → Int32 × σ)
  readMem : Option (σ → (addr len : ℕ) → (Int32 × List UInt8) × σ)
  writeMem : Option (σ → (addr len : ℕ) → List UInt8 → Int32 × σ)
  setBp : Option (σ → (addr type : ℕ) → Bool × σ)
  delBp : Option (σ → (addr type : ℕ) → Bool × σ)
  onInterrupt : Option (σ → σ)
  setCpu : Option (σ → ℤ → σ)
  getCpu : Option (σ → Int32 × σ)
  length_readReg : ∀ op ∈ readReg, ∀ target regno, (op target regno).1.1 = 0 →
    (op target regno).1.2.length = getRegBytes regno
  length_readMem : ∀ op ∈ readMem, ∀ target addr len, (op target addr len).1.1 = 0 →
    (op target addr len).1.2.length = len

/-- `arch_info_t`; the description is the text of its string. -/
structure ArchInfo where
  targetDesc : Option (List UInt8)
  smp : ℤ
  regNum : ℤ
  zero_notMem : ∀ desc ∈ targetDesc, 0 ∉ desc := by simp

/-- Without a description there is nothing to check. -/
theorem zero_notMem_of_none : ∀ desc ∈ (none : Option (List UInt8)), 0 ∉ desc := by
  simp

/-- The registers that a loop over `reg_num` visits. -/
def ArchInfo.registers (arch : ArchInfo) : ℕ :=
  arch.regNum.toNat

/-- `gdbstub_t`, after `gdbstub_init`: `totalRegBytes` is the sum it has cached.
`mallocs k bytes` says whether the `k`-th allocation, of so many bytes, succeeds;
`junk` is what a local buffer holds before it is written; `freed k` is what stands behind
`strtok`'s static pointer when the packet of the `k`-th transfer has been freed. -/
structure Gdbstub (σ : Type) where
  ops : TargetOps σ
  arch : ArchInfo
  totalRegBytes : ℕ
  mallocs : ℕ → ℕ → Bool
  junk : ℕ → UInt8
  freed : ℕ → List UInt8 := fun _ => []
  totalRegBytes_eq : totalRegBytes =
    ((List.range arch.registers).map fun regno : ℕ => ops.getRegBytes regno).sum

/-! ## The state -/

/-- `regbuf_t`: the length of the block `buf` points to, if it is not `NULL`, and `sz`. -/
structure Regbuf where
  buf : Option ℕ
  sz : ℕ
  deriving DecidableEq, Repr

/-- A successful `regbuf_init`. -/
def regbufInit : Regbuf :=
  { buf := some 8, sz := 8 }

/-- An invocation of a target operation and what it returned. -/
inductive TargetCall
  | cont (act : Action)
  | stepi (act : Action)
  | readReg (regno : ℤ) (ret : Int32) (value : List UInt8)
  | writeReg (regno : ℤ) (data : List UInt8) (ret : Int32)
  | readMem (addr len : ℕ) (ret : Int32) (value : List UInt8)
  | writeMem (addr len : ℕ) (data : List UInt8) (ret : Int32)
  | setBp (addr type : ℕ) (ret : Bool)
  | delBp (addr type : ℕ) (ret : Bool)
  | setCpu (cpuid : ℤ)
  | getCpu (cpuid : Int32)
  deriving DecidableEq

/-- `transfers` counts the transfers of the description: before the first, `strtok`'s static
pointer is `NULL`. -/
structure StubState (σ : Type) where
  target : σ
  regbuf : Regbuf
  noAckMode : Bool
  failureCount : ℕ
  asyncIoEnable : Bool
  allocations : ℕ
  transfers : ℕ
  calls : List TargetCall
  sent : List (List UInt8)

/-- The state in which `gdbstub_run` is entered for the first time. -/
def StubState.init {σ : Type} (target : σ) : StubState σ :=
  { target := target, regbuf := regbufInit, noAckMode := false, failureCount := 0,
    asyncIoEnable := false, allocations := 0, transfers := 0, calls := [], sent := [] }

abbrev StubM (σ : Type) := Program Fault (StubState σ)

variable {σ : Type} (stub : Gdbstub σ)

/-! ## Memory -/

/-- A store of `count` bytes through a pointer to a block of this length. -/
def storeAt : Option ℕ → ℕ → Except Fault Unit
  | some length, count => if count ≤ length then .ok () else .error .outOfBounds
  | none, 0 => .ok ()
  | none, _ + 1 => .error .unallocated

/-- The length of the block, or `NULL`. -/
def malloc (bytes : ℕ) : StubM σ (Option ℕ) := do
  let state ← Program.get
  Program.update fun state => { state with allocations := state.allocations + 1 }
  return if stub.mallocs state.allocations bytes then some bytes else none

/-- `while (reg_sz > reg->sz) reg->sz <<= 1;` — after 64 turns the `size_t` is zero and
stays so. -/
def regbufGrow (regSz : ℕ) : ℕ → ℕ → Option ℕ
  | 0, _ => none
  | turns + 1, sz => if regSz ≤ sz then some sz else regbufGrow regSz turns (2 * sz % 2 ^ 64)

/-- `regbuf_get` -/
def regbufGet (regSz : ℕ) : StubM σ (Option ℕ) := do
  let state ← Program.get
  if regSz ≤ state.regbuf.sz then
    return state.regbuf.buf
  else
    match regbufGrow regSz 65 state.regbuf.sz with
    | none => Program.fail .endless
    | some sz => do
        let buf ← malloc stub sz
        Program.update fun state => { state with regbuf := { buf := buf, sz := sz } }
        return buf

/-- A local array of characters before anything is written to it. -/
def localBuffer (length : ℕ) : List UInt8 :=
  (List.range length).map stub.junk

/-! ## Calls of the target -/

/-- The state after an operation that left the target as `target`. -/
def StubState.called (state : StubState σ) (call : TargetCall) (target : σ) : StubState σ :=
  { state with target := target, calls := state.calls ++ [call] }

/-- Invoke an operation of the table. -/
def callOp {α : Type} (op : Option (σ → α × σ)) (call : α → TargetCall) : StubM σ α :=
  match op with
  | none => Program.fail .nullCall
  | some op => fun state =>
      (.ok (op state.target).1,
        state.called (call (op state.target).1) (op state.target).2)

/-- The value is stored behind the pointer `value`. -/
def callReadReg (regno : ℤ) (value : Option ℕ) : StubM σ (Int32 × List UInt8) := do
  let (ret, bytes) ← callOp (stub.ops.readReg.map fun op target => op target regno)
    fun result => .readReg regno result.1 result.2
  if ret = 0 then
    Program.lift (storeAt value bytes.length)
    return (ret, bytes)
  else
    return (ret, bytes)

def callWriteReg (regno : ℤ) (data : List UInt8) : StubM σ Int32 :=
  callOp (stub.ops.writeReg.map fun op target => op target regno data) (.writeReg regno data)

/-- The value is stored behind the pointer `val`. -/
def callReadMem (addr len : ℕ) (val : Option ℕ) : StubM σ (Int32 × List UInt8) := do
  let (ret, bytes) ← callOp (stub.ops.readMem.map fun op target => op target addr len)
    fun result => .readMem addr len result.1 result.2
  if ret = 0 then
    Program.lift (storeAt val bytes.length)
    return (ret, bytes)
  else
    return (ret, bytes)

def callWriteMem (addr len : ℕ) (data : List UInt8) : StubM σ Int32 :=
  callOp (stub.ops.writeMem.map fun op target => op target addr len data)
    (.writeMem addr len data)

def callSetBp (addr type : ℕ) : StubM σ Bool :=
  callOp (stub.ops.setBp.map fun op target => op target addr type) (.setBp addr type)

def callDelBp (addr type : ℕ) : StubM σ Bool :=
  callOp (stub.ops.delBp.map fun op target => op target addr type) (.delBp addr type)

def callSetCpu (cpuid : ℤ) : StubM σ Unit :=
  callOp (stub.ops.setCpu.map fun op target => ((), op target cpuid)) fun _ => .setCpu cpuid

def callGetCpu : StubM σ Int32 :=
  callOp stub.ops.getCpu .getCpu

def callCont : StubM σ Action :=
  callOp stub.ops.cont .cont

def callStepi : StubM σ Action :=
  callOp stub.ops.stepi .stepi

/-! ## Sending -/

/-- `MAX_SEND_PACKET_SIZE` -/
def maxSendPacketSize : ℕ := 0x1000

/-- `MAX_DATA_PAYLOAD` -/
def maxDataPayload : ℕ := maxSendPacketSize - (2 + csumSize + 2)

def connSendStr (str : List UInt8) : StubM σ Unit :=
  Program.update fun state => { state with sent := state.sent ++ [str] }

/-- `conn_try_send_str`; `acquired` is how its `trylock` of the send mutex ends. -/
def connTrySendStr (acquired : Bool) (str : List UInt8) : StubM σ Bool :=
  if acquired then do
    connSendStr str
    return true
  else
    return false

/-- The packet that carries a string. -/
def pktstrFrame (pktstr : List UInt8) : List UInt8 :=
  dollar :: (pktstr ++ hash :: hexByte (computeChecksum pktstr))

def connSendPktstr (pktstr : List UInt8) : StubM σ Unit :=
  if pktstr.length + 2 + csumSize + 1 < maxSendPacketSize then
    connSendStr (pktstrFrame pktstr)
  else
    Program.fail .sendAssertFail

/-- `conn_send_pktstr` of what stands in a local array. -/
def connSendPktbuf (packetStr : List UInt8) : StubM σ Unit := do
  let pktstr ← Program.lift (inBounds (text? packetStr))
  connSendPktstr pktstr

/-- `sprintf(packet_str, "E%d", ret)` -/
def errorText (ret : Int32) : List UInt8 :=
  ascii "E" ++ decimal ret.toInt

/-- `SEND_EPERM` -/
def sendEperm : StubM σ Unit :=
  connSendPktstr (ascii "E01")

/-- `SEND_EINVAL` -/
def sendEinval : StubM σ Unit :=
  connSendPktstr (ascii "E22")

/-! ## What these do to the state -/

/-- The state after a reply. -/
def StubState.reply (state : StubState σ) (pktstr : List UInt8) : StubState σ :=
  { state with sent := state.sent ++ [pktstrFrame pktstr] }

@[simp] theorem callOp_some {α : Type} (op : σ → α × σ) (call : α → TargetCall)
    (state : StubState σ) :
    callOp (some op) call state =
      (.ok (op state.target).1, state.called (call (op state.target).1) (op state.target).2) :=
  rfl

section

variable {stub}

theorem callReadReg_some {op : σ → ℤ → (Int32 × List UInt8) × σ}
    (hop : stub.ops.readReg = some op) (regno : ℤ) (room : Option ℕ) (state : StubState σ) :
    callReadReg stub regno room state =
      let result := op state.target regno
      let after := state.called (.readReg regno result.1.1 result.1.2) result.2
      if result.1.1 = 0 then
        ((storeAt room result.1.2.length).map fun _ => result.1, after)
      else
        (.ok result.1, after) := by
  rw [callReadReg, hop, Option.map_some, Program.bind_of_ok (callOp_some _ _ _)]
  dsimp only
  split
  · cases hstore : storeAt room (op state.target regno).1.2.length with
    | error fault => rfl
    | ok _ => rfl
  · rfl

theorem callWriteReg_some {op : σ → ℤ → List UInt8 → Int32 × σ}
    (hop : stub.ops.writeReg = some op) (regno : ℤ) (data : List UInt8) (state : StubState σ) :
    callWriteReg stub regno data state =
      let result := op state.target regno data
      (.ok result.1, state.called (.writeReg regno data result.1) result.2) := by
  rw [callWriteReg, hop]
  rfl

theorem callReadMem_some {op : σ → ℕ → ℕ → (Int32 × List UInt8) × σ}
    (hop : stub.ops.readMem = some op) (addr len : ℕ) (room : Option ℕ) (state : StubState σ) :
    callReadMem stub addr len room state =
      let result := op state.target addr len
      let after := state.called (.readMem addr len result.1.1 result.1.2) result.2
      if result.1.1 = 0 then
        ((storeAt room result.1.2.length).map fun _ => result.1, after)
      else
        (.ok result.1, after) := by
  rw [callReadMem, hop, Option.map_some, Program.bind_of_ok (callOp_some _ _ _)]
  dsimp only
  split
  · cases hstore : storeAt room (op state.target addr len).1.2.length with
    | error fault => rfl
    | ok _ => rfl
  · rfl

theorem callWriteMem_some {op : σ → ℕ → ℕ → List UInt8 → Int32 × σ}
    (hop : stub.ops.writeMem = some op) (addr len : ℕ) (data : List UInt8)
    (state : StubState σ) :
    callWriteMem stub addr len data state =
      let result := op state.target addr len data
      (.ok result.1, state.called (.writeMem addr len data result.1) result.2) := by
  rw [callWriteMem, hop]
  rfl

end

theorem malloc_of_all {stub : Gdbstub σ} (halloc : ∀ k bytes, stub.mallocs k bytes = true)
    (bytes : ℕ) (state : StubState σ) :
    malloc stub bytes state =
      (.ok (some bytes), { state with allocations := state.allocations + 1 }) := by
  simp [malloc, halloc]

theorem length_pktstrFrame (pktstr : List UInt8) :
    (pktstrFrame pktstr).length = pktstr.length + 4 := by
  simp [pktstrFrame]

theorem connSendPktstr_of_fits {pktstr : List UInt8}
    (hfits : pktstr.length + 5 < maxSendPacketSize) (state : StubState σ) :
    connSendPktstr pktstr state = (.ok (), state.reply pktstr) := by
  rw [connSendPktstr, if_pos (by simpa [csumSize] using hfits)]
  rfl

theorem connSendPktstr_of_long {pktstr : List UInt8}
    (hlong : maxSendPacketSize ≤ pktstr.length + 5) (state : StubState σ) :
    connSendPktstr pktstr state = (.error .sendAssertFail, state) := by
  rw [connSendPktstr, if_neg (by simpa [csumSize] using hlong)]
  rfl

/-- An array that holds a string is sent as this string. -/
theorem connSendPktbuf_of_text {pktstr : List UInt8} (hzero : 0 ∉ pktstr) (rest : List UInt8)
    (state : StubState σ) :
    connSendPktbuf (pktstr ++ 0 :: rest) state = connSendPktstr pktstr state := by
  rw [connSendPktbuf, text?_append_zero hzero, inBounds_some, Program.lift_ok_bind]

theorem length_errorText_le (ret : Int32) : (errorText ret).length ≤ 12 := by
  have hdecimal := length_decimal_le (Int32.le_toInt ret) (Int32.toInt_lt ret)
  rw [errorText, List.length_append, show (ascii "E").length = 1 from rfl]
  omega

theorem connSendPktstr_errorText (ret : Int32) (state : StubState σ) :
    connSendPktstr (errorText ret) state = (.ok (), state.reply (errorText ret)) := by
  have hlength := length_errorText_le ret
  exact connSendPktstr_of_fits (by rw [maxSendPacketSize]; omega) state

/-! ## The register buffer -/

/-- The buffer has a block, and the block is as long as `sz` says. -/
structure Regbuf.Sound (reg : Regbuf) : Prop where
  size_pos : 0 < reg.sz
  block : ∃ length ∈ reg.buf, reg.sz ≤ length

theorem regbufInit_sound : regbufInit.Sound :=
  ⟨by decide, 8, rfl, by decide⟩

/-- Doubling reaches any size up to half the range of `size_t` without wrapping. -/
theorem regbufGrow_eq_some {regSz : ℕ} (hregSz : regSz ≤ 2 ^ 63) (turns : ℕ) :
    ∀ sz, 0 < sz → regSz ≤ sz * 2 ^ turns →
      ∃ grown, regbufGrow regSz (turns + 1) sz = some grown ∧ regSz ≤ grown ∧ 0 < grown := by
  induction turns with
  | zero =>
      intro sz hsz hreach
      rw [Nat.pow_zero, Nat.mul_one] at hreach
      exact ⟨sz, by rw [regbufGrow, if_pos hreach], hreach, hsz⟩
  | succ turns ih =>
      intro sz hsz hreach
      by_cases henough : regSz ≤ sz
      · exact ⟨sz, by rw [regbufGrow, if_pos henough], henough, hsz⟩
      · have hdouble : 2 * sz % 2 ^ 64 = 2 * sz := Nat.mod_eq_of_lt (by omega)
        obtain ⟨grown, hgrown, hlarge, hpos⟩ := ih (2 * sz) (by omega) (by
          calc regSz ≤ sz * 2 ^ (turns + 1) := hreach
            _ = 2 * sz * 2 ^ turns := by rw [Nat.pow_succ]; ring)
        exact ⟨grown, by rw [regbufGrow, if_neg henough, hdouble, hgrown], hlarge, hpos⟩

theorem le_of_regbufGrow {regSz sz : ℕ} {turns start : ℕ}
    (hgrow : regbufGrow regSz turns start = some sz) : regSz ≤ sz := by
  induction turns generalizing start with
  | zero => exact absurd hgrow (by simp [regbufGrow])
  | succ turns ih =>
      rw [regbufGrow] at hgrow
      split at hgrow
      · rename_i henough
        cases hgrow
        exact henough
      · exact ih hgrow

/-- What a call of `regbuf_get` leaves alone. -/
theorem regbufGet_frame {regSz : ℕ} {state after : StubState σ} {buf : Option ℕ}
    (hget : regbufGet stub regSz state = (.ok buf, after)) :
    after.target = state.target ∧ after.sent = state.sent ∧ after.calls = state.calls ∧
      after.noAckMode = state.noAckMode := by
  unfold regbufGet at hget
  rw [Program.get_bind] at hget
  split at hget
  · cases hget
    exact ⟨rfl, rfl, rfl, rfl⟩
  · cases hgrow : regbufGrow regSz 65 state.regbuf.sz with
    | none =>
        rw [hgrow] at hget
        cases hget
    | some sz =>
        rw [hgrow] at hget
        cases hget
        exact ⟨rfl, rfl, rfl, rfl⟩

/-- With memory to spare a sound buffer serves every size up to `2 ^ 63`. -/
theorem regbufGet_of_sound (halloc : ∀ k bytes, stub.mallocs k bytes = true) {regSz : ℕ}
    (hregSz : regSz ≤ 2 ^ 63) {state : StubState σ} (hsound : state.regbuf.Sound) :
    ∃ length after, regbufGet stub regSz state = (.ok (some length), after) ∧
      regSz ≤ length ∧ after.regbuf.Sound := by
  unfold regbufGet
  rw [Program.get_bind]
  by_cases henough : regSz ≤ state.regbuf.sz
  · obtain ⟨length, hlength, hsz⟩ := hsound.block
    rw [if_pos henough, Option.mem_def.mp hlength]
    exact ⟨length, state, rfl, by omega, hsound⟩
  · obtain ⟨grown, hgrown, hlarge, hpos⟩ := regbufGrow_eq_some hregSz 64 state.regbuf.sz
      hsound.size_pos (by
        calc regSz ≤ 2 ^ 63 := hregSz
          _ ≤ 1 * 2 ^ 64 := by norm_num
          _ ≤ state.regbuf.sz * 2 ^ 64 := Nat.mul_le_mul_right _ hsound.size_pos)
    rw [if_neg henough, hgrown]
    let allocated : StubState σ := { state with allocations := state.allocations + 1 }
    refine ⟨grown, { allocated with regbuf := { buf := some grown, sz := grown } }, ?_, hlarge,
      ⟨hpos, grown, rfl, Nat.le_refl _⟩⟩
    exact Program.bind_of_ok (malloc_of_all halloc grown state) _

theorem storeAt_some {length count : ℕ} (hfits : count ≤ length) :
    storeAt (some length) count = .ok () := by
  rw [storeAt, if_pos hfits]

theorem length_localBuffer (length : ℕ) : (localBuffer stub length).length = length := by
  rw [localBuffer, List.length_map, List.length_range]

end MiniGdbstub
