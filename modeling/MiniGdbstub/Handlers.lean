import MiniGdbstub.Stub

/-!
# Requests

`gdbstub.c`: the handlers of the requests, in the order of the source, the function
that dispatches a packet to them, and the main thread's turn for one packet.

A `payload` is the block from the third byte of the packet to the end of its
object, so a handler that reads on behind the terminating zero reads the checksum
characters and then leaves the block.  A handler that keeps characters in a local
array of `MAX_SEND_PACKET_SIZE` has the array here too.
-/

namespace MiniGdbstub

open CString

variable {σ : Type} (stub : Gdbstub σ)

/-- `':'` -/
def colon : UInt8 := 58

/-- `'='` -/
def equals : UInt8 := 61

/-- `';'` -/
def semicolon : UInt8 := 59

/-! ## Continue and step -/

def processCont : StubM σ Event :=
  if stub.ops.cont.isSome then
    return .cont
  else do
    sendEperm
    return .none

def processStepi : StubM σ Event :=
  if stub.ops.stepi.isSome then
    return .step
  else do
    sendEperm
    return .none

/-! ## Registers -/

/-- The loop of `process_reg_read` from register `i` on, with `todo` registers left.
The slot of a register is computed from its own size. -/
def regReadLoop : (todo i : ℕ) → List UInt8 → StubM σ (List UInt8)
  | 0, _, packetStr => return packetStr
  | todo + 1, i, packetStr => do
      let regSz := stub.ops.getRegBytes i
      let regValue ← regbufGet stub regSz
      let (ret, value) ← callReadReg stub i regValue
      if ret = 0 then
        let hex ← Program.lift (hexToStr value (asInt regSz))
        let packetStr ← Program.lift (inBounds (Block.write? packetStr (i * regSz * 2) hex))
        regReadLoop todo (i + 1) packetStr
      else
        Program.lift (inBounds (Block.write? packetStr 0 (errorText ret ++ [0])))

def processRegRead : StubM σ Unit := do
  let packetStr ← regReadLoop stub stub.arch.registers 0 (localBuffer stub maxSendPacketSize)
  connSendPktbuf packetStr

def processRegReadOne (payload : List UInt8) : StubM σ Unit :=
  match scanHexFields 1 (text payload) with
  | [regno] => do
      let regno := asInt regno
      let regSz := stub.ops.getRegBytes regno
      let regValue ← regbufGet stub regSz
      let (ret, value) ← callReadReg stub regno regValue
      if ret = 0 then
        let hex ← Program.lift (hexToStr value (asInt regSz))
        let packetStr ← Program.lift
          (inBounds (Block.write? (localBuffer stub maxSendPacketSize) 0 hex))
        connSendPktbuf packetStr
      else
        connSendPktstr (errorText ret)
  | _ => Program.fail .assertFail

/-- The loop that parses the new values and saves the old ones; the code of the first
register that cannot be read ends it. -/
def regWriteParse (payload : List UInt8) : (todo i payloadOffset storageOffset : ℕ) →
    (newValues backupValues : List UInt8) → StubM σ (Except Int32 (List UInt8 × List UInt8))
  | 0, _, _, _, newValues, backupValues => return .ok (newValues, backupValues)
  | todo + 1, i, payloadOffset, storageOffset, newValues, backupValues => do
      let regSz := stub.ops.getRegBytes i
      let value ← Program.lift (strToHex (payload.drop payloadOffset) (asInt regSz))
      let newValues ← Program.lift (inBounds (Block.write? newValues storageOffset value))
      let (ret, old) ← callReadReg stub i (some (backupValues.length - storageOffset))
      if ret = 0 then
        let backupValues ← Program.lift (inBounds (Block.write? backupValues storageOffset old))
        regWriteParse payload todo (i + 1) (payloadOffset + regSz * 2) (storageOffset + regSz)
          newValues backupValues
      else
        return .error ret

/-- The loop that commits: the register whose write failed, and the code, if one
failed. -/
def regWriteCommit (newValues : List UInt8) :
    (todo i storageOffset : ℕ) → StubM σ (Option (ℕ × Int32))
  | 0, _, _ => return none
  | todo + 1, i, storageOffset => do
      let regSz := stub.ops.getRegBytes i
      let ret ← callWriteReg stub i (Block.slice newValues storageOffset regSz)
      if ret = 0 then
        regWriteCommit newValues todo (i + 1) (storageOffset + regSz)
      else
        return some (i, ret)

/-- The loop that restores the registers written before the failure. -/
def regWriteRollback (backupValues : List UInt8) :
    (todo i storageOffset : ℕ) → StubM σ Unit
  | 0, _, _ => return ()
  | todo + 1, i, storageOffset => do
      let regSz := stub.ops.getRegBytes i
      let _ ← callWriteReg stub i (Block.slice backupValues storageOffset regSz)
      regWriteRollback backupValues todo (i + 1) (storageOffset + regSz)

/-- `process_reg_write` once both blocks are allocated: parse, commit, and roll back if a
write is refused. -/
def regWriteApply (payload : List UInt8) : StubM σ Unit := do
  let regNum := stub.arch.registers
  let storage := localBuffer stub stub.totalRegBytes
  match ← regWriteParse stub payload regNum 0 0 0 storage storage with
  | .error ret => connSendPktstr (errorText ret)
  | .ok (newValues, backupValues) =>
      match ← regWriteCommit stub newValues regNum 0 0 with
      | some (failedRegno, errorCode) => do
          regWriteRollback stub backupValues failedRegno 0 0
          connSendPktstr (errorText errorCode)
      | none => connSendPktstr (ascii "OK")

def processRegWrite (payload : List UInt8) : StubM σ Unit :=
  let totalRegBytes := stub.totalRegBytes
  if totalRegBytes = 0 then
    connSendPktstr (ascii "OK")
  else if (text payload).length ≠ totalRegBytes * 2 then
    connSendPktstr (ascii "E22")
  else do
    let newValues ← malloc stub totalRegBytes
    let backupValues ← malloc stub totalRegBytes
    if newValues = none ∨ backupValues = none then
      connSendPktstr (ascii "E12")
    else
      regWriteApply stub payload

def processRegWriteOne (payload : List UInt8) : StubM σ Unit :=
  let (regnoStr, dataStr) := cut equals payload
  match scanHexFields 1 regnoStr with
  | [regno] => do
      let regno := asInt regno
      let regSz := stub.ops.getRegBytes regno
      let buf ← regbufGet stub regSz
      match dataStr with
      | none => Program.fail .nullDeref
      | some dataStr =>
          if (text dataStr).length = regSz * 2 then
            let data ← Program.lift (strToHex dataStr (asInt regSz))
            Program.lift (storeAt buf data.length)
            let ret ← callWriteReg stub regno data
            if ret = 0 then
              connSendPktstr (ascii "OK")
            else
              connSendPktstr (errorText ret)
          else
            Program.fail .assertFail
  | _ => Program.fail .assertFail

/-! ## Memory -/

def processMemRead (payload : List UInt8) : StubM σ Unit :=
  match scanHexFields 2 (text payload) with
  | [maddr, mlen] => do
      let mval ← malloc stub mlen
      let (ret, value) ← callReadMem stub maddr mlen mval
      if ret = 0 then
        let hex ← Program.lift (hexToStr value (asInt mlen))
        let packetStr ← Program.lift
          (inBounds (Block.write? (localBuffer stub maxSendPacketSize) 0 hex))
        connSendPktbuf packetStr
      else
        connSendPktstr (errorText ret)
  | _ => Program.fail .assertFail

/-- `str_to_hex(content, mval, mlen)`, where both pointers may be `NULL`.  The first byte is
stored before a character behind the packet is read. -/
def decodeContent (content : Option (List UInt8)) (mval : Option ℕ) (mlen : ℕ) :
    Except Fault (List UInt8) :=
  match content with
  | some content => do
      storeAt mval (asInt mlen).toNat
      strToHex content (asInt mlen)
  | none => if asInt mlen ≤ 0 then .ok [] else .error .nullDeref

def processMemWrite (payload : List UInt8) : StubM σ Unit :=
  let (fields, content) := cut colon payload
  match scanHexFields 2 fields with
  | [maddr, mlen] => do
      let mval ← malloc stub mlen
      let data ← Program.lift (decodeContent content mval mlen)
      -- what the block holds: the decoded bytes, and behind them nothing was written
      let block := data ++ (localBuffer stub (mval.getD 0)).drop data.length
      let ret ← callWriteMem stub maddr mlen block
      if ret = 0 then
        connSendPktstr (ascii "OK")
      else
        connSendPktstr (errorText ret)
  | _ => Program.fail .assertFail

/-- `packetEnd` is the offset of the end of the data in `payload`. -/
def processMemXwrite (payload : List UInt8) (packetEnd : ℕ) : StubM σ Unit :=
  let (fields, content) := cut colon payload
  match scanHexFields 2 fields with
  | [maddr, mlen] =>
      match content with
      | none => Program.fail .nullDeref
      | some content => do
          let (count, content) ← Program.lift
            (unescape content (packetEnd - (fields.length + 1)))
          if asInt count = asInt mlen then
            let _ ← callWriteMem stub maddr mlen (content.take mlen)
            connSendPktstr (ascii "OK")
          else
            Program.fail .assertFail
  | _ => Program.fail .assertFail

/-! ## Queries -/

/-- `snprintf(buf + 1, size, "%s", str)`: the cells written.  The `size_t` made of a
negative size is no limit. -/
def snprintfString (size : ℤ) (str : List UInt8) : List UInt8 :=
  if size < 0 then str ++ [0]
  else if size = 0 then []
  else str.take (size.toNat - 1) ++ [0]

/-- The reply of `process_xfer` for the bytes of the description from `offset` on. -/
def xferReply (targetDesc : List UInt8) (offset length : ℤ) : StubM σ Unit := do
  let totalLen := asInt targetDesc.length
  let payloadLength := if length < maxDataPayload then length else maxDataPayload
  let first : UInt8 := if totalLen - offset < payloadLength then 108 else 109
  -- `target_desc + offset` outside the string
  if offset < 0 ∨ (targetDesc.length : ℤ) < offset then
    Program.fail .outOfBounds
  else
    let rest := snprintfString payloadLength (targetDesc.drop offset.toNat)
    let buf ← Program.lift
      (inBounds (Block.write? (localBuffer stub maxSendPacketSize) 0 (first :: rest)))
    connSendPktbuf buf

/-- The state after a transfer has set `strtok`'s static pointer. -/
def StubState.begun {σ : Type} (state : StubState σ) : StubState σ :=
  { state with transfers := state.transfers + 1 }

/-- The string that `strtok(args, ":")` takes apart.  Without arguments it goes on where the
transfer before has stopped, in a packet that has been freed since. -/
def strtokStart (args : Option (List UInt8)) : StubM σ (List UInt8) := do
  let state ← Program.get
  Program.update StubState.begun
  match args with
  | some args => return text args
  | none =>
      if state.transfers = 0 then
        Program.fail .nullDeref
      else
        return text (stub.freed state.transfers)

/-- The arguments of a `features` transfer. -/
def xferTokens (targetDesc args : List UInt8) : StubM σ Unit :=
  match strtok colon args with
  | none => Program.fail .nullDeref
  | some (action, rest) =>
      if action = ascii "read" then
        match strtok colon rest with
        | none => Program.fail .nullDeref
        | some (annex, rest) =>
            if annex = ascii "target.xml" then
              match strtok colon rest with
              | none => Program.fail .nullDeref
              | some (range, _) =>
                  match scanHexFields 2 range with
                  | [offset, length] => xferReply stub targetDesc (asInt offset) (asInt length)
                  | [offset] => xferReply stub targetDesc (asInt offset) 0
                  | _ => xferReply stub targetDesc 0 0
            else
              Program.fail .assertFail
      else
        Program.fail .assertFail

def xferFeatures (targetDesc : List UInt8) (args : Option (List UInt8)) : StubM σ Unit := do
  let args ← strtokStart stub args
  xferTokens stub targetDesc args

theorem xferFeatures_some (targetDesc args : List UInt8) (state : StubState σ) :
    xferFeatures stub targetDesc (some args) state =
      xferTokens stub targetDesc (text args) state.begun := rfl

def processXfer (s : Option (List UInt8)) : StubM σ Unit :=
  match s with
  | none => Program.fail .nullDeref
  | some s =>
      let (name, args) := cut colon s
      match stub.arch.targetDesc with
      | some targetDesc =>
          if name = ascii "features" then
            xferFeatures stub targetDesc args
          else
            connSendPktstr []
      | none => connSendPktstr []

/-- The loop of `qfThreadInfo`. -/
def threadInfoLoop : (todo cpuid : ℕ) → List UInt8 → StubM σ (List UInt8)
  | 0, cpuid, packetStr => Program.lift (inBounds (Block.write? packetStr (1 + 5 * cpuid) [0]))
  | todo + 1, cpuid, packetStr => do
      let cpuidStr := decimalPadded 4 cpuid ++ ascii ","
      let packetStr ← Program.lift
        (inBounds (Block.write? packetStr (1 + 5 * cpuid) (cpuidStr.take 5)))
      threadInfoLoop todo (cpuid + 1) packetStr

def processThreadInfo : StubM σ Unit :=
  let smp := if stub.arch.smp = 0 then 1 else stub.arch.smp
  if smp < 10000 then do
    let packetStr ← Program.lift
      (inBounds (Block.write? (localBuffer stub maxSendPacketSize) 0 (ascii "m")))
    let packetStr ← threadInfoLoop smp.toNat 0 packetStr
    connSendPktbuf packetStr
  else
    Program.fail .assertFail

def processQuery (payload : List UInt8) : StubM σ Unit :=
  let (name, qargs) := cut colon payload
  if name = ascii "C" then
    if stub.ops.getCpu.isSome then do
      let cpuid ← callGetCpu stub
      connSendPktstr (ascii "QC" ++ decimalPadded 4 cpuid.toInt)
    else
      connSendPktstr []
  else if name = ascii "Supported" then
    if stub.arch.targetDesc.isSome then
      connSendPktstr (ascii "PacketSize=1024;qXfer:features:read+;QStartNoAckMode+")
    else
      connSendPktstr (ascii "PacketSize=1024;QStartNoAckMode+")
  else if name = ascii "Attached" then
    connSendPktstr (ascii "1")
  else if name = ascii "Xfer" then
    processXfer stub qargs
  else if name = ascii "Symbol" then
    connSendPktstr (ascii "OK")
  else if name = ascii "fThreadInfo" then
    processThreadInfo stub
  else if name = ascii "sThreadInfo" then
    connSendPktstr (ascii "l")
  else
    connSendPktstr []

theorem processQuery_xfer {payload : List UInt8} (hname : (cut colon payload).1 = ascii "Xfer") :
    processQuery stub payload = processXfer stub (cut colon payload).2 := by
  rw [processQuery]
  dsimp only
  rw [hname, if_neg (by decide), if_neg (by decide), if_neg (by decide), if_pos rfl]

theorem processQuery_threadInfo {payload : List UInt8}
    (hname : (cut colon payload).1 = ascii "fThreadInfo") :
    processQuery stub payload = processThreadInfo stub := by
  rw [processQuery]
  dsimp only
  rw [hname, if_neg (by decide), if_neg (by decide), if_neg (by decide), if_neg (by decide),
    if_neg (by decide), if_pos rfl]

def processGeneralSet (payload : List UInt8) : StubM σ Unit :=
  let (name, _) := cut colon payload
  if name = ascii "StartNoAckMode" then do
    Program.update fun state => { state with noAckMode := true }
    connSendPktstr (ascii "OK")
  else
    connSendPktstr []

/-! ## `v` packets -/

/-- Only the first character of the actions is looked at. -/
def processVcont (args : Option (List UInt8)) : StubM σ Event :=
  match args.bind List.head? with
  | none => Program.fail .nullDeref
  | some action =>
      if action = 99 then
        processCont stub
      else if action = 115 then
        processStepi stub
      else do
        sendEperm
        return .none

def processVcontSupport : StubM σ Unit :=
  let strS := if stub.ops.stepi.isNone then [] else ascii "s;"
  let strC := if stub.ops.cont.isNone then [] else ascii "c;"
  connSendPktstr (ascii "vCont;" ++ strS ++ strC)

def processVpacket (payload : List UInt8) : StubM σ Event :=
  let (name, args) := cut semicolon payload
  if name = ascii "Cont" then
    processVcont stub args
  else if name = ascii "Cont?" then do
    processVcontSupport stub
    return .none
  else do
    connSendPktstr []
    return .none

/-! ## Breakpoints and CPUs -/

/-- `process_del_break_points` and `process_set_break_points` differ in the operation
only.  The type is cut to the width of its enumeration. -/
def processBreakPoints (op : (addr type : ℕ) → StubM σ Bool) (payload : List UInt8) :
    StubM σ Unit :=
  match scanHexFields 3 (text payload) with
  | [type, addr, _] => do
      let ret ← op addr (type % 2 ^ 32)
      if ret then
        connSendPktstr (ascii "OK")
      else
        sendEinval
  | _ => Program.fail .assertFail

def processDelBreakPoints (payload : List UInt8) : StubM σ Unit :=
  processBreakPoints (callDelBp stub) payload

def processSetBreakPoints (payload : List UInt8) : StubM σ Unit :=
  processBreakPoints (callSetBp stub) payload

def processSetCpu (payload : List UInt8) : StubM σ Unit :=
  if payload.head? = some 103 then
    match scanDecimal (text payload).tail with
    | none => Program.fail .assertFail
    | some (cpuid, _) => do
        callSetCpu stub (asInt cpuid)
        connSendPktstr (ascii "OK")
  else
    connSendPktstr (ascii "OK")

/-! ## Dispatch -/

/-- A handler that gives no event, if its operation is there. -/
def ifProvided (provided : Bool) (handler : StubM σ Unit) : StubM σ Event := do
  if provided then
    handler
    return .none
  else
    sendEperm
    return .none

/-- The handler of a request.  `packetEnd` is the offset of the end of the body in
`payload`. -/
def dispatch (request : UInt8) (payload : List UInt8) (packetEnd : ℕ) : StubM σ Event :=
  match Char.ofNat request.toNat with
  | 'c' => processCont stub
  | 'g' => ifProvided stub.ops.readReg.isSome (processRegRead stub)
  | 'm' => ifProvided stub.ops.readMem.isSome (processMemRead stub payload)
  | 'p' => ifProvided stub.ops.readReg.isSome (processRegReadOne stub payload)
  | 'q' => do
      processQuery stub payload
      return .none
  | 'Q' => do
      processGeneralSet payload
      return .none
  | 's' => processStepi stub
  | 'v' => processVpacket stub payload
  | 'z' => ifProvided stub.ops.delBp.isSome (processDelBreakPoints stub payload)
  | '?' => do
      connSendPktstr (ascii "S05")
      return .none
  | 'D' => do
      connSendPktstr (ascii "OK")
      return .detach
  | 'G' => ifProvided stub.ops.writeReg.isSome (processRegWrite stub payload)
  | 'H' => ifProvided stub.ops.setCpu.isSome (processSetCpu stub payload)
  | 'M' => ifProvided stub.ops.writeMem.isSome (processMemWrite stub payload)
  | 'P' => ifProvided stub.ops.writeReg.isSome (processRegWriteOne stub payload)
  | 'T' => do
      connSendPktstr (ascii "OK")
      return .none
  | 'X' => ifProvided stub.ops.writeMem.isSome (processMemXwrite stub payload packetEnd)
  | 'Z' => ifProvided stub.ops.setBp.isSome (processSetBreakPoints stub payload)
  | _ => do
      connSendPktstr []
      return .none

def gdbstubProcessPacket (inpkt : Packet UInt8) : StubM σ Event := do
  if inpkt.data[0]? = some dollar then
    let data ← Program.lift (inBounds (Block.write? inpkt.data (inpkt.endPos - csumSize) [0]))
    let request ← Program.lift (inBounds data[1]?)
    dispatch stub request (data.drop 2) (inpkt.endPos - csumSize - 2)
  else
    Program.fail .assertFail

/-! ## The main thread's turn -/

def gdbstubHandleEvent (event : Event) : StubM σ Action :=
  match event with
  | .cont => do
      Program.update fun state => { state with asyncIoEnable := true }
      let act ← callCont stub
      Program.update fun state => { state with asyncIoEnable := false }
      return act
  | .step => callStepi stub
  | .detach => return .shutdown
  | .none => return .none

/-- `GDB_SIGNAL_TRAP` -/
def gdbSignalTrap : UInt8 := 5

def gdbstubActResume : StubM σ Unit :=
  connSendPktstr (ascii "S" ++ hexByte gdbSignalTrap)

/-- `CONN_MAX_FAILURES` -/
def connMaxFailures : ℕ := 50

/-- The acknowledgement of a packet. -/
def gdbstubAcknowledge (csumOk : Bool) : StubM σ Unit := do
  let state ← Program.get
  if state.noAckMode then
    return ()
  else
    connSendStr (if csumOk then ascii "+" else ascii "-")

/-- What follows the acknowledgement; the value is what `gdbstub_run` returns, if it
returns. -/
def gdbstubServe (pkt : Packet UInt8) (csumOk : Bool) : StubM σ (Option Bool) :=
  if csumOk then do
    Program.update fun state => { state with failureCount := 0 }
    let event ← gdbstubProcessPacket stub pkt
    let act ← gdbstubHandleEvent stub event
    match act with
    | .resume => do
        gdbstubActResume
        return none
    | .shutdown => return some true
    | .none => return none
  else do
    Program.update fun state => { state with failureCount := state.failureCount + 1 }
    let state ← Program.get
    return if connMaxFailures ≤ state.failureCount then some false else none

/-- The loop of `gdbstub_run` for one packet taken from the queue. -/
def gdbstubTurn (pkt : Packet UInt8) : StubM σ (Option Bool) := do
  let csumOk ← Program.lift (packetCsumVerify pkt)
  gdbstubAcknowledge csumOk
  gdbstubServe stub pkt csumOk

end MiniGdbstub
