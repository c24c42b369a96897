import MiniGdbstub.FrameRoundTrip
import MiniGdbstub.MissingOperations
import MiniGdbstub.RegisterFormat
import MiniGdbstub.ThreadIds

/-!
# Requests as calls

What a client wants of the stub is what the target does.  `Ask` says what can be asked for,
`Gdbstub.answer` what a target makes of it: the operations are called one after another, and what
they return is the answer, but that of a binary write, which is dropped.  There are no packets, no
buffers and no offsets in this; they come in with `Asks`, which says how a request is spelled, and
`Answer.reply`, which says how an answer is.

A handler is a call between these two (`ServedAs`), for every target: also for one whose operations
are missing, fail, or change the target when they read.  Here are the handlers that come to one
operation, or to none.
-/

namespace MiniGdbstub

open CString Layout

variable {σ : Type}

/-! ## ServedAs -/

/-- What a request is answered with. -/
inductive Answer
  | ok
  | data (bytes : List UInt8)
  | failed (ret : Int32)
  | refused
  | missing
  | unsupported
  | cpu (cpuid : Int32)
  | stopped
  | silent
  | shutdown
  deriving DecidableEq, Repr

/-- The reply; there is none if `cont` and `stepi` give `ACT_NONE` or `ACT_SHUTDOWN`. -/
def Answer.reply? : Answer → Option (List UInt8)
  | .ok => some (ascii "OK")
  | .data bytes => some (hexText bytes)
  | .failed ret => some (errorText ret)
  | .refused => some (ascii "E22")
  | .missing => some (ascii "E01")
  | .unsupported => some []
  | .cpu cpuid => some (ascii "QC" ++ decimalPadded 4 cpuid.toInt)
  | .stopped => some (ascii "S" ++ hexByte gdbSignalTrap)
  | .silent => none
  | .shutdown => none

/-- The reply fits into a packet. -/
def Answer.Fits : Answer → Prop
  | .data bytes => 2 * bytes.length + 5 < maxSendPacketSize
  | _ => True

/-- How an operation that writes ended. -/
def Answer.ofCode (ret : Int32) : Answer :=
  if ret = 0 then .ok else .failed ret

/-- How an operation that reads ended. -/
def Answer.ofRead (result : Int32 × List UInt8) : Answer :=
  if result.1 = 0 then .data result.2 else .failed result.1

/-- How `cont` or `stepi` ended. -/
def Answer.ofAction : Action → Answer
  | .resume => .stopped
  | .shutdown => .shutdown
  | .none => .silent

/-! ## What a target makes of a request -/

/-- What a client can ask for. -/
inductive Ask
  | haltReason
  | isAlive
  | readRegs
  | writeRegs (data : List UInt8)
  | readReg (regno : ℕ)
  | writeReg (regno : ℕ) (data : List UInt8)
  | readMem (addr len : ℕ)
  | writeMem (addr : ℕ) (data : List UInt8)
  | writeBinary (addr : ℕ) (data : List UInt8)
  | setBp (addr type : ℕ)
  | delBp (addr type : ℕ)
  | setCpu (cpuid : ℕ)
  | getCpu
  | startNoAckMode
  | cont
  | stepi
  | detach

/-- An operation, if the target has it. -/
def answerWith {α : Type} (op : Option α) (call : α → σ → Answer × σ) (target : σ) : Answer × σ :=
  match op with
  | none => (.missing, target)
  | some op => call op target

/-- The registers from `i` on, as long as they can be read. -/
def readEach (op : σ → ℤ → (Int32 × List UInt8) × σ) :
    (todo i : ℕ) → σ → Except Int32 (List (List UInt8)) × σ
  | 0, _, target => (.ok [], target)
  | todo + 1, i, target =>
      let result := op target i
      if result.1.1 = 0 then
        let rest := readEach op todo (i + 1) result.2
        (rest.1.map (result.1.2 :: ·), rest.2)
      else
        (.error result.1.1, result.2)

/-- The registers from `i` on get these values, until one is refused. -/
def writeEach (op : σ → ℤ → List UInt8 → Int32 × σ) :
    List (List UInt8) → (i : ℕ) → σ → Option (ℕ × Int32) × σ
  | [], _, target => (none, target)
  | value :: values, i, target =>
      let result := op target i value
      if result.1 = 0 then writeEach op values (i + 1) result.2
      else (some (i, result.1), result.2)

/-- They get these values, and it does not matter whether one is refused. -/
def restoreEach (op : σ → ℤ → List UInt8 → Int32 × σ) : List (List UInt8) → (i : ℕ) → σ → σ
  | [], _, target => target
  | value :: values, i, target => restoreEach op values (i + 1) (op target i value).2

/-- All registers are written, or those that were written get their old values back. -/
def transact (read : σ → ℤ → (Int32 × List UInt8) × σ) (write : σ → ℤ → List UInt8 → Int32 × σ)
    (values : List (List UInt8)) (target : σ) : Answer × σ :=
  match readEach read values.length 0 target with
  | (.error ret, after) => (.failed ret, after)
  | (.ok old, after) =>
      match writeEach write values 0 after with
      | (none, written) => (.ok, written)
      | (some (failed, ret), written) =>
          (.failed ret, restoreEach write (old.take failed) 0 written)

/-- The values of all registers in a block. -/
def Gdbstub.slots (stub : Gdbstub σ) (data : List UInt8) : List (List UInt8) :=
  (List.range stub.arch.registers).map (slot stub.regSize data)

/-- The answer to a request, and the target afterwards.  An `X` is answered in the same way when
`write_mem` has refused it. -/
def Gdbstub.answer (stub : Gdbstub σ) : Ask → σ → Answer × σ
  | .haltReason => fun target => (.stopped, target)
  | .isAlive => fun target => (.ok, target)
  | .readRegs => answerWith stub.ops.readReg fun op target =>
      match readEach op stub.arch.registers 0 target with
      | (.ok values, after) => (.data values.flatten, after)
      | (.error ret, after) => (.failed ret, after)
  | .writeRegs data => answerWith stub.ops.writeReg fun write =>
      answerWith stub.ops.readReg fun read => transact read write (stub.slots data)
  | .readReg regno => answerWith stub.ops.readReg fun op target =>
      (.ofRead (op target regno).1, (op target regno).2)
  | .writeReg regno data => answerWith stub.ops.writeReg fun op target =>
      (.ofCode (op target regno data).1, (op target regno data).2)
  | .readMem addr len => answerWith stub.ops.readMem fun op target =>
      (.ofRead (op target addr len).1, (op target addr len).2)
  | .writeMem addr data => answerWith stub.ops.writeMem fun op target =>
      (.ofCode (op target addr data.length data).1, (op target addr data.length data).2)
  | .writeBinary addr data => answerWith stub.ops.writeMem fun op target =>
      (.ok, (op target addr data.length data).2)
  | .setBp addr type => answerWith stub.ops.setBp fun op target =>
      (if (op target addr type).1 then .ok else .refused, (op target addr type).2)
  | .delBp addr type => answerWith stub.ops.delBp fun op target =>
      (if (op target addr type).1 then .ok else .refused, (op target addr type).2)
  | .setCpu cpuid => answerWith stub.ops.setCpu fun op target => (.ok, op target cpuid)
  | .getCpu => fun target =>
      match stub.ops.getCpu with
      | none => (.unsupported, target)
      | some op => (.cpu (op target).1, (op target).2)
  | .startNoAckMode => fun target => (.ok, target)
  | .cont => answerWith stub.ops.cont fun op target => (.ofAction (op target).1, (op target).2)
  | .stepi => answerWith stub.ops.stepi fun op target => (.ofAction (op target).1, (op target).2)
  | .detach => fun target => (.ok, target)

/-- What `gdbstub_run` returns after an answer, if it does. -/
def Answer.outcome : Answer → Option Bool
  | .shutdown => some true
  | _ => none

/-- What it returns after a request. -/
def Ask.outcome (ask : Ask) (answer : Answer) : Option Bool :=
  match ask with
  | .detach => some true
  | _ => answer.outcome

theorem Answer.outcome_of_reply {answer : Answer} {reply : List UInt8}
    (hreply : answer.reply? = some reply) : answer.outcome = none := by
  cases answer with
  | shutdown => cases hreply
  | _ => rfl

/-! ## How a request is spelled -/

/-- The registers have one size, and all of them fit into a packet. -/
structure Gdbstub.Uniform (stub : Gdbstub σ) : Prop where
  registers : 0 < stub.arch.registers
  width : ∃ width, ∀ i < stub.arch.registers, stub.regSize i = width
  fits : 2 * stub.totalRegBytes + 5 < maxSendPacketSize

/-- The body of a packet asks for something.  Numbers are in hexadecimal, in any spelling, but the
number of a CPU, which is in decimal. -/
inductive Asks (stub : Gdbstub σ) : List UInt8 → Ask → Prop
  | haltReason : Asks stub (ascii "?") .haltReason
  | isAlive (thread : List UInt8) : Asks stub (84 :: thread) .isAlive
  | readRegs : stub.Uniform → Asks stub (ascii "g") .readRegs
  | writeRegs {digits data : List UInt8} : HexData digits data →
      data.length = stub.totalRegBytes → 0 < stub.totalRegBytes →
      2 * stub.totalRegBytes < 2 ^ 31 → (stub.ops.writeReg.isSome → stub.ops.readReg.isSome) →
      Asks stub (71 :: digits) (.writeRegs data)
  | readReg {regnoText : List UInt8} {regno : ℕ} : HexNumber regnoText regno → regno < 2 ^ 31 →
      stub.regSize regno < 2 ^ 31 → Asks stub (112 :: regnoText) (.readReg regno)
  | writeReg {regnoText digits data : List UInt8} {regno : ℕ} : HexNumber regnoText regno →
      regno < 2 ^ 31 → HexData digits data → data.length = stub.regSize regno →
      data.length < 2 ^ 31 →
      Asks stub (80 :: (regnoText ++ equals :: digits)) (.writeReg regno data)
  | readMem {fields : List UInt8} {addr len : ℕ} : MemoryRange fields addr len →
      Asks stub (109 :: fields) (.readMem addr len)
  | writeMem {fields digits data : List UInt8} {addr : ℕ} :
      MemoryRange fields addr data.length → HexData digits data → data.length < 2 ^ 31 →
      Asks stub (77 :: (fields ++ colon :: digits)) (.writeMem addr data)
  | writeBinary {fields escaped data : List UInt8} {addr : ℕ} :
      MemoryRange fields addr data.length → EscapedBytes escaped data →
      Asks stub (88 :: (fields ++ colon :: escaped)) (.writeBinary addr data)
  | setBp {typeText fields : List UInt8} {type addr kind : ℕ} : HexNumber typeText type →
      type < 2 ^ 32 → MemoryRange fields addr kind →
      Asks stub (90 :: (typeText ++ comma :: fields)) (.setBp addr type)
  | delBp {typeText fields : List UInt8} {type addr kind : ℕ} : HexNumber typeText type →
      type < 2 ^ 32 → MemoryRange fields addr kind →
      Asks stub (122 :: (typeText ++ comma :: fields)) (.delBp addr type)
  | setCpu {digits : List UInt8} : DigitsOf 10 digits → digits ≠ [] →
      digitsValue 10 digits < 2 ^ 31 →
      Asks stub (ascii "Hg" ++ digits) (.setCpu (digitsValue 10 digits))
  | getCpu : Asks stub (ascii "qC") .getCpu
  | startNoAckMode : Asks stub (ascii "QStartNoAckMode") .startNoAckMode
  | cont : Asks stub (ascii "c") .cont
  | vCont (rest : List UInt8) : Asks stub (ascii "vCont;c" ++ rest) .cont
  | stepi : Asks stub (ascii "s") .stepi
  | vStep (rest : List UInt8) : Asks stub (ascii "vCont;s" ++ rest) .stepi
  | detach : Asks stub (ascii "D") .detach

/-! ## Handlers are calls -/

section

variable {stub : Gdbstub σ}

/-- What a handler leaves before it replies. -/
structure Left (state between : StubState σ) (target : σ) : Prop where
  target : between.target = target
  sent : between.sent = state.sent
  regbuf : between.regbuf.Sound

/-- A program replies with an answer and gives this value. -/
def Replies {α : Type} (program : StubM σ α) (value : α) (state : StubState σ)
    (answered : Answer × σ) : Prop :=
  answered.1.Fits → ∃ reply ∈ answered.1.reply?, ∃ between,
    program state = (.ok value, between.reply reply) ∧ Left state between answered.2

/-- The packets with this body are answered with what the target makes of the request. -/
def ServedAs (stub : Gdbstub σ) (body : List UInt8) (ask : Ask) : Prop :=
  ∀ (csumHigh csumLow : UInt8) (state : StubState σ), state.regbuf.Sound →
    Replies (gdbstubProcessPacket stub (Packet.ofFrame (framed body csumHigh csumLow))) .none state
      (stub.answer ask state.target)

/-- The program comes to a reply. -/
theorem Replies.of_run {α : Type} {program : StubM σ α} {value : α} {state between : StubState σ}
    {answered : Answer × σ} {reply : List UInt8} (hreply : answered.1.reply? = some reply)
    (hrun : program state = (.ok value, between.reply reply))
    (hleft : Left state between answered.2) : Replies program value state answered :=
  fun _ => ⟨reply, hreply, between, hrun, hleft⟩

section

variable {α : Type} {op : Option α} {call : α → σ → Answer × σ} {body : List UInt8} {ask : Ask}
  {handler : (csumHigh csumLow : UInt8) → StubM σ Unit}

/-- A request that needs an operation. -/
theorem ServedAs.of_provided (hanswer : stub.answer ask = answerWith op call)
    (hdispatch : ∀ csumHigh csumLow,
      gdbstubProcessPacket stub (Packet.ofFrame (framed body csumHigh csumLow)) =
        ifProvided op.isSome (handler csumHigh csumLow))
    (hpacket : ∀ provided, op = some provided → ∀ csumHigh csumLow (state : StubState σ),
      state.regbuf.Sound →
      Replies (gdbstubProcessPacket stub (Packet.ofFrame (framed body csumHigh csumLow))) .none
        state (call provided state.target)) : ServedAs stub body ask := by
  intro csumHigh csumLow state hsound
  rw [hanswer]
  cases op with
  | none =>
      rw [hdispatch]
      exact Replies.of_run rfl (ifProvided_none _ state) ⟨rfl, rfl, hsound⟩
  | some provided => exact hpacket provided rfl csumHigh csumLow state hsound

/-- The same, by its handler. -/
theorem ServedAs.of_handler (hanswer : stub.answer ask = answerWith op call)
    (hdispatch : ∀ csumHigh csumLow,
      gdbstubProcessPacket stub (Packet.ofFrame (framed body csumHigh csumLow)) =
        ifProvided op.isSome (handler csumHigh csumLow))
    (hhandler : ∀ provided, op = some provided → ∀ csumHigh csumLow (state : StubState σ),
      state.regbuf.Sound →
      Replies (handler csumHigh csumLow) () state (call provided state.target)) :
    ServedAs stub body ask := by
  refine ServedAs.of_provided hanswer hdispatch fun provided hop csumHigh csumLow state hsound => ?_
  intro hfits
  obtain ⟨reply, hreply, between, hrun, hleft⟩ :=
    hhandler provided hop csumHigh csumLow state hsound hfits
  refine ⟨reply, hreply, between, ?_, hleft⟩
  rw [hdispatch, hop]
  exact ifProvided_some _ hrun

end

theorem reply?_ofCode (ret : Int32) : (Answer.ofCode ret).reply? = some (writeReply ret) := by
  rw [Answer.ofCode, writeReply]
  split
  · rfl
  · rfl

/-! ### Memory -/

/-- The digits of what was read, from a local array. -/
theorem replyHex_eq (bytes : List UInt8) (hfits : (Answer.data bytes).Fits)
    (state : StubState σ) :
    (do
      let packetStr ← Program.lift (inBounds
        (Block.write? (localBuffer stub maxSendPacketSize) 0 (hexText bytes ++ [0])))
      connSendPktbuf packetStr : StubM σ Unit) state = (.ok (), state.reply (hexText bytes)) := by
  have hfits : 2 * bytes.length + 5 < maxSendPacketSize := hfits
  rw [write?_hexText, if_pos (by omega), inBounds_some, Program.lift_ok_bind,
    connSendPktbuf_of_text (zero_notMem_hexText bytes),
    connSendPktstr_of_fits (by rw [length_hexText]; exact hfits)]

/-- What a reading operation returned is replied. -/
theorem replies_read {handler : StubM σ Unit} {state between : StubState σ} {ret : Int32}
    {bytes : List UInt8} {next : σ} (hleft : Left state between next)
    (hdata : ret = 0 → (Answer.data bytes).Fits →
      handler state = (.ok (), between.reply (hexText bytes)))
    (hfailed : ret ≠ 0 → handler state = (.ok (), between.reply (errorText ret))) :
    Replies handler () state (.ofRead (ret, bytes), next) := by
  intro hfits
  by_cases hret : ret = 0
  · have hanswer : Answer.ofRead (ret, bytes) = .data bytes := if_pos hret
    rw [hanswer] at hfits ⊢
    exact ⟨_, rfl, between, hdata hret hfits, hleft⟩
  · have hanswer : Answer.ofRead (ret, bytes) = .failed ret := if_neg hret
    rw [hanswer]
    exact ⟨_, rfl, between, hfailed hret, hleft⟩

theorem served_readMem (halloc : ∀ k bytes, stub.mallocs k bytes = true) {fields : List UInt8}
    {addr len : ℕ} (hrange : MemoryRange fields addr len) :
    ServedAs stub (109 :: fields) (.readMem addr len) := by
  refine ServedAs.of_handler rfl (gdbstubProcessPacket_framed stub 109 fields) ?_
  intro op hop csumHigh csumLow state hsound
  have hmalloc : malloc stub len state = (.ok (some len), state.allocated) :=
    malloc_of_all halloc len state
  have hread := callReadMem_some hop addr len (some len) state.allocated
  have hlength := stub.ops.length_readMem op hop state.target addr len
  rcases hresult : op state.target addr len with ⟨⟨ret, bytes⟩, next⟩
  rw [show op state.allocated.target addr len = _ from hresult] at hread
  rw [hresult] at hlength
  let between := state.allocated.called (.readMem addr len ret bytes) next
  have hleft : Left state between next := ⟨rfl, rfl, hsound⟩
  refine replies_read hleft (fun hret hfits => ?_) fun hret => ?_
  · subst hret
    have hlen : bytes.length = len := hlength rfl
    have hfits' : 2 * bytes.length + 5 < maxSendPacketSize := hfits
    rw [maxSendPacketSize] at hfits'
    rw [if_pos rfl, storeAt_some hlen.le] at hread
    have hreads : ReadsMem stub state addr len bytes between :=
      ⟨Option.isSome_iff_exists.mpr ⟨op, hop⟩, by
        rw [fetchMem, Program.bind_of_ok hmalloc, hread]
        rfl⟩
    rw [processMemRead_fetched hrange (by omega) hreads]
    exact replyHex_eq bytes hfits between
  · rw [if_neg hret] at hread
    rw [processMemRead, hrange.text_eq, hrange.scan]
    dsimp only
    rw [Program.bind_of_ok hmalloc, Program.bind_of_ok hread]
    dsimp only
    rw [if_neg hret, connSendPktstr_errorText]

theorem served_writeMem (halloc : ∀ k bytes, stub.mallocs k bytes = true)
    {fields digits data : List UInt8} {addr : ℕ} (hrange : MemoryRange fields addr data.length)
    (hdigits : HexData digits data) (hlength : data.length < 2 ^ 31) :
    ServedAs stub (77 :: (fields ++ colon :: digits)) (.writeMem addr data) := by
  refine ServedAs.of_provided rfl (gdbstubProcessPacket_framed stub 77 _) ?_
  intro op hop csumHigh csumLow state hsound
  exact Replies.of_run (reply?_ofCode _)
    (memWrite_replies hop hrange hdigits hlength (fun _ => halloc _ _) csumHigh csumLow)
    ⟨rfl, rfl, hsound⟩

theorem served_writeBinary {fields escaped data : List UInt8} {addr : ℕ}
    (hrange : MemoryRange fields addr data.length) (hescaped : EscapedBytes escaped data) :
    ServedAs stub (88 :: (fields ++ colon :: escaped)) (.writeBinary addr data) := by
  refine ServedAs.of_provided rfl (gdbstubProcessPacket_framed stub 88 _) ?_
  intro op hop csumHigh csumLow state hsound
  exact Replies.of_run rfl (memXwrite_replies hop hrange hescaped state csumHigh csumLow)
    ⟨rfl, rfl, hsound⟩

/-! ### Breakpoints and CPUs -/

/-- The two requests for breakpoints are one. -/
theorem replies_breakPoints (op : σ → ℕ → ℕ → Bool × σ) (called : ℕ → ℕ → Bool → TargetCall)
    {program : ℕ → ℕ → StubM σ Bool}
    (hprogram : ∀ addr type (state : StubState σ), program addr type state =
      (.ok (op state.target addr type).1,
        state.called (called addr type (op state.target addr type).1)
          (op state.target addr type).2))
    {typeText fields : List UInt8} {type addr kind : ℕ} (htype : HexNumber typeText type)
    (hlt : type < 2 ^ 32) (hrange : MemoryRange fields addr kind) (csumHigh csumLow : UInt8)
    {state : StubState σ} (hsound : state.regbuf.Sound) :
    Replies (processBreakPoints program
        ((typeText ++ comma :: fields) ++ behindBody csumHigh csumLow)) () state
      (if (op state.target addr type).1 then .ok else .refused, (op state.target addr type).2) := by
  have hzero : 0 ∉ typeText ++ comma :: fields := by
    rw [List.mem_append, List.mem_cons, not_or, not_or]
    exact ⟨notMem_of_hexDigits htype.all_digits (by decide), by decide, hrange.characters.1⟩
  have hscan : scanHexFields 3 (typeText ++ comma :: fields) = [type, addr, kind] := by
    rw [← hrange.scan]
    exact scanHexFields_cons htype (by omega) 2 fields
  have hrun := hprogram addr type state
  have hleft : Left state (state.called (called addr type (op state.target addr type).1)
    (op state.target addr type).2) (op state.target addr type).2 := ⟨rfl, rfl, hsound⟩
  rw [processBreakPoints, behindBody, text_append_zero hzero, hscan]
  dsimp only
  rw [Nat.mod_eq_of_lt hlt]
  cases hret : (op state.target addr type).1 with
  | true =>
      rw [hret] at hrun hleft
      refine Replies.of_run rfl ?_ hleft
      rw [Program.bind_of_ok hrun]
      have hfits : (ascii "OK").length + 5 < maxSendPacketSize := by decide
      exact connSendPktstr_of_fits hfits _
  | false =>
      rw [hret] at hrun hleft
      refine Replies.of_run rfl ?_ hleft
      rw [Program.bind_of_ok hrun]
      have hfits : (ascii "E22").length + 5 < maxSendPacketSize := by decide
      exact connSendPktstr_of_fits hfits _

theorem served_setBp {typeText fields : List UInt8} {type addr kind : ℕ}
    (htype : HexNumber typeText type) (hlt : type < 2 ^ 32)
    (hrange : MemoryRange fields addr kind) :
    ServedAs stub (90 :: (typeText ++ comma :: fields)) (.setBp addr type) := by
  refine ServedAs.of_handler rfl (gdbstubProcessPacket_framed stub 90 _) ?_
  intro op hop csumHigh csumLow state hsound
  refine replies_breakPoints op .setBp (fun addr type state => ?_) htype hlt hrange csumHigh
    csumLow hsound
  rw [callSetBp, hop]
  rfl

theorem served_delBp {typeText fields : List UInt8} {type addr kind : ℕ}
    (htype : HexNumber typeText type) (hlt : type < 2 ^ 32)
    (hrange : MemoryRange fields addr kind) :
    ServedAs stub (122 :: (typeText ++ comma :: fields)) (.delBp addr type) := by
  refine ServedAs.of_handler rfl (gdbstubProcessPacket_framed stub 122 _) ?_
  intro op hop csumHigh csumLow state hsound
  refine replies_breakPoints op .delBp (fun addr type state => ?_) htype hlt hrange csumHigh
    csumLow hsound
  rw [callDelBp, hop]
  rfl

theorem served_setCpu {digits : List UInt8} (hdigits : DigitsOf 10 digits)
    (hnonempty : digits ≠ []) (hvalue : digitsValue 10 digits < 2 ^ 31) :
    ServedAs stub (ascii "Hg" ++ digits) (.setCpu (digitsValue 10 digits)) := by
  refine ServedAs.of_provided rfl (gdbstubProcessPacket_framed stub 72 _) ?_
  intro op hop csumHigh csumLow state hsound
  exact Replies.of_run rfl
    (gdbstubProcessPacket_select stub hop hdigits hnonempty hvalue state csumHigh csumLow)
    ⟨rfl, rfl, hsound⟩

theorem length_decimalPadded_le (cpuid : Int32) :
    (decimalPadded 4 cpuid.toInt).length ≤ 14 := by
  have hlow := Int32.le_toInt cpuid
  have hhigh := Int32.toInt_lt cpuid
  have hdigits : (decimalDigits cpuid.toInt.natAbs).length ≤ 10 :=
    length_decimalDigits_le (by omega) (by omega)
  unfold decimalPadded
  dsimp only
  split
  · rw [List.length_cons, List.length_append, List.length_replicate]
    omega
  · rw [List.length_append, List.length_replicate]
    omega

/-- `qC`, by what its handler does. -/
theorem gdbstubProcessPacket_getCpu {csumHigh csumLow : UInt8} {state after : StubState σ}
    (hrun : (if stub.ops.getCpu.isSome then do
        let cpuid ← callGetCpu stub
        connSendPktstr (ascii "QC" ++ decimalPadded 4 cpuid.toInt)
      else
        connSendPktstr [] : StubM σ Unit) state = (.ok (), after)) :
    gdbstubProcessPacket stub (Packet.ofFrame (framed (ascii "qC") csumHigh csumLow)) state =
      (.ok .none, after) := by
  have hcut := cut_query (show cut colon (ascii "C") = (ascii "C", none) by decide)
    csumHigh csumLow
  have hquery : processQuery stub (ascii "C" ++ behindBody csumHigh csumLow) state =
      (.ok (), after) := by
    rw [processQuery, hcut]
    dsimp only
    rw [if_pos rfl]
    exact hrun
  rw [show ascii "qC" = 113 :: ascii "C" from rfl, gdbstubProcessPacket_framed]
  exact Program.bind_of_ok hquery _

theorem served_getCpu : ServedAs stub (ascii "qC") .getCpu := by
  intro csumHigh csumLow state hsound
  rw [Gdbstub.answer]
  cases hop : stub.ops.getCpu with
  | none =>
      have hleft : Left state state state.target := ⟨rfl, rfl, hsound⟩
      refine Replies.of_run rfl (gdbstubProcessPacket_getCpu ?_) hleft
      rw [hop, if_neg (by simp)]
      exact connSendPktstr_of_fits (by decide) state
  | some op =>
      have hlength := length_decimalPadded_le (op state.target).1
      have hfits : (ascii "QC" ++ decimalPadded 4 (op state.target).1.toInt).length + 5 <
          maxSendPacketSize := by
        rw [List.length_append, show (ascii "QC").length = 2 from rfl, maxSendPacketSize]
        omega
      have hleft : Left state (state.called (.getCpu (op state.target).1) (op state.target).2)
          (op state.target).2 := ⟨rfl, rfl, hsound⟩
      refine Replies.of_run rfl (gdbstubProcessPacket_getCpu ?_) hleft
      rw [if_pos (Option.isSome_iff_exists.mpr ⟨op, hop⟩), callGetCpu, hop,
        Program.bind_of_ok (callOp_some _ _ _)]
      exact connSendPktstr_of_fits hfits _

/-! ### Requests without a call -/

theorem served_haltReason : ServedAs stub (ascii "?") .haltReason := by
  intro csumHigh csumLow state hsound
  refine Replies.of_run rfl ?_ ⟨rfl, rfl, hsound⟩
  rw [show ascii "?" = 63 :: [] from rfl, gdbstubProcessPacket_framed]
  exact Program.bind_of_ok (connSendPktstr_of_fits (by decide) state) _

theorem served_isAlive (thread : List UInt8) : ServedAs stub (84 :: thread) .isAlive := by
  intro csumHigh csumLow state hsound
  refine Replies.of_run rfl ?_ ⟨rfl, rfl, hsound⟩
  rw [gdbstubProcessPacket_framed]
  exact Program.bind_of_ok (connSendPktstr_of_fits (by decide) state) _

theorem served_startNoAckMode : ServedAs stub (ascii "QStartNoAckMode") .startNoAckMode := by
  intro csumHigh csumLow state hsound
  have hcut := cut_query (show cut colon (ascii "StartNoAckMode") =
    (ascii "StartNoAckMode", none) by decide) csumHigh csumLow
  let switched : StubState σ := { state with noAckMode := true }
  have hset : (processGeneralSet (ascii "StartNoAckMode" ++ behindBody csumHigh csumLow) :
      StubM σ Unit) state = (.ok (), switched.reply (ascii "OK")) := by
    rw [processGeneralSet, hcut]
    dsimp only
    rw [if_pos rfl, Program.update_bind]
    exact connSendPktstr_of_fits (by decide) switched
  have hleft : Left state switched state.target := ⟨rfl, rfl, hsound⟩
  refine Replies.of_run rfl ?_ hleft
  rw [show ascii "QStartNoAckMode" = 81 :: ascii "StartNoAckMode" from rfl,
    gdbstubProcessPacket_framed]
  exact Program.bind_of_ok hset _

end

end MiniGdbstub
