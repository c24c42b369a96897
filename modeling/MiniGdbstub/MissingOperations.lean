import MiniGdbstub.CorruptedPackets
import MiniGdbstub.PlainReplies

/-!
# Operations that are missing

A target need not provide every operation.  The dispatcher looks whether the operation of a
request is there, `process_cont` and `process_stepi` look for the operation of the event they
give, and the reader looks for `on_interrupt`.

One handler uses an operation that nobody looked for: `process_reg_write` is entered when
`write_reg` is there, and saves the registers with `read_reg` before it writes the first one.
`SavesThroughNull` says when it comes so far.  In a run in which no packet does
(`missingNeverCalled_iff`) no operation is called that is not there, and the requests that
need one are refused.
-/

namespace MiniGdbstub

open CString Layout Program

variable {σ : Type} (stub : Gdbstub σ)

/-! ## The reader's scan -/

/-- `on_interrupt` -/
def callOnInterrupt : StubM σ Unit :=
  match stub.ops.onInterrupt with
  | none => fail .nullCall
  | some op => update fun state => { state with target := op state.target }

/-- The scan of the bytes of one read; `async` is what `async_io_enable` is when it is loaded
for a byte.  The signal to the queue is not part of the state of the stub. -/
def interruptScan (async : ℕ → Bool) : (i : ℕ) → List UInt8 → StubM σ Unit
  | _, [] => return ()
  | i, byte :: bytes => do
      if byte == intrChar && async i && stub.ops.onInterrupt.isSome then
        callOnInterrupt stub
        interruptScan async (i + 1) bytes
      else
        interruptScan async (i + 1) bytes

/-! ## Runs -/

/-- What the two threads do with the stub and its target.  The table of operations never
changes: what is called through `NULL` does not depend on where a scan of the reader falls
between the calls of the main thread. -/
inductive ServiceStep
  | packet (body : List UInt8) (csumHigh csumLow : UInt8)
  | scan (bytes : List UInt8) (async : ℕ → Bool)

def serviceStep : ServiceStep → StubM σ (Option Bool)
  | .packet body csumHigh csumLow =>
      gdbstubTurn stub (Packet.ofFrame (framed body csumHigh csumLow))
  | .scan bytes async => do
      interruptScan stub async 0 bytes
      return none

/-- One step after the other, until `gdbstub_run` returns. -/
def serviceRun : List ServiceStep → StubM σ (Option Bool)
  | [] => return none
  | step :: steps => do
      match ← serviceStep stub step with
      | none => serviceRun steps
      | some ret => return some ret

/-- The property holds of every step of the run, in the state in which it is made. -/
def Throughout (property : ServiceStep → StubState σ → Prop) :
    List ServiceStep → StubState σ → Prop
  | [], _ => True
  | step :: steps, state =>
      property step state ∧
        ∀ after, serviceStep stub step state = (.ok none, after) → Throughout property steps after

/-! ## Requests that need what is missing -/

/-- A request with this letter needs an operation that is not there. -/
def LetterNeedsMissing (payload : List UInt8) (letter : Char) : Prop :=
  match letter with
  | 'c' => stub.ops.cont.isNone
  | 'g' => stub.ops.readReg.isNone
  | 'm' => stub.ops.readMem.isNone
  | 'p' => stub.ops.readReg.isNone
  | 'q' => (cut colon payload).1 = ascii "C" ∧ stub.ops.getCpu.isNone
  | 's' => stub.ops.stepi.isNone
  | 'v' => (cut semicolon payload).1 = ascii "Cont" ∧
      ((cut semicolon payload).2.bind List.head? = some 99 ∧ stub.ops.cont.isNone ∨
        (cut semicolon payload).2.bind List.head? = some 115 ∧ stub.ops.stepi.isNone)
  | 'z' => stub.ops.delBp.isNone
  | 'G' => stub.ops.writeReg.isNone ∨ stub.totalRegBytes ≠ 0 ∧ stub.ops.readReg.isNone
  | 'H' => payload.head? = some 103 ∧ stub.ops.setCpu.isNone
  | 'M' => stub.ops.writeMem.isNone
  | 'P' => stub.ops.writeReg.isNone
  | 'X' => stub.ops.writeMem.isNone
  | 'Z' => stub.ops.setBp.isNone
  | _ => False

/-- The request needs an operation that is not there. -/
def NeedsMissing : List UInt8 → Prop
  | [] => False
  | request :: payload => LetterNeedsMissing stub payload (Char.ofNat request.toNat)

/-- The handler sends an error or an empty reply, and gives no event. -/
def Refuses (handler : StubM σ Event) (state : StubState σ) : Prop :=
  ∃ between : StubState σ, ∃ reply, handler state = (.ok .none, between.reply reply) ∧
    between.sent = state.sent ∧ (reply = [] ∨ IsErrorReply reply)

/-- The state in which a packet is processed once it is acknowledged. -/
def StubState.acknowledged (state : StubState σ) : StubState σ :=
  { state with
    failureCount := 0
    sent := state.sent ++ if state.noAckMode then [] else [ascii "+"] }

/-- The packet is answered with an error or an empty reply. -/
def Refused (packet : Packet UInt8) (state : StubState σ) : Prop :=
  ∃ after reply, gdbstubTurn stub packet state = (.ok none, after) ∧
    after.sent = state.acknowledged.sent ++ [pktstrFrame reply] ∧
    (reply = [] ∨ IsErrorReply reply)

/-- A packet with a good checksum that needs a missing operation is refused. -/
def RefusesMissing : ServiceStep → StubState σ → Prop
  | .packet body csumHigh csumLow, state =>
      let packet := Packet.ofFrame (framed body csumHigh csumLow)
      packetCsumVerify packet = .ok true → NeedsMissing stub body → Refused stub packet state
  | .scan _ _, _ => True

/-- A `G` comes to save registers: there are some, the payload has their length, and there is
memory for both blocks. -/
structure ReachesSaving (payload : List UInt8) (state : StubState σ) : Prop where
  nonempty : stub.totalRegBytes ≠ 0
  length_eq : (text payload).length = 2 * stub.totalRegBytes
  newValues : stub.mallocs state.allocations stub.totalRegBytes = true
  backupValues : stub.mallocs (state.allocations + 1) stub.totalRegBytes = true

/-- A `G` that comes to save registers on a target without `read_reg`. -/
def SavesThroughNull (body : List UInt8) (state : StubState σ) : Prop :=
  ∃ payload, body = 71 :: payload ∧ stub.ops.writeReg.isSome ∧ stub.ops.readReg.isNone ∧
    ReachesSaving stub payload state

/-- The condition on a step: no packet with a good checksum is such a `G`. -/
def Guarded : ServiceStep → StubState σ → Prop
  | .packet body csumHigh csumLow, state =>
      packetCsumVerify (Packet.ofFrame (framed body csumHigh csumLow)) = .ok true →
        ¬ SavesThroughNull stub body state
  | .scan _ _, _ => True

section

variable {stub}

/-! ## The interrupt -/

variable (stub) in
theorem interruptScan_ok (async : ℕ → Bool) (bytes : List UInt8) :
    ∀ (i : ℕ) (state : StubState σ),
      ∃ after, interruptScan stub async i bytes state = (.ok (), after) := by
  induction bytes with
  | nil => exact fun i state => ⟨state, rfl⟩
  | cons byte bytes ih =>
      intro i state
      rw [interruptScan]
      by_cases hcall : (byte == intrChar && async i && stub.ops.onInterrupt.isSome) = true
      · have hop : stub.ops.onInterrupt.isSome = true := (Bool.and_eq_true_iff.mp hcall).2
        obtain ⟨op, hop⟩ := Option.isSome_iff_exists.mp hop
        have hinterrupt : callOnInterrupt stub state =
            (.ok (), { state with target := op state.target }) := by
          rw [callOnInterrupt, hop]
          rfl
        rw [if_pos hcall, bind_of_ok hinterrupt]
        exact ih (i + 1) _
      · rw [if_neg hcall]
        exact ih (i + 1) state

/-! ## The event -/

/-- The operation of an event is there. -/
def Event.Provided (ops : TargetOps σ) : Event → Prop
  | .cont => ops.cont.isSome
  | .step => ops.stepi.isSome
  | .none => True
  | .detach => True

/-- The handler gives only events whose operation is there. -/
abbrev GivesProvided (stub : Gdbstub σ) (handler : StubM σ Event) : Prop :=
  Ensures handler fun _ event _ => event.Provided stub.ops

theorem GivesProvided.thenReturn {α : Type} {event : Event} (first : StubM σ α)
    (hevent : event.Provided stub.ops) :
    GivesProvided stub (first >>= fun _ => pure event) :=
  Ensures.of_next fun _ => Ensures.of_pure fun _ => hevent

/-- Most handlers give no event at all. -/
theorem GivesProvided.thenNone {α : Type} (first : StubM σ α) :
    GivesProvided stub (first >>= fun _ => pure Event.none) :=
  GivesProvided.thenReturn first trivial

theorem givesProvided_ifProvided (provided : Bool) (handler : StubM σ Unit) :
    GivesProvided stub (ifProvided provided handler) :=
  Ensures.ite (fun _ => GivesProvided.thenNone _) fun _ => GivesProvided.thenNone _

variable (stub) in
theorem givesProvided_processCont : GivesProvided stub (processCont stub) :=
  Ensures.ite (fun hop => Ensures.of_pure fun _ => hop) fun _ => GivesProvided.thenNone _

variable (stub) in
theorem givesProvided_processStepi : GivesProvided stub (processStepi stub) :=
  Ensures.ite (fun hop => Ensures.of_pure fun _ => hop) fun _ => GivesProvided.thenNone _

theorem givesProvided_processVpacket (payload : List UInt8) :
    GivesProvided stub (processVpacket stub payload) := by
  apply Ensures.ite
  · intro _
    unfold processVcont
    split
    · exact Ensures.of_fail
    apply Ensures.ite (fun _ => givesProvided_processCont stub)
    intro _
    exact Ensures.ite (fun _ => givesProvided_processStepi stub) fun _ => GivesProvided.thenNone _
  · intro _
    exact Ensures.ite (fun _ => GivesProvided.thenNone _) fun _ => GivesProvided.thenNone _

theorem givesProvided_dispatch (request : UInt8) (payload : List UInt8) (packetEnd : ℕ) :
    GivesProvided stub (dispatch stub request payload packetEnd) := by
  unfold dispatch
  split
  · exact givesProvided_processCont stub
  · exact givesProvided_ifProvided _ _
  · exact givesProvided_ifProvided _ _
  · exact givesProvided_ifProvided _ _
  · exact GivesProvided.thenNone _
  · exact GivesProvided.thenNone _
  · exact givesProvided_processStepi stub
  · exact givesProvided_processVpacket payload
  · exact givesProvided_ifProvided _ _
  · exact GivesProvided.thenNone _
  · exact GivesProvided.thenReturn _ trivial
  · exact givesProvided_ifProvided _ _
  · exact givesProvided_ifProvided _ _
  · exact givesProvided_ifProvided _ _
  · exact givesProvided_ifProvided _ _
  · exact GivesProvided.thenNone _
  · exact givesProvided_ifProvided _ _
  · exact givesProvided_ifProvided _ _
  · exact GivesProvided.thenNone _

/-- `gdbstub_handle_event` calls the operation of its event and no other. -/
theorem gdbstubHandleEvent_ok {event : Event} (hevent : event.Provided stub.ops)
    (state : StubState σ) :
    ∃ act after, gdbstubHandleEvent stub event state = (.ok act, after) := by
  cases event with
  | none => exact ⟨.none, state, rfl⟩
  | detach => exact ⟨.shutdown, state, rfl⟩
  | cont =>
      obtain ⟨op, hop⟩ := Option.isSome_iff_exists.mp hevent
      have hcall := callOp_some op .cont { state with asyncIoEnable := true }
      rw [gdbstubHandleEvent, update_bind, callCont, hop, bind_of_ok hcall]
      exact ⟨_, _, rfl⟩
  | step =>
      obtain ⟨op, hop⟩ := Option.isSome_iff_exists.mp hevent
      rw [gdbstubHandleEvent, callStepi, hop]
      exact ⟨_, _, callOp_some op .stepi state⟩

/-! ## `G` without `read_reg` -/

/-- However large the first register is, its new value is parsed inside the two blocks. -/
theorem regWriteApply_unreadable (hread : stub.ops.readReg = none) {payload : List UInt8}
    (rest : List UInt8) (hlength : payload.length = 2 * stub.totalRegBytes)
    (hpos : stub.totalRegBytes ≠ 0) (state : StubState σ) :
    regWriteApply stub (payload ++ 0 :: rest) state = (.error .nullCall, state) := by
  have htotal := stub.totalRegBytes_eq_offset
  obtain ⟨todo, htodo⟩ : ∃ todo, stub.arch.registers = todo + 1 := by
    cases hregisters : stub.arch.registers with
    | zero =>
        rw [hregisters, offset_zero] at htotal
        exact absurd htotal hpos
    | succ todo => exact ⟨todo, rfl⟩
  have hcall : ∀ room, callReadReg stub (0 : ℕ) room state = (.error .nullCall, state) := by
    intro room
    rw [callReadReg, hread]
    rfl
  obtain ⟨count, hcount⟩ : ∃ count, (asInt (stub.ops.getRegBytes (0 : ℕ))).toNat = count := ⟨_, rfl⟩
  -- the size is taken as an `int`, which makes it no larger
  have hle : count ≤ stub.totalRegBytes := by
    have hsize : offset stub.regSize 0 + stub.regSize 0 ≤ offset stub.regSize stub.arch.registers :=
      offset_add_size_le stub.regSize (by omega)
    have hfirst : stub.regSize 0 = stub.ops.getRegBytes (0 : ℕ) := rfl
    have hint := toNat_asInt_le (stub.ops.getRegBytes (0 : ℕ))
    omega
  have hdecode : strToHex ((payload ++ 0 :: rest).drop 0) (asInt (stub.ops.getRegBytes (0 : ℕ))) =
      .ok (hexPairs ((payload ++ 0 :: rest).take (2 * count))) := by
    rw [List.drop_zero, strToHex_eq (by rw [hcount, List.length_append]; omega), hcount]
  have hvalue : (hexPairs ((payload ++ 0 :: rest).take (2 * count))).length = count := by
    refine length_hexPairs ?_
    rw [List.length_take, List.length_append]
    omega
  have hwrite : Block.write? (localBuffer stub stub.totalRegBytes) 0
      (hexPairs ((payload ++ 0 :: rest).take (2 * count))) = some _ :=
    Block.write?_eq_some.mpr ⟨by rw [hvalue, length_localBuffer]; omega, rfl⟩
  rw [regWriteApply, htodo]
  refine bind_of_error ?_ _
  rw [regWriteParse]
  dsimp only
  rw [hdecode, lift_ok_bind, hwrite, inBounds_some, lift_ok_bind]
  exact bind_of_error (hcall _) _

/-- `G` on a target without `read_reg`: the first register is saved through `NULL`, or the
request does not come so far and is refused, or there is nothing to write. -/
theorem processRegWrite_unreadable (hread : stub.ops.readReg = none) (payload : List UInt8)
    (csumHigh csumLow : UInt8) (state : StubState σ) :
    let run := processRegWrite stub (payload ++ behindBody csumHigh csumLow) state
    (ReachesSaving stub payload state ∧ run = (.error .nullCall, state.allocated.allocated)) ∨
      ¬ ReachesSaving stub payload state ∧
        ((stub.totalRegBytes = 0 ∧ run = (.ok (), state.reply (ascii "OK"))) ∨
          ∃ between : StubState σ, ∃ reply, run = (.ok (), between.reply reply) ∧
            between.sent = state.sent ∧ IsErrorReply reply) := by
  intro run
  have htext : text (payload ++ behindBody csumHigh csumLow) = text payload :=
    text_append_zero_left payload [csumHigh, csumLow, 0]
  by_cases htotal : stub.totalRegBytes = 0
  · refine .inr ⟨fun hsaves => hsaves.nonempty htotal, .inl ⟨htotal, ?_⟩⟩
    show processRegWrite stub (payload ++ behindBody csumHigh csumLow) state = _
    rw [processRegWrite, if_pos htotal]
    exact connSendPktstr_of_fits (by decide) state
  by_cases hlength : (text payload).length = 2 * stub.totalRegBytes
  · have hrun := processRegWrite_allocates htotal (htext.symm ▸ hlength) state
    -- only behind both allocations is a register read
    by_cases halloc : stub.mallocs state.allocations stub.totalRegBytes = true ∧
        stub.mallocs (state.allocations + 1) stub.totalRegBytes = true
    · have hzero : 0 ∈ payload ++ behindBody csumHigh csumLow :=
        List.mem_append_right payload List.mem_cons_self
      obtain ⟨rest, hpayload⟩ := exists_eq_text_append hzero
      refine .inl ⟨⟨htotal, hlength, halloc.1, halloc.2⟩, ?_⟩
      show processRegWrite stub (payload ++ behindBody csumHigh csumLow) state = _
      rw [hrun, if_pos halloc, hpayload, htext]
      exact regWriteApply_unreadable hread rest hlength htotal _
    · refine .inr ⟨fun hsaves => halloc ⟨hsaves.newValues, hsaves.backupValues⟩,
        .inr ⟨state.allocated.allocated, ascii "E12", ?_, rfl, rfl⟩⟩
      show processRegWrite stub (payload ++ behindBody csumHigh csumLow) state = _
      rw [hrun, if_neg halloc]
      exact connSendPktstr_of_fits (by decide) _
  · refine .inr ⟨fun hsaves => hlength hsaves.length_eq,
      .inr ⟨state, ascii "E22", ?_, rfl, rfl⟩⟩
    show processRegWrite stub (payload ++ behindBody csumHigh csumLow) state = _
    rw [processRegWrite, if_neg htotal, htext, if_pos (by omega)]
    exact connSendPktstr_of_fits (by decide) state

/-! ## One packet -/

theorem tame_nullCall : Tame (σ := σ) (fun fault => fault = .nullCall) fun _ _ => True where
  bad_eq := fun _ hfault => hfault
  silent := fun _ _ _ => trivial
  reply := fun _ _ _ => trivial
  trans := fun _ _ _ _ _ => trivial

/-- Whatever text is sent, sending it calls nothing. -/
theorem connSendPktbuf_callless (packetStr : List UInt8) :
    Keeps (connSendPktbuf packetStr : StubM σ Unit) (fun fault => fault = .nullCall)
      fun _ _ => True := by
  apply tame_nullCall.keeps_lift (callless_inBounds _)
  intro pktstr _
  apply Keeps.ite
  · exact fun _ => Keeps.of_update fun _ => trivial
  · exact fun _ => tame_nullCall.keeps_fail (by decide)

/-- Every request calls only what is there, unless it is a `G` on a target with `write_reg`
and without `read_reg`. -/
theorem dispatch_callless {request : UInt8} {payload : List UInt8} (packetEnd : ℕ)
    (hguard : request = 71 → stub.ops.writeReg.isSome → stub.ops.readReg.isSome) :
    Keeps (dispatch stub request payload packetEnd) (fun fault => fault = .nullCall)
      fun _ _ => True := by
  apply tame_nullCall.keeps_dispatch
  · intro _ hop
    apply tame_nullCall.keeps_bind (tame_nullCall.keeps_regReadLoop (fun _ => hop) _ _ _)
    intro packetStr
    exact connSendPktbuf_callless packetStr
  · intro hrequest hop
    exact tame_nullCall.keeps_processRegWrite (fun _ => hguard hrequest hop) (fun _ => hop) payload
  · intro _ _
    refine tame_nullCall.keeps_processXfer _ fun desc _ offset length => ?_
    apply Keeps.ite
    · exact fun _ => tame_nullCall.keeps_fail (by decide)
    · intro _
      apply tame_nullCall.keeps_lift (callless_inBounds _)
      intro buf _
      exact connSendPktbuf_callless buf

variable (stub) in
/-- **A packet calls through `NULL` exactly when it is a `G` that comes to save registers
without `read_reg`.** -/
theorem process_nullCall_iff (body : List UInt8) (csumHigh csumLow : UInt8)
    (state : StubState σ) :
    (gdbstubProcessPacket stub (Packet.ofFrame (framed body csumHigh csumLow)) state).1 =
        .error .nullCall ↔ SavesThroughNull stub body state := by
  cases body with
  | nil =>
      rw [gdbstubProcessPacket_nil]
      refine iff_of_false nofun ?_
      rintro ⟨payload, hbody, -⟩
      cases hbody
  | cons request payload =>
      rw [gdbstubProcessPacket_framed]
      -- `G` is the one request whose dispatch asks for another operation than it calls
      by_cases hguard : request = 71 ∧ stub.ops.writeReg.isSome ∧ stub.ops.readReg.isNone
      · obtain ⟨rfl, hwrite, hread⟩ := hguard
        have hsaves : SavesThroughNull stub (71 :: payload) state ↔
            ReachesSaving stub payload state := by
          refine ⟨?_, fun hreaches => ⟨payload, rfl, hwrite, hread, hreaches⟩⟩
          rintro ⟨payload', hbody, -, -, hreaches⟩
          cases hbody
          exact hreaches
        have hdispatch : dispatch stub 71 (payload ++ behindBody csumHigh csumLow) payload.length
            state = ifProvided true
              (processRegWrite stub (payload ++ behindBody csumHigh csumLow)) state :=
          congrArg (fun provided => ifProvided provided _ state) hwrite
        rw [hdispatch, hsaves]
        rcases processRegWrite_unreadable (Option.isNone_iff_eq_none.mp hread) payload csumHigh
          csumLow state with
          ⟨hreaches, hrun⟩ | ⟨hreaches, ⟨-, hrun⟩ | ⟨between, reply, hrun, -⟩⟩
        · rw [ifProvided_error _ hrun]
          exact iff_of_true rfl hreaches
        · rw [ifProvided_some _ hrun]
          exact iff_of_false nofun hreaches
        · rw [ifProvided_some _ hrun]
          exact iff_of_false nofun hreaches
      · refine iff_of_false ?_ ?_
        · intro hfault
          refine (dispatch_callless payload.length ?_ state).1 .nullCall hfault rfl
          intro hrequest hwrite
          by_contra hread
          rw [Bool.not_eq_true, Option.isSome_eq_false_iff] at hread
          exact hguard ⟨hrequest, hwrite, hread⟩
        · rintro ⟨payload', hbody, hwrite, hread, -⟩
          cases hbody
          exact hguard ⟨rfl, hwrite, hread⟩

theorem refuses_eperm (state : StubState σ) : Refuses (do
    sendEperm
    return .none) state :=
  ⟨state, ascii "E01", bind_of_ok (connSendPktstr_of_fits (by decide) state) _, rfl, .inr rfl⟩

theorem refuses_ifProvided {provided : Bool} (hprovided : provided = false)
    (handler : StubM σ Unit) (state : StubState σ) :
    Refuses (ifProvided provided handler) state := by
  rw [hprovided]
  exact ⟨state, ascii "E01", ifProvided_none handler state, rfl, .inr rfl⟩

theorem refuses_processCont (hop : stub.ops.cont.isNone) (state : StubState σ) :
    Refuses (processCont stub) state := by
  rw [processCont, if_neg (by rwa [Bool.not_eq_true, Option.isSome_eq_false_iff])]
  exact refuses_eperm state

theorem refuses_processStepi (hop : stub.ops.stepi.isNone) (state : StubState σ) :
    Refuses (processStepi stub) state := by
  rw [processStepi, if_neg (by rwa [Bool.not_eq_true, Option.isSome_eq_false_iff])]
  exact refuses_eperm state

/-- `qC` without `get_cpu`. -/
theorem refuses_processQuery {payload : List UInt8} (hname : (cut colon payload).1 = ascii "C")
    (hop : stub.ops.getCpu.isNone) (csumHigh csumLow : UInt8) (state : StubState σ) :
    Refuses (do
      processQuery stub (payload ++ behindBody csumHigh csumLow)
      return .none) state := by
  have hcut := cut_append_zero colon payload [csumHigh, csumLow, 0]
  have hquery : processQuery stub (payload ++ behindBody csumHigh csumLow) state =
      (.ok (), state.reply []) := by
    rw [behindBody, processQuery, hcut, hname]
    dsimp only
    rw [if_pos rfl, if_neg (by rwa [Bool.not_eq_true, Option.isSome_eq_false_iff])]
    exact connSendPktstr_of_fits (by decide) state
  exact ⟨state, [], bind_of_ok hquery _, rfl, .inl rfl⟩

/-- `vCont` whose first action needs an operation that is not there. -/
theorem refuses_processVpacket {payload : List UInt8}
    (hname : (cut semicolon payload).1 = ascii "Cont")
    (hop : (cut semicolon payload).2.bind List.head? = some 99 ∧ stub.ops.cont.isNone ∨
      (cut semicolon payload).2.bind List.head? = some 115 ∧ stub.ops.stepi.isNone)
    (csumHigh csumLow : UInt8) (state : StubState σ) :
    Refuses (processVpacket stub (payload ++ behindBody csumHigh csumLow)) state := by
  have hcut := cut_append_zero semicolon payload [csumHigh, csumLow, 0]
  have hhead : ∀ {action : UInt8}, (cut semicolon payload).2.bind List.head? = some action →
      ((cut semicolon payload).2.map (· ++ 0 :: [csumHigh, csumLow, 0])).bind List.head? =
        some action := by
    intro action haction
    cases hargs : (cut semicolon payload).2 with
    | none =>
        rw [hargs] at haction
        cases haction
    | some args =>
        rw [hargs, Option.bind_some] at haction
        rw [Option.map_some, Option.bind_some, List.head?_append, haction]
        rfl
  rw [behindBody, processVpacket, hcut, hname]
  dsimp only
  rw [if_pos rfl, processVcont]
  rcases hop with ⟨haction, hop⟩ | ⟨haction, hop⟩
  · rw [hhead haction]
    exact refuses_processCont hop state
  · rw [hhead haction]
    exact refuses_processStepi hop state

/-- `G` without `write_reg`, or without `read_reg` when it does not come to save registers. -/
theorem refuses_processRegWrite {payload : List UInt8}
    (hop : stub.ops.writeReg.isNone ∨ stub.totalRegBytes ≠ 0 ∧ stub.ops.readReg.isNone)
    (csumHigh csumLow : UInt8) {state : StubState σ}
    (hguard : ¬ SavesThroughNull stub (71 :: payload) state) :
    Refuses (ifProvided stub.ops.writeReg.isSome
      (processRegWrite stub (payload ++ behindBody csumHigh csumLow))) state := by
  rcases hprovided : stub.ops.writeReg.isSome with _ | _
  · exact refuses_ifProvided rfl _ state
  · rcases hop with hwrite | ⟨hpos, hread⟩
    · rw [← Option.isSome_eq_false_iff, hprovided] at hwrite
      cases hwrite
    · rcases processRegWrite_unreadable (Option.isNone_iff_eq_none.mp hread) payload csumHigh
        csumLow state with
        ⟨hreaches, -⟩ | ⟨-, ⟨htotal, -⟩ | ⟨between, reply, hrun, hsent, hreply⟩⟩
      · exact absurd ⟨payload, rfl, hprovided, hread, hreaches⟩ hguard
      · exact absurd htotal hpos
      · exact ⟨between, reply, ifProvided_some _ hrun, hsent, .inr hreply⟩

/-- **A packet that needs a missing operation is refused**, if it does not call through
`NULL`. -/
theorem process_refuses {body : List UInt8} (csumHigh csumLow : UInt8) {state : StubState σ}
    (hneeds : NeedsMissing stub body)
    (hguard : ¬ SavesThroughNull stub body state) :
    Refuses (gdbstubProcessPacket stub (Packet.ofFrame (framed body csumHigh csumLow))) state := by
  cases body with
  | nil => exact hneeds.elim
  | cons request payload =>
      have hnone : ∀ {α : Type} {op : Option α}, op.isNone → op.isSome = false := by
        intro α op hop
        rwa [Option.isSome_eq_false_iff]
      change LetterNeedsMissing stub payload (Char.ofNat request.toNat) at hneeds
      rw [gdbstubProcessPacket_framed]
      unfold dispatch
      generalize hletter : Char.ofNat request.toNat = letter at hneeds
      split
      · exact refuses_processCont hneeds state
      · exact refuses_ifProvided (hnone hneeds) _ state
      · exact refuses_ifProvided (hnone hneeds) _ state
      · exact refuses_ifProvided (hnone hneeds) _ state
      · exact refuses_processQuery hneeds.1 hneeds.2 csumHigh csumLow state
      · exact hneeds.elim
      · exact refuses_processStepi hneeds state
      · exact refuses_processVpacket hneeds.1 hneeds.2 csumHigh csumLow state
      · exact refuses_ifProvided (hnone hneeds) _ state
      · exact hneeds.elim
      · exact hneeds.elim
      · obtain rfl := (request_of_letter request).2.1 hletter
        exact refuses_processRegWrite hneeds csumHigh csumLow hguard
      · exact refuses_ifProvided (hnone hneeds.2) _ state
      · exact refuses_ifProvided (hnone hneeds) _ state
      · exact refuses_ifProvided (hnone hneeds) _ state
      · exact hneeds.elim
      · exact refuses_ifProvided (hnone hneeds) _ state
      · exact refuses_ifProvided (hnone hneeds) _ state
      · -- a request that the stub does not know
        exfalso
        unfold LetterNeedsMissing at hneeds
        split at hneeds <;> simp_all

/-! ## A turn of the main thread -/

theorem savesThroughNull_acknowledged {body : List UInt8} {state : StubState σ} :
    SavesThroughNull stub body state.acknowledged ↔ SavesThroughNull stub body state := by
  have hreaches : ∀ payload, ReachesSaving stub payload state.acknowledged ↔
      ReachesSaving stub payload state := fun payload =>
    ⟨fun hsaves => { hsaves with }, fun hsaves => { hsaves with }⟩
  simp only [SavesThroughNull, hreaches]

/-- With a good checksum the packet is acknowledged and processed, and the event handled. -/
theorem gdbstubTurn_good_eq {pkt : Packet UInt8} (hgood : packetCsumVerify pkt = .ok true)
    (state : StubState σ) :
    gdbstubTurn stub pkt state = (do
      let event ← gdbstubProcessPacket stub pkt
      let act ← gdbstubHandleEvent stub event
      match act with
      | .resume => do
          gdbstubActResume
          return none
      | .shutdown => return some true
      | .none => return none : StubM σ (Option Bool)) state.acknowledged := by
  have hacknowledge : gdbstubAcknowledge true state =
      (.ok (),
        { state with sent := state.sent ++ if state.noAckMode then [] else [ascii "+"] }) := by
    rw [gdbstubAcknowledge, get_bind]
    cases hmode : state.noAckMode with
    | true =>
        rw [if_pos rfl, if_pos rfl, List.append_nil, ← hmode]
        rfl
    | false =>
        rw [if_neg (by decide), if_pos rfl, if_neg (by decide), ← hmode]
        rfl
  unfold gdbstubTurn
  rw [hgood, lift_ok_bind, bind_of_ok hacknowledge, gdbstubServe, if_pos rfl]
  rfl

/-- After a normal return of `gdbstub_process_packet` the turn goes to its end. -/
theorem gdbstubTurn_of_ok {body : List UInt8} {csumHigh csumLow : UInt8}
    (hgood : packetCsumVerify (Packet.ofFrame (framed body csumHigh csumLow)) = .ok true)
    {state processed : StubState σ} {event : Event}
    (hprocess : gdbstubProcessPacket stub (Packet.ofFrame (framed body csumHigh csumLow))
      state.acknowledged = (.ok event, processed)) :
    ∃ ret after, gdbstubTurn stub (Packet.ofFrame (framed body csumHigh csumLow)) state =
      (.ok ret, after) ∧ (event = .none → ret = none ∧ after = processed) := by
  have hprovided : event.Provided stub.ops := by
    cases body with
    | nil =>
        rw [gdbstubProcessPacket_nil] at hprocess
        cases hprocess
        trivial
    | cons request payload =>
        rw [gdbstubProcessPacket_framed] at hprocess
        exact givesProvided_dispatch _ _ _ _ _ _ hprocess
  obtain ⟨act, handled, hact⟩ := gdbstubHandleEvent_ok hprovided processed
  rw [gdbstubTurn_good_eq hgood, bind_of_ok hprocess, bind_of_ok hact]
  cases act with
  | none =>
      refine ⟨none, handled, rfl, fun hnone => ⟨rfl, ?_⟩⟩
      rw [hnone] at hact
      cases hact
      rfl
  | shutdown =>
      refine ⟨some true, handled, rfl, fun hnone => ?_⟩
      rw [hnone] at hact
      cases hact
  | resume =>
      have hresume : gdbstubActResume handled = (.ok (), handled.reply (ascii "S05")) :=
        connSendPktstr_of_fits (by decide) handled
      refine ⟨none, handled.reply (ascii "S05"), bind_of_ok hresume _, fun hnone => ?_⟩
      rw [hnone] at hact
      cases hact

variable (stub) in
/-- **One step** calls no missing operation and refuses what needs one, exactly when the
condition holds. -/
theorem serviceStep_iff (step : ServiceStep) (state : StubState σ) :
    ((serviceStep stub step state).1 ≠ .error .nullCall ∧ RefusesMissing stub step state) ↔
      Guarded stub step state := by
  cases step with
  | scan bytes async =>
      obtain ⟨after, hscan⟩ := interruptScan_ok stub async bytes 0 state
      have hstep : serviceStep stub (.scan bytes async) state = (.ok none, after) :=
        bind_of_ok hscan _
      rw [hstep]
      exact iff_of_true ⟨nofun, trivial⟩ trivial
  | packet body csumHigh csumLow =>
      let pkt := Packet.ofFrame (framed body csumHigh csumLow)
      have hprocess := process_nullCall_iff stub body csumHigh csumLow state.acknowledged
      rw [savesThroughNull_acknowledged] at hprocess
      show ((gdbstubTurn stub pkt state).1 ≠ .error .nullCall ∧
        (packetCsumVerify pkt = .ok true → NeedsMissing stub body → Refused stub pkt state)) ↔
          (packetCsumVerify pkt = .ok true → ¬ SavesThroughNull stub body state)
      have hverify := packetCsumVerify_framed body csumHigh csumLow
      -- a corrupted packet is discarded, whatever it asks for
      cases hcsum : hexPairs [csumHigh, csumLow] == [computeChecksum body] with
      | false =>
          rw [hcsum] at hverify
          obtain ⟨after, hturn, -⟩ := gdbstubTurn_corrupted stub hverify state
          rw [hturn]
          refine iff_of_true ⟨nofun, fun hgood => ?_⟩ fun hgood => ?_
          · rw [hverify] at hgood
            cases hgood
          · rw [hverify] at hgood
            cases hgood
      | true =>
          rw [hcsum] at hverify
          constructor
          · rintro ⟨hspared, -⟩ - hsaves
            have hfault := hprocess.mpr hsaves
            rcases hrun : gdbstubProcessPacket stub pkt state.acknowledged with
              ⟨fault | event, after⟩
            · rw [hrun] at hfault
              cases hfault
              rw [gdbstubTurn_good_eq hverify, bind_of_error hrun] at hspared
              exact hspared rfl
            · rw [hrun] at hfault
              cases hfault
          · intro hguard
            have hguard := hguard hverify
            refine ⟨fun hturn => ?_, fun _ hneeds => ?_⟩
            · rcases hrun : gdbstubProcessPacket stub pkt state.acknowledged with
                ⟨fault | event, after⟩
              · rw [gdbstubTurn_good_eq hverify, bind_of_error hrun] at hturn
                refine hguard (hprocess.mp ?_)
                rw [hrun]
                cases hturn
                rfl
              · obtain ⟨ret, final, hok, -⟩ := gdbstubTurn_of_ok hverify hrun
                rw [hok] at hturn
                cases hturn
            · obtain ⟨between, reply, hrun, hsent, hreply⟩ := process_refuses csumHigh
                csumLow hneeds (mt savesThroughNull_acknowledged.mp hguard)
              obtain ⟨ret, final, hok, hnone⟩ := gdbstubTurn_of_ok hverify hrun
              obtain ⟨rfl, rfl⟩ := hnone rfl
              refine ⟨_, reply, hok, ?_, hreply⟩
              rw [StubState.reply, hsent]

/-! ## Runs -/

variable (stub) in
/-- **Missing operations are never called**, and requests that need one are refused, in exactly
the runs in which no `G` comes to save registers without `read_reg`. -/
theorem missingNeverCalled_iff (steps : List ServiceStep) (state : StubState σ) :
    ((serviceRun stub steps state).1 ≠ .error .nullCall ∧
        Throughout stub (RefusesMissing stub) steps state) ↔
      Throughout stub (Guarded stub) steps state := by
  induction steps generalizing state with
  | nil => exact iff_of_true ⟨nofun, trivial⟩ trivial
  | cons step steps ih =>
      have hstep := serviceStep_iff stub step state
      show (_ ∧ RefusesMissing stub step state ∧ _) ↔ Guarded stub step state ∧ _
      rw [← hstep]
      -- a fault or a return ends the run, so nothing is asked of later steps
      rcases hrun : serviceStep stub step state with ⟨fault | ret, after⟩
      · have hwhole : serviceRun stub (step :: steps) state = (.error fault, after) :=
          bind_of_error hrun _
        rw [hwhole]
        constructor
        · rintro ⟨hspared, hrefused, -⟩
          exact ⟨⟨hspared, hrefused⟩, fun _ hnext => by cases hnext⟩
        · rintro ⟨⟨hspared, hrefused⟩, -⟩
          exact ⟨hspared, hrefused, fun _ hnext => by cases hnext⟩
      · cases ret with
        | some ret =>
            have hwhole : serviceRun stub (step :: steps) state = (.ok (some ret), after) :=
              bind_of_ok hrun _
            rw [hwhole]
            constructor
            · rintro ⟨-, hrefused, -⟩
              exact ⟨⟨nofun, hrefused⟩, fun _ hnext => by cases hnext⟩
            · rintro ⟨⟨-, hrefused⟩, -⟩
              exact ⟨nofun, hrefused, fun _ hnext => by cases hnext⟩
        | none =>
            have hwhole : serviceRun stub (step :: steps) state = serviceRun stub steps after :=
              bind_of_ok hrun _
            rw [hwhole]
            constructor
            · rintro ⟨hspared, hrefused, hlater⟩
              refine ⟨⟨nofun, hrefused⟩, fun next hnext => ?_⟩
              cases hnext
              exact (ih after).mp ⟨hspared, hlater after rfl⟩
            · rintro ⟨⟨-, hrefused⟩, hlater⟩
              obtain ⟨hspared, hrest⟩ := (ih after).mpr (hlater after rfl)
              refine ⟨hspared, hrefused, fun next hnext => ?_⟩
              cases hnext
              exact hrest

end

/-- The target without `read_reg`. -/
def TargetOps.withoutReadReg (ops : TargetOps σ) : TargetOps σ :=
  { ops with
    readReg := none
    length_readReg := nofun }

/-- One register of one byte that can be written and not read. -/
def writeOnlyStub : Gdbstub (ℕ → List UInt8) :=
  oneByteStub.withOps oneByteStub.ops.withoutReadReg rfl

/-- The first register is saved through `NULL` before it is written. -/
theorem writeOnly_calls_null :
    (serviceRun writeOnlyStub [.packet (ascii "G11") 97 57]
      (StubState.init fun _ => [0x11])).1 = .error .nullCall := by
  decide +kernel

end MiniGdbstub
