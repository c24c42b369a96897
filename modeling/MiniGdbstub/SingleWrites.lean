import MiniGdbstub.MalformedWrites
import MiniGdbstub.MemoryRequests

/-!
# One `G` and a series of `P`

A client can write all registers with one `G` or each with a `P` of its own.  The handlers
share no code: `G` decodes slots at running offsets and commits them from one block, `P`
parses a register number and decodes into the buffer of the stub.

`RegisterClient` is what the client wants to write and how it spells it.  Each handler has
one lemma that does not ask whether the target's operations succeed, only what follows if
those it has called did: `processWhole` and, by induction on the list of registers, for the
single writes `processSingles`.  Both end with the value of the client in every register.
-/

namespace MiniGdbstub

open CString Layout

variable {σ : Type} {stub : Gdbstub σ}

/-! ## What the client writes -/

/-- A value for every register, with the spelling of its digits and of its number, and the
checksum characters of each packet. -/
structure RegisterClient (stub : Gdbstub σ) where
  value : ℕ → List UInt8
  digits : ℕ → List UInt8
  regnoText : ℕ → List UInt8
  csum : List UInt8 → UInt8 × UInt8
  length_value : ∀ i < stub.arch.registers, (value i).length = stub.regSize i
  spells : ∀ i < stub.arch.registers, HexData (digits i) (value i)
  numbers : ∀ i < stub.arch.registers, HexNumber (regnoText i) i

namespace RegisterClient

variable (client : RegisterClient stub)

def packet (body : List UInt8) : Packet UInt8 :=
  Packet.ofFrame (framed body (client.csum body).1 (client.csum body).2)

/-- The values of all registers, one behind the other. -/
def payload : List UInt8 :=
  (List.range stub.arch.registers).flatMap client.digits

/-- The `G` packet. -/
def whole : Packet UInt8 :=
  client.packet (71 :: client.payload)

/-- The `P` packet for register `i`. -/
def single (i : ℕ) : Packet UInt8 :=
  client.packet (80 :: (client.regnoText i ++ equals :: client.digits i))

theorem hexData_payload :
    HexData client.payload ((List.range stub.arch.registers).flatMap client.value) := by
  refine HexData.flatMap fun i hi => client.spells i (List.mem_range.mp hi)

theorem length_payload : client.payload.length = 2 * stub.totalRegBytes := by
  rw [client.hexData_payload.length_eq, (slot_flatMap client.length_value).1,
    stub.totalRegBytes_eq_offset]

/-- The slots of the payload are the values. -/
theorem payloadSlot_payload {i : ℕ} (hi : i < stub.arch.registers) :
    payloadSlot stub client.payload i = client.value i := by
  rw [payloadSlot_of_hexData stub client.hexData_payload, (slot_flatMap client.length_value).2 i hi]

end RegisterClient

/-- The packets are processed one after the other. -/
def processPackets (stub : Gdbstub σ) : List (Packet UInt8) → StubM σ Unit
  | [] => return ()
  | pkt :: pkts => do
      let _ ← gdbstubProcessPacket stub pkt
      processPackets stub pkts

/-- Every operation that was called between these states succeeded. -/
def CallsSucceed (state after : StubState σ) : Prop :=
  ∀ call ∈ after.calls.drop state.calls.length, call.failed = false

theorem callsSucceed_iff {state after : StubState σ} {calls : List TargetCall}
    (hcalls : after.calls = state.calls ++ calls) :
    CallsSucceed state after ↔ ∀ call ∈ calls, call.failed = false := by
  rw [CallsSucceed, hcalls, List.drop_left]

/-! ## All registers at once -/

variable (regs : IndependentRegisters stub)

/-- `process_reg_write` with both blocks: if no operation failed, every register holds its
slot. -/
theorem regWriteApply_succeeds {payload : List UInt8} (rest : List UInt8)
    (hlength : payload.length = 2 * stub.totalRegBytes) (hbound : payload.length < 2 ^ 31)
    (state : StubState σ) :
    ∃ after calls, regWriteApply stub (payload ++ 0 :: rest) state = (.ok (), after) ∧
      after.calls = state.calls ++ calls ∧
      ((∀ call ∈ calls, call.failed = false) →
        after.sent = state.sent ++ [pktstrFrame (ascii "OK")] ∧
        ∀ j < stub.arch.registers, regs.value after.target j = payloadSlot stub payload j) := by
  have hstart : Parsed regs state payload 0 (localBuffer stub stub.totalRegBytes)
      (localBuffer stub stub.totalRegBytes) state :=
    ⟨length_localBuffer .., length_localBuffer .., by simp, by simp, .refl _, fun _ _ => rfl,
      by simp⟩
  obtain ⟨parse, parsed, reads, hparse, hparsed, houtcome⟩ :=
    regWriteParse_spec regs rest hlength hbound stub.arch.registers 0 _ _ state (by omega) hstart
  rw [offset_zero, Nat.mul_zero] at hparse
  rw [regWriteApply, Program.bind_of_ok hparse]
  cases parse with
  | error ret =>
      obtain ⟨⟨call, hmem, hfailed⟩, -⟩ := houtcome
      refine ⟨_, reads, connSendPktstr_errorText ret parsed, hparsed.calls, fun hsucceed => ?_⟩
      rw [hsucceed call hmem] at hfailed
      cases hfailed
  | ok blocks =>
      obtain ⟨newValues, backupValues⟩ := blocks
      obtain ⟨-, hdone⟩ := houtcome
      have hbegin : Committed regs parsed newValues 0 parsed := fun j hj => rfl
      obtain ⟨commit, committed, writes, hcommit, hcommitted, hcommitOutcome⟩ :=
        regWriteCommit_spec regs hdone.length_new stub.arch.registers 0 parsed (by omega) hbegin
      rw [offset_zero] at hcommit
      dsimp only
      rw [Program.bind_of_ok hcommit]
      cases commit with
      | none =>
          obtain ⟨-, hall⟩ := hcommitOutcome
          refine ⟨_, reads ++ writes, connSendPktstr_of_fits (by decide) committed,
            (hparsed.trans hcommitted).calls, fun _ => ⟨?_, fun j hj => ?_⟩⟩
          · rw [StubState.reply, (hparsed.trans hcommitted).sent]
          · rw [StubState.reply, hall j hj, if_pos hj, hdone.new j hj]
      | some failed =>
          obtain ⟨failedRegno, errorCode⟩ := failed
          obtain ⟨⟨call, hmem, hfailed⟩, -⟩ := hcommitOutcome
          -- the rollback adds calls, but the one that failed stays among them
          obtain ⟨restored, restores, hrollback, hcalls, -⟩ :=
            regWriteRollback_writes regs.writeReg_eq backupValues failedRegno 0 committed
          rw [offset_zero] at hrollback
          refine ⟨restored.reply (errorText errorCode), (reads ++ writes) ++ restores, ?_, ?_,
            fun hsucceed => ?_⟩
          · dsimp only
            rw [Program.bind_of_ok hrollback]
            exact connSendPktstr_errorText errorCode restored
          · show restored.calls = _
            rw [hcalls, (hparsed.trans hcommitted).calls, List.append_assoc]
          · rw [hsucceed call (by simp [hmem])] at hfailed
            cases hfailed

/-- **The `G` packet.** -/
theorem processWhole (client : RegisterClient stub)
    (halloc : ∀ k bytes, stub.mallocs k bytes = true) (hpos : 0 < stub.totalRegBytes)
    (hbound : 2 * stub.totalRegBytes < 2 ^ 31) (state : StubState σ) :
    ∃ after calls, gdbstubProcessPacket stub client.whole state = (.ok .none, after) ∧
      after.calls = state.calls ++ calls ∧
      ((∀ call ∈ calls, call.failed = false) →
        after.sent = state.sent ++ [pktstrFrame (ascii "OK")] ∧
        ∀ j < stub.arch.registers, regs.value after.target j = client.value j) := by
  have hlength := client.length_payload
  have hzero : 0 ∉ client.payload := notMem_of_hexDigits client.hexData_payload.digits (by decide)
  let csum := client.csum (71 :: client.payload)
  obtain ⟨after, calls, hrun, hcalls, hsucceed⟩ := regWriteApply_succeeds regs
    [csum.1, csum.2, 0] hlength (by omega) { state with allocations := state.allocations + 1 + 1 }
  have hwrite : processRegWrite stub (client.payload ++ behindBody csum.1 csum.2) state =
      (.ok (), after) :=
    (processRegWrite_of_length [csum.1, csum.2, 0] hpos halloc hzero hlength state).trans hrun
  have hprovided : stub.ops.writeReg.isSome = true := by rw [regs.writeReg_eq]; rfl
  refine ⟨after, calls, ?_, hcalls, fun hcalls => ?_⟩
  · rw [RegisterClient.whole, RegisterClient.packet, gdbstubProcessPacket_framed]
    exact (congrArg (fun provided => ifProvided provided _ state) hprovided).trans
      (ifProvided_some _ hwrite)
  · obtain ⟨hsent, hvalues⟩ := hsucceed hcalls
    refine ⟨hsent, fun j hj => ?_⟩
    rw [hvalues j hj, client.payloadSlot_payload hj]

/-! ## Register by register -/

/-- `process_reg_write_one` up to its call of the target: the number and the digits of the
client are what it takes from the packet. -/
theorem processSingle (client : RegisterClient stub)
    (halloc : ∀ k bytes, stub.mallocs k bytes = true) {i : ℕ} (hi : i < stub.arch.registers)
    (hnumber : i < 2 ^ 31) (hsize : stub.regSize i < 2 ^ 31) {state : StubState σ}
    (hregbuf : state.regbuf.Sound) :
    ∃ between : StubState σ, between.target = state.target ∧ between.calls = state.calls ∧
      between.sent = state.sent ∧ between.regbuf.Sound ∧
      let result := regs.write state.target i (client.value i)
      gdbstubProcessPacket stub (client.single i) state = (.ok .none,
        (between.called (.writeReg i (client.value i) result.1) result.2).reply
          (writeReply result.1)) := by
  let body := client.regnoText i ++ equals :: client.digits i
  let csum := client.csum (80 :: body)
  have hdata := client.spells i hi
  have hregnoText := (client.numbers i hi).all_digits
  have hcut : cut equals (client.regnoText i ++ equals ::
      (client.digits i ++ behindBody csum.1 csum.2)) =
        (client.regnoText i, some (client.digits i ++ behindBody csum.1 csum.2)) :=
    cut_append (notMem_of_hexDigits hregnoText (by decide))
      (notMem_of_hexDigits hregnoText (by decide)) (by decide) _
  have hscan : scanHexFields 1 (client.regnoText i) = [i] :=
    scanHexFields_last (client.numbers i hi) (by omega) 0
  have hregno : asInt (i : ℤ) = i := asInt_of_lt hnumber
  have htext : text (client.digits i ++ behindBody csum.1 csum.2) = client.digits i :=
    text_append_zero (notMem_of_hexDigits hdata.digits (by decide)) _
  have hlength : (client.digits i).length = 2 * stub.regSize i := by
    rw [hdata.length_eq, client.length_value i hi]
  -- what the packet spells is decoded to the client's value
  obtain ⟨hdecode, -⟩ := strToHex_text hsize (htext.symm ▸ hlength)
  rw [htext, hexPairs_of_hexData hdata] at hdecode
  have hfits : stub.regSize i ≤ 2 ^ 63 := by omega
  obtain ⟨room, between, hget, hroom, hsound⟩ := regbufGet_of_sound stub halloc hfits hregbuf
  obtain ⟨htarget, hsent, hcalls, -⟩ := regbufGet_frame stub hget
  refine ⟨between, htarget, hcalls, hsent, hsound, ?_⟩
  have hstore : storeAt (some room) (client.value i).length = .ok () :=
    storeAt_some (by rw [client.length_value i hi]; exact hroom)
  have hcall := callWriteReg_some regs.writeReg_eq i (client.value i) between
  -- from here on the handler is run, statement by statement
  have hwrite := processRegWriteOne_scanned stub hcut hscan state
  dsimp only at hcall hwrite
  rw [hregno, show stub.ops.getRegBytes i = stub.regSize i from rfl, Program.bind_of_ok hget,
    htext, if_pos (hlength.trans (Nat.mul_comm _ _)), hdecode, Program.lift_ok_bind, hstore,
    Program.lift_ok_bind, Program.bind_of_ok hcall, connSendPktstr_writeReply, htarget] at hwrite
  have hprovided : stub.ops.writeReg.isSome = true := by rw [regs.writeReg_eq]; rfl
  have hpayload : body ++ behindBody csum.1 csum.2 = client.regnoText i ++ equals ::
      (client.digits i ++ behindBody csum.1 csum.2) := by
    rw [List.append_assoc, List.cons_append]
  rw [RegisterClient.single, RegisterClient.packet, gdbstubProcessPacket_framed, hpayload]
  exact (congrArg (fun provided => ifProvided provided _ state) hprovided).trans
    (ifProvided_some _ hwrite)

/-- **The `P` packets**, in any order. -/
theorem processSingles (client : RegisterClient stub)
    (halloc : ∀ k bytes, stub.mallocs k bytes = true) (hregisters : stub.arch.registers ≤ 2 ^ 31)
    (hsizes : ∀ i < stub.arch.registers, stub.regSize i < 2 ^ 31) (order : List ℕ) :
    ∀ state : StubState σ, (∀ i ∈ order, i < stub.arch.registers) → state.regbuf.Sound →
      ∃ after calls, processPackets stub (order.map client.single) state = (.ok (), after) ∧
        after.calls = state.calls ++ calls ∧
        ((∀ call ∈ calls, call.failed = false) →
          after.sent = state.sent ++ List.replicate order.length (pktstrFrame (ascii "OK")) ∧
          ∀ j < stub.arch.registers, regs.value after.target j =
            if j ∈ order then client.value j else regs.value state.target j) := by
  induction order with
  | nil => exact fun state _ _ => ⟨state, [], rfl, by simp, by simp⟩
  | cons i order ih =>
      intro state horder hregbuf
      have hi := horder i List.mem_cons_self
      obtain ⟨between, htarget, hcalls, hsent, hsound, hsingle⟩ :=
        processSingle regs client halloc hi (by omega) (hsizes i hi) hregbuf
      let result := regs.write state.target i (client.value i)
      obtain ⟨after, calls, hrun, hmore, hsucceed⟩ := ih
        ((between.called (.writeReg i (client.value i) result.1) result.2).reply
          (writeReply result.1)) (fun j hj => horder j (List.mem_cons_of_mem _ hj)) hsound
      refine ⟨after, .writeReg i (client.value i) result.1 :: calls, ?_, ?_, fun hall => ?_⟩
      · exact (Program.bind_of_ok hsingle _).trans hrun
      · rw [hmore, StubState.reply, StubState.called, hcalls, List.append_assoc,
          List.singleton_append]
      · obtain ⟨hreplies, hvalues⟩ :=
          hsucceed fun call hmem => hall call (List.mem_cons_of_mem _ hmem)
        have hret : result.1 = 0 := by
          have hfirst := hall _ List.mem_cons_self
          simpa [TargetCall.failed] using hfirst
        have hwritten := regs.write_value state.target i hi _ (client.length_value i hi) hret
        constructor
        · rw [hreplies, StubState.reply, StubState.called, hsent, hret, writeReply, if_pos rfl,
            List.append_assoc, List.length_cons, List.replicate_succ, List.singleton_append]
        · intro j hj
          have hbefore : regs.value result.2 j = if j = i then client.value j
              else regs.value state.target j := by
            rw [hwritten j hj]
            split
            · rename_i hsame
              rw [hsame]
            · rfl
          rw [hvalues j hj, StubState.reply, StubState.called, hbefore]
          -- a register that comes again later has the value of its last packet
          by_cases hlater : j ∈ order
          · rw [if_pos hlater, if_pos (List.mem_cons_of_mem _ hlater)]
          · rw [if_neg hlater]
            by_cases hsame : j = i
            · rw [if_pos hsame, if_pos (by rw [hsame]; exact List.mem_cons_self)]
            · rw [if_neg hsame, if_neg (by simp [hsame, hlater])]

/-! ## The two agree -/

/-- **`G` agrees with a series of `P`.**  On a target on which the operations that they call
succeed, one `G` and a `P` for every register, in any order, are all answered `OK` and leave
every register with the value of the client. -/
theorem whole_agrees_with_singles (client : RegisterClient stub)
    (halloc : ∀ k bytes, stub.mallocs k bytes = true) (hregisters : 1 ≤ stub.arch.registers)
    (hsizes : ∀ i < stub.arch.registers, stub.regSize i ≠ 0)
    (hbound : 2 * stub.totalRegBytes < 2 ^ 31) {order : List ℕ}
    (horder : order.Perm (List.range stub.arch.registers)) {state : StubState σ}
    (hregbuf : state.regbuf.Sound)
    (hwhole : CallsSucceed state (gdbstubProcessPacket stub client.whole state).2)
    (hsingles : CallsSucceed state (processPackets stub (order.map client.single) state).2) :
    ∃ whole singles,
      gdbstubProcessPacket stub client.whole state = (.ok .none, whole) ∧
      processPackets stub (order.map client.single) state = (.ok (), singles) ∧
      whole.sent = state.sent ++ [pktstrFrame (ascii "OK")] ∧
      singles.sent = state.sent ++ List.replicate order.length (pktstrFrame (ascii "OK")) ∧
      ∀ j < stub.arch.registers, regs.value whole.target j = client.value j ∧
        regs.value singles.target j = client.value j := by
  have htotal := stub.totalRegBytes_eq_offset
  have hcount : stub.arch.registers ≤ stub.totalRegBytes := by
    rw [htotal]
    exact le_offset fun i hi => Nat.pos_of_ne_zero (hsizes i hi)
  have hsize : ∀ i < stub.arch.registers, stub.regSize i < 2 ^ 31 := by
    intro i hi
    have hend := offset_add_size_le stub.regSize hi
    omega
  have hmem : ∀ i, i ∈ order ↔ i < stub.arch.registers := fun i =>
    horder.mem_iff.trans List.mem_range
  obtain ⟨whole, wholeCalls, hwholeRun, hwholeCalls, hwholeDone⟩ :=
    processWhole regs client halloc (by omega) hbound state
  obtain ⟨singles, singleCalls, hsinglesRun, hsingleCalls, hsinglesDone⟩ :=
    processSingles regs client halloc (by omega) hsize order state (fun i hi => (hmem i).mp hi)
      hregbuf
  rw [hwholeRun, callsSucceed_iff hwholeCalls] at hwhole
  rw [hsinglesRun, callsSucceed_iff hsingleCalls] at hsingles
  obtain ⟨hwholeSent, hwholeValues⟩ := hwholeDone hwhole
  obtain ⟨hsinglesSent, hsinglesValues⟩ := hsinglesDone hsingles
  refine ⟨whole, singles, hwholeRun, hsinglesRun, hwholeSent, hsinglesSent, fun j hj => ?_⟩
  exact ⟨hwholeValues j hj, by rw [hsinglesValues j hj, if_pos ((hmem j).mpr hj)]⟩

/-- Registers of one byte and of nine. -/
def mixedStub : Gdbstub (ℕ → List UInt8) :=
  registerFileStub (fun i => if i = 0 then 1 else 9) (fun _ => false) 2

/-- A client that writes `0x11` to the small register and nine times `0x22` to the large one. -/
def mixedClient : RegisterClient mixedStub where
  value := fun i => if i = 0 then [0x11] else List.replicate 9 0x22
  digits := fun i => if i = 0 then ascii "11" else ascii "222222222222222222"
  regnoText := fun i => [hexDigit i]
  csum := fun _ => (48, 48)
  length_value := by decide
  spells := by
    have hone : hexValue? 49 = some 1 := rfl
    have htwo : hexValue? 50 = some 2 := rfl
    intro i _
    by_cases hfirst : i = 0
    · rw [if_pos hfirst, if_pos hfirst]
      exact .cons hone hone .nil
    · rw [if_neg hfirst, if_neg hfirst]
      exact .cons htwo htwo (.cons htwo htwo (.cons htwo htwo (.cons htwo htwo
        (.cons htwo htwo (.cons htwo htwo (.cons htwo htwo (.cons htwo htwo
        (.cons htwo htwo .nil))))))))
  numbers := by
    intro i hi
    have hsmall : ∀ i < 2, [hexDigit i] ≠ [] ∧ [hexDigit i].all isHexDigit = true ∧
        digitsValue 16 [hexDigit i] = i := by decide
    exact .of_all (hsmall i hi)

/-- The large register first: its value needs a larger buffer than the stub has. -/
theorem whole_agrees_with_singles_mixed :
    ∃ whole singles,
      gdbstubProcessPacket mixedStub mixedClient.whole
        (StubState.init fun i => List.replicate (if i = 0 then 1 else 9) 0) = (.ok .none, whole) ∧
      processPackets mixedStub ([1, 0].map mixedClient.single)
        (StubState.init fun i => List.replicate (if i = 0 then 1 else 9) 0) = (.ok (), singles) ∧
      whole.sent = [pktstrFrame (ascii "OK")] ∧
      singles.sent = List.replicate 2 (pktstrFrame (ascii "OK")) ∧
      ∀ j < 2, whole.target j = mixedClient.value j ∧ singles.target j = mixedClient.value j :=
  whole_agrees_with_singles (registerFileRegs _ _ _) mixedClient (fun _ _ => rfl) (by decide)
    (by decide) (by decide) (by decide) regbufInit_sound (by unfold CallsSucceed; decide +kernel)
    (by unfold CallsSucceed; decide +kernel)

end MiniGdbstub
