import MiniGdbstub.RegisterCalls

/-!
# Sessions as calls

The turn of the main thread for any request (`gdbstubTurn_asks`), and from it whole runs: a session
with the stub is a session with the target (`gdbstubRun_asks`).  The packets may come with corrupted
ones between them (`session_served`).
-/

namespace MiniGdbstub

open CString Layout

variable {σ : Type}

section

variable {stub : Gdbstub σ}

/-! ## A turn of the main thread -/

/-- What a turn leaves: the target, and the reply behind an acknowledgement. -/
structure Turned (state after : StubState σ) (answered : Answer × σ) : Prop where
  target : after.target = answered.2
  replies : after.replies = state.replies ++ (answered.1.reply?.map pktstrFrame).toList
  regbuf : after.regbuf.Sound

theorem replies_acknowledged (state : StubState σ) :
    state.acknowledged.replies = state.replies := by
  show (state.sent ++ if state.noAckMode then [] else [ascii "+"]).filter _ = state.sent.filter _
  rw [List.filter_append]
  cases state.noAckMode with
  | true => simp
  | false => simp [ascii, dollar]

theorem replies_reply (state : StubState σ) (pktstr : List UInt8) :
    (state.reply pktstr).replies = state.replies ++ [pktstrFrame pktstr] := by
  show (state.sent ++ [pktstrFrame pktstr]).filter _ = state.sent.filter _ ++ _
  rw [List.filter_append]
  rfl

theorem replies_of_sent_eq {state between : StubState σ}
    (hsent : between.sent = state.acknowledged.sent) : between.replies = state.replies := by
  rw [← replies_acknowledged state, StubState.replies, StubState.replies, hsent]

/-- What the main thread makes of an event. -/
def gdbstubFinish (stub : Gdbstub σ) (event : Event) : StubM σ (Option Bool) := do
  let act ← gdbstubHandleEvent stub event
  match act with
  | .resume => do
      gdbstubActResume
      return none
  | .shutdown => return some true
  | .none => return none

/-- A turn, by what the packet and its event come to. -/
theorem gdbstubTurn_framed (stub : Gdbstub σ) (body : List UInt8) (state : StubState σ) :
    ∃ csumHigh csumLow, gdbstubTurn stub (Packet.ofFrame (pktstrFrame body)) state =
      (gdbstubProcessPacket stub (Packet.ofFrame (framed body csumHigh csumLow)) >>=
        gdbstubFinish stub) state.acknowledged := by
  refine ⟨hexDigit ((computeChecksum body).toNat / 16),
    hexDigit ((computeChecksum body).toNat % 16), ?_⟩
  rw [gdbstubTurn_good_eq (packetCsumVerify_pktstrFrame body), pktstrFrame_eq_framed]
  refine congrFun (congrArg (_ >>= ·) ?_) _
  funext event
  refine congrArg (_ >>= ·) ?_
  funext act
  cases act with
  | none => rfl
  | resume => rfl
  | shutdown => rfl

/-- A request that is answered by its packet. -/
theorem gdbstubTurn_served {body : List UInt8} {ask : Ask} (hserved : ServedAs stub body ask)
    {state : StubState σ} (hsound : state.regbuf.Sound)
    (hfits : (stub.answer ask state.target).1.Fits) :
    ∃ after, gdbstubTurn stub (Packet.ofFrame (pktstrFrame body)) state =
        (.ok (stub.answer ask state.target).1.outcome, after) ∧
      Turned state after (stub.answer ask state.target) := by
  obtain ⟨csumHigh, csumLow, hturn⟩ := gdbstubTurn_framed stub body state
  obtain ⟨reply, hreply, between, hrun, hleft⟩ :=
    hserved csumHigh csumLow state.acknowledged hsound hfits
  have hreply : (stub.answer ask state.target).1.reply? = some reply := hreply
  refine ⟨between.reply reply, ?_, hleft.target, ?_, hleft.regbuf⟩
  · rw [hturn, Program.bind_of_ok hrun, Answer.outcome_of_reply hreply]
    rfl
  · rw [replies_reply, replies_of_sent_eq hleft.sent, hreply]
    rfl

/-- The packets with this body ask for an event, if the target has the operation for it. -/
def Triggers {α : Type} (stub : Gdbstub σ) (body : List UInt8) (op : Option α) (event : Event) :
    Prop :=
  ∀ csumHigh csumLow, gdbstubProcessPacket stub (Packet.ofFrame (framed body csumHigh csumLow)) =
    if op.isSome then return event
    else do
      sendEperm
      return .none

/-- The event calls the operation, which is all that it does. -/
def Handles (stub : Gdbstub σ) (op : σ → Action × σ) (event : Event) : Prop :=
  ∀ state : StubState σ, ∃ after,
    gdbstubHandleEvent stub event state = (.ok (op state.target).1, after) ∧
      OnlyTarget state after (op state.target).2

theorem handles_cont {op : σ → Action × σ} (hop : stub.ops.cont = some op) :
    Handles stub op .cont := by
  intro state
  refine ⟨{ (StubState.called { state with asyncIoEnable := true } (.cont (op state.target).1)
    (op state.target).2) with asyncIoEnable := false }, ?_, rfl, rfl, rfl⟩
  rw [gdbstubHandleEvent, callCont, hop]
  rfl

theorem handles_stepi {op : σ → Action × σ} (hop : stub.ops.stepi = some op) :
    Handles stub op .step := by
  intro state
  refine ⟨state.called (.stepi (op state.target).1) (op state.target).2, ?_, rfl, rfl, rfl⟩
  rw [gdbstubHandleEvent, callStepi, hop]
  rfl

/-- A request that lets the target run. -/
theorem gdbstubTurn_triggers {body : List UInt8} {op : Option (σ → Action × σ)} {event : Event}
    (htriggers : Triggers stub body op event)
    (hhandles : ∀ provided, op = some provided → Handles stub provided event)
    {state : StubState σ} (hsound : state.regbuf.Sound) :
    let answered := answerWith op
      (fun op target => (.ofAction (op target).1, (op target).2)) state.target
    ∃ after, gdbstubTurn stub (Packet.ofFrame (pktstrFrame body)) state =
        (.ok answered.1.outcome, after) ∧
      Turned state after answered := by
  intro answered
  obtain ⟨csumHigh, csumLow, hturn⟩ := gdbstubTurn_framed stub body state
  have hprocess := htriggers csumHigh csumLow
  cases op with
  | none =>
      have hsend : (sendEperm : StubM σ Unit) state.acknowledged =
          (.ok (), state.acknowledged.reply (ascii "E01")) :=
        connSendPktstr_of_fits (by decide) _
      refine ⟨state.acknowledged.reply (ascii "E01"), ?_, rfl, ?_, hsound⟩
      · rw [hturn, hprocess, Option.isSome_none, if_neg (by decide),
          Program.bind_of_ok (Program.bind_of_ok hsend _)]
        rfl
      · rw [replies_reply, replies_acknowledged]
        rfl
  | some provided =>
      obtain ⟨between, hhandle, honly⟩ := hhandles provided rfl state.acknowledged
      have hevent : (if (some provided).isSome then return event
          else do
            sendEperm
            return .none : StubM σ Event) state.acknowledged =
          (.ok event, state.acknowledged) := rfl
      have hregbuf : between.regbuf.Sound := honly.regbuf ▸ hsound
      have hreplies := replies_of_sent_eq honly.sent
      have hquiet : between.replies = state.replies ++ [] := by rw [hreplies, List.append_nil]
      rw [hturn, hprocess, Program.bind_of_ok hevent, gdbstubFinish, Program.bind_of_ok hhandle]
      show ∃ after, _ ∧ Turned state after
        (.ofAction (provided state.target).1, (provided state.target).2)
      rcases hresult : provided state.target with ⟨act, next⟩
      have hanswered : answered = (.ofAction act, next) :=
        congrArg (fun result : Action × σ => (Answer.ofAction result.1, result.2)) hresult
      rw [show provided state.acknowledged.target = _ from hresult] at honly ⊢
      rw [hanswered]
      -- only `ACT_RESUME` is answered
      cases act with
      | none => exact ⟨between, rfl, honly.target, hquiet, hregbuf⟩
      | shutdown => exact ⟨between, rfl, honly.target, hquiet, hregbuf⟩
      | resume =>
          have hsend : (gdbstubActResume : StubM σ Unit) between =
              (.ok (), between.reply (ascii "S" ++ hexByte gdbSignalTrap)) :=
            connSendPktstr_of_fits (by decide) between
          refine ⟨between.reply (ascii "S" ++ hexByte gdbSignalTrap), Program.bind_of_ok hsend _,
            honly.target, ?_, hregbuf⟩
          rw [replies_reply, hreplies]
          rfl

theorem triggers_cont : Triggers stub (ascii "c") stub.ops.cont .cont := by
  intro csumHigh csumLow
  rw [show ascii "c" = 99 :: [] from rfl, gdbstubProcessPacket_framed]
  rfl

theorem triggers_stepi : Triggers stub (ascii "s") stub.ops.stepi .step := by
  intro csumHigh csumLow
  rw [show ascii "s" = 115 :: [] from rfl, gdbstubProcessPacket_framed]
  rfl

/-- `vCont`, of whose actions only the first character counts. -/
theorem processVpacket_vCont (action : UInt8) (rest : List UInt8) :
    processVpacket stub (ascii "Cont" ++ semicolon :: action :: rest) =
      processVcont stub (some (action :: rest)) := by
  have hcut : cut semicolon (ascii "Cont" ++ semicolon :: action :: rest) =
      (ascii "Cont", some (action :: rest)) :=
    cut_append (by decide) (by decide) (by decide) _
  rw [processVpacket, hcut]
  dsimp only
  rw [if_pos rfl]

theorem triggers_vCont (rest : List UInt8) :
    Triggers stub (ascii "vCont;c" ++ rest) stub.ops.cont .cont := by
  intro csumHigh csumLow
  rw [show ascii "vCont;c" ++ rest = 118 :: (ascii "Cont" ++ semicolon :: 99 :: rest) from rfl,
    gdbstubProcessPacket_framed, List.append_assoc, List.cons_append, List.cons_append]
  show processVpacket stub
    (ascii "Cont" ++ semicolon :: 99 :: (rest ++ behindBody csumHigh csumLow)) = _
  rw [processVpacket_vCont]
  rfl

theorem triggers_vStep (rest : List UInt8) :
    Triggers stub (ascii "vCont;s" ++ rest) stub.ops.stepi .step := by
  intro csumHigh csumLow
  rw [show ascii "vCont;s" ++ rest = 118 :: (ascii "Cont" ++ semicolon :: 115 :: rest) from rfl,
    gdbstubProcessPacket_framed, List.append_assoc, List.cons_append, List.cons_append]
  show processVpacket stub
    (ascii "Cont" ++ semicolon :: 115 :: (rest ++ behindBody csumHigh csumLow)) = _
  rw [processVpacket_vCont]
  rfl

/-- `D` is answered, and is the end. -/
theorem gdbstubTurn_detach {state : StubState σ} (hsound : state.regbuf.Sound) :
    ∃ after, gdbstubTurn stub (Packet.ofFrame (pktstrFrame (ascii "D"))) state =
        (.ok (some true), after) ∧ Turned state after (.ok, state.target) := by
  obtain ⟨csumHigh, csumLow, hturn⟩ := gdbstubTurn_framed stub (ascii "D") state
  have hdetach : gdbstubProcessPacket stub
      (Packet.ofFrame (framed (ascii "D") csumHigh csumLow)) state.acknowledged =
        (.ok .detach, state.acknowledged.reply (ascii "OK")) := by
    rw [show ascii "D" = 68 :: [] from rfl, gdbstubProcessPacket_framed]
    exact Program.bind_of_ok (connSendPktstr_of_fits (by decide) _) _
  refine ⟨state.acknowledged.reply (ascii "OK"), ?_, rfl, ?_, hsound⟩
  · rw [hturn, Program.bind_of_ok hdetach]
    rfl
  · rw [replies_reply, replies_acknowledged]
    rfl

/-- **A turn.**  Whatever a packet asks for is done, answered and acknowledged. -/
theorem gdbstubTurn_asks (halloc : ∀ k bytes, stub.mallocs k bytes = true) {body : List UInt8}
    {ask : Ask} (hasks : Asks stub body ask) {state : StubState σ} (hsound : state.regbuf.Sound)
    (hfits : (stub.answer ask state.target).1.Fits) :
    ∃ after, gdbstubTurn stub (Packet.ofFrame (pktstrFrame body)) state =
        (.ok (ask.outcome (stub.answer ask state.target).1), after) ∧
      Turned state after (stub.answer ask state.target) := by
  cases hasks with
  | haltReason => exact gdbstubTurn_served served_haltReason hsound hfits
  | isAlive thread => exact gdbstubTurn_served (served_isAlive thread) hsound hfits
  | readRegs huniform => exact gdbstubTurn_served (served_readRegs halloc huniform) hsound hfits
  | writeRegs hdigits hdata hpos hbound hreads =>
      exact gdbstubTurn_served (served_writeRegs halloc hdigits hdata hpos hbound hreads) hsound
        hfits
  | readReg hnumber hregno hsize =>
      exact gdbstubTurn_served (served_readReg halloc hnumber hregno hsize) hsound hfits
  | writeReg hnumber hregno hdigits hdata hlength =>
      exact gdbstubTurn_served (served_writeReg halloc hnumber hregno hdigits hdata hlength)
        hsound hfits
  | readMem hrange => exact gdbstubTurn_served (served_readMem halloc hrange) hsound hfits
  | writeMem hrange hdigits hlength =>
      exact gdbstubTurn_served (served_writeMem halloc hrange hdigits hlength) hsound hfits
  | writeBinary hrange hescaped =>
      exact gdbstubTurn_served (served_writeBinary hrange hescaped) hsound hfits
  | setBp htype hlt hrange => exact gdbstubTurn_served (served_setBp htype hlt hrange) hsound hfits
  | delBp htype hlt hrange => exact gdbstubTurn_served (served_delBp htype hlt hrange) hsound hfits
  | setCpu hdigits hnonempty hvalue =>
      exact gdbstubTurn_served (served_setCpu hdigits hnonempty hvalue) hsound hfits
  | getCpu => exact gdbstubTurn_served served_getCpu hsound hfits
  | startNoAckMode => exact gdbstubTurn_served served_startNoAckMode hsound hfits
  | cont => exact gdbstubTurn_triggers triggers_cont (fun _ => handles_cont) hsound
  | vCont rest => exact gdbstubTurn_triggers (triggers_vCont rest) (fun _ => handles_cont) hsound
  | stepi => exact gdbstubTurn_triggers triggers_stepi (fun _ => handles_stepi) hsound
  | vStep rest => exact gdbstubTurn_triggers (triggers_vStep rest) (fun _ => handles_stepi) hsound
  | detach => exact gdbstubTurn_detach hsound

/-! ## A run -/

/-- A session with the target itself: the answers, how it ended, and the target afterwards. -/
def Gdbstub.session (stub : Gdbstub σ) : List Ask → σ → List Answer × Ended × σ
  | [], target => ([], .waits, target)
  | ask :: asks, target =>
      let answered := stub.answer ask target
      match ask.outcome answered.1 with
      | some ret => ([answered.1], .returned ret, answered.2)
      | none =>
          let rest := stub.session asks answered.2
          (answered.1 :: rest.1, rest.2)

/-- The first requests of a session have the first answers. -/
theorem session_take (count : ℕ) (asks : List Ask) :
    ∀ target : σ, (stub.session (asks.take count) target).1 <+: (stub.session asks target).1 := by
  induction asks generalizing count with
  | nil =>
      intro target
      rw [List.take_nil]
  | cons ask asks ih =>
      intro target
      cases count with
      | zero => exact List.nil_prefix
      | succ count =>
          rw [List.take_succ_cons, Gdbstub.session, Gdbstub.session]
          dsimp only
          split
          · exact List.prefix_rfl
          · exact (List.prefix_cons_inj _).mpr (ih count _)

/-- A session is that of the requests it has answered. -/
theorem session_answered (asks : List Ask) :
    ∀ target : σ, stub.session (asks.take (stub.session asks target).1.length) target =
      stub.session asks target := by
  induction asks with
  | nil =>
      intro target
      rw [List.take_nil]
  | cons ask asks ih =>
      intro target
      rw [Gdbstub.session]
      dsimp only
      cases houtcome : ask.outcome (stub.answer ask target).1 with
      | some ret =>
          dsimp only
          rw [List.length_singleton, List.take_succ_cons, Gdbstub.session, houtcome]
      | none =>
          dsimp only
          rw [List.length_cons, List.take_succ_cons, Gdbstub.session, houtcome]
          dsimp only
          rw [ih]

/-- The client does not ask for more at once than a reply can carry. -/
def Ask.Fits (stub : Gdbstub σ) : Ask → Prop
  | .readRegs => 2 * stub.totalRegBytes + 5 < maxSendPacketSize
  | .readReg regno => 2 * stub.regSize regno + 5 < maxSendPacketSize
  | .readMem _ len => 2 * len + 5 < maxSendPacketSize
  | _ => True

theorem length_readEach {op : σ → ℤ → (Int32 × List UInt8) × σ} (hop : stub.ops.readReg = some op)
    (todo : ℕ) :
    ∀ (i : ℕ) (target : σ) {values : List (List UInt8)},
      (readEach op todo i target).1 = .ok values →
      values.flatten.length = ((List.range' i todo).map stub.regSize).sum := by
  induction todo with
  | zero =>
      intro i target values hvalues
      cases hvalues
      rfl
  | succ todo ih =>
      intro i target values hvalues
      rw [readEach] at hvalues
      dsimp only at hvalues
      split at hvalues
      · rename_i hret
        cases hrest : (readEach op todo (i + 1) (op target i).2).1 with
        | error ret =>
            rw [hrest] at hvalues
            cases hvalues
        | ok rest =>
            rw [hrest] at hvalues
            cases hvalues
            have hlength : (op target i).1.2.length = stub.regSize i :=
              stub.ops.length_readReg op hop target i hret
            rw [List.flatten_cons, List.length_append, ih (i + 1) _ hrest, List.range'_succ,
              List.map_cons, List.sum_cons, hlength]
      · cases hvalues

theorem fits_ofRead {size : ℕ} (hsize : 2 * size + 5 < maxSendPacketSize)
    {result : Int32 × List UInt8} (hlength : result.1 = 0 → result.2.length = size) :
    (Answer.ofRead result).Fits := by
  rw [Answer.ofRead]
  split
  · rename_i hret
    show 2 * result.2.length + 5 < maxSendPacketSize
    rw [hlength hret]
    exact hsize
  · trivial

theorem fits_ofCode (ret : Int32) : (Answer.ofCode ret).Fits := by
  rw [Answer.ofCode]
  split <;> trivial

theorem fits_ofAction (act : Action) : (Answer.ofAction act).Fits := by
  cases act <;> trivial

theorem fits_transact (read : σ → ℤ → (Int32 × List UInt8) × σ)
    (write : σ → ℤ → List UInt8 → Int32 × σ) (values : List (List UInt8)) (target : σ) :
    (transact read write values target).1.Fits := by
  unfold transact
  split
  · trivial
  · split <;> trivial

/-- An operation that is missing is answered in few words. -/
theorem fits_answerWith {α : Type} {op : Option α} {call : α → σ → Answer × σ} {target : σ}
    (hcall : ∀ provided, op = some provided → (call provided target).1.Fits) :
    (answerWith op call target).1.Fits := by
  cases op with
  | none => trivial
  | some provided => exact hcall provided rfl

/-- A request for no more than that is answered with no more. -/
theorem answer_fits {ask : Ask} (hask : ask.Fits stub) (target : σ) :
    (stub.answer ask target).1.Fits := by
  cases ask with
  | haltReason => trivial
  | isAlive => trivial
  | readRegs =>
      refine fits_answerWith fun op hop => ?_
      split
      · rename_i values after hread
        have hvalues : (readEach op stub.arch.registers 0 target).1 = .ok values := by rw [hread]
        show 2 * values.flatten.length + 5 < maxSendPacketSize
        rw [length_readEach hop _ 0 target hvalues, ← List.range_eq_range',
          ← offset_eq_sum, ← stub.totalRegBytes_eq_offset]
        exact hask
      · trivial
  | writeRegs data =>
      exact fits_answerWith fun write _ => fits_answerWith fun read _ => fits_transact _ _ _ _
  | readReg regno =>
      exact fits_answerWith fun op hop => fits_ofRead hask (stub.ops.length_readReg op hop _ _)
  | writeReg regno data => exact fits_answerWith fun op _ => fits_ofCode _
  | readMem addr len =>
      exact fits_answerWith fun op hop => fits_ofRead hask (stub.ops.length_readMem op hop _ _ _)
  | writeMem addr data => exact fits_answerWith fun op _ => fits_ofCode _
  | writeBinary addr data => exact fits_answerWith fun op _ => trivial
  | setBp addr type =>
      refine fits_answerWith fun op _ => ?_
      dsimp only
      split <;> trivial
  | delBp addr type =>
      refine fits_answerWith fun op _ => ?_
      dsimp only
      split <;> trivial
  | setCpu cpuid => exact fits_answerWith fun op _ => trivial
  | getCpu =>
      rw [Gdbstub.answer]
      dsimp only
      split <;> trivial
  | startNoAckMode => trivial
  | cont => exact fits_answerWith fun op _ => fits_ofAction _
  | stepi => exact fits_answerWith fun op _ => fits_ofAction _
  | detach => trivial

theorem session_fits {asks : List Ask} (hasks : ∀ ask ∈ asks, ask.Fits stub) :
    ∀ target : σ, ∀ answer ∈ (stub.session asks target).1, answer.Fits := by
  induction asks with
  | nil => exact fun target answer hmem => absurd hmem List.not_mem_nil
  | cons ask asks ih =>
      intro target answer hmem
      have hfirst := answer_fits (hasks ask List.mem_cons_self) target
      rw [Gdbstub.session] at hmem
      dsimp only at hmem
      split at hmem
      · rw [List.mem_singleton.mp hmem]
        exact hfirst
      · rcases List.mem_cons.mp hmem with rfl | hmem
        · exact hfirst
        · exact ih (fun later hlater => hasks later (List.mem_cons_of_mem _ hlater)) _ answer hmem

/-- The replies that answers are sent as. -/
def replyFrames (answers : List Answer) : List (List UInt8) :=
  (answers.filterMap Answer.reply?).map pktstrFrame

/-- The packets that carry these bodies. -/
def packetsOf (bodies : List (List UInt8)) : List (Packet UInt8) :=
  bodies.map fun body => Packet.ofFrame (pktstrFrame body)

theorem replyFrames_cons (answer : Answer) (answers : List Answer) :
    replyFrames (answer :: answers) =
      (answer.reply?.map pktstrFrame).toList ++ replyFrames answers := by
  rw [replyFrames, List.filterMap_cons]
  cases answer.reply? with
  | none => rfl
  | some reply => rfl

/-- What a run leaves. -/
structure Served (state : StubState σ) (ran : Ended × StubState σ)
    (expected : List Answer × Ended × σ) : Prop where
  ended : ran.1 = expected.2.1
  target : ran.2.target = expected.2.2
  replies : ran.2.replies = state.replies ++ replyFrames expected.1

/-- **A run.**  The packets of a session with the stub are served as the session with the target. -/
theorem gdbstubRun_asks (halloc : ∀ k bytes, stub.mallocs k bytes = true)
    {bodies : List (List UInt8)} {asks : List Ask} (hasks : List.Forall₂ (Asks stub) bodies asks) :
    ∀ {state : StubState σ}, state.regbuf.Sound →
      (∀ answer ∈ (stub.session asks state.target).1, answer.Fits) →
      Served state (gdbstubRun stub (packetsOf bodies) state) (stub.session asks state.target) := by
  induction hasks with
  | nil =>
      intro state hsound hfits
      exact ⟨rfl, rfl, (List.append_nil _).symm⟩
  | @cons body ask bodies asks hask hasks ih =>
      intro state hsound hfits
      rw [Gdbstub.session] at hfits ⊢
      rcases hanswered : stub.answer ask state.target with ⟨answer, target⟩
      rw [hanswered] at hfits
      have hfirst : answer.Fits := by
        refine hfits answer ?_
        dsimp only
        split
        · exact List.mem_singleton_self answer
        · exact List.mem_cons_self
      obtain ⟨after, hturn, hturned⟩ :=
        gdbstubTurn_asks halloc hask hsound (by rw [hanswered]; exact hfirst)
      rw [hanswered] at hturn hturned
      dsimp only at hfits hturn ⊢
      -- an answer that ends the session leaves the later requests unanswered
      cases houtcome : ask.outcome answer with
      | some ret =>
          rw [houtcome] at hturn
          have hrun := gdbstubRun_cons_of_some hturn (packetsOf bodies)
          rw [show packetsOf (body :: bodies) =
            Packet.ofFrame (pktstrFrame body) :: packetsOf bodies from rfl, hrun]
          refine ⟨rfl, hturned.target, ?_⟩
          rw [hturned.replies, replyFrames_cons]
          exact congrArg (state.replies ++ ·) (List.append_nil _).symm
      | none =>
          rw [houtcome] at hturn hfits
          have hrun := gdbstubRun_cons_of_none hturn (packetsOf bodies)
          rw [show packetsOf (body :: bodies) =
            Packet.ofFrame (pktstrFrame body) :: packetsOf bodies from rfl, hrun]
          have htarget : after.target = target := hturned.target
          have hrest := ih hturned.regbuf fun answer hmem =>
            hfits answer (List.mem_cons_of_mem _ (htarget ▸ hmem))
          rw [htarget] at hrest
          refine ⟨hrest.ended, hrest.target, ?_⟩
          rw [hrest.replies, hturned.replies, replyFrames_cons, List.append_assoc]

/-! ## Corrupted packets in between -/

/-- There are never so many corrupted packets in a row that the stub gives up. -/
def FewCorrupted (pkts : List (Packet UInt8)) : Prop :=
  ∀ before row after, pkts = before ++ row ++ after → (∀ pkt ∈ row, Corrupted pkt) →
    row.length < connMaxFailures

theorem fewCorrupted_of_length {pkts : List (Packet UInt8)}
    (hlength : pkts.length < connMaxFailures) : FewCorrupted pkts := by
  intro before row after hpkts hrow
  rw [hpkts, List.length_append, List.length_append] at hlength
  omega

theorem gdbstubRun_goesOn {pkts : List (Packet UInt8)} (hfew : FewCorrupted pkts)
    {state : StubState σ} (hcount : state.failureCount = 0) :
    (gdbstubRun stub pkts state).1 ≠ .returned false := by
  intro hgivesUp
  obtain ⟨served, row, after, hpkts, hrow, hlength, -⟩ :=
    gdbstubRun_givesUp stub pkts (SameEffect.refl state) (by rw [hcount]; decide) hgivesUp
  have hshort := hfew served row after hpkts hrow
  rcases hlength with hlength | ⟨-, hlength⟩
  · omega
  · omega

/-- A run on packets some of which are corrupted. -/
theorem gdbstubRun_carries (halloc : ∀ k bytes, stub.mallocs k bytes = true)
    {pkts : List (Packet UInt8)} {bodies : List (List UInt8)} {asks : List Ask}
    (hpkts : intactPackets pkts = packetsOf bodies) (hfew : FewCorrupted pkts)
    (hasks : List.Forall₂ (Asks stub) bodies asks) {state : StubState σ}
    (hsound : state.regbuf.Sound) (hcount : state.failureCount = 0)
    (hfits : ∀ answer ∈ (stub.session asks state.target).1, answer.Fits) :
    Served state (gdbstubRun stub pkts state) (stub.session asks state.target) := by
  obtain ⟨hended, hsame⟩ := gdbstubRun_same stub pkts (SameEffect.refl state)
    (gdbstubRun_goesOn hfew hcount)
  have hserved := gdbstubRun_asks halloc hasks hsound hfits
  rw [hpkts] at hended hsame
  exact ⟨hended.trans hserved.ended, hsame.target.trans hserved.target,
    hsame.replies.trans hserved.replies⟩

/-- **A session with the stub is a session with the target.**  The client's packets, with corrupted
ones between them, leave the target as the calls they spell do, and what is sent back are their
answers, in their order: what the calls return, or `OK` after an `X`. -/
theorem session_served (halloc : ∀ k bytes, stub.mallocs k bytes = true)
    {pkts : List (Packet UInt8)} {bodies : List (List UInt8)} {asks : List Ask}
    (hpkts : intactPackets pkts = packetsOf bodies) (hfew : FewCorrupted pkts)
    (hasks : List.Forall₂ (Asks stub) bodies asks) (target : σ)
    (hfits : ∀ answer ∈ (stub.session asks target).1, answer.Fits) :
    Served (StubState.init target) (gdbstubRun stub pkts (StubState.init target))
      (stub.session asks target) :=
  gdbstubRun_carries halloc hpkts hfew hasks regbufInit_sound rfl hfits

end

/-! ## A session -/

/-- `M10,2:aBcD` and then `m11,2` and `?`. -/
def overlapAsks : List Ask :=
  [.writeMem 16 [0xab, 0xcd], .readMem 17 2, .haltReason]

def overlapBodies : List (List UInt8) :=
  [ascii "M10,2:aBcD", ascii "m11,2", ascii "?"]

theorem overlap_asks {stub : Gdbstub σ} :
    List.Forall₂ (Asks stub) overlapBodies overlapAsks := by
  have hrange : MemoryRange (ascii "10,2") 16 2 :=
    ⟨⟨ascii "10", ascii "2", .of_all (by decide), .of_all (by decide), rfl⟩,
      by decide, by decide⟩
  have hreadRange : MemoryRange (ascii "11,2") 17 2 :=
    ⟨⟨ascii "11", ascii "2", .of_all (by decide), .of_all (by decide), rfl⟩,
      by decide, by decide⟩
  have hdigits : HexData (ascii "aBcD") [0xab, 0xcd] :=
    .cons (show hexValue? 97 = some 10 by decide) (show hexValue? 66 = some 11 by decide)
      (.cons (show hexValue? 99 = some 12 by decide) (show hexValue? 68 = some 13 by decide) .nil)
  exact .cons (.writeMem hrange hdigits (by decide)) (.cons (.readMem hreadRange)
    (.cons .haltReason .nil))

/-- The second packet is corrupted. -/
def overlapPackets : List (Packet UInt8) :=
  [Packet.ofFrame (pktstrFrame (ascii "M10,2:aBcD")), Packet.ofFrame (ascii "$m11,2#00"),
    Packet.ofFrame (pktstrFrame (ascii "m11,2")), Packet.ofFrame (pktstrFrame (ascii "?"))]

theorem overlap_intact : intactPackets overlapPackets = packetsOf overlapBodies := by
  decide +kernel

theorem overlap_session :
    ((byteStoreStub fun addr len => addr + len ≤ 2 ^ 64).session overlapAsks fun _ => 7).1 =
      [.ok, .data [0xcd, 7], .stopped] := by
  decide +kernel

theorem session_served_overlap :
    let stub := byteStoreStub fun addr len => addr + len ≤ 2 ^ 64
    Served (StubState.init fun _ => 7)
      (gdbstubRun stub overlapPackets (StubState.init fun _ => 7))
      (stub.session overlapAsks fun _ => 7) := by
  intro stub
  refine session_served (fun _ _ => rfl) overlap_intact (fewCorrupted_of_length (by decide))
    overlap_asks (fun _ => 7) ?_
  rw [overlap_session]
  simp [Answer.Fits, maxSendPacketSize]

end MiniGdbstub
