import MiniGdbstub.Handlers

/-!
# How many replies a request gets

Every function that `gdbstub_process_packet` calls sends a fixed number of replies when it
returns: none, or one.  `SendsFor count` says so, where the number may depend on the value
returned; its rules follow the constructors of programs, and each handler has one lemma.
The dispatcher replies once and leaves it to the caller to reply only when its event is a
continue or a step (`sendsFor_gdbstubProcessPacket`).

The same lemmas show that no handler turns `no_ack_mode` off, and that the calls of the
target only grow.
-/

namespace MiniGdbstub

open CString

variable {σ α β : Type} (stub : Gdbstub σ)

/-- Between the two states `count` packets were sent, and nothing else; `no_ack_mode` was not
turned off. -/
structure Replied (count : ℕ) (before after : StubState σ) : Prop where
  sent : ∃ replies : List (List UInt8), replies.length = count ∧
    after.sent = before.sent ++ replies.map pktstrFrame
  noAckMode : before.noAckMode = true → after.noAckMode = true
  calls : before.calls <+: after.calls

theorem Replied.of_eq {before after : StubState σ} (hsent : after.sent = before.sent)
    (hmode : after.noAckMode = before.noAckMode) (hcalls : before.calls <+: after.calls) :
    Replied 0 before after :=
  ⟨⟨[], rfl, by rw [hsent, List.map_nil, List.append_nil]⟩, fun hon => hmode.trans hon, hcalls⟩

theorem Replied.trans {first second : ℕ} {before between after : StubState σ}
    (hfirst : Replied first before between) (hsecond : Replied second between after) :
    Replied (first + second) before after := by
  obtain ⟨earlier, hearlier, hbetween⟩ := hfirst.sent
  obtain ⟨later, hlater, hafter⟩ := hsecond.sent
  refine ⟨⟨earlier ++ later, ?_, ?_⟩, fun hon => hsecond.noAckMode (hfirst.noAckMode hon),
    hfirst.calls.trans hsecond.calls⟩
  · rw [List.length_append, hearlier, hlater]
  · rw [hafter, hbetween, List.map_append, List.append_assoc]

/-- When the program returns, it has sent as many packets as `count` gives for its
value. -/
def SendsFor (count : α → ℕ) (program : StubM σ α) : Prop :=
  Program.Ensures program fun before value after => Replied (count value) before after

/-- When the program returns, it has sent nothing. -/
abbrev Quiet (program : StubM σ α) : Prop := SendsFor (fun _ => 0) program

/-- When the program returns, it has sent one packet. -/
abbrev RepliesOnce (program : StubM σ α) : Prop := SendsFor (fun _ => 1) program

/-! ## Rules -/

section

variable {count : α → ℕ} {total : β → ℕ}

theorem SendsFor.pure {value : α} (hzero : count value = 0) :
    SendsFor count (pure value : StubM σ α) := by
  apply Program.Ensures.of_pure
  intro state
  rw [hzero]
  exact Replied.of_eq rfl rfl (List.prefix_refl _)

theorem SendsFor.fail (fault : Fault) : SendsFor count (Program.fail fault : StubM σ α) :=
  Program.Ensures.of_fail

theorem Quiet.lift (result : Except Fault α) : Quiet (Program.lift result : StubM σ α) := by
  apply Program.Ensures.of_lift
  intro state value _
  exact Replied.of_eq rfl rfl (List.prefix_refl _)

theorem Quiet.get : Quiet (Program.get : StubM σ (StubState σ)) := by
  apply Program.Ensures.of_get
  intro state
  exact Replied.of_eq rfl rfl (List.prefix_refl _)

theorem Quiet.update {change : StubState σ → StubState σ}
    (hsent : ∀ state, (change state).sent = state.sent)
    (hmode : ∀ state, state.noAckMode = true → (change state).noAckMode = true)
    (hcalls : ∀ state, (change state).calls = state.calls) :
    Quiet (Program.update change : StubM σ Unit) := by
  apply Program.Ensures.of_update
  intro state
  exact ⟨⟨[], rfl, by rw [hsent, List.map_nil, List.append_nil]⟩, hmode state,
    (hcalls state).symm ▸ List.prefix_refl _⟩

/-- A part that sends nothing comes first. -/
theorem SendsFor.bind {first : StubM σ α} {next : α → StubM σ β} (hfirst : Quiet first)
    (hnext : ∀ value, SendsFor total (next value)) : SendsFor total (first >>= next) := by
  refine Program.Ensures.bind hfirst ?_
  intro value between result after hresult state hbetween
  have hboth := hbetween.trans (hnext value between result after hresult)
  rwa [Nat.zero_add] at hboth

/-- A part that sends nothing comes last. -/
theorem SendsFor.before {n : ℕ} {first : StubM σ α} {next : α → StubM σ β}
    (hfirst : SendsFor (fun _ => n) first)
    (hnext : ∀ value, Program.Ensures (next value) fun between result after =>
      total result = n ∧ Replied 0 between after) : SendsFor total (first >>= next) := by
  refine Program.Ensures.bind hfirst ?_
  intro value between result after hresult state hbetween
  obtain ⟨htotal, hafter⟩ := hnext value between result after hresult
  rw [htotal]
  exact hbetween.trans hafter

theorem SendsFor.thenReturn {n : ℕ} {first : StubM σ α} {value : β}
    (hfirst : SendsFor (fun _ => n) first) (htotal : total value = n) :
    SendsFor total (first >>= fun _ => Pure.pure value) := by
  apply SendsFor.before hfirst
  intro _
  apply Program.Ensures.of_pure
  intro state
  exact ⟨htotal, Replied.of_eq rfl rfl (List.prefix_refl _)⟩

theorem SendsFor.ite {condition : Prop} [Decidable condition] {yes no : StubM σ α}
    (hyes : SendsFor count yes) (hno : SendsFor count no) :
    SendsFor count (if condition then yes else no) :=
  Program.Ensures.ite (fun _ => hyes) (fun _ => hno)

end

/-! ## Memory, the target, the connection -/

theorem quiet_malloc (bytes : ℕ) : Quiet (malloc stub bytes) := by
  apply SendsFor.bind Quiet.get
  intro state
  apply SendsFor.bind
  · exact Quiet.update (fun _ => rfl) (fun _ hon => hon) fun _ => rfl
  · intro _
    exact SendsFor.pure rfl

theorem quiet_regbufGet (regSz : ℕ) : Quiet (regbufGet stub regSz) := by
  intro state buf after hget
  obtain ⟨-, hsent, hcalls, hmode⟩ := regbufGet_frame stub hget
  exact Replied.of_eq hsent hmode (hcalls ▸ List.prefix_refl _)

theorem quiet_callOp (op : Option (σ → α × σ)) (call : α → TargetCall) :
    Quiet (callOp op call) := by
  cases op with
  | none => exact SendsFor.fail .nullCall
  | some op =>
      intro state value after heq
      cases heq
      exact Replied.of_eq rfl rfl (List.prefix_append _ _)

/-- A read stores its value behind a pointer. -/
theorem quiet_callRead (op : Option (σ → (Int32 × List UInt8) × σ))
    (call : Int32 × List UInt8 → TargetCall) (room : Option ℕ) :
    Quiet (do
      let (ret, bytes) ← callOp op call
      if ret = 0 then
        Program.lift (storeAt room bytes.length)
        return (ret, bytes)
      else
        return (ret, bytes) : StubM σ (Int32 × List UInt8)) := by
  apply SendsFor.bind (quiet_callOp _ _)
  rintro ⟨ret, bytes⟩
  apply SendsFor.ite
  · apply SendsFor.bind (Quiet.lift _)
    intro _
    exact SendsFor.pure rfl
  · exact SendsFor.pure rfl

theorem quiet_callReadReg (regno : ℤ) (value : Option ℕ) :
    Quiet (callReadReg stub regno value) :=
  quiet_callRead _ _ value

theorem quiet_callReadMem (addr len : ℕ) (val : Option ℕ) :
    Quiet (callReadMem stub addr len val) :=
  quiet_callRead _ _ val

theorem repliesOnce_connSendPktstr (pktstr : List UInt8) :
    RepliesOnce (connSendPktstr pktstr : StubM σ Unit) := by
  apply SendsFor.ite
  · apply Program.Ensures.of_update
    intro state
    exact ⟨⟨[pktstr], rfl, rfl⟩, fun hon => hon, List.prefix_refl _⟩
  · exact SendsFor.fail .sendAssertFail

theorem repliesOnce_connSendPktbuf (packetStr : List UInt8) :
    RepliesOnce (connSendPktbuf packetStr : StubM σ Unit) := by
  apply SendsFor.bind (Quiet.lift _)
  intro pktstr
  exact repliesOnce_connSendPktstr pktstr

/-- Bytes in hexadecimal, by way of an array. -/
theorem repliesOnce_replyHex (num : List UInt8) (bytes : ℤ) (block : List UInt8) :
    RepliesOnce (do
      let hex ← Program.lift (hexToStr num bytes)
      let packetStr ← Program.lift (inBounds (Block.write? block 0 hex))
      connSendPktbuf packetStr : StubM σ Unit) := by
  apply SendsFor.bind (Quiet.lift _)
  intro hex
  apply SendsFor.bind (Quiet.lift _)
  intro packetStr
  exact repliesOnce_connSendPktbuf packetStr

/-! ## Registers and memory -/

theorem quiet_regReadLoop (todo : ℕ) : ∀ (i : ℕ) (packetStr : List UInt8),
    Quiet (regReadLoop stub todo i packetStr) := by
  induction todo with
  | zero =>
      intro i packetStr
      exact SendsFor.pure rfl
  | succ todo ih =>
      intro i packetStr
      apply SendsFor.bind (quiet_regbufGet stub _)
      intro regValue
      apply SendsFor.bind (quiet_callReadReg stub _ _)
      rintro ⟨ret, value⟩
      apply SendsFor.ite
      · apply SendsFor.bind (Quiet.lift _)
        intro hex
        apply SendsFor.bind (Quiet.lift _)
        intro packetStr
        exact ih _ _
      · exact Quiet.lift _

theorem repliesOnce_processRegRead : RepliesOnce (processRegRead stub) := by
  apply SendsFor.bind (quiet_regReadLoop stub _ _ _)
  intro packetStr
  exact repliesOnce_connSendPktbuf packetStr

theorem repliesOnce_processRegReadOne (payload : List UInt8) :
    RepliesOnce (processRegReadOne stub payload) := by
  unfold processRegReadOne
  split
  · apply SendsFor.bind (quiet_regbufGet stub _)
    intro regValue
    apply SendsFor.bind (quiet_callReadReg stub _ _)
    rintro ⟨ret, value⟩
    apply SendsFor.ite
    · exact repliesOnce_replyHex _ _ _
    · exact repliesOnce_connSendPktstr _
  · exact SendsFor.fail .assertFail

theorem quiet_regWriteParse (payload : List UInt8) (todo : ℕ) :
    ∀ (i payloadOffset storageOffset : ℕ) (newValues backupValues : List UInt8),
      Quiet (regWriteParse stub payload todo i payloadOffset storageOffset newValues
        backupValues) := by
  induction todo with
  | zero =>
      intro i payloadOffset storageOffset newValues backupValues
      exact SendsFor.pure rfl
  | succ todo ih =>
      intro i payloadOffset storageOffset newValues backupValues
      apply SendsFor.bind (Quiet.lift _)
      intro value
      apply SendsFor.bind (Quiet.lift _)
      intro newValues
      apply SendsFor.bind (quiet_callReadReg stub _ _)
      rintro ⟨ret, old⟩
      apply SendsFor.ite
      · apply SendsFor.bind (Quiet.lift _)
        intro backupValues
        exact ih _ _ _ _ _
      · exact SendsFor.pure rfl

theorem quiet_regWriteCommit (newValues : List UInt8) (todo : ℕ) :
    ∀ i storageOffset, Quiet (regWriteCommit stub newValues todo i storageOffset) := by
  induction todo with
  | zero =>
      intro i storageOffset
      exact SendsFor.pure rfl
  | succ todo ih =>
      intro i storageOffset
      apply SendsFor.bind (quiet_callOp _ _)
      intro ret
      exact SendsFor.ite (ih _ _) (SendsFor.pure rfl)

theorem quiet_regWriteRollback (backupValues : List UInt8) (todo : ℕ) :
    ∀ i storageOffset, Quiet (regWriteRollback stub backupValues todo i storageOffset) := by
  induction todo with
  | zero =>
      intro i storageOffset
      exact SendsFor.pure rfl
  | succ todo ih =>
      intro i storageOffset
      apply SendsFor.bind (quiet_callOp _ _)
      intro ret
      exact ih _ _

theorem repliesOnce_processRegWrite (payload : List UInt8) :
    RepliesOnce (processRegWrite stub payload) := by
  apply SendsFor.ite (repliesOnce_connSendPktstr _)
  apply SendsFor.ite (repliesOnce_connSendPktstr _)
  apply SendsFor.bind (quiet_malloc stub _)
  intro newValues
  apply SendsFor.bind (quiet_malloc stub _)
  intro backupValues
  apply SendsFor.ite (repliesOnce_connSendPktstr _)
  apply SendsFor.bind (quiet_regWriteParse stub _ _ _ _ _ _ _)
  rintro (ret | ⟨newValues, backupValues⟩)
  · exact repliesOnce_connSendPktstr _
  · apply SendsFor.bind (quiet_regWriteCommit stub _ _ _ _)
    rintro (_ | ⟨failedRegno, errorCode⟩)
    · exact repliesOnce_connSendPktstr _
    · apply SendsFor.bind (quiet_regWriteRollback stub _ _ _ _)
      intro _
      exact repliesOnce_connSendPktstr _

theorem repliesOnce_processRegWriteOne (payload : List UInt8) :
    RepliesOnce (processRegWriteOne stub payload) := by
  unfold processRegWriteOne
  dsimp only
  split
  · apply SendsFor.bind (quiet_regbufGet stub _)
    intro buf
    split
    · exact SendsFor.fail .nullDeref
    · apply SendsFor.ite
      · apply SendsFor.bind (Quiet.lift _)
        intro data
        apply SendsFor.bind (Quiet.lift _)
        intro _
        apply SendsFor.bind (quiet_callOp _ _)
        intro ret
        exact SendsFor.ite (repliesOnce_connSendPktstr _) (repliesOnce_connSendPktstr _)
      · exact SendsFor.fail .assertFail
  · exact SendsFor.fail .assertFail

theorem repliesOnce_processMemRead (payload : List UInt8) :
    RepliesOnce (processMemRead stub payload) := by
  unfold processMemRead
  split
  · apply SendsFor.bind (quiet_malloc stub _)
    intro mval
    apply SendsFor.bind (quiet_callReadMem stub _ _ _)
    rintro ⟨ret, value⟩
    apply SendsFor.ite
    · exact repliesOnce_replyHex _ _ _
    · exact repliesOnce_connSendPktstr _
  · exact SendsFor.fail .assertFail

theorem repliesOnce_processMemWrite (payload : List UInt8) :
    RepliesOnce (processMemWrite stub payload) := by
  unfold processMemWrite
  dsimp only
  split
  · apply SendsFor.bind (quiet_malloc stub _)
    intro mval
    apply SendsFor.bind (Quiet.lift _)
    intro data
    apply SendsFor.bind (quiet_callOp _ _)
    intro ret
    exact SendsFor.ite (repliesOnce_connSendPktstr _) (repliesOnce_connSendPktstr _)
  · exact SendsFor.fail .assertFail

theorem repliesOnce_processMemXwrite (payload : List UInt8) (packetEnd : ℕ) :
    RepliesOnce (processMemXwrite stub payload packetEnd) := by
  unfold processMemXwrite
  dsimp only
  split
  · split
    · exact SendsFor.fail .nullDeref
    · apply SendsFor.bind (Quiet.lift _)
      rintro ⟨count, content⟩
      apply SendsFor.ite
      · apply SendsFor.bind (quiet_callOp _ _)
        intro ret
        exact repliesOnce_connSendPktstr _
      · exact SendsFor.fail .assertFail
  · exact SendsFor.fail .assertFail

/-! ## Queries -/

theorem repliesOnce_xferReply (targetDesc : List UInt8) (offset length : ℤ) :
    RepliesOnce (xferReply stub targetDesc offset length) := by
  apply SendsFor.ite (SendsFor.fail .outOfBounds)
  apply SendsFor.bind (Quiet.lift _)
  intro buf
  exact repliesOnce_connSendPktbuf buf

theorem repliesOnce_xferTokens (targetDesc args : List UInt8) :
    RepliesOnce (xferTokens stub targetDesc args) := by
  unfold xferTokens
  split
  · exact SendsFor.fail .nullDeref
  apply SendsFor.ite _ (SendsFor.fail .assertFail)
  split
  · exact SendsFor.fail .nullDeref
  apply SendsFor.ite _ (SendsFor.fail .assertFail)
  split
  · exact SendsFor.fail .nullDeref
  split <;> exact repliesOnce_xferReply stub _ _ _

theorem quiet_strtokStart (args : Option (List UInt8)) : Quiet (strtokStart stub args) := by
  apply SendsFor.bind Quiet.get
  intro state
  have hbegun : Quiet (Program.update StubState.begun : StubM σ Unit) :=
    Quiet.update (fun _ => rfl) (fun _ hmode => hmode) fun _ => rfl
  apply SendsFor.bind hbegun
  intro _
  split
  · exact SendsFor.pure rfl
  · exact SendsFor.ite (SendsFor.fail .nullDeref) (SendsFor.pure rfl)

theorem repliesOnce_xferFeatures (targetDesc : List UInt8) (args : Option (List UInt8)) :
    RepliesOnce (xferFeatures stub targetDesc args) := by
  apply SendsFor.bind (quiet_strtokStart stub args)
  intro args
  exact repliesOnce_xferTokens stub targetDesc args

theorem repliesOnce_processXfer (s : Option (List UInt8)) :
    RepliesOnce (processXfer stub s) := by
  cases s with
  | none => exact SendsFor.fail .nullDeref
  | some s =>
      unfold processXfer
      dsimp only
      split
      · exact SendsFor.ite (repliesOnce_xferFeatures stub _ _) (repliesOnce_connSendPktstr _)
      · exact repliesOnce_connSendPktstr _

theorem quiet_threadInfoLoop (todo : ℕ) : ∀ (cpuid : ℕ) (packetStr : List UInt8),
    Quiet (threadInfoLoop todo cpuid packetStr : StubM σ (List UInt8)) := by
  induction todo with
  | zero =>
      intro cpuid packetStr
      exact Quiet.lift _
  | succ todo ih =>
      intro cpuid packetStr
      apply SendsFor.bind (Quiet.lift _)
      intro packetStr
      exact ih _ _

theorem repliesOnce_processThreadInfo : RepliesOnce (processThreadInfo stub) := by
  apply SendsFor.ite _ (SendsFor.fail .assertFail)
  apply SendsFor.bind (Quiet.lift _)
  intro packetStr
  apply SendsFor.bind (quiet_threadInfoLoop _ _ _)
  intro packetStr
  exact repliesOnce_connSendPktbuf packetStr

theorem repliesOnce_processQuery (payload : List UInt8) :
    RepliesOnce (processQuery stub payload) := by
  unfold processQuery
  dsimp only
  apply SendsFor.ite
  · apply SendsFor.ite _ (repliesOnce_connSendPktstr _)
    apply SendsFor.bind (quiet_callOp _ _)
    intro cpuid
    exact repliesOnce_connSendPktstr _
  apply SendsFor.ite
  · exact SendsFor.ite (repliesOnce_connSendPktstr _) (repliesOnce_connSendPktstr _)
  apply SendsFor.ite (repliesOnce_connSendPktstr _)
  apply SendsFor.ite (repliesOnce_processXfer stub _)
  apply SendsFor.ite (repliesOnce_connSendPktstr _)
  apply SendsFor.ite (repliesOnce_processThreadInfo stub)
  exact SendsFor.ite (repliesOnce_connSendPktstr _) (repliesOnce_connSendPktstr _)

theorem repliesOnce_processGeneralSet (payload : List UInt8) :
    RepliesOnce (processGeneralSet payload : StubM σ Unit) := by
  unfold processGeneralSet
  dsimp only
  apply SendsFor.ite _ (repliesOnce_connSendPktstr _)
  apply SendsFor.bind
  · exact Quiet.update (fun _ => rfl) (fun _ _ => rfl) fun _ => rfl
  · intro _
    exact repliesOnce_connSendPktstr _

/-! ## Breakpoints and CPUs -/

theorem repliesOnce_processBreakPoints {op : ℕ → ℕ → StubM σ Bool}
    (hop : ∀ addr type, Quiet (op addr type)) (payload : List UInt8) :
    RepliesOnce (processBreakPoints op payload) := by
  unfold processBreakPoints
  split
  · apply SendsFor.bind (hop _ _)
    intro ret
    exact SendsFor.ite (repliesOnce_connSendPktstr _) (repliesOnce_connSendPktstr _)
  · exact SendsFor.fail .assertFail

theorem repliesOnce_processSetCpu (payload : List UInt8) :
    RepliesOnce (processSetCpu stub payload) := by
  unfold processSetCpu
  apply SendsFor.ite _ (repliesOnce_connSendPktstr _)
  split
  · exact SendsFor.fail .assertFail
  · apply SendsFor.bind (quiet_callOp _ _)
    intro _
    exact repliesOnce_connSendPktstr _

/-! ## The dispatcher -/

/-- How many replies have been sent when a handler returns this event: the reply to a
continue or a step is sent when the target stops. -/
def Event.replies : Event → ℕ
  | .none => 1
  | .detach => 1
  | .cont => 0
  | .step => 0

theorem sendsFor_processCont : SendsFor Event.replies (processCont stub) := by
  apply SendsFor.ite
  · exact SendsFor.pure rfl
  · exact SendsFor.thenReturn (repliesOnce_connSendPktstr _) rfl

theorem sendsFor_processStepi : SendsFor Event.replies (processStepi stub) := by
  apply SendsFor.ite
  · exact SendsFor.pure rfl
  · exact SendsFor.thenReturn (repliesOnce_connSendPktstr _) rfl

theorem sendsFor_processVpacket (payload : List UInt8) :
    SendsFor Event.replies (processVpacket stub payload) := by
  unfold processVpacket
  dsimp only
  apply SendsFor.ite
  · unfold processVcont
    split
    · exact SendsFor.fail .nullDeref
    apply SendsFor.ite (sendsFor_processCont stub)
    apply SendsFor.ite (sendsFor_processStepi stub)
    exact SendsFor.thenReturn (repliesOnce_connSendPktstr _) rfl
  apply SendsFor.ite
  · exact SendsFor.thenReturn (repliesOnce_connSendPktstr _) rfl
  · exact SendsFor.thenReturn (repliesOnce_connSendPktstr _) rfl

theorem sendsFor_ifProvided {provided : Bool} {handler : StubM σ Unit}
    (hhandler : RepliesOnce handler) : SendsFor Event.replies (ifProvided provided handler) := by
  apply SendsFor.ite
  · exact SendsFor.thenReturn hhandler rfl
  · exact SendsFor.thenReturn (repliesOnce_connSendPktstr _) rfl

theorem sendsFor_dispatch (request : UInt8) (payload : List UInt8) (packetEnd : ℕ) :
    SendsFor Event.replies (dispatch stub request payload packetEnd) := by
  unfold dispatch
  split
  · exact sendsFor_processCont stub
  · exact sendsFor_ifProvided (repliesOnce_processRegRead stub)
  · exact sendsFor_ifProvided (repliesOnce_processMemRead stub payload)
  · exact sendsFor_ifProvided (repliesOnce_processRegReadOne stub payload)
  · exact SendsFor.thenReturn (repliesOnce_processQuery stub payload) rfl
  · exact SendsFor.thenReturn (repliesOnce_processGeneralSet payload) rfl
  · exact sendsFor_processStepi stub
  · exact sendsFor_processVpacket stub payload
  · exact sendsFor_ifProvided (repliesOnce_processBreakPoints (fun _ _ => quiet_callOp _ _) _)
  · exact SendsFor.thenReturn (repliesOnce_connSendPktstr _) rfl
  · exact SendsFor.thenReturn (repliesOnce_connSendPktstr _) rfl
  · exact sendsFor_ifProvided (repliesOnce_processRegWrite stub payload)
  · exact sendsFor_ifProvided (repliesOnce_processSetCpu stub payload)
  · exact sendsFor_ifProvided (repliesOnce_processMemWrite stub payload)
  · exact sendsFor_ifProvided (repliesOnce_processRegWriteOne stub payload)
  · exact SendsFor.thenReturn (repliesOnce_connSendPktstr _) rfl
  · exact sendsFor_ifProvided (repliesOnce_processMemXwrite stub payload packetEnd)
  · exact sendsFor_ifProvided (repliesOnce_processBreakPoints (fun _ _ => quiet_callOp _ _) _)
  · exact SendsFor.thenReturn (repliesOnce_connSendPktstr _) rfl

/-- **Every request that is not a continue or a step has one reply.** -/
theorem sendsFor_gdbstubProcessPacket (inpkt : Packet UInt8) :
    SendsFor Event.replies (gdbstubProcessPacket stub inpkt) := by
  apply SendsFor.ite _ (SendsFor.fail .assertFail)
  apply SendsFor.bind (Quiet.lift _)
  intro data
  apply SendsFor.bind (Quiet.lift _)
  intro request
  exact sendsFor_dispatch stub _ _ _

/-! ## The main thread's turn -/

theorem quiet_gdbstubHandleEvent (event : Event) : Quiet (gdbstubHandleEvent stub event) := by
  cases event with
  | none => exact SendsFor.pure rfl
  | cont =>
      apply SendsFor.bind
      · exact Quiet.update (fun _ => rfl) (fun _ hon => hon) fun _ => rfl
      intro _
      apply SendsFor.bind (quiet_callOp _ _)
      intro act
      apply SendsFor.bind
      · exact Quiet.update (fun _ => rfl) (fun _ hon => hon) fun _ => rfl
      intro _
      exact SendsFor.pure rfl
  | detach => exact SendsFor.pure rfl
  | step => exact quiet_callOp _ _

/-- What the main thread has done when it has served a packet with a good checksum. -/
theorem gdbstubServe_ok {pkt : Packet UInt8} {state after : StubState σ} {ret : Option Bool}
    (hserve : gdbstubServe stub pkt true state = (.ok ret, after)) :
    ∃ event processed act handled,
      gdbstubProcessPacket stub pkt { state with failureCount := 0 } = (.ok event, processed) ∧
      gdbstubHandleEvent stub event processed = (.ok act, handled) ∧
      (act = .resume ∧ ret = none ∧ after = handled.reply (ascii "S05") ∨
        act = .shutdown ∧ ret = some true ∧ after = handled ∨
        act = .none ∧ ret = none ∧ after = handled) := by
  unfold gdbstubServe at hserve
  rw [if_pos rfl, Program.update_bind] at hserve
  obtain ⟨event, processed, hevent, hserve⟩ := Program.ok_bind_iff.mp hserve
  obtain ⟨act, handled, hact, hserve⟩ := Program.ok_bind_iff.mp hserve
  refine ⟨event, processed, act, handled, hevent, hact, ?_⟩
  cases act with
  | none =>
      cases hserve
      exact .inr (.inr ⟨rfl, rfl, rfl⟩)
  | resume =>
      obtain ⟨_, replied, hreply, hserve⟩ := Program.ok_bind_iff.mp hserve
      have hsignal : gdbstubActResume handled = (.ok (), handled.reply (ascii "S05")) :=
        connSendPktstr_of_fits (by decide) handled
      rw [hsignal] at hreply
      cases hreply
      cases hserve
      exact .inl ⟨rfl, rfl, rfl⟩
  | shutdown =>
      cases hserve
      exact .inr (.inl ⟨rfl, rfl, rfl⟩)

/-- Serving a packet never turns `no_ack_mode` off. -/
theorem gdbstubServe_noAckMode {pkt : Packet UInt8} {csumOk : Bool}
    {state after : StubState σ} {ret : Option Bool}
    (hserve : gdbstubServe stub pkt csumOk state = (.ok ret, after))
    (hon : state.noAckMode = true) : after.noAckMode = true := by
  cases csumOk with
  | false =>
      cases hserve
      exact hon
  | true =>
      obtain ⟨event, processed, act, handled, hevent, hact, hafter⟩ := gdbstubServe_ok stub hserve
      have hprocessed := (sendsFor_gdbstubProcessPacket stub pkt _ _ _ hevent).noAckMode hon
      have hhandled := (quiet_gdbstubHandleEvent stub event _ _ _ hact).noAckMode hprocessed
      rcases hafter with ⟨-, -, rfl⟩ | ⟨-, -, rfl⟩ | ⟨-, -, rfl⟩ <;> exact hhandled

end MiniGdbstub
