import MiniGdbstub.Handlers

/-!
# What the handlers read of the state

The handlers read the target, the register buffer, the count of allocations and that of
transfers, and nothing else of the state.  `Unread` collects what a relation of states needs so
that no handler tells related states apart: it agrees on these four, and the few changes a handler
makes preserve it.  Each function that `gdbstub_process_packet` calls then respects the relation,
with one lemma for each.
-/

namespace MiniGdbstub

open CString Program

variable {σ α : Type} (stub : Gdbstub σ)

/-- States that differ only in what no handler reads. -/
structure Unread (rel : StubState σ → StubState σ → Prop) : Prop where
  target : ∀ {first second}, rel first second → first.target = second.target
  regbuf : ∀ {first second}, rel first second → first.regbuf = second.regbuf
  allocations : ∀ {first second}, rel first second → first.allocations = second.allocations
  transfers : ∀ {first second}, rel first second → first.transfers = second.transfers
  called : ∀ {first second}, rel first second → ∀ call target,
    rel (first.called call target) (second.called call target)
  allocated : ∀ {first second}, rel first second →
    rel { first with allocations := first.allocations + 1 }
      { second with allocations := second.allocations + 1 }
  begun : ∀ {first second}, rel first second → rel first.begun second.begun
  grown : ∀ {first second}, rel first second → ∀ reg,
    rel { first with regbuf := reg } { second with regbuf := reg }
  sentStr : ∀ {first second}, rel first second → ∀ str,
    rel { first with sent := first.sent ++ [str] } { second with sent := second.sent ++ [str] }
  noAck : ∀ {first second}, rel first second →
    rel { first with noAckMode := true } { second with noAckMode := true }
  asyncIo : ∀ {first second}, rel first second → ∀ enable,
    rel { first with asyncIoEnable := enable } { second with asyncIoEnable := enable }

section

variable {rel : StubState σ → StubState σ → Prop} (hrel : Unread rel)

include hrel

/-! ## Memory, the target, the connection -/

theorem respects_malloc (bytes : ℕ) : Respects (malloc stub bytes) rel := by
  unfold malloc
  apply Respects.of_get
  · intro first second hstates
    rw [hrel.allocations hstates]
  intro state
  apply Respects.bind
  · exact Respects.of_update fun first second hstates => hrel.allocated hstates
  · intro _
    exact Respects.of_pure

theorem respects_regbufGet (regSz : ℕ) : Respects (regbufGet stub regSz) rel := by
  unfold regbufGet
  apply Respects.of_get
  · intro first second hstates
    rw [hrel.regbuf hstates]
  intro state
  apply Respects.ite Respects.of_pure
  split
  · exact Respects.of_fail
  · apply Respects.bind (respects_malloc stub hrel _)
    intro buf
    apply Respects.bind
    · exact Respects.of_update fun first second hstates => hrel.grown hstates _
    · intro _
      exact Respects.of_pure

theorem respects_callOp (op : Option (σ → α × σ)) (call : α → TargetCall) :
    Respects (callOp op call) rel := by
  cases op with
  | none => exact Respects.of_fail
  | some op =>
      intro first second hstates
      rw [callOp_some, callOp_some, hrel.target hstates]
      exact ⟨rfl, hrel.called hstates _ _⟩

/-- A read stores its value behind a pointer. -/
theorem respects_callRead (op : Option (σ → (Int32 × List UInt8) × σ))
    (call : Int32 × List UInt8 → TargetCall) (room : Option ℕ) :
    Respects (do
      let (ret, bytes) ← callOp op call
      if ret = 0 then
        Program.lift (storeAt room bytes.length)
        return (ret, bytes)
      else
        return (ret, bytes) : StubM σ (Int32 × List UInt8)) rel := by
  apply Respects.bind (respects_callOp hrel _ _)
  intro result
  apply Respects.ite
  · apply Respects.bind Respects.of_lift
    intro _
    exact Respects.of_pure
  · exact Respects.of_pure

theorem respects_callReadReg (regno : ℤ) (value : Option ℕ) :
    Respects (callReadReg stub regno value) rel :=
  respects_callRead hrel _ _ value

theorem respects_callReadMem (addr len : ℕ) (val : Option ℕ) :
    Respects (callReadMem stub addr len val) rel :=
  respects_callRead hrel _ _ val

theorem respects_connSendPktstr (pktstr : List UInt8) :
    Respects (connSendPktstr pktstr) rel := by
  apply Respects.ite
  · exact Respects.of_update fun first second hstates => hrel.sentStr hstates _
  · exact Respects.of_fail

theorem respects_connSendPktbuf (packetStr : List UInt8) :
    Respects (connSendPktbuf packetStr) rel := by
  apply Respects.bind Respects.of_lift
  intro pktstr
  exact respects_connSendPktstr hrel pktstr

/-- Bytes in hexadecimal, by way of an array. -/
theorem respects_replyHex (num : List UInt8) (bytes : ℤ) (block : List UInt8) :
    Respects (do
      let hex ← Program.lift (hexToStr num bytes)
      let packetStr ← Program.lift (inBounds (Block.write? block 0 hex))
      connSendPktbuf packetStr : StubM σ Unit) rel := by
  apply Respects.bind Respects.of_lift
  intro hex
  apply Respects.bind Respects.of_lift
  intro packetStr
  exact respects_connSendPktbuf hrel packetStr

/-! ## Registers -/

theorem respects_regReadLoop (todo : ℕ) : ∀ (i : ℕ) (packetStr : List UInt8),
    Respects (regReadLoop stub todo i packetStr) rel := by
  induction todo with
  | zero =>
      intro i packetStr
      exact Respects.of_pure
  | succ todo ih =>
      intro i packetStr
      apply Respects.bind (respects_regbufGet stub hrel _)
      intro regValue
      apply Respects.bind (respects_callReadReg stub hrel _ _)
      intro result
      apply Respects.ite
      · apply Respects.bind Respects.of_lift
        intro hex
        apply Respects.bind Respects.of_lift
        intro packetStr
        exact ih _ _
      · exact Respects.of_lift

theorem respects_processRegRead : Respects (processRegRead stub) rel := by
  apply Respects.bind (respects_regReadLoop stub hrel _ _ _)
  intro packetStr
  exact respects_connSendPktbuf hrel packetStr

theorem respects_processRegReadOne (payload : List UInt8) :
    Respects (processRegReadOne stub payload) rel := by
  unfold processRegReadOne
  split
  · apply Respects.bind (respects_regbufGet stub hrel _)
    intro regValue
    apply Respects.bind (respects_callReadReg stub hrel _ _)
    intro result
    apply Respects.ite
    · exact respects_replyHex hrel _ _ _
    · exact respects_connSendPktstr hrel _
  · exact Respects.of_fail

theorem respects_regWriteParse (payload : List UInt8) (todo : ℕ) :
    ∀ (i payloadOffset storageOffset : ℕ) (newValues backupValues : List UInt8),
      Respects (regWriteParse stub payload todo i payloadOffset storageOffset
        newValues backupValues) rel := by
  induction todo with
  | zero =>
      intro i payloadOffset storageOffset newValues backupValues
      exact Respects.of_pure
  | succ todo ih =>
      intro i payloadOffset storageOffset newValues backupValues
      apply Respects.bind Respects.of_lift
      intro value
      apply Respects.bind Respects.of_lift
      intro newValues
      apply Respects.bind (respects_callReadReg stub hrel _ _)
      intro result
      apply Respects.ite
      · apply Respects.bind Respects.of_lift
        intro backupValues
        exact ih _ _ _ _ _
      · exact Respects.of_pure

theorem respects_regWriteCommit (newValues : List UInt8) (todo : ℕ) : ∀ i storageOffset,
    Respects (regWriteCommit stub newValues todo i storageOffset) rel := by
  induction todo with
  | zero =>
      intro i storageOffset
      exact Respects.of_pure
  | succ todo ih =>
      intro i storageOffset
      apply Respects.bind (respects_callOp hrel _ _)
      intro ret
      exact Respects.ite (ih _ _) Respects.of_pure

theorem respects_regWriteRollback (backupValues : List UInt8) (todo : ℕ) : ∀ i storageOffset,
    Respects (regWriteRollback stub backupValues todo i storageOffset) rel := by
  induction todo with
  | zero =>
      intro i storageOffset
      exact Respects.of_pure
  | succ todo ih =>
      intro i storageOffset
      apply Respects.bind (respects_callOp hrel _ _)
      intro ret
      exact ih _ _

theorem respects_regWriteApply (payload : List UInt8) :
    Respects (regWriteApply stub payload) rel := by
  apply Respects.bind (respects_regWriteParse stub hrel _ _ _ _ _ _ _)
  intro parsed
  cases parsed with
  | error ret => exact respects_connSendPktstr hrel _
  | ok values =>
      apply Respects.bind (respects_regWriteCommit stub hrel _ _ _ _)
      intro failed
      cases failed with
      | none => exact respects_connSendPktstr hrel _
      | some failed =>
          apply Respects.bind (respects_regWriteRollback stub hrel _ _ _ _)
          intro _
          exact respects_connSendPktstr hrel _

theorem respects_processRegWrite (payload : List UInt8) :
    Respects (processRegWrite stub payload) rel := by
  apply Respects.ite (respects_connSendPktstr hrel _)
  apply Respects.ite (respects_connSendPktstr hrel _)
  apply Respects.bind (respects_malloc stub hrel _)
  intro newValues
  apply Respects.bind (respects_malloc stub hrel _)
  intro backupValues
  exact Respects.ite (respects_connSendPktstr hrel _) (respects_regWriteApply stub hrel payload)

/-- Every write ends with `OK` or with the code of the operation. -/
theorem respects_replyTo (ret : Int32) :
    Respects (if ret = 0 then connSendPktstr (ascii "OK")
      else connSendPktstr (errorText ret)) rel :=
  Respects.ite (respects_connSendPktstr hrel _) (respects_connSendPktstr hrel _)

theorem respects_processRegWriteOne (payload : List UInt8) :
    Respects (processRegWriteOne stub payload) rel := by
  unfold processRegWriteOne
  dsimp only
  split
  · apply Respects.bind (respects_regbufGet stub hrel _)
    intro buf
    split
    · exact Respects.of_fail
    · apply Respects.ite
      · apply Respects.bind Respects.of_lift
        intro data
        apply Respects.bind Respects.of_lift
        intro _
        apply Respects.bind (respects_callOp hrel _ _)
        intro ret
        exact respects_replyTo hrel ret
      · exact Respects.of_fail
  · exact Respects.of_fail

/-! ## Memory requests -/

theorem respects_processMemRead (payload : List UInt8) :
    Respects (processMemRead stub payload) rel := by
  unfold processMemRead
  split
  · apply Respects.bind (respects_malloc stub hrel _)
    intro mval
    apply Respects.bind (respects_callReadMem stub hrel _ _ _)
    intro result
    apply Respects.ite
    · exact respects_replyHex hrel _ _ _
    · exact respects_connSendPktstr hrel _
  · exact Respects.of_fail

theorem respects_processMemWrite (payload : List UInt8) :
    Respects (processMemWrite stub payload) rel := by
  unfold processMemWrite
  dsimp only
  split
  · apply Respects.bind (respects_malloc stub hrel _)
    intro mval
    apply Respects.bind Respects.of_lift
    intro data
    apply Respects.bind (respects_callOp hrel _ _)
    intro ret
    exact respects_replyTo hrel ret
  · exact Respects.of_fail

theorem respects_processMemXwrite (payload : List UInt8) (packetEnd : ℕ) :
    Respects (processMemXwrite stub payload packetEnd) rel := by
  unfold processMemXwrite
  dsimp only
  split
  · split
    · exact Respects.of_fail
    · apply Respects.bind Respects.of_lift
      intro unescaped
      apply Respects.ite
      · apply Respects.bind (respects_callOp hrel _ _)
        intro ret
        exact respects_connSendPktstr hrel _
      · exact Respects.of_fail
  · exact Respects.of_fail

/-! ## Queries -/

theorem respects_xferReply (targetDesc : List UInt8) (offset length : ℤ) :
    Respects (xferReply stub targetDesc offset length) rel := by
  apply Respects.ite Respects.of_fail
  apply Respects.bind Respects.of_lift
  intro buf
  exact respects_connSendPktbuf hrel buf

theorem respects_xferTokens (targetDesc args : List UInt8) :
    Respects (xferTokens stub targetDesc args) rel := by
  unfold xferTokens
  split
  · exact Respects.of_fail
  apply Respects.ite _ Respects.of_fail
  split
  · exact Respects.of_fail
  apply Respects.ite _ Respects.of_fail
  split
  · exact Respects.of_fail
  split <;> exact respects_xferReply stub hrel _ _ _

theorem respects_strtokStart (args : Option (List UInt8)) :
    Respects (strtokStart stub args) rel := by
  unfold strtokStart
  apply Respects.of_get
  · intro first second hstates
    rw [hrel.transfers hstates]
  intro state
  apply Respects.bind
  · exact Respects.of_update fun first second hstates => hrel.begun hstates
  · intro _
    split
    · exact Respects.of_pure
    · exact Respects.ite Respects.of_fail Respects.of_pure

theorem respects_xferFeatures (targetDesc : List UInt8) (args : Option (List UInt8)) :
    Respects (xferFeatures stub targetDesc args) rel := by
  apply Respects.bind (respects_strtokStart stub hrel args)
  intro args
  exact respects_xferTokens stub hrel targetDesc args

theorem respects_processXfer (s : Option (List UInt8)) :
    Respects (processXfer stub s) rel := by
  cases s with
  | none => exact Respects.of_fail
  | some s =>
      unfold processXfer
      dsimp only
      split
      · exact Respects.ite (respects_xferFeatures stub hrel _ _) (respects_connSendPktstr hrel _)
      · exact respects_connSendPktstr hrel _

omit hrel in
theorem respects_threadInfoLoop (todo : ℕ) : ∀ (cpuid : ℕ) (packetStr : List UInt8),
    Respects (threadInfoLoop todo cpuid packetStr) rel := by
  induction todo with
  | zero =>
      intro cpuid packetStr
      exact Respects.of_lift
  | succ todo ih =>
      intro cpuid packetStr
      apply Respects.bind Respects.of_lift
      intro packetStr
      exact ih _ _

theorem respects_processThreadInfo : Respects (processThreadInfo stub) rel := by
  apply Respects.ite _ Respects.of_fail
  apply Respects.bind Respects.of_lift
  intro packetStr
  apply Respects.bind (respects_threadInfoLoop _ _ _)
  intro packetStr
  exact respects_connSendPktbuf hrel packetStr

theorem respects_processQuery (payload : List UInt8) :
    Respects (processQuery stub payload) rel := by
  unfold processQuery
  dsimp only
  apply Respects.ite
  · apply Respects.ite _ (respects_connSendPktstr hrel _)
    apply Respects.bind (respects_callOp hrel _ _)
    intro cpuid
    exact respects_connSendPktstr hrel _
  apply Respects.ite
  · exact Respects.ite (respects_connSendPktstr hrel _) (respects_connSendPktstr hrel _)
  apply Respects.ite (respects_connSendPktstr hrel _)
  apply Respects.ite (respects_processXfer stub hrel _)
  apply Respects.ite (respects_connSendPktstr hrel _)
  apply Respects.ite (respects_processThreadInfo stub hrel)
  exact Respects.ite (respects_connSendPktstr hrel _) (respects_connSendPktstr hrel _)

theorem respects_processGeneralSet (payload : List UInt8) :
    Respects (processGeneralSet payload) rel := by
  unfold processGeneralSet
  dsimp only
  apply Respects.ite _ (respects_connSendPktstr hrel _)
  apply Respects.bind
  · exact Respects.of_update fun first second hstates => hrel.noAck hstates
  · intro _
    exact respects_connSendPktstr hrel _

/-! ## Breakpoints, CPUs, continue and step -/

theorem respects_processBreakPoints {op : ℕ → ℕ → StubM σ Bool}
    (hop : ∀ addr type, Respects (op addr type) rel) (payload : List UInt8) :
    Respects (processBreakPoints op payload) rel := by
  unfold processBreakPoints
  split
  · apply Respects.bind (hop _ _)
    intro ret
    exact Respects.ite (respects_connSendPktstr hrel _) (respects_connSendPktstr hrel _)
  · exact Respects.of_fail

theorem respects_processSetCpu (payload : List UInt8) :
    Respects (processSetCpu stub payload) rel := by
  unfold processSetCpu
  apply Respects.ite _ (respects_connSendPktstr hrel _)
  split
  · exact Respects.of_fail
  · apply Respects.bind (respects_callOp hrel _ _)
    intro _
    exact respects_connSendPktstr hrel _

omit hrel in
/-- A handler followed by its event. -/
theorem respects_thenReturn {program : StubM σ Unit} (hprogram : Respects program rel)
    (event : Event) : Respects (program >>= fun _ => pure event) rel := by
  apply Respects.bind hprogram
  intro _
  exact Respects.of_pure

theorem respects_replyThen (pktstr : List UInt8) (event : Event) :
    Respects (connSendPktstr pktstr >>= fun _ => pure event) rel :=
  respects_thenReturn (respects_connSendPktstr hrel pktstr) event

theorem respects_processCont : Respects (processCont stub) rel :=
  Respects.ite Respects.of_pure (respects_replyThen hrel _ _)

theorem respects_processStepi : Respects (processStepi stub) rel :=
  Respects.ite Respects.of_pure (respects_replyThen hrel _ _)

theorem respects_processVpacket (payload : List UInt8) :
    Respects (processVpacket stub payload) rel := by
  unfold processVpacket
  dsimp only
  apply Respects.ite
  · unfold processVcont
    split
    · exact Respects.of_fail
    apply Respects.ite (respects_processCont stub hrel)
    apply Respects.ite (respects_processStepi stub hrel)
    exact respects_replyThen hrel _ _
  exact Respects.ite (respects_replyThen hrel _ _) (respects_replyThen hrel _ _)

/-! ## The dispatcher and the event -/

theorem respects_ifProvided {provided : Bool} {handler : StubM σ Unit}
    (hhandler : Respects handler rel) :
    Respects (ifProvided provided handler) rel :=
  Respects.ite (respects_thenReturn hhandler _) (respects_replyThen hrel _ _)

theorem respects_dispatch (request : UInt8) (payload : List UInt8) (packetEnd : ℕ) :
    Respects (dispatch stub request payload packetEnd) rel := by
  unfold dispatch
  split
  · exact respects_processCont stub hrel
  · exact respects_ifProvided hrel (respects_processRegRead stub hrel)
  · exact respects_ifProvided hrel (respects_processMemRead stub hrel payload)
  · exact respects_ifProvided hrel (respects_processRegReadOne stub hrel payload)
  · exact respects_thenReturn (respects_processQuery stub hrel payload) _
  · exact respects_thenReturn (respects_processGeneralSet hrel payload) _
  · exact respects_processStepi stub hrel
  · exact respects_processVpacket stub hrel payload
  · apply respects_ifProvided hrel
    exact respects_processBreakPoints hrel (fun _ _ => respects_callOp hrel _ _) payload
  · exact respects_replyThen hrel _ _
  · exact respects_replyThen hrel _ _
  · exact respects_ifProvided hrel (respects_processRegWrite stub hrel payload)
  · exact respects_ifProvided hrel (respects_processSetCpu stub hrel payload)
  · exact respects_ifProvided hrel (respects_processMemWrite stub hrel payload)
  · exact respects_ifProvided hrel (respects_processRegWriteOne stub hrel payload)
  · exact respects_replyThen hrel _ _
  · exact respects_ifProvided hrel (respects_processMemXwrite stub hrel payload packetEnd)
  · apply respects_ifProvided hrel
    exact respects_processBreakPoints hrel (fun _ _ => respects_callOp hrel _ _) payload
  · exact respects_replyThen hrel _ _

/-- **No request tells related states apart.** -/
theorem respects_gdbstubProcessPacket (inpkt : Packet UInt8) :
    Respects (gdbstubProcessPacket stub inpkt) rel := by
  apply Respects.ite _ Respects.of_fail
  apply Respects.bind Respects.of_lift
  intro data
  apply Respects.bind Respects.of_lift
  intro request
  exact respects_dispatch stub hrel _ _ _

theorem respects_gdbstubHandleEvent (event : Event) :
    Respects (gdbstubHandleEvent stub event) rel := by
  cases event with
  | none => exact Respects.of_pure
  | cont =>
      apply Respects.bind
      · exact Respects.of_update fun first second hstates => hrel.asyncIo hstates _
      intro _
      apply Respects.bind (respects_callOp hrel _ _)
      intro act
      apply Respects.bind
      · exact Respects.of_update fun first second hstates => hrel.asyncIo hstates _
      intro _
      exact Respects.of_pure
  | detach => exact Respects.of_pure
  | step => exact respects_callOp hrel _ _

end

end MiniGdbstub
