import MiniGdbstub.Handlers

/-!
# What the handlers can fault with

A handler asserts what it expects of a request, and uses what `strchr` and `strtok` return
without looking at it.  These are the faults a client can cause by the form of a packet
(`Fault.Aborts`); everything else that a handler does may leave a buffer, run out of memory
or send too much, but does not fault in these ways (`NeverAborts`).

A handler without such a check never aborts, on a target that has all its operations.  One
with a check does not abort once the check has been passed; its lemma has the check as its
hypothesis.
-/

namespace MiniGdbstub

open CString Program

variable {σ α β : Type} (stub : Gdbstub σ)

/-- A failed assertion about a request, or the use of a `NULL` found in it. -/
def Fault.Aborts (fault : Fault) : Prop :=
  fault = .assertFail ∨ fault = .nullDeref

instance : DecidablePred Fault.Aborts :=
  fun fault => inferInstanceAs (Decidable (fault = .assertFail ∨ fault = .nullDeref))

abbrev NeverAborts (program : StubM σ α) : Prop :=
  Avoids program Fault.Aborts

/-- Every operation is there. -/
structure TargetOps.Complete (ops : TargetOps σ) : Prop where
  cont : ops.cont.isSome
  stepi : ops.stepi.isSome
  readReg : ops.readReg.isSome
  writeReg : ops.writeReg.isSome
  readMem : ops.readMem.isSome
  writeMem : ops.writeMem.isSome
  setBp : ops.setBp.isSome
  delBp : ops.delBp.isSome
  onInterrupt : ops.onInterrupt.isSome
  setCpu : ops.setCpu.isSome
  getCpu : ops.getCpu.isSome

/-! ## Accesses and decoders -/

theorem neverAborts_inBounds (cells : Option α) :
    NeverAborts (lift (inBounds cells) : StubM σ α) := by
  apply Avoids.of_lift
  intro fault hfault
  cases cells with
  | none =>
      cases hfault
      decide
  | some cells => cases hfault

theorem neverAborts_storeAt (room : Option ℕ) (count : ℕ) :
    NeverAborts (lift (storeAt room count) : StubM σ Unit) := by
  apply Avoids.of_lift
  intro fault hfault
  unfold storeAt at hfault
  split at hfault
  · split at hfault
    · cases hfault
    · cases hfault
      decide
  · cases hfault
  · cases hfault
    decide

theorem neverAborts_hexToStr (num : List UInt8) (bytes : ℤ) :
    NeverAborts (lift (hexToStr num bytes) : StubM σ (List UInt8)) := by
  apply Avoids.of_lift
  intro fault hfault
  unfold hexToStr at hfault
  split at hfault
  · cases hfault
    decide
  · cases hread : Block.read? num 0 bytes.toNat with
    | none =>
        rw [hread] at hfault
        cases hfault
        decide
    | some cells =>
        rw [hread] at hfault
        cases hfault

theorem neverAborts_strToHex (str : List UInt8) (bytes : ℤ) :
    NeverAborts (lift (strToHex str bytes) : StubM σ (List UInt8)) := by
  apply Avoids.of_lift
  intro fault hfault
  rcases Nat.lt_or_ge str.length (2 * bytes.toNat) with hshort | hfits
  · rw [strToHex_error hshort] at hfault
    cases hfault
    decide
  · rw [strToHex_eq hfits] at hfault
    cases hfault

/-! ## Memory, the target, the connection -/

theorem neverAborts_malloc (bytes : ℕ) : NeverAborts (malloc stub bytes) := by
  apply Avoids.bind Avoids.of_get
  intro state
  apply Avoids.bind Avoids.of_update
  intro _
  exact Avoids.of_pure

theorem neverAborts_regbufGet (regSz : ℕ) : NeverAborts (regbufGet stub regSz) := by
  apply Avoids.bind Avoids.of_get
  intro state
  apply Avoids.ite
  · intro _
    exact Avoids.of_pure
  · intro _
    split
    · exact Avoids.of_fail (by decide)
    · apply Avoids.bind (neverAborts_malloc stub _)
      intro buf
      apply Avoids.bind Avoids.of_update
      intro _
      exact Avoids.of_pure

theorem neverAborts_callOp {op : Option (σ → α × σ)} (hop : op.isSome) (call : α → TargetCall) :
    NeverAborts (callOp op call) := by
  obtain ⟨op, rfl⟩ := Option.isSome_iff_exists.mp hop
  intro state fault heq
  cases heq

/-- A read stores its value behind a pointer. -/
theorem neverAborts_callRead {op : Option (σ → (Int32 × List UInt8) × σ)} (hop : op.isSome)
    (call : Int32 × List UInt8 → TargetCall) (room : Option ℕ) :
    NeverAborts (do
      let (ret, bytes) ← callOp op call
      if ret = 0 then
        Program.lift (storeAt room bytes.length)
        return (ret, bytes)
      else
        return (ret, bytes) : StubM σ (Int32 × List UInt8)) := by
  apply Avoids.bind (neverAborts_callOp hop call)
  intro result
  apply Avoids.ite
  · intro _
    apply Avoids.bind (neverAborts_storeAt _ _)
    intro _
    exact Avoids.of_pure
  · intro _
    exact Avoids.of_pure

theorem neverAborts_callReadReg (hop : stub.ops.readReg.isSome) (regno : ℤ) (value : Option ℕ) :
    NeverAborts (callReadReg stub regno value) :=
  neverAborts_callRead (by rwa [Option.isSome_map]) _ value

theorem neverAborts_callReadMem (hop : stub.ops.readMem.isSome) (addr len : ℕ)
    (val : Option ℕ) : NeverAborts (callReadMem stub addr len val) :=
  neverAborts_callRead (by rwa [Option.isSome_map]) _ val

theorem neverAborts_callWriteReg (hop : stub.ops.writeReg.isSome) (regno : ℤ)
    (data : List UInt8) : NeverAborts (callWriteReg stub regno data) :=
  neverAborts_callOp (by rwa [Option.isSome_map]) _

theorem neverAborts_callWriteMem (hop : stub.ops.writeMem.isSome) (addr len : ℕ)
    (data : List UInt8) : NeverAborts (callWriteMem stub addr len data) :=
  neverAborts_callOp (by rwa [Option.isSome_map]) _

theorem neverAborts_connSendPktstr (pktstr : List UInt8) :
    NeverAborts (connSendPktstr pktstr : StubM σ Unit) := by
  apply Avoids.ite
  · intro _
    exact Avoids.of_update
  · intro _
    exact Avoids.of_fail (by decide)

theorem neverAborts_connSendPktbuf (packetStr : List UInt8) :
    NeverAborts (connSendPktbuf packetStr : StubM σ Unit) := by
  apply Avoids.bind (neverAborts_inBounds _)
  intro pktstr
  exact neverAborts_connSendPktstr pktstr

/-- One reply or another. -/
theorem neverAborts_replyIf (condition : Prop) [Decidable condition] (yes no : List UInt8) :
    NeverAborts (if condition then connSendPktstr yes else connSendPktstr no : StubM σ Unit) :=
  Avoids.ite (fun _ => neverAborts_connSendPktstr yes) fun _ => neverAborts_connSendPktstr no

/-- Bytes in hexadecimal, by way of an array. -/
theorem neverAborts_replyHex (num : List UInt8) (bytes : ℤ) (block : List UInt8) :
    NeverAborts (do
      let hex ← Program.lift (hexToStr num bytes)
      let packetStr ← Program.lift (inBounds (Block.write? block 0 hex))
      connSendPktbuf packetStr : StubM σ Unit) := by
  apply Avoids.bind (neverAborts_hexToStr _ _)
  intro hex
  apply Avoids.bind (neverAborts_inBounds _)
  intro packetStr
  exact neverAborts_connSendPktbuf packetStr

/-- A handler followed by its event. -/
theorem NeverAborts.thenReturn {program : StubM σ Unit} (hprogram : NeverAborts program)
    (event : Event) : NeverAborts (program >>= fun _ => pure event) := by
  apply Avoids.bind hprogram
  intro _
  exact Avoids.of_pure

/-! ## Registers -/

theorem neverAborts_regReadLoop (hop : stub.ops.readReg.isSome) (todo : ℕ) :
    ∀ (i : ℕ) (packetStr : List UInt8), NeverAborts (regReadLoop stub todo i packetStr) := by
  induction todo with
  | zero =>
      intro i packetStr
      exact Avoids.of_pure
  | succ todo ih =>
      intro i packetStr
      apply Avoids.bind (neverAborts_regbufGet stub _)
      intro regValue
      apply Avoids.bind (neverAborts_callReadReg stub hop _ _)
      intro result
      apply Avoids.ite
      · intro _
        apply Avoids.bind (neverAborts_hexToStr _ _)
        intro hex
        apply Avoids.bind (neverAborts_inBounds _)
        intro packetStr
        exact ih _ _
      · intro _
        exact neverAborts_inBounds _

theorem neverAborts_processRegRead (hop : stub.ops.readReg.isSome) :
    NeverAborts (processRegRead stub) := by
  apply Avoids.bind (neverAborts_regReadLoop stub hop _ _ _)
  intro packetStr
  exact neverAborts_connSendPktbuf packetStr

theorem neverAborts_processRegReadOne (hop : stub.ops.readReg.isSome) {payload : List UInt8}
    {regno : ℕ} (hscan : scanHexFields 1 (text payload) = [regno]) :
    NeverAborts (processRegReadOne stub payload) := by
  unfold processRegReadOne
  rw [hscan]
  apply Avoids.bind (neverAborts_regbufGet stub _)
  intro regValue
  apply Avoids.bind (neverAborts_callReadReg stub hop _ _)
  intro result
  apply Avoids.ite
  · intro _
    exact neverAborts_replyHex _ _ _
  · intro _
    exact neverAborts_connSendPktstr _

theorem neverAborts_regWriteParse (hop : stub.ops.readReg.isSome) (payload : List UInt8)
    (todo : ℕ) : ∀ (i payloadOffset storageOffset : ℕ) (newValues backupValues : List UInt8),
      NeverAborts (regWriteParse stub payload todo i payloadOffset storageOffset newValues
        backupValues) := by
  induction todo with
  | zero =>
      intro i payloadOffset storageOffset newValues backupValues
      exact Avoids.of_pure
  | succ todo ih =>
      intro i payloadOffset storageOffset newValues backupValues
      apply Avoids.bind (neverAborts_strToHex _ _)
      intro value
      apply Avoids.bind (neverAborts_inBounds _)
      intro newValues
      apply Avoids.bind (neverAborts_callReadReg stub hop _ _)
      intro result
      apply Avoids.ite
      · intro _
        apply Avoids.bind (neverAborts_inBounds _)
        intro backupValues
        exact ih _ _ _ _ _
      · intro _
        exact Avoids.of_pure

theorem neverAborts_regWriteCommit (hop : stub.ops.writeReg.isSome) (newValues : List UInt8)
    (todo : ℕ) : ∀ i storageOffset,
      NeverAborts (regWriteCommit stub newValues todo i storageOffset) := by
  induction todo with
  | zero =>
      intro i storageOffset
      exact Avoids.of_pure
  | succ todo ih =>
      intro i storageOffset
      apply Avoids.bind (neverAborts_callWriteReg stub hop _ _)
      intro ret
      apply Avoids.ite
      · intro _
        exact ih _ _
      · intro _
        exact Avoids.of_pure

theorem neverAborts_regWriteRollback (hop : stub.ops.writeReg.isSome)
    (backupValues : List UInt8) (todo : ℕ) : ∀ i storageOffset,
      NeverAborts (regWriteRollback stub backupValues todo i storageOffset) := by
  induction todo with
  | zero =>
      intro i storageOffset
      exact Avoids.of_pure
  | succ todo ih =>
      intro i storageOffset
      apply Avoids.bind (neverAborts_callWriteReg stub hop _ _)
      intro ret
      exact ih _ _

/-- `G` has no assertion: it looks at the length of its data first. -/
theorem neverAborts_processRegWrite (hread : stub.ops.readReg.isSome)
    (hwrite : stub.ops.writeReg.isSome) (payload : List UInt8) :
    NeverAborts (processRegWrite stub payload) := by
  apply Avoids.ite
  · intro _
    exact neverAborts_connSendPktstr _
  intro _
  apply Avoids.ite
  · intro _
    exact neverAborts_connSendPktstr _
  intro _
  apply Avoids.bind (neverAborts_malloc stub _)
  intro newValues
  apply Avoids.bind (neverAborts_malloc stub _)
  intro backupValues
  apply Avoids.ite
  · intro _
    exact neverAborts_connSendPktstr _
  intro _
  apply Avoids.bind (neverAborts_regWriteParse stub hread _ _ _ _ _ _ _)
  intro parsed
  cases parsed with
  | error ret => exact neverAborts_connSendPktstr _
  | ok values =>
      apply Avoids.bind (neverAborts_regWriteCommit stub hwrite _ _ _ _)
      intro failed
      cases failed with
      | none => exact neverAborts_connSendPktstr _
      | some failed =>
          apply Avoids.bind (neverAborts_regWriteRollback stub hwrite _ _ _ _)
          intro _
          exact neverAborts_connSendPktstr _

theorem neverAborts_processRegWriteOne (hop : stub.ops.writeReg.isSome)
    {payload regnoStr dataStr : List UInt8} {regno : ℕ}
    (hcut : cut equals payload = (regnoStr, some dataStr))
    (hscan : scanHexFields 1 regnoStr = [regno])
    (hlength : (text dataStr).length = stub.ops.getRegBytes (asInt regno) * 2) :
    NeverAborts (processRegWriteOne stub payload) := by
  unfold processRegWriteOne
  rw [hcut]
  dsimp only
  rw [hscan]
  apply Avoids.bind (neverAborts_regbufGet stub _)
  intro buf
  rw [if_pos hlength]
  apply Avoids.bind (neverAborts_strToHex _ _)
  intro data
  apply Avoids.bind (neverAborts_storeAt _ _)
  intro _
  apply Avoids.bind (neverAborts_callWriteReg stub hop _ _)
  intro ret
  exact neverAborts_replyIf _ _ _

/-! ## Memory requests -/

theorem neverAborts_processMemRead (hop : stub.ops.readMem.isSome) {payload : List UInt8}
    {maddr mlen : ℕ} (hscan : scanHexFields 2 (text payload) = [maddr, mlen]) :
    NeverAborts (processMemRead stub payload) := by
  unfold processMemRead
  rw [hscan]
  apply Avoids.bind (neverAborts_malloc stub _)
  intro mval
  apply Avoids.bind (neverAborts_callReadMem stub hop _ _ _)
  intro result
  apply Avoids.ite
  · intro _
    exact neverAborts_replyHex _ _ _
  · intro _
    exact neverAborts_connSendPktstr _

theorem neverAborts_decodeContent (content : List UInt8) (mval : Option ℕ) (mlen : ℕ) :
    NeverAborts (lift (decodeContent (some content) mval mlen) : StubM σ (List UInt8)) := by
  intro state fault heq
  rcases hstore : storeAt mval (asInt mlen).toNat with fault' | _
  · rw [lift_apply, decodeContent, hstore] at heq
    cases heq
    exact neverAborts_storeAt mval (asInt mlen).toNat state _ hstore
  · rw [lift_apply, decodeContent, hstore] at heq
    exact neverAborts_strToHex content (asInt mlen) state fault heq

theorem neverAborts_processMemWrite (hop : stub.ops.writeMem.isSome)
    {payload fields content : List UInt8} {maddr mlen : ℕ}
    (hcut : cut colon payload = (fields, some content))
    (hscan : scanHexFields 2 fields = [maddr, mlen]) :
    NeverAborts (processMemWrite stub payload) := by
  unfold processMemWrite
  rw [hcut]
  dsimp only
  rw [hscan]
  apply Avoids.bind (neverAborts_malloc stub _)
  intro mval
  apply Avoids.bind (neverAborts_decodeContent _ _ _)
  intro data
  apply Avoids.bind (neverAborts_callWriteMem stub hop _ _ _)
  intro ret
  exact neverAborts_replyIf _ _ _

theorem neverAborts_processMemXwrite (hop : stub.ops.writeMem.isSome)
    {payload fields content decoded : List UInt8} {packetEnd maddr mlen count : ℕ}
    (hcut : cut colon payload = (fields, some content))
    (hscan : scanHexFields 2 fields = [maddr, mlen])
    (hdecode : unescape content (packetEnd - (fields.length + 1)) = .ok (count, decoded))
    (hcount : asInt count = asInt mlen) :
    NeverAborts (processMemXwrite stub payload packetEnd) := by
  intro state fault heq
  unfold processMemXwrite at heq
  rw [hcut] at heq
  dsimp only at heq
  rw [hscan] at heq
  dsimp only at heq
  rw [hdecode, lift_ok_bind] at heq
  dsimp only at heq
  rw [if_pos hcount] at heq
  have hrest : NeverAborts (callWriteMem stub maddr mlen (decoded.take mlen) >>= fun _ =>
      connSendPktstr (ascii "OK")) := by
    apply Avoids.bind (neverAborts_callWriteMem stub hop _ _ _)
    intro ret
    exact neverAborts_connSendPktstr _
  exact hrest state fault heq

/-! ## Queries -/

theorem neverAborts_xferReply (targetDesc : List UInt8) (offset length : ℤ) :
    NeverAborts (xferReply stub targetDesc offset length) := by
  apply Avoids.ite
  · intro _
    exact Avoids.of_fail (by decide)
  · intro _
    apply Avoids.bind (neverAborts_inBounds _)
    intro buf
    exact neverAborts_connSendPktbuf buf

/-- The arguments of a transfer are an action and an annex that the stub knows, and two
numbers. -/
def TransferLegible (args : Option (List UInt8)) : Prop :=
  ∃ content rest rest' rest'' range offset length, args = some content ∧
    strtok colon (text content) = some (ascii "read", rest) ∧
    strtok colon rest = some (ascii "target.xml", rest') ∧
    strtok colon rest' = some (range, rest'') ∧ scanHexFields 2 range = [offset, length]

theorem xferFeatures_of_legible {args : Option (List UInt8)} (hargs : TransferLegible args)
    (targetDesc : List UInt8) :
    ∃ offset length : ℕ, ∀ state, xferFeatures stub targetDesc args state =
      xferReply stub targetDesc (asInt offset) (asInt length) state.begun := by
  obtain ⟨content, rest, rest', rest'', range, offset, length, rfl, haction, hannex, hrange,
    hscan⟩ := hargs
  refine ⟨offset, length, fun state => ?_⟩
  rw [xferFeatures_some]
  unfold xferTokens
  rw [haction]
  dsimp only
  rw [if_pos rfl, hannex]
  dsimp only
  rw [if_pos rfl, hrange]
  dsimp only
  rw [hscan]

theorem neverAborts_processXfer {s : List UInt8}
    (hargs : stub.arch.targetDesc.isSome → (cut colon s).1 = ascii "features" →
      TransferLegible (cut colon s).2) : NeverAborts (processXfer stub (some s)) := by
  unfold processXfer
  dsimp only
  cases hdesc : stub.arch.targetDesc with
  | none => exact neverAborts_connSendPktstr _
  | some targetDesc =>
      apply Avoids.ite
      · intro hname
        obtain ⟨offset, length, htransfer⟩ :=
          xferFeatures_of_legible stub (hargs (by rw [hdesc]; rfl) hname) targetDesc
        intro state
        rw [htransfer]
        exact neverAborts_xferReply stub _ _ _ state.begun
      · intro _
        exact neverAborts_connSendPktstr _

theorem neverAborts_threadInfoLoop (todo : ℕ) : ∀ (cpuid : ℕ) (packetStr : List UInt8),
    NeverAborts (threadInfoLoop todo cpuid packetStr : StubM σ (List UInt8)) := by
  induction todo with
  | zero =>
      intro cpuid packetStr
      exact neverAborts_inBounds _
  | succ todo ih =>
      intro cpuid packetStr
      apply Avoids.bind (neverAborts_inBounds _)
      intro packetStr
      exact ih _ _

theorem neverAborts_processThreadInfo (hsmp : stub.arch.smp < 10000) :
    NeverAborts (processThreadInfo stub) := by
  unfold processThreadInfo
  dsimp only
  rw [if_pos (by split <;> omega)]
  apply Avoids.bind (neverAborts_inBounds _)
  intro packetStr
  apply Avoids.bind (neverAborts_threadInfoLoop _ _ _)
  intro packetStr
  exact neverAborts_connSendPktbuf packetStr

/-- A query is answered without regard to what follows its name, unless it is a transfer. -/
theorem neverAborts_processQuery (hop : stub.ops.getCpu.isSome) {payload : List UInt8}
    (hxfer : (cut colon payload).1 = ascii "Xfer" →
      NeverAborts (processXfer stub (cut colon payload).2))
    (hthreads : (cut colon payload).1 = ascii "fThreadInfo" → stub.arch.smp < 10000) :
    NeverAborts (processQuery stub payload) := by
  unfold processQuery
  dsimp only
  apply Avoids.ite
  · intro _
    rw [if_pos hop]
    apply Avoids.bind (neverAborts_callOp hop _)
    intro cpuid
    exact neverAborts_connSendPktstr _
  intro _
  apply Avoids.ite
  · intro _
    exact neverAborts_replyIf _ _ _
  intro _
  apply Avoids.ite
  · intro _
    exact neverAborts_connSendPktstr _
  intro _
  apply Avoids.ite hxfer
  intro _
  apply Avoids.ite
  · intro _
    exact neverAborts_connSendPktstr _
  intro _
  apply Avoids.ite
  · intro hname
    exact neverAborts_processThreadInfo stub (hthreads hname)
  · intro _
    exact neverAborts_replyIf _ _ _

theorem neverAborts_processGeneralSet (payload : List UInt8) :
    NeverAborts (processGeneralSet payload : StubM σ Unit) := by
  unfold processGeneralSet
  dsimp only
  apply Avoids.ite
  · intro _
    apply Avoids.bind Avoids.of_update
    intro _
    exact neverAborts_connSendPktstr _
  · intro _
    exact neverAborts_connSendPktstr _

/-! ## Continue and step, `v` packets -/

theorem neverAborts_processCont : NeverAborts (processCont stub) :=
  Avoids.ite (fun _ => Avoids.of_pure) fun _ => (neverAborts_connSendPktstr _).thenReturn _

theorem neverAborts_processStepi : NeverAborts (processStepi stub) :=
  Avoids.ite (fun _ => Avoids.of_pure) fun _ => (neverAborts_connSendPktstr _).thenReturn _

theorem neverAborts_processVcont {args : List UInt8} (hargs : args ≠ []) :
    NeverAborts (processVcont stub (some args)) := by
  obtain ⟨action, rest, rfl⟩ := List.exists_cons_of_ne_nil hargs
  apply Avoids.ite
  · intro _
    exact neverAborts_processCont stub
  · intro _
    apply Avoids.ite
    · intro _
      exact neverAborts_processStepi stub
    · intro _
      exact (neverAborts_connSendPktstr _).thenReturn _

/-- Only the actions of a `vCont` are used without looking whether they are there. -/
theorem neverAborts_processVpacket {payload : List UInt8}
    (hcont : (cut semicolon payload).1 = ascii "Cont" →
      NeverAborts (processVcont stub (cut semicolon payload).2)) :
    NeverAborts (processVpacket stub payload) := by
  apply Avoids.ite hcont
  intro _
  apply Avoids.ite
  · intro _
    exact (neverAborts_connSendPktstr _).thenReturn _
  · intro _
    exact (neverAborts_connSendPktstr _).thenReturn _

/-! ## Breakpoints and CPUs -/

theorem neverAborts_processBreakPoints {op : ℕ → ℕ → StubM σ Bool}
    (hop : ∀ addr type, NeverAborts (op addr type)) {payload : List UInt8} {type addr kind : ℕ}
    (hscan : scanHexFields 3 (text payload) = [type, addr, kind]) :
    NeverAborts (processBreakPoints op payload) := by
  unfold processBreakPoints
  rw [hscan]
  apply Avoids.bind (hop _ _)
  intro ret
  exact neverAborts_replyIf _ _ _

theorem neverAborts_processSetCpu (hop : stub.ops.setCpu.isSome) {payload : List UInt8}
    (hthread : payload.head? = some 103 → (scanDecimal (text payload).tail).isSome) :
    NeverAborts (processSetCpu stub payload) := by
  unfold processSetCpu
  apply Avoids.ite
  · intro hhead
    obtain ⟨⟨cpuid, rest⟩, hscan⟩ := Option.isSome_iff_exists.mp (hthread hhead)
    rw [hscan]
    apply Avoids.bind (neverAborts_callOp (by rwa [Option.isSome_map]) _)
    intro _
    exact neverAborts_connSendPktstr _
  · intro _
    exact neverAborts_connSendPktstr _

theorem neverAborts_ifProvided {provided : Bool} {handler : StubM σ Unit}
    (hhandler : NeverAborts handler) : NeverAborts (ifProvided provided handler) :=
  Avoids.ite (fun _ => hhandler.thenReturn _)
    fun _ => (neverAborts_connSendPktstr _).thenReturn _

end MiniGdbstub
