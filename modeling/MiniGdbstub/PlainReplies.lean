import MiniGdbstub.ReplySizes

/-!
# Handlers one by one

Two facts about the stub are facts about each of its handlers: which operations of the
target it calls, and what it replies.  `Tame` collects what both proofs need of a kind of
fault and of a relation between states, and the handlers are gone through once, with one lemma
each (`Program.Keeps`).

A reply is `Plain` when no character of it means anything to the framing.  Most replies are
digits, a code or a fixed word.  Three handlers are left to their callers: `process_reg_read`
and `process_xfer`, whose replies need not be plain, and `process_reg_write`, which calls two
operations.
-/

namespace MiniGdbstub

open CString Program

variable {σ α β : Type}

/-! ## Plain replies -/

/-- `'*'` -/
def runLengthChar : UInt8 := 42

/-- No character ends the body of a packet, escapes another or repeats one. -/
def Plain (pktstr : List UInt8) : Prop :=
  ∀ character ∈ pktstr, character ∉ [hash, escapeChar, runLengthChar]

instance : DecidablePred Plain := fun pktstr =>
  List.decidableBAll (fun character => character ∉ [hash, escapeChar, runLengthChar]) pktstr

theorem Plain.append {first second : List UInt8} (hfirst : Plain first) (hsecond : Plain second) :
    Plain (first ++ second) := by
  intro character hmem
  rcases List.mem_append.mp hmem with hmem | hmem
  · exact hfirst character hmem
  · exact hsecond character hmem

theorem plain_of_hexDigits {digits : List UInt8}
    (hdigits : ∀ digit ∈ digits, isHexDigit digit = true) : Plain digits := by
  have hexcludes : ∀ character, isHexDigit character = true →
      character ∉ [hash, escapeChar, runLengthChar] :=
    forall_byte _ (by decide +kernel)
  exact fun digit hmem => hexcludes digit (hdigits digit hmem)

theorem plain_hexText (bytes : List UInt8) : Plain (hexText bytes) :=
  plain_of_hexDigits isHexDigit_hexText

theorem plain_decimal (value : ℤ) : Plain (decimal value) := by
  have hexcludes : ∀ character, isDigit character = true →
      character ∉ [hash, escapeChar, runLengthChar] :=
    forall_byte _ (by decide +kernel)
  intro character hmem
  rcases mem_decimal hmem with rfl | hdigit
  · decide
  · exact hexcludes character hdigit

theorem plain_errorText (ret : Int32) : Plain (errorText ret) :=
  Plain.append (by decide) (plain_decimal _)

theorem plain_threadInfo (cpus : ℕ) : Plain (threadInfo cpus) := by
  refine Plain.append (by decide) fun character hmem => ?_
  obtain ⟨cpuid, -, hmem⟩ := List.mem_flatMap.mp hmem
  have hid : Plain (threadId cpuid) :=
    plain_of_hexDigits ((digitsOf_threadId cpuid).isHexDigit (by decide))
  have hcomma : Plain (ascii ",") := by decide
  exact hid.append hcomma character hmem

theorem plain_decimalPadded (width : ℕ) (value : ℤ) : Plain (decimalPadded width value) := by
  have hpadded : ∀ zeros, Plain (List.replicate zeros 48 ++ decimalDigits value.natAbs) := by
    intro zeros
    have hdigits : DigitsOf 10 (List.replicate zeros 48 ++ decimalDigits value.natAbs) :=
      (digitsOf_zeros (by decide) zeros).append (digitsOf_printed (by decide) value.natAbs)
    exact plain_of_hexDigits (hdigits.isHexDigit (by decide))
  unfold decimalPadded
  split
  · have hsign : Plain [45] := by decide
    exact hsign.append (hpadded _)
  · exact hpadded _

/-! ## Faults of the accesses -/

/-- The computation does not call through `NULL`. -/
def Callless (result : Except Fault α) : Prop :=
  ∀ fault, result = .error fault → fault ≠ .nullCall

theorem callless_ok (value : α) : Callless (.ok value) := by
  intro fault heq
  cases heq

theorem callless_error {fault : Fault} (hfault : fault ≠ .nullCall) :
    Callless (.error fault : Except Fault α) := by
  intro fault' heq
  cases heq
  exact hfault

theorem callless_bind {first : Except Fault α} {next : α → Except Fault β}
    (hfirst : Callless first) (hnext : ∀ value, Callless (next value)) :
    Callless (first >>= next) := by
  cases first with
  | error fault => exact callless_error (hfirst fault rfl)
  | ok value => exact hnext value

theorem callless_inBounds (cells : Option α) : Callless (inBounds cells) := by
  cases cells with
  | none => exact callless_error (by decide)
  | some cells => exact callless_ok cells

theorem callless_storeAt (room : Option ℕ) (count : ℕ) : Callless (storeAt room count) := by
  unfold storeAt
  split
  · split
    · exact callless_ok ()
    · exact callless_error (by decide)
  · exact callless_ok ()
  · exact callless_error (by decide)

theorem callless_hexToStr (num : List UInt8) (bytes : ℤ) : Callless (hexToStr num bytes) := by
  unfold hexToStr
  split
  · exact callless_error (by decide)
  · apply callless_bind (callless_inBounds _)
    intro cells
    exact callless_ok _

theorem callless_strToHex (str : List UInt8) (bytes : ℤ) : Callless (strToHex str bytes) := by
  rcases Nat.lt_or_ge str.length (2 * bytes.toNat) with hshort | hfits
  · rw [strToHex_error hshort]
    exact callless_error (by decide)
  · rw [strToHex_eq hfits]
    exact callless_ok _

theorem callless_decodeContent (content : Option (List UInt8)) (mval : Option ℕ) (mlen : ℕ) :
    Callless (decodeContent content mval mlen) := by
  cases content with
  | some content =>
      intro fault heq
      rcases hstore : storeAt mval (asInt mlen).toNat with fault' | _
      · rw [decodeContent, hstore] at heq
        cases heq
        exact callless_storeAt _ _ _ hstore
      · rw [decodeContent, hstore] at heq
        exact callless_strToHex content _ fault heq
  | none =>
      unfold decodeContent
      dsimp only
      split
      · exact callless_ok _
      · exact callless_error (by decide)

theorem callless_unescape (msg : List UInt8) (finish : ℕ) : Callless (unescape msg finish) := by
  have hloop : ∀ turns msg r w, Callless (unescapeLoop finish turns msg r w) := by
    intro turns
    induction turns with
    | zero => exact fun msg r w => callless_ok _
    | succ turns ih =>
        intro msg r w
        rw [unescapeLoop]
        split
        · apply callless_bind (callless_inBounds _)
          intro ch
          split
          · apply callless_bind (callless_inBounds _)
            intro next
            exact ih _ _ _
          · exact ih _ _ _
        · exact callless_ok _
  exact hloop finish msg 0 0

/-- Bytes in hexadecimal, sent by way of an array: a fault, or their digits. -/
theorem replyHex_cases (num : List UInt8) (bytes : ℤ) (block : List UInt8) :
    ∃ sent : StubM σ Unit, (do
        let hex ← lift (hexToStr num bytes)
        let packetStr ← lift (inBounds (Block.write? block 0 hex))
        connSendPktbuf packetStr) = sent ∧
      ((∃ fault, fault ≠ .nullCall ∧ sent = fail fault) ∨
        ∃ count, sent = connSendPktstr (hexText (num.take count))) := by
  cases hhex : hexToStr num bytes with
  | error fault =>
      exact ⟨_, rfl, .inl ⟨fault, callless_hexToStr num bytes fault hhex, rfl⟩⟩
  | ok hex =>
      obtain ⟨count, -, rfl⟩ := hexToStr_ok hhex
      cases hwrite : Block.write? block 0 (hexText (num.take count) ++ [0]) with
      | none =>
          refine ⟨_, rfl, .inl ⟨.outOfBounds, by decide, ?_⟩⟩
          funext state
          rw [lift_ok_bind, hwrite, inBounds_none, lift_error_bind]
          rfl
      | some written =>
          obtain ⟨-, rfl⟩ := Block.write?_eq_some.mp hwrite
          have htext : Block.overwrite block 0 (hexText (num.take count) ++ [0]) =
              hexText (num.take count) ++ 0 ::
                block.drop (0 + (hexText (num.take count) ++ [0]).length) := by
            rw [Block.overwrite, List.take_zero, List.nil_append, List.append_assoc,
              List.singleton_append]
          refine ⟨_, rfl, .inr ⟨count, ?_⟩⟩
          funext state
          rw [lift_ok_bind, hwrite, inBounds_some, lift_ok_bind, htext,
            connSendPktbuf_of_text (zero_notMem_hexText _)]

/-- `g` without registers sends what the array holds. -/
theorem processRegRead_none {stub : Gdbstub σ} (hregisters : stub.arch.registers = 0)
    (state : StubState σ) :
    processRegRead stub state = connSendPktbuf (localBuffer stub maxSendPacketSize) state := by
  rw [processRegRead, hregisters]
  rfl

/-- The bytes of three letters. -/
theorem request_of_letter : ∀ request : UInt8,
    (Char.ofNat request.toNat = 'g' → request = 103) ∧
      (Char.ofNat request.toNat = 'G' → request = 71) ∧
        (Char.ofNat request.toNat = 'q' → request = 113) :=
  forall_byte _ (by decide +kernel)

/-! ## What a proof about all handlers needs -/

/-- A kind of fault and a relation of states for which the handlers can be gone through: the
only fault of the kind is a call through `NULL`, and states are related when nothing was sent
between them, or a plain reply. -/
structure Tame (bad : Fault → Prop) (rel : StubState σ → StubState σ → Prop) : Prop where
  bad_eq : ∀ fault, bad fault → fault = .nullCall
  silent : ∀ state after, after.sent = state.sent → rel state after
  reply : ∀ state pktstr, Plain pktstr → rel state (state.reply pktstr)
  trans : ∀ first second third, rel first second → rel second third → rel first third

namespace Tame

variable {bad : Fault → Prop} {rel : StubState σ → StubState σ → Prop} (htame : Tame bad rel)

include htame

theorem refl (state : StubState σ) : rel state state :=
  htame.silent state state rfl

theorem not_bad {fault : Fault} (hfault : fault ≠ .nullCall) : ¬ bad fault :=
  fun hbad => hfault (htame.bad_eq fault hbad)

/-! ### The parts of a handler -/

theorem keeps_pure {value : α} : Keeps (pure value : StubM σ α) bad rel :=
  Keeps.of_pure htame.refl

theorem keeps_fail {fault : Fault} (hfault : fault ≠ .nullCall) :
    Keeps (fail fault : StubM σ α) bad rel :=
  Keeps.of_fail htame.refl (htame.not_bad hfault)

/-- An assertion that fails, or a read through `NULL`, is another fault. -/
theorem keeps_assertFail : Keeps (fail .assertFail : StubM σ α) bad rel :=
  htame.keeps_fail (by decide)

theorem keeps_nullDeref : Keeps (fail .nullDeref : StubM σ α) bad rel :=
  htame.keeps_fail (by decide)

theorem keeps_lift {result : Except Fault α} {next : α → StubM σ β} (hresult : Callless result)
    (hnext : ∀ value, result = .ok value → Keeps (next value) bad rel) :
    Keeps (lift result >>= next) bad rel :=
  Keeps.of_lift htame.refl (fun fault heq => htame.not_bad (hresult fault heq)) hnext

theorem keeps_bind {first : StubM σ α} {next : α → StubM σ β} (hfirst : Keeps first bad rel)
    (hnext : ∀ value, Keeps (next value) bad rel) : Keeps (first >>= next) bad rel :=
  Keeps.bind htame.trans hfirst hnext

theorem keeps_update {change : StubState σ → StubState σ}
    (hsent : ∀ state, (change state).sent = state.sent) :
    Keeps (update change : StubM σ Unit) bad rel :=
  Keeps.of_update fun state => htame.silent state (change state) (hsent state)

theorem keeps_malloc (stub : Gdbstub σ) (bytes : ℕ) : Keeps (malloc stub bytes) bad rel := by
  apply Keeps.of_get
  intro state
  apply htame.keeps_bind
  · exact htame.keeps_update fun _ => rfl
  · intro _
    exact htame.keeps_pure

theorem keeps_regbufGet (stub : Gdbstub σ) (regSz : ℕ) : Keeps (regbufGet stub regSz) bad rel := by
  apply Keeps.of_get
  intro state
  apply Keeps.ite
  · intro _
    exact htame.keeps_pure
  · intro _
    split
    · exact htame.keeps_fail (by decide)
    · apply htame.keeps_bind (htame.keeps_malloc stub _)
      intro buf
      apply htame.keeps_bind
      · exact htame.keeps_update fun _ => rfl
      · intro _
        exact htame.keeps_pure

/-- An operation that is there, or of which it does not matter that it is not. -/
theorem keeps_callOp {op : Option (σ → α × σ)} (hop : bad .nullCall → op.isSome)
    (call : α → TargetCall) : Keeps (callOp op call) bad rel := by
  intro state
  cases op with
  | none =>
      refine ⟨fun fault heq hbad => ?_, htame.refl state⟩
      cases heq
      cases hop hbad
  | some op =>
      refine ⟨fun fault heq => ?_, htame.silent _ _ rfl⟩
      cases heq

/-- A read stores its value behind a pointer. -/
theorem keeps_callRead {op : Option (σ → (Int32 × List UInt8) × σ)}
    (hop : bad .nullCall → op.isSome) (call : Int32 × List UInt8 → TargetCall)
    (room : Option ℕ) :
    Keeps (do
      let (ret, bytes) ← callOp op call
      if ret = 0 then
        lift (storeAt room bytes.length)
        return (ret, bytes)
      else
        return (ret, bytes) : StubM σ (Int32 × List UInt8)) bad rel := by
  apply htame.keeps_bind (htame.keeps_callOp hop call)
  intro result
  apply Keeps.ite
  · intro _
    apply htame.keeps_lift (callless_storeAt _ _)
    intro _ _
    exact htame.keeps_pure
  · intro _
    exact htame.keeps_pure

theorem keeps_callReadReg {stub : Gdbstub σ} (hop : bad .nullCall → stub.ops.readReg.isSome)
    (regno : ℤ) (value : Option ℕ) : Keeps (callReadReg stub regno value) bad rel :=
  htame.keeps_callRead (by rwa [Option.isSome_map]) _ value

theorem keeps_callReadMem {stub : Gdbstub σ} (hop : bad .nullCall → stub.ops.readMem.isSome)
    (addr len : ℕ) (val : Option ℕ) : Keeps (callReadMem stub addr len val) bad rel :=
  htame.keeps_callRead (by rwa [Option.isSome_map]) _ val

theorem keeps_connSendPktstr {pktstr : List UInt8} (hpktstr : Plain pktstr) :
    Keeps (connSendPktstr pktstr : StubM σ Unit) bad rel := by
  apply Keeps.ite
  · intro _
    exact Keeps.of_update fun state => htame.reply state pktstr hpktstr
  · intro _
    exact htame.keeps_fail (by decide)

/-- A handler followed by its event. -/
theorem keeps_thenReturn {program : StubM σ Unit} (hprogram : Keeps program bad rel)
    (event : Event) : Keeps (program >>= fun _ => pure event) bad rel := by
  apply htame.keeps_bind hprogram
  intro _
  exact htame.keeps_pure

theorem keeps_ok : Keeps (connSendPktstr (ascii "OK") : StubM σ Unit) bad rel :=
  htame.keeps_connSendPktstr (by decide)

/-- The reply to what the stub does not support. -/
theorem keeps_empty : Keeps (connSendPktstr [] : StubM σ Unit) bad rel :=
  htame.keeps_connSendPktstr (by decide)

/-- The reply to a request whose operation is missing. -/
theorem keeps_eperm : Keeps (do
    sendEperm
    return .none : StubM σ Event) bad rel :=
  htame.keeps_thenReturn (htame.keeps_connSendPktstr (by decide)) .none

/-- `OK`, or the code of the target. -/
theorem keeps_replyCode (ret : Int32) :
    Keeps (if ret = 0 then connSendPktstr (ascii "OK")
      else connSendPktstr (errorText ret) : StubM σ Unit) bad rel :=
  Keeps.ite (fun _ => htame.keeps_ok) fun _ =>
    htame.keeps_connSendPktstr (plain_errorText ret)

/-- Bytes in hexadecimal, by way of an array. -/
theorem keeps_replyHex (num : List UInt8) (bytes : ℤ) (block : List UInt8) :
    Keeps (do
      let hex ← lift (hexToStr num bytes)
      let packetStr ← lift (inBounds (Block.write? block 0 hex))
      connSendPktbuf packetStr : StubM σ Unit) bad rel := by
  obtain ⟨sent, hsent, ⟨fault, hfault, rfl⟩ | ⟨count, rfl⟩⟩ := replyHex_cases num bytes block
  · rw [hsent]
    exact htame.keeps_fail hfault
  · rw [hsent]
    exact htame.keeps_connSendPktstr (plain_hexText _)

/-! ### Registers and memory -/

/-- The loop of `g` sends nothing; what its text is sent as is up to the caller. -/
theorem keeps_regReadLoop {stub : Gdbstub σ} (hop : bad .nullCall → stub.ops.readReg.isSome)
    (todo : ℕ) : ∀ (i : ℕ) (packetStr : List UInt8),
      Keeps (regReadLoop stub todo i packetStr) bad rel := by
  induction todo with
  | zero => exact fun _ _ => htame.keeps_pure
  | succ todo ih =>
      intro i packetStr
      apply htame.keeps_bind (htame.keeps_regbufGet stub _)
      intro regValue
      apply htame.keeps_bind (htame.keeps_callReadReg hop _ _)
      rintro ⟨ret, value⟩
      apply Keeps.ite
      · intro _
        apply htame.keeps_lift (callless_hexToStr _ _)
        intro hex _
        apply htame.keeps_lift (callless_inBounds _)
        intro packetStr _
        exact ih _ _
      · intro _ state
        refine ⟨fun fault heq => htame.not_bad (callless_inBounds _ fault heq), htame.refl state⟩

/-- An array whose text is plain. -/
theorem keeps_connSendPktbuf {packetStr : List UInt8}
    (htext : TextWith (· ∉ [hash, escapeChar, runLengthChar]) packetStr) :
    Keeps (connSendPktbuf packetStr : StubM σ Unit) bad rel := by
  obtain ⟨pktstr, rest, rfl, hzero, hplain⟩ := htext.exists_text
  intro state
  rw [connSendPktbuf_of_text hzero]
  exact htame.keeps_connSendPktstr hplain state

/-- A piece of text put into the array. -/
theorem keeps_writePiece {packetStr piece : List UInt8} {start : ℕ}
    (htext : start = 0 ∨ TextWith (· ∉ [hash, escapeChar, runLengthChar]) packetStr)
    (hpiece : Plain piece) {next : List UInt8 → StubM σ Unit}
    (hnext : ∀ written, TextWith (· ∉ [hash, escapeChar, runLengthChar]) written →
      Keeps (next written) bad rel) :
    Keeps (lift (inBounds (Block.write? packetStr start (piece ++ [0]))) >>= next) bad rel := by
  apply htame.keeps_lift (callless_inBounds _)
  intro written hwrite
  cases hcells : Block.write? packetStr start (piece ++ [0]) with
  | none =>
      rw [hcells] at hwrite
      cases hwrite
  | some cells =>
      rw [hcells] at hwrite
      cases hwrite
      obtain ⟨hroom, rfl⟩ := Block.write?_eq_some.mp hcells
      exact hnext _ (TextWith.overwrite htext hroom hpiece)

/-- `g` with at least one register. -/
theorem keeps_processRegRead {stub : Gdbstub σ} (hop : bad .nullCall → stub.ops.readReg.isSome)
    (hregisters : stub.arch.registers ≠ 0) : Keeps (processRegRead stub) bad rel := by
  have hloop : ∀ (todo i : ℕ) (packetStr : List UInt8), 0 < i + todo →
      (i = 0 ∨ TextWith (· ∉ [hash, escapeChar, runLengthChar]) packetStr) →
      Keeps (regReadLoop stub todo i packetStr >>= connSendPktbuf) bad rel := by
    intro todo
    induction todo with
    | zero =>
        intro i packetStr hpos htext
        exact htame.keeps_connSendPktbuf (htext.resolve_left (by omega))
    | succ todo ih =>
        intro i packetStr _ htext
        rw [regReadLoop]
        dsimp only
        rw [Program.assoc]
        apply htame.keeps_bind (htame.keeps_regbufGet stub _)
        intro regValue
        rw [Program.assoc]
        apply htame.keeps_bind (htame.keeps_callReadReg hop _ _)
        rintro ⟨ret, value⟩
        dsimp only
        split
        · rw [Program.assoc]
          apply htame.keeps_lift (callless_hexToStr _ _)
          intro hex hhex
          obtain ⟨count, -, rfl⟩ := hexToStr_ok hhex
          rw [Program.assoc]
          refine htame.keeps_writePiece (htext.imp_left ?_) (plain_hexText _) ?_
          · rintro rfl
            rw [Nat.zero_mul, Nat.zero_mul]
          · intro written hwritten
            exact ih (i + 1) written (by omega) (.inr hwritten)
        · exact htame.keeps_writePiece (.inl rfl) (plain_errorText ret) fun written hwritten =>
            htame.keeps_connSendPktbuf hwritten
  exact hloop _ 0 _ (by omega) (.inl rfl)

theorem keeps_processRegReadOne {stub : Gdbstub σ}
    (hop : bad .nullCall → stub.ops.readReg.isSome) (payload : List UInt8) :
    Keeps (processRegReadOne stub payload) bad rel := by
  unfold processRegReadOne
  split
  · apply htame.keeps_bind (htame.keeps_regbufGet stub _)
    intro regValue
    apply htame.keeps_bind (htame.keeps_callReadReg hop _ _)
    rintro ⟨ret, value⟩
    apply Keeps.ite
    · intro _
      exact htame.keeps_replyHex _ _ _
    · intro _
      exact htame.keeps_connSendPktstr (plain_errorText ret)
  · exact htame.keeps_assertFail

theorem keeps_callWriteReg {stub : Gdbstub σ} (hop : bad .nullCall → stub.ops.writeReg.isSome)
    (regno : ℤ) (data : List UInt8) : Keeps (callWriteReg stub regno data) bad rel :=
  htame.keeps_callOp (by rwa [Option.isSome_map]) _

theorem keeps_callWriteMem {stub : Gdbstub σ} (hop : bad .nullCall → stub.ops.writeMem.isSome)
    (addr len : ℕ) (data : List UInt8) : Keeps (callWriteMem stub addr len data) bad rel :=
  htame.keeps_callOp (by rwa [Option.isSome_map]) _

theorem keeps_regWriteParse {stub : Gdbstub σ} (hop : bad .nullCall → stub.ops.readReg.isSome)
    (payload : List UInt8) (todo : ℕ) :
    ∀ (i payloadOffset storageOffset : ℕ) (newValues backupValues : List UInt8),
      Keeps (regWriteParse stub payload todo i payloadOffset storageOffset newValues
        backupValues) bad rel := by
  induction todo with
  | zero => exact fun _ _ _ _ _ => htame.keeps_pure
  | succ todo ih =>
      intro i payloadOffset storageOffset newValues backupValues
      apply htame.keeps_lift (callless_strToHex _ _)
      intro value _
      apply htame.keeps_lift (callless_inBounds _)
      intro newValues _
      apply htame.keeps_bind (htame.keeps_callReadReg hop _ _)
      rintro ⟨ret, old⟩
      apply Keeps.ite
      · intro _
        apply htame.keeps_lift (callless_inBounds _)
        intro backupValues _
        exact ih _ _ _ _ _
      · intro _
        exact htame.keeps_pure

theorem keeps_regWriteCommit {stub : Gdbstub σ} (hop : bad .nullCall → stub.ops.writeReg.isSome)
    (newValues : List UInt8) (todo : ℕ) :
    ∀ i storageOffset, Keeps (regWriteCommit stub newValues todo i storageOffset) bad rel := by
  induction todo with
  | zero => exact fun _ _ => htame.keeps_pure
  | succ todo ih =>
      intro i storageOffset
      apply htame.keeps_bind (htame.keeps_callWriteReg hop _ _)
      intro ret
      apply Keeps.ite
      · intro _
        exact ih _ _
      · intro _
        exact htame.keeps_pure

theorem keeps_regWriteRollback {stub : Gdbstub σ}
    (hop : bad .nullCall → stub.ops.writeReg.isSome) (backupValues : List UInt8) (todo : ℕ) :
    ∀ i storageOffset,
      Keeps (regWriteRollback stub backupValues todo i storageOffset) bad rel := by
  induction todo with
  | zero => exact fun _ _ => htame.keeps_pure
  | succ todo ih =>
      intro i storageOffset
      apply htame.keeps_bind (htame.keeps_callWriteReg hop _ _)
      intro ret
      exact ih _ _

/-- `G` needs both operations: it saves the registers before it writes them. -/
theorem keeps_processRegWrite {stub : Gdbstub σ}
    (hread : bad .nullCall → stub.ops.readReg.isSome)
    (hwrite : bad .nullCall → stub.ops.writeReg.isSome) (payload : List UInt8) :
    Keeps (processRegWrite stub payload) bad rel := by
  apply Keeps.ite
  · exact fun _ => htame.keeps_ok
  intro _
  apply Keeps.ite
  · exact fun _ => htame.keeps_connSendPktstr (by decide)
  intro _
  apply htame.keeps_bind (htame.keeps_malloc stub _)
  intro newValues
  apply htame.keeps_bind (htame.keeps_malloc stub _)
  intro backupValues
  apply Keeps.ite
  · exact fun _ => htame.keeps_connSendPktstr (by decide)
  intro _
  apply htame.keeps_bind (htame.keeps_regWriteParse hread _ _ _ _ _ _ _)
  rintro (ret | ⟨newValues, backupValues⟩)
  · exact htame.keeps_connSendPktstr (plain_errorText ret)
  · apply htame.keeps_bind (htame.keeps_regWriteCommit hwrite _ _ _ _)
    rintro (_ | ⟨failedRegno, errorCode⟩)
    · exact htame.keeps_ok
    · apply htame.keeps_bind (htame.keeps_regWriteRollback hwrite _ _ _ _)
      intro _
      exact htame.keeps_connSendPktstr (plain_errorText errorCode)

theorem keeps_processRegWriteOne {stub : Gdbstub σ}
    (hop : bad .nullCall → stub.ops.writeReg.isSome) (payload : List UInt8) :
    Keeps (processRegWriteOne stub payload) bad rel := by
  unfold processRegWriteOne
  dsimp only
  split
  · apply htame.keeps_bind (htame.keeps_regbufGet stub _)
    intro buf
    split
    · exact htame.keeps_nullDeref
    · apply Keeps.ite
      · intro _
        apply htame.keeps_lift (callless_strToHex _ _)
        intro data _
        apply htame.keeps_lift (callless_storeAt _ _)
        intro _ _
        apply htame.keeps_bind (htame.keeps_callWriteReg hop _ _)
        intro ret
        exact htame.keeps_replyCode ret
      · exact fun _ => htame.keeps_assertFail
  · exact htame.keeps_assertFail

theorem keeps_processMemRead {stub : Gdbstub σ} (hop : bad .nullCall → stub.ops.readMem.isSome)
    (payload : List UInt8) : Keeps (processMemRead stub payload) bad rel := by
  unfold processMemRead
  split
  · apply htame.keeps_bind (htame.keeps_malloc stub _)
    intro mval
    apply htame.keeps_bind (htame.keeps_callReadMem hop _ _ _)
    rintro ⟨ret, value⟩
    apply Keeps.ite
    · intro _
      exact htame.keeps_replyHex _ _ _
    · intro _
      exact htame.keeps_connSendPktstr (plain_errorText ret)
  · exact htame.keeps_assertFail

theorem keeps_processMemWrite {stub : Gdbstub σ}
    (hop : bad .nullCall → stub.ops.writeMem.isSome) (payload : List UInt8) :
    Keeps (processMemWrite stub payload) bad rel := by
  unfold processMemWrite
  dsimp only
  split
  · apply htame.keeps_bind (htame.keeps_malloc stub _)
    intro mval
    apply htame.keeps_lift (callless_decodeContent _ _ _)
    intro data _
    apply htame.keeps_bind (htame.keeps_callWriteMem hop _ _ _)
    intro ret
    exact htame.keeps_replyCode ret
  · exact htame.keeps_assertFail

theorem keeps_processMemXwrite {stub : Gdbstub σ}
    (hop : bad .nullCall → stub.ops.writeMem.isSome) (payload : List UInt8) (packetEnd : ℕ) :
    Keeps (processMemXwrite stub payload packetEnd) bad rel := by
  unfold processMemXwrite
  dsimp only
  split
  · split
    · exact htame.keeps_nullDeref
    · apply htame.keeps_lift (callless_unescape _ _)
      rintro ⟨count, content⟩ _
      apply Keeps.ite
      · intro _
        apply htame.keeps_bind (htame.keeps_callWriteMem hop _ _ _)
        intro ret
        exact htame.keeps_ok
      · exact fun _ => htame.keeps_assertFail
  · exact htame.keeps_assertFail

/-! ### Queries -/

theorem keeps_processThreadInfo (stub : Gdbstub σ) :
    Keeps (processThreadInfo stub) bad rel := by
  by_cases hsmp : (if stub.arch.smp = 0 then 1 else stub.arch.smp) < 10000
  · intro state
    rw [processThreadInfo_eq stub hsmp]
    split
    · exact htame.keeps_connSendPktstr (plain_threadInfo _) state
    · exact htame.keeps_fail (by decide) state
  · unfold processThreadInfo
    dsimp only
    rw [if_neg hsmp]
    exact htame.keeps_assertFail

theorem keeps_xferTokens {stub : Gdbstub σ} {desc : List UInt8} (args : List UInt8)
    (hreply : ∀ offset length, Keeps (xferReply stub desc offset length) bad rel) :
    Keeps (xferTokens stub desc args) bad rel := by
  unfold xferTokens
  split
  · exact htame.keeps_nullDeref
  apply Keeps.ite
  · intro _
    split
    · exact htame.keeps_nullDeref
    apply Keeps.ite
    · intro _
      split
      · exact htame.keeps_nullDeref
      split <;> exact hreply _ _
    · exact fun _ => htame.keeps_assertFail
  · exact fun _ => htame.keeps_assertFail

theorem keeps_strtokStart (stub : Gdbstub σ) (args : Option (List UInt8)) :
    Keeps (strtokStart stub args) bad rel := by
  apply Keeps.of_get
  intro seen
  have hbegun : Keeps (update StubState.begun) bad rel :=
    Keeps.of_update fun state => htame.silent state state.begun rfl
  apply htame.keeps_bind hbegun
  intro _
  split
  · exact htame.keeps_pure
  · exact Keeps.ite (fun _ => htame.keeps_nullDeref) fun _ => htame.keeps_pure

/-- A transfer, with what it sends of the description. -/
theorem keeps_processXfer {stub : Gdbstub σ} (s : Option (List UInt8))
    (hreply : ∀ desc ∈ stub.arch.targetDesc, ∀ offset length,
      Keeps (xferReply stub desc offset length) bad rel) :
    Keeps (processXfer stub s) bad rel := by
  cases s with
  | none => exact htame.keeps_nullDeref
  | some s =>
      unfold processXfer
      dsimp only
      split
      · rename_i desc hdesc
        have hreply := hreply desc hdesc
        apply Keeps.ite
        · intro _
          apply htame.keeps_bind (htame.keeps_strtokStart stub _)
          intro args
          exact htame.keeps_xferTokens args hreply
        · exact fun _ => htame.keeps_empty
      · exact htame.keeps_empty

/-- A query, with what it is if it is a transfer. -/
theorem keeps_processQuery {stub : Gdbstub σ} (payload : List UInt8)
    (hxfer : (cut colon payload).1 = ascii "Xfer" →
      Keeps (processXfer stub (cut colon payload).2) bad rel) :
    Keeps (processQuery stub payload) bad rel := by
  unfold processQuery
  dsimp only
  apply Keeps.ite
  · intro _
    apply Keeps.ite
    · intro hop
      apply htame.keeps_bind (htame.keeps_callOp (fun _ => hop) _)
      intro cpuid
      have hfront : Plain (ascii "QC") := by decide
      exact htame.keeps_connSendPktstr (hfront.append (plain_decimalPadded _ _))
    · exact fun _ => htame.keeps_empty
  intro _
  apply Keeps.ite
  · intro _
    exact Keeps.ite (fun _ => htame.keeps_connSendPktstr (by decide)) fun _ =>
      htame.keeps_connSendPktstr (by decide)
  intro _
  apply Keeps.ite
  · exact fun _ => htame.keeps_connSendPktstr (by decide)
  intro _
  apply Keeps.ite hxfer
  intro _
  apply Keeps.ite
  · exact fun _ => htame.keeps_ok
  intro _
  apply Keeps.ite
  · exact fun _ => htame.keeps_processThreadInfo stub
  intro _
  exact Keeps.ite (fun _ => htame.keeps_connSendPktstr (by decide)) fun _ =>
    htame.keeps_empty

theorem keeps_processGeneralSet (payload : List UInt8) :
    Keeps (processGeneralSet payload : StubM σ Unit) bad rel := by
  unfold processGeneralSet
  dsimp only
  apply Keeps.ite
  · intro _
    apply htame.keeps_bind
    · exact htame.keeps_update fun _ => rfl
    · intro _
      exact htame.keeps_ok
  · exact fun _ => htame.keeps_empty

/-! ### Continue, step, breakpoints, CPUs -/

theorem keeps_processCont (stub : Gdbstub σ) : Keeps (processCont stub) bad rel := by
  apply Keeps.ite
  · exact fun _ => htame.keeps_pure
  · exact fun _ => htame.keeps_eperm

theorem keeps_processStepi (stub : Gdbstub σ) : Keeps (processStepi stub) bad rel := by
  apply Keeps.ite
  · exact fun _ => htame.keeps_pure
  · exact fun _ => htame.keeps_eperm

theorem keeps_processVcontSupport (stub : Gdbstub σ) :
    Keeps (processVcontSupport stub) bad rel := by
  have hall : ∀ strS ∈ [[], ascii "s;"], ∀ strC ∈ [[], ascii "c;"],
      Plain (ascii "vCont;" ++ strS ++ strC) := by decide
  refine htame.keeps_connSendPktstr (hall _ ?_ _ ?_)
  · split <;> simp
  · split <;> simp

theorem keeps_processVpacket (stub : Gdbstub σ) (payload : List UInt8) :
    Keeps (processVpacket stub payload) bad rel := by
  unfold processVpacket
  dsimp only
  apply Keeps.ite
  · intro _
    unfold processVcont
    split
    · exact htame.keeps_nullDeref
    apply Keeps.ite (fun _ => htame.keeps_processCont stub)
    intro _
    apply Keeps.ite (fun _ => htame.keeps_processStepi stub)
    intro _
    exact htame.keeps_eperm
  intro _
  apply Keeps.ite
  · exact fun _ => htame.keeps_thenReturn (htame.keeps_processVcontSupport stub) _
  · exact fun _ => htame.keeps_thenReturn htame.keeps_empty _

theorem keeps_processBreakPoints {op : ℕ → ℕ → StubM σ Bool}
    (hop : ∀ addr type, Keeps (op addr type) bad rel) (payload : List UInt8) :
    Keeps (processBreakPoints op payload) bad rel := by
  unfold processBreakPoints
  split
  · apply htame.keeps_bind (hop _ _)
    intro ret
    exact Keeps.ite (fun _ => htame.keeps_ok) fun _ =>
      htame.keeps_connSendPktstr (by decide)
  · exact htame.keeps_assertFail

theorem keeps_processSetCpu {stub : Gdbstub σ} (hop : bad .nullCall → stub.ops.setCpu.isSome)
    (payload : List UInt8) : Keeps (processSetCpu stub payload) bad rel := by
  unfold processSetCpu
  apply Keeps.ite
  · intro _
    split
    · exact htame.keeps_assertFail
    · apply htame.keeps_bind (htame.keeps_callOp (by rwa [Option.isSome_map]) _)
      intro _
      exact htame.keeps_ok
  · exact fun _ => htame.keeps_ok

/-! ### The dispatcher -/

theorem keeps_ifProvided {provided : Bool} {handler : StubM σ Unit}
    (hhandler : provided = true → Keeps handler bad rel) :
    Keeps (ifProvided provided handler) bad rel := by
  apply Keeps.ite
  · exact fun hprovided => htame.keeps_thenReturn (hhandler hprovided) _
  · exact fun _ => htame.keeps_eperm

/-- **Every request**, but for the three handlers that are special. -/
theorem keeps_dispatch {stub : Gdbstub σ} {request : UInt8} {payload : List UInt8}
    (packetEnd : ℕ)
    (hregs : request = 103 → stub.ops.readReg.isSome → Keeps (processRegRead stub) bad rel)
    (hwrite : request = 71 → stub.ops.writeReg.isSome →
      Keeps (processRegWrite stub payload) bad rel)
    (hxfer : request = 113 → (cut colon payload).1 = ascii "Xfer" →
      Keeps (processXfer stub (cut colon payload).2) bad rel) :
    Keeps (dispatch stub request payload packetEnd) bad rel := by
  obtain ⟨hg, hG, hq⟩ := request_of_letter request
  unfold dispatch
  split
  · exact htame.keeps_processCont stub
  · rename_i hletter
    exact htame.keeps_ifProvided (hregs (hg hletter))
  · exact htame.keeps_ifProvided fun hop => htame.keeps_processMemRead (fun _ => hop) payload
  · exact htame.keeps_ifProvided fun hop => htame.keeps_processRegReadOne (fun _ => hop) payload
  · rename_i hletter
    exact htame.keeps_thenReturn (htame.keeps_processQuery payload (hxfer (hq hletter))) _
  · exact htame.keeps_thenReturn (htame.keeps_processGeneralSet payload) _
  · exact htame.keeps_processStepi stub
  · exact htame.keeps_processVpacket stub payload
  · refine htame.keeps_ifProvided fun hop => htame.keeps_processBreakPoints (fun _ _ => ?_) payload
    exact htame.keeps_callOp (fun _ => by rwa [Option.isSome_map]) _
  · exact htame.keeps_thenReturn (htame.keeps_connSendPktstr (by decide)) _
  · exact htame.keeps_thenReturn htame.keeps_ok _
  · rename_i hletter
    exact htame.keeps_ifProvided (hwrite (hG hletter))
  · exact htame.keeps_ifProvided fun hop => htame.keeps_processSetCpu (fun _ => hop) payload
  · exact htame.keeps_ifProvided fun hop => htame.keeps_processMemWrite (fun _ => hop) payload
  · exact htame.keeps_ifProvided fun hop => htame.keeps_processRegWriteOne (fun _ => hop) payload
  · exact htame.keeps_thenReturn htame.keeps_ok _
  · exact htame.keeps_ifProvided fun hop =>
      htame.keeps_processMemXwrite (fun _ => hop) payload packetEnd
  · refine htame.keeps_ifProvided fun hop => htame.keeps_processBreakPoints (fun _ _ => ?_) payload
    exact htame.keeps_callOp (fun _ => by rwa [Option.isSome_map]) _
  · exact htame.keeps_thenReturn htame.keeps_empty _

end Tame

end MiniGdbstub
