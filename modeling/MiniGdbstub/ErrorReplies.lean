import MiniGdbstub.Library.TextArray
import MiniGdbstub.PlainReplies
import MiniGdbstub.Replies
import MiniGdbstub.SingleWrites

/-!
# Codes of the target and error replies

The client takes a reply for an error when it is an `E` and two hexadecimal digits
(`IsFailureReply`).  A handler that is told a code by the target prints it in decimal behind an
`E`, with as many digits as it has and with its sign; the handler of `X` does not look at the
code at all.

`Answered` is what a run of any of these handlers can end with: a fault before the target
refused anything, a reply after operations that all succeeded, or, at the first code that is
not zero, what the handler says about it.  The handlers are gone through with it, loops
included.  `failuresRecognisable_iff` is assembled from that: a failure can be recognised when
its code has two digits and the request is not `X`, and a success is never taken for a failure
but in the cases of `ErrorWithoutCode`.
-/

namespace MiniGdbstub

open CString Program

variable {σ α β : Type} (stub : Gdbstub σ)

/-! ## The requests and their replies -/

/-- `E` and two hexadecimal digits. -/
def IsFailureReply (reply : List UInt8) : Prop :=
  ∃ high low, reply = [69, high, low] ∧ isHexDigit high = true ∧ isHexDigit low = true

/-- The requests that read or write registers or memory. -/
def accessRequests : List UInt8 := ascii "gpGPmMX"

/-- The body of a well-formed request of this kind. -/
inductive WellFormedAccess : List UInt8 → Prop
  | registers : WellFormedAccess (ascii "g")
  | register {regnoText : List UInt8} {regno : ℕ} :
      HexNumber regnoText regno → regno < 2 ^ 31 → WellFormedAccess (112 :: regnoText)
  | memory {fields : List UInt8} {addr len : ℕ} :
      MemoryRange fields addr len → WellFormedAccess (109 :: fields)
  | write {body : List UInt8} : WellFormed stub body → WellFormedAccess body

/-- How a packet is processed. -/
abbrev processBody (body : List UInt8) (csumHigh csumLow : UInt8) (state : StubState σ) :
    Except Fault Event × StubState σ :=
  gdbstubProcessPacket stub (Packet.ofFrame (framed body csumHigh csumLow)) state

/-- A failure is answered with a failure reply, and a success is not. -/
structure FailuresRecognisable (body : List UInt8) (csumHigh csumLow : UInt8)
    (state : StubState σ) : Prop where
  failed : ¬ CallsSucceed state (processBody stub body csumHigh csumLow state).2 →
    ∃ reply, (processBody stub body csumHigh csumLow state).1 = .ok .none ∧
      (processBody stub body csumHigh csumLow state).2.sent =
        state.sent ++ [pktstrFrame reply] ∧ IsFailureReply reply
  succeeded : WellFormedAccess stub body →
    CallsSucceed state (processBody stub body csumHigh csumLow state).2 →
    ∀ reply, (processBody stub body csumHigh csumLow state).2.sent =
      state.sent ++ [pktstrFrame reply] → ¬ IsFailureReply reply

/-! ## The condition -/

/-- What an operation returned, if it returns a code. -/
def TargetCall.code : TargetCall → Int32
  | .readReg _ ret _ => ret
  | .writeReg _ _ ret => ret
  | .readMem _ _ ret _ => ret
  | .writeMem _ _ _ ret => ret
  | _ => 0

/-- The first code of the target that is not zero. -/
def firstCode (calls : List TargetCall) : Option Int32 :=
  (calls.map TargetCall.code).find? (· != 0)

/-- The operation of a request is there. -/
def operationProvided (request : UInt8) : Bool :=
  match Char.ofNat request.toNat with
  | 'g' => stub.ops.readReg.isSome
  | 'p' => stub.ops.readReg.isSome
  | 'G' => stub.ops.writeReg.isSome
  | 'P' => stub.ops.writeReg.isSome
  | 'm' => stub.ops.readMem.isSome
  | 'M' => stub.ops.writeMem.isSome
  | 'X' => stub.ops.writeMem.isSome
  | _ => true

/-- An error that is not the target's: its operation is missing, there is no memory for the
registers of `G`, or there are no registers and the array that `g` sends happens to hold such a
text. -/
def ErrorWithoutCode (request : UInt8) (state : StubState σ) : Prop :=
  operationProvided stub request = false ∨
    (request = 71 ∧ stub.totalRegBytes ≠ 0 ∧
      ¬ (stub.mallocs state.allocations stub.totalRegBytes = true ∧
        stub.mallocs (state.allocations + 1) stub.totalRegBytes = true)) ∨
    (request = 103 ∧ stub.arch.registers = 0 ∧
      ∃ reply ∈ text? (localBuffer stub maxSendPacketSize), IsFailureReply reply)

/-- The code has two digits and is looked at. -/
structure TwoDigits (request : UInt8) (code : Int32) : Prop where
  reported : request ≠ 88
  low : 10 ≤ code.toInt
  high : code.toInt ≤ 99

section

variable {stub}

/-! ## Texts of codes -/

theorem isFailureReply_iff {reply : List UInt8} :
    IsFailureReply reply ↔
      reply.head? = some 69 ∧ reply.length = 3 ∧ ∀ digit ∈ reply.tail, isHexDigit digit = true := by
  constructor
  · rintro ⟨high, low, rfl, hhigh, hlow⟩
    refine ⟨rfl, rfl, fun digit hmem => ?_⟩
    rcases List.mem_cons.mp hmem with rfl | hmem
    · exact hhigh
    · rwa [List.mem_singleton.mp hmem]
  · rintro ⟨hhead, hlength, hdigits⟩
    match reply, hlength with
    | [first, high, low], _ =>
        cases hhead
        exact ⟨high, low, rfl, hdigits high List.mem_cons_self,
          hdigits low (List.mem_cons_of_mem _ List.mem_cons_self)⟩

/-- A code can be recognised when it has two digits and no sign. -/
theorem isFailureReply_errorText_iff (code : Int32) :
    IsFailureReply (errorText code) ↔ 10 ≤ code.toInt ∧ code.toInt ≤ 99 := by
  have herror : errorText code = 69 :: decimal code.toInt := rfl
  rw [isFailureReply_iff, herror, List.tail_cons, List.length_cons]
  rcases lt_or_ge code.toInt 0 with hneg | hnonneg
  · have hsign : decimal code.toInt = 45 :: decimalDigits code.toInt.natAbs := if_pos hneg
    rw [hsign]
    refine iff_of_false ?_ (by omega)
    rintro ⟨-, -, hdigits⟩
    exact absurd (hdigits 45 List.mem_cons_self) (by decide)
  · obtain ⟨value, hvalue⟩ := Int.eq_ofNat_of_zero_le hnonneg
    have hplain : decimal code.toInt = decimalDigits value := by
      rw [hvalue]
      exact if_neg (by omega)
    have hdigits : ∀ digit ∈ decimalDigits value, isHexDigit digit = true := by
      intro digit hmem
      have hprinted : DigitsOf 10 (decimalDigits value) := digitsOf_printed (by decide) value
      exact hprinted.isHexDigit (by decide) digit hmem
    rw [hplain, hvalue]
    have hlength : (decimalDigits value).length = 2 ↔ 10 ≤ value ∧ value ≤ 99 := by
      have hle := Nat.digits_length_le_iff (by decide : 1 < 10) value (k := 2)
      have hlt := Nat.lt_digits_length_iff (by decide : 1 < 10) value (k := 1)
      unfold decimalDigits
      split
      · exact iff_of_false (by decide) (by omega)
      · rw [List.length_map, List.length_reverse]
        omega
    constructor
    · rintro ⟨-, htwo, -⟩
      have hrange := hlength.mp (by omega)
      omega
    · intro hrange
      exact ⟨rfl, by rw [hlength.mpr (by omega)], hdigits⟩

/-! ## How a run ends -/

theorem firstCode_append (first second : List TargetCall) :
    firstCode (first ++ second) = (firstCode first).or (firstCode second) := by
  rw [firstCode, List.map_append, List.find?_append]
  rfl

theorem firstCode_singleton (call : TargetCall) :
    firstCode [call] = if call.code = 0 then none else some call.code := by
  unfold firstCode
  by_cases hcode : call.code = 0
  · rw [if_pos hcode, List.map_singleton, hcode]
    rfl
  · rw [if_neg hcode, List.map_singleton]
    exact List.find?_cons_of_pos (bne_iff_ne.mpr hcode)

theorem firstCode_eq_none {calls : List TargetCall} :
    firstCode calls = none ↔ ∀ call ∈ calls, call.failed = false := by
  have hfailed : ∀ call : TargetCall, call.failed = (call.code != 0) := by
    intro call
    cases call <;> rfl
  simp only [firstCode, List.find?_eq_none, List.forall_mem_map, hfailed, Bool.not_eq_true]

/-- Nothing was sent, and every operation that was called succeeded. -/
structure Smooth (state after : StubState σ) : Prop where
  sent : after.sent = state.sent
  calls : ∃ calls, after.calls = state.calls ++ calls ∧ firstCode calls = none

theorem Smooth.of_eq {state after : StubState σ} (hsent : after.sent = state.sent)
    (hcalls : after.calls = state.calls) : Smooth state after :=
  ⟨hsent, [], by rw [hcalls, List.append_nil], rfl⟩

theorem Smooth.refl (state : StubState σ) : Smooth state state :=
  Smooth.of_eq rfl rfl

theorem Smooth.trans {state between after : StubState σ} (hfirst : Smooth state between)
    (hsecond : Smooth between after) : Smooth state after := by
  obtain ⟨earlier, hearlier, hnone⟩ := hfirst.calls
  obtain ⟨later, hlater, hnone'⟩ := hsecond.calls
  refine ⟨hsecond.sent.trans hfirst.sent, earlier ++ later, ?_, ?_⟩
  · rw [hlater, hearlier, List.append_assoc]
  · rw [firstCode_append, hnone, hnone']
    rfl

/-- A call that succeeded. -/
theorem Smooth.called (state : StubState σ) {call : TargetCall} (hcall : call.code = 0)
    (target : σ) : Smooth state (state.called call target) :=
  ⟨rfl, [call], rfl, by rw [firstCode_singleton, if_pos hcall]⟩

/-- The ends of a run that returns `result`: it stopped, or it replied, before any operation
failed; or the first code that is not zero was reported. -/
inductive Answered (fits : List UInt8 → Prop) (report : Int32 → List UInt8) (result : α)
    (state : StubState σ) : Except Fault α × StubState σ → Prop
  | stopped {fault : Fault} {after : StubState σ} :
      Smooth state after → Answered fits report result state (.error fault, after)
  | replied {reply : List UInt8} {between : StubState σ} :
      Smooth state between → fits reply →
      Answered fits report result state (.ok result, between.reply reply)
  | failed {code : Int32} {calls : List TargetCall} {after : StubState σ} :
      after.calls = state.calls ++ calls → firstCode calls = some code →
      after.sent = state.sent ++ [pktstrFrame (report code)] →
      Answered fits report result state (.ok result, after)

theorem Answered.after_smooth {fits : List UInt8 → Prop} {report : Int32 → List UInt8} {result : α}
    {state between : StubState σ} {run : Except Fault α × StubState σ}
    (hsmooth : Smooth state between) (hrun : Answered fits report result between run) :
    Answered fits report result state run := by
  cases hrun with
  | stopped hafter => exact .stopped (hsmooth.trans hafter)
  | replied hafter hfits => exact .replied (hsmooth.trans hafter) hfits
  | @failed code later after hcalls hcode hsent =>
      obtain ⟨earlier, hearlier, hnone⟩ := hsmooth.calls
      have hall : after.calls = state.calls ++ (earlier ++ later) := by
        rw [hcalls, hearlier, List.append_assoc]
      refine .failed hall ?_ (hsmooth.sent ▸ hsent)
      rw [firstCode_append, hnone, hcode]
      rfl

/-- The program answers like this from every state. -/
def Answers (fits : List UInt8 → Prop) (report : Int32 → List UInt8) (result : α)
    (program : StubM σ α) : Prop :=
  ∀ state, Answered fits report result state (program state)

/-- The program sends what is reported about this code, whatever else it does. -/
def Reports (report : Int32 → List UInt8) (code : Int32) (program : StubM σ Unit) : Prop :=
  ∀ state, ∃ after calls, program state = (.ok (), after) ∧ after.calls = state.calls ++ calls ∧
    after.sent = state.sent ++ [pktstrFrame (report code)]

/-! ## Rules -/

section

variable {fits : List UInt8 → Prop} {report : Int32 → List UInt8} {result : α}

theorem Answers.of_fail (fault : Fault) :
    Answers fits report result (fail fault : StubM σ α) :=
  fun state => .stopped (Smooth.refl state)

/-- A part that sends nothing and calls nothing that fails. -/
theorem Answers.bind {first : StubM σ β} {next : β → StubM σ α}
    (hfirst : Keeps first (fun _ => False) Smooth)
    (hnext : ∀ value, Answers fits report result (next value)) :
    Answers fits report result (first >>= next) := by
  intro state
  have hsmooth := (hfirst state).2
  rcases hrun : first state with ⟨fault | value, between⟩
  · rw [hrun] at hsmooth
    rw [bind_of_error hrun]
    exact .stopped hsmooth
  · rw [hrun] at hsmooth
    rw [bind_of_ok hrun]
    exact (hnext value between).after_smooth hsmooth

theorem Answers.lift {value : Except Fault β} {next : β → StubM σ α}
    (hnext : ∀ cells, value = .ok cells → Answers fits report result (next cells)) :
    Answers fits report result (Program.lift value >>= next) := by
  intro state
  cases value with
  | error fault => exact .stopped (Smooth.refl state)
  | ok cells => exact hnext cells rfl state

theorem Answers.ite {condition : Prop} [Decidable condition] {yes no : StubM σ α}
    (hyes : condition → Answers fits report result yes)
    (hno : ¬ condition → Answers fits report result no) :
    Answers fits report result (if condition then yes else no) := by
  split
  · rename_i hcondition
    exact hyes hcondition
  · rename_i hcondition
    exact hno hcondition

theorem Answers.reply {pktstr : List UInt8} (hfits : fits pktstr) :
    Answers fits report () (connSendPktstr pktstr : StubM σ Unit) := by
  apply Answers.ite
  · exact fun _ state => .replied (Smooth.refl state) hfits
  · exact fun _ => Answers.of_fail _

/-- An operation: the rest goes on, or reports the code. -/
theorem Answers.callOp {op : Option (σ → β × σ)} {call : β → TargetCall} (code : β → Int32)
    (hcode : ∀ value, (call value).code = code value) {next : β → StubM σ Unit}
    (hgood : ∀ value, code value = 0 → Answers fits report () (next value))
    (hbad : ∀ value, code value ≠ 0 → Reports report (code value) (next value)) :
    Answers fits report () (MiniGdbstub.callOp op call >>= next) := by
  intro state
  cases op with
  | none => exact .stopped (Smooth.refl state)
  | some op =>
      obtain ⟨value, hvalue⟩ : ∃ value, (op state.target).1 = value := ⟨_, rfl⟩
      rw [bind_of_ok (callOp_some op call state), hvalue]
      by_cases hzero : code value = 0
      · exact (hgood value hzero _).after_smooth
          (Smooth.called state ((hcode value).trans hzero) _)
      · obtain ⟨after, later, hrun, hcalls, hsent⟩ :=
          hbad value hzero (state.called (call value) (op state.target).2)
        rw [hrun]
        have hall : after.calls = state.calls ++ ([call value] ++ later) := by
          rw [hcalls]
          exact List.append_assoc _ [call value] later
        refine .failed hall ?_ hsent
        rw [firstCode_append, firstCode_singleton, hcode value, if_neg hzero]
        rfl

/-- A read stores its value behind a pointer before the rest goes on. -/
theorem Answers.callRead {op : Option (σ → (Int32 × List UInt8) × σ)}
    {call : Int32 × List UInt8 → TargetCall} (hcode : ∀ result, (call result).code = result.1)
    {room : Option ℕ} {next : Int32 × List UInt8 → StubM σ Unit}
    (hgood : ∀ value, Answers fits report () (next (0, value)))
    (hbad : ∀ ret value, ret ≠ 0 → Reports report ret (next (ret, value))) :
    Answers fits report () ((do
      let (ret, bytes) ← MiniGdbstub.callOp op call
      if ret = 0 then
        Program.lift (storeAt room bytes.length)
        return (ret, bytes)
      else
        return (ret, bytes)) >>= next) := by
  rw [Program.assoc]
  refine Answers.callOp Prod.fst hcode ?_ ?_
  · rintro ⟨ret, bytes⟩ (rfl : ret = 0)
    dsimp only
    rw [if_pos rfl, Program.assoc]
    exact Answers.lift fun _ _ => hgood bytes
  · rintro ⟨ret, bytes⟩ (hret : ret ≠ 0)
    dsimp only
    rw [if_neg hret]
    exact hbad ret bytes hret

theorem Answers.callReadReg {regno : ℤ} {room : Option ℕ} {next : Int32 × List UInt8 → StubM σ Unit}
    (hgood : ∀ value, Answers fits report () (next (0, value)))
    (hbad : ∀ ret value, ret ≠ 0 → Reports report ret (next (ret, value))) :
    Answers fits report () (MiniGdbstub.callReadReg stub regno room >>= next) :=
  Answers.callRead (fun _ => rfl) hgood hbad

theorem Answers.callReadMem {addr len : ℕ} {room : Option ℕ}
    {next : Int32 × List UInt8 → StubM σ Unit}
    (hgood : ∀ value, Answers fits report () (next (0, value)))
    (hbad : ∀ ret value, ret ≠ 0 → Reports report ret (next (ret, value))) :
    Answers fits report () (MiniGdbstub.callReadMem stub addr len room >>= next) :=
  Answers.callRead (fun _ => rfl) hgood hbad

/-- A code that is printed. -/
theorem reports_errorText (code : Int32) :
    Reports errorText code (connSendPktstr (errorText code) : StubM σ Unit) :=
  fun state => ⟨_, [], connSendPktstr_errorText code state, (List.append_nil _).symm, rfl⟩

/-- A handler that is entered when its operation is there. -/
theorem Answered.ifProvided {provided : Bool} {handler : StubM σ Unit} {state : StubState σ}
    (hmissing : provided = false → fits (ascii "E01"))
    (hhandler : provided = true → Answered fits report () state (handler state)) :
    Answered fits report .none state (MiniGdbstub.ifProvided provided handler state) := by
  cases provided with
  | false =>
      rw [ifProvided_none]
      exact .replied (Smooth.refl state) (hmissing rfl)
  | true =>
      have hrun := hhandler rfl
      rcases hstate : handler state with ⟨fault | ⟨⟩, after⟩
      · rw [hstate] at hrun
        rw [ifProvided_error _ hstate]
        cases hrun with
        | stopped hsmooth => exact .stopped hsmooth
      · rw [hstate] at hrun
        rw [ifProvided_some _ hstate]
        cases hrun with
        | replied hsmooth hfits => exact .replied hsmooth hfits
        | failed hcalls hcode hsent => exact .failed hcalls hcode hsent

/-! ## The handlers -/

theorem smooth_bind {first : StubM σ α} {next : α → StubM σ β}
    (hfirst : Keeps first (fun _ => False) Smooth)
    (hnext : ∀ value, Keeps (next value) (fun _ => False) Smooth) :
    Keeps (first >>= next) (fun _ => False) Smooth :=
  Keeps.bind (fun _ _ _ hbetween hafter => hbetween.trans hafter) hfirst hnext

theorem smooth_malloc (bytes : ℕ) :
    Keeps (malloc stub bytes) (fun _ => False) Smooth := by
  apply Keeps.of_get
  intro state
  apply smooth_bind
  · exact Keeps.of_update fun _ => Smooth.of_eq rfl rfl
  · intro _
    exact Keeps.of_pure Smooth.refl

theorem smooth_regbufGet (regSz : ℕ) :
    Keeps (regbufGet stub regSz) (fun _ => False) Smooth := by
  apply Keeps.of_get
  intro state
  apply Keeps.ite
  · exact fun _ => Keeps.of_pure Smooth.refl
  · intro _
    split
    · exact Keeps.of_fail Smooth.refl not_false
    · apply smooth_bind (smooth_malloc _)
      intro buf
      apply smooth_bind
      · exact Keeps.of_update fun _ => Smooth.of_eq rfl rfl
      · intro _
        exact Keeps.of_pure Smooth.refl

theorem notMem_hexText (bytes : List UInt8) : 69 ∉ hexText bytes := by
  have hdigit : ∀ value < 16, hexDigit value ≠ 69 := by decide
  intro hmem
  obtain ⟨byte, -, hbyte⟩ := List.mem_flatMap.mp hmem
  have hlt := byte.toNat_lt
  rcases List.mem_cons.mp hbyte with heq | hbyte
  · exact hdigit _ (by omega) heq.symm
  · exact hdigit _ (by omega) (List.mem_singleton.mp hbyte).symm

theorem Answers.replyHex (hplain : ∀ pktstr, 69 ∉ pktstr → fits pktstr) (num : List UInt8)
    (bytes : ℤ) (block : List UInt8) :
    Answers fits report () (do
      let hex ← Program.lift (hexToStr num bytes)
      let packetStr ← Program.lift (inBounds (Block.write? block 0 hex))
      connSendPktbuf packetStr : StubM σ Unit) := by
  obtain ⟨sent, hsent, ⟨fault, -, rfl⟩ | ⟨count, rfl⟩⟩ := replyHex_cases num bytes block
  · rw [hsent]
    exact Answers.of_fail fault
  · rw [hsent]
    exact Answers.reply (hplain _ (notMem_hexText _))

/-- The code is written over what stands at the beginning of the array. -/
theorem reports_overwritten {packetStr : List UInt8}
    (hlength : packetStr.length = maxSendPacketSize) (code : Int32) :
    Reports errorText code
      (Program.lift (inBounds (Block.write? packetStr 0 (errorText code ++ [0]))) >>=
        connSendPktbuf : StubM σ Unit) := by
  intro state
  have hshort := length_errorText_le code
  have hwrite : Block.write? packetStr 0 (errorText code ++ [0]) =
      some (errorText code ++ 0 :: packetStr.drop (errorText code ++ [0]).length) := by
    refine Block.write?_eq_some.mpr ⟨?_, ?_⟩
    · rw [hlength, maxSendPacketSize, List.length_append, List.length_singleton]
      omega
    · rw [Block.overwrite, List.take_zero, List.nil_append, Nat.zero_add, List.append_assoc]
      rfl
  refine ⟨state.reply (errorText code), [], ?_, (List.append_nil _).symm, rfl⟩
  rw [hwrite, inBounds_some, lift_ok_bind, connSendPktbuf_of_text (zero_notMem_errorText code),
    connSendPktstr_errorText]

/-- **The loop of `g`**: at the start, or with a text of digits in the array. -/
theorem answers_regReadLoop (hplain : ∀ pktstr, 69 ∉ pktstr → fits pktstr) (todo : ℕ) :
    ∀ (i : ℕ) (packetStr : List UInt8), packetStr.length = maxSendPacketSize →
      0 < i + todo → (i = 0 ∨ TextWith (· ≠ 69) packetStr) →
      Answers fits errorText () (regReadLoop stub todo i packetStr >>= connSendPktbuf) := by
  induction todo with
  | zero =>
      intro i packetStr _ hpos htext
      obtain ⟨str, rest, rfl, hzero, hdigits⟩ :=
        (htext.resolve_left (by omega)).exists_text
      intro state
      show Answered _ _ _ _ (connSendPktbuf (str ++ 0 :: rest) state)
      rw [connSendPktbuf_of_text hzero]
      exact Answers.reply (hplain str fun hmem => hdigits 69 hmem rfl) state
  | succ todo ih =>
      intro i packetStr hlength _ htext
      rw [regReadLoop]
      dsimp only
      rw [Program.assoc]
      apply Answers.bind (smooth_regbufGet _)
      intro regValue
      rw [Program.assoc]
      -- digits are written behind the others and never begin an error
      apply Answers.callReadReg
      · intro value
        dsimp only
        rw [if_pos rfl, Program.assoc]
        apply Answers.lift
        intro hex hhex
        obtain ⟨count, -, rfl⟩ := hexToStr_ok hhex
        rw [Program.assoc]
        apply Answers.lift
        intro written hwrite
        cases hcells : Block.write? packetStr (i * stub.ops.getRegBytes i * 2)
            (hexText (value.take count) ++ [0]) with
        | none =>
            rw [hcells] at hwrite
            cases hwrite
        | some cells =>
            rw [hcells] at hwrite
            cases hwrite
            obtain ⟨hroom, rfl⟩ := Block.write?_eq_some.mp hcells
            apply ih (i + 1) _ ((Block.length_overwrite hroom).trans hlength) (by omega)
            refine .inr (TextWith.overwrite (htext.imp_left ?_) hroom ?_)
            · rintro rfl
              rw [Nat.zero_mul, Nat.zero_mul]
            · intro character hmem heq
              exact notMem_hexText _ (heq ▸ hmem)
      · intro ret value hret
        dsimp only
        rw [if_neg hret]
        exact reports_overwritten hlength ret

theorem answers_processRegReadOne (hplain : ∀ pktstr, 69 ∉ pktstr → fits pktstr)
    (payload : List UInt8) : Answers fits errorText () (processRegReadOne stub payload) := by
  unfold processRegReadOne
  split
  · apply Answers.bind (smooth_regbufGet _)
    intro regValue
    apply Answers.callReadReg
    · intro value
      exact Answers.replyHex hplain _ _ _
    · intro ret value hret
      dsimp only
      rw [if_neg hret]
      exact reports_errorText ret
  · exact Answers.of_fail _

theorem answers_processMemRead (hplain : ∀ pktstr, 69 ∉ pktstr → fits pktstr)
    (payload : List UInt8) : Answers fits errorText () (processMemRead stub payload) := by
  unfold processMemRead
  split
  · apply Answers.bind (smooth_malloc _)
    intro mval
    apply Answers.callReadMem
    · intro value
      exact Answers.replyHex hplain _ _ _
    · intro ret value hret
      dsimp only
      rw [if_neg hret]
      exact reports_errorText ret
  · exact Answers.of_fail _

/-- A write, and `OK` or the code. -/
theorem answers_write (hok : fits (ascii "OK")) {op : Option (σ → Int32 × σ)}
    {call : Int32 → TargetCall} (hcode : ∀ ret, (call ret).code = ret) :
    Answers fits errorText () (do
      let ret ← callOp op call
      if ret = 0 then connSendPktstr (ascii "OK")
      else connSendPktstr (errorText ret) : StubM σ Unit) := by
  refine Answers.callOp id hcode ?_ ?_
  · rintro ret (rfl : ret = 0)
    exact Answers.reply hok
  · intro ret (hret : ret ≠ 0)
    rw [if_neg hret]
    exact reports_errorText ret

theorem answers_processRegWriteOne (hok : fits (ascii "OK")) (payload : List UInt8) :
    Answers fits errorText () (processRegWriteOne stub payload) := by
  unfold processRegWriteOne
  dsimp only
  split
  · apply Answers.bind (smooth_regbufGet _)
    intro buf
    split
    · exact Answers.of_fail _
    · apply Answers.ite
      · intro _
        apply Answers.lift
        intro data _
        apply Answers.lift
        intro _ _
        exact answers_write hok fun _ => rfl
      · exact fun _ => Answers.of_fail _
  · exact Answers.of_fail _

theorem answers_processMemWrite (hok : fits (ascii "OK")) (payload : List UInt8) :
    Answers fits errorText () (processMemWrite stub payload) := by
  unfold processMemWrite
  dsimp only
  split
  · apply Answers.bind (smooth_malloc _)
    intro mval
    apply Answers.lift
    intro data _
    exact answers_write hok fun _ => rfl
  · exact Answers.of_fail _

/-- `X` says `OK` whatever it is told. -/
theorem answers_processMemXwrite (hok : fits (ascii "OK")) (payload : List UInt8)
    (packetEnd : ℕ) :
    Answers fits (fun _ => ascii "OK") () (processMemXwrite stub payload packetEnd) := by
  unfold processMemXwrite
  dsimp only
  split
  · split
    · exact Answers.of_fail _
    · apply Answers.lift
      rintro ⟨count, content⟩ _
      apply Answers.ite
      · intro _
        refine Answers.callOp id (fun _ => rfl) ?_ ?_
        · exact fun _ _ => Answers.reply hok
        · intro ret _ state
          exact ⟨_, [], connSendPktstr_of_fits (by decide) state, (List.append_nil _).symm, rfl⟩
      · exact fun _ => Answers.of_fail _
  · exact Answers.of_fail _

/-! ### `G` -/

theorem answers_regWriteParse {next : Except Int32 (List UInt8 × List UInt8) → StubM σ Unit}
    (hgood : ∀ blocks, Answers fits report () (next (.ok blocks)))
    (hbad : ∀ ret, ret ≠ 0 → Reports report ret (next (.error ret))) (payload : List UInt8)
    (todo : ℕ) :
    ∀ (i payloadOffset storageOffset : ℕ) (newValues backupValues : List UInt8),
      Answers fits report () (regWriteParse stub payload todo i payloadOffset storageOffset
        newValues backupValues >>= next) := by
  induction todo with
  | zero => exact fun _ _ _ newValues backupValues => hgood (newValues, backupValues)
  | succ todo ih =>
      intro i payloadOffset storageOffset newValues backupValues
      rw [regWriteParse, Program.assoc]
      apply Answers.lift
      intro value _
      rw [Program.assoc]
      apply Answers.lift
      intro newValues _
      rw [Program.assoc]
      apply Answers.callReadReg
      · intro old
        dsimp only
        rw [if_pos rfl, Program.assoc]
        apply Answers.lift
        intro backupValues _
        exact ih _ _ _ _ _
      · intro ret old hret
        dsimp only
        rw [if_neg hret]
        exact hbad ret hret

theorem answers_regWriteCommit {next : Option (ℕ × Int32) → StubM σ Unit}
    (hgood : Answers fits report () (next none))
    (hbad : ∀ i ret, ret ≠ 0 → Reports report ret (next (some (i, ret)))) (newValues : List UInt8)
    (todo : ℕ) :
    ∀ i storageOffset,
      Answers fits report () (regWriteCommit stub newValues todo i storageOffset >>= next) := by
  induction todo with
  | zero => exact fun _ _ => hgood
  | succ todo ih =>
      intro i storageOffset
      rw [regWriteCommit, Program.assoc]
      refine Answers.callOp id (fun _ => rfl) ?_ ?_
      · rintro ret (rfl : ret = 0)
        exact ih _ _
      · intro ret (hret : ret ≠ 0)
        rw [if_neg hret]
        exact hbad i ret hret

/-- The rollback calls and sends nothing. -/
theorem reports_rollback {op : σ → ℤ → List UInt8 → Int32 × σ} (hop : stub.ops.writeReg = some op)
    (backupValues : List UInt8) (failed : ℕ) (code : Int32) :
    Reports errorText code (do
      regWriteRollback stub backupValues failed 0 0
      connSendPktstr (errorText code)) := by
  intro state
  obtain ⟨between, writes, hrun, hcalls, -⟩ :=
    regWriteRollback_writes hop backupValues failed 0 state
  rw [Layout.offset_zero] at hrun
  obtain ⟨replies, hreplies, hsent⟩ :=
    (quiet_regWriteRollback stub backupValues failed 0 0 state () between hrun).sent
  rw [List.length_eq_zero_iff.mp hreplies, List.map_nil, List.append_nil] at hsent
  refine ⟨between.reply (errorText code), writes, ?_, hcalls, ?_⟩
  · rw [bind_of_ok hrun, connSendPktstr_errorText]
  · rw [StubState.reply, hsent]

theorem answers_regWriteApply (hok : fits (ascii "OK")) (hop : stub.ops.writeReg.isSome)
    (payload : List UInt8) : Answers fits errorText () (regWriteApply stub payload) := by
  obtain ⟨op, hop⟩ := Option.isSome_iff_exists.mp hop
  rw [regWriteApply]
  apply answers_regWriteParse
  · rintro ⟨newValues, backupValues⟩
    apply answers_regWriteCommit
    · exact Answers.reply hok
    · intro failed ret _
      exact reports_rollback hop backupValues failed ret
  · intro ret _
    exact reports_errorText ret

end

/-! ## All requests -/

/-- What is said about a code. -/
def codeReport (request : UInt8) : Int32 → List UInt8 :=
  if request = 88 then fun _ => ascii "OK" else errorText

theorem isFailureReply_codeReport_iff (request : UInt8) (code : Int32) :
    IsFailureReply (codeReport request code) ↔ TwoDigits request code := by
  unfold codeReport
  by_cases hrequest : request = 88
  · rw [if_pos hrequest]
    refine iff_of_false ?_ fun hdigits => hdigits.reported hrequest
    rw [isFailureReply_iff]
    rintro ⟨hhead, -⟩
    exact absurd hhead (by decide)
  · rw [if_neg hrequest, isFailureReply_errorText_iff]
    exact ⟨fun ⟨hlow, hhigh⟩ => ⟨hrequest, hlow, hhigh⟩, fun hdigits => ⟨hdigits.low, hdigits.high⟩⟩

theorem not_isFailureReply {reply : List UInt8} (hplain : 69 ∉ reply) :
    ¬ IsFailureReply reply := by
  rintro ⟨high, low, rfl, -⟩
  exact hplain List.mem_cons_self

/-- A well-formed `G` has the length of all registers. -/
theorem WellFormedAccess.length_eq {payload : List UInt8}
    (hformed : WellFormedAccess stub (71 :: payload)) :
    (text payload).length = 2 * stub.totalRegBytes := by
  cases hformed with
  | write hformed =>
      obtain ⟨writes, hdenotes⟩ := hformed
      cases hdenotes with
      | registers hdata hlength =>
          have hzero : 0 ∉ payload := notMem_of_hexDigits hdata.digits (by decide)
          have htext : text payload = payload :=
            List.takeWhile_eq_self_iff.mpr (bne_of_notMem hzero)
          rw [htext, hdata.length_eq, hlength]

variable (stub) in
/-- **One request**: its failures are reported, and its other replies are no failure replies,
with the exceptions of `ErrorWithoutCode`. -/
theorem answered_processBody {request : UInt8} (hrequest : request ∈ accessRequests)
    (payload : List UInt8) (csumHigh csumLow : UInt8) (state : StubState σ) :
    Answered (fun reply => IsFailureReply reply → WellFormedAccess stub (request :: payload) →
        ErrorWithoutCode stub request state) (codeReport request) .none state
      (processBody stub (request :: payload) csumHigh csumLow state) := by
  rw [processBody, gdbstubProcessPacket_framed]
  have hmembers : request ∈ [103, 112, 71, 80, 109, 77, 88] := hrequest
  simp only [List.mem_cons, List.not_mem_nil, or_false] at hmembers
  have hok : ¬ IsFailureReply (ascii "OK") := not_isFailureReply (by decide)
  rcases hmembers with rfl | rfl | rfl | rfl | rfl | rfl | rfl
  · refine Answered.ifProvided (fun hmissing _ _ => .inl hmissing) fun _ => ?_
    -- without registers `g` sends what is in its uninitialised array
    by_cases hregisters : stub.arch.registers = 0
    · rw [processRegRead_none hregisters, connSendPktbuf]
      refine Answers.lift (fun pktstr hpktstr => Answers.reply fun hfailure _ => ?_) state
      cases hjunk : text? (localBuffer stub maxSendPacketSize) with
      | none =>
          rw [hjunk] at hpktstr
          cases hpktstr
      | some junk =>
          rw [hjunk] at hpktstr
          cases hpktstr
          exact .inr (.inr ⟨rfl, hregisters, pktstr, hjunk, hfailure⟩)
    · refine answers_regReadLoop (fun pktstr hplain hfailure => ?_) _ 0 _
        (length_localBuffer ..) (by omega) (.inl rfl) state
      exact absurd hfailure (not_isFailureReply hplain)
  · refine Answered.ifProvided (fun hmissing _ _ => .inl hmissing) fun _ => ?_
    refine answers_processRegReadOne (fun pktstr hplain hfailure => ?_) _ state
    exact absurd hfailure (not_isFailureReply hplain)
  · refine Answered.ifProvided (fun hmissing _ _ => .inl hmissing) fun hop => ?_
    have htext := text_append_zero_left payload [csumHigh, csumLow, 0]
    -- `G` compares the length, and allocates two blocks, before it calls anything
    by_cases htotal : stub.totalRegBytes = 0
    · rw [processRegWrite, if_pos htotal]
      exact Answers.reply (fun hfailure => absurd hfailure hok) state
    by_cases hlength : (text payload).length = 2 * stub.totalRegBytes
    · rw [processRegWrite_allocates htotal (htext.symm ▸ hlength)]
      have hsmooth : Smooth state state.allocated.allocated := Smooth.of_eq rfl rfl
      refine Answered.after_smooth hsmooth ?_
      by_cases halloc : stub.mallocs state.allocations stub.totalRegBytes = true ∧
          stub.mallocs (state.allocations + 1) stub.totalRegBytes = true
      · rw [if_pos halloc]
        exact answers_regWriteApply (fun hfailure => absurd hfailure hok) hop _ _
      · rw [if_neg halloc]
        exact Answers.reply (fun _ _ => .inr (.inl ⟨rfl, htotal, halloc⟩)) _
    · rw [processRegWrite, if_neg htotal, if_pos (by rw [behindBody, htext]; omega)]
      exact Answers.reply (fun _ hformed => absurd hformed.length_eq hlength) state
  · refine Answered.ifProvided (fun hmissing _ _ => .inl hmissing) fun _ => ?_
    exact answers_processRegWriteOne (fun hfailure => absurd hfailure hok) _ state
  · refine Answered.ifProvided (fun hmissing _ _ => .inl hmissing) fun _ => ?_
    refine answers_processMemRead (fun pktstr hplain hfailure => ?_) _ state
    exact absurd hfailure (not_isFailureReply hplain)
  · refine Answered.ifProvided (fun hmissing _ _ => .inl hmissing) fun _ => ?_
    exact answers_processMemWrite (fun hfailure => absurd hfailure hok) _ state
  · refine Answered.ifProvided (fun hmissing _ _ => .inl hmissing) fun _ => ?_
    exact answers_processMemXwrite (fun hfailure => absurd hfailure hok) _ _ state

variable (stub) in
/-- The dispatcher asks for the operation first. -/
theorem processBody_eq {request : UInt8} (hrequest : request ∈ accessRequests)
    (payload : List UInt8) (csumHigh csumLow : UInt8) :
    ∃ handler, processBody stub (request :: payload) csumHigh csumLow =
      ifProvided (operationProvided stub request) handler := by
  unfold processBody
  rw [gdbstubProcessPacket_framed]
  have hmembers : request ∈ [103, 112, 71, 80, 109, 77, 88] := hrequest
  simp only [List.mem_cons, List.not_mem_nil, or_false] at hmembers
  rcases hmembers with rfl | rfl | rfl | rfl | rfl | rfl | rfl <;> exact ⟨_, rfl⟩

/-- An error without a code is sent where nothing was called. -/
theorem ErrorWithoutCode.replies {request : UInt8} (hrequest : request ∈ accessRequests)
    {payload : List UInt8} (hformed : WellFormedAccess stub (request :: payload))
    (csumHigh csumLow : UInt8) {state : StubState σ}
    (herror : ErrorWithoutCode stub request state) :
    ∃ between : StubState σ, ∃ reply,
      processBody stub (request :: payload) csumHigh csumLow state =
        (.ok .none, between.reply reply) ∧
      between.sent = state.sent ∧ between.calls = state.calls ∧ IsFailureReply reply := by
  cases hprovided : operationProvided stub request with
  | false =>
      obtain ⟨handler, hrun⟩ := processBody_eq stub hrequest payload csumHigh csumLow
      refine ⟨state, ascii "E01", ?_, rfl, rfl, 48, 49, rfl, rfl, rfl⟩
      rw [hrun, hprovided, ifProvided_none]
  | true =>
      rw [processBody, gdbstubProcessPacket_framed]
      rcases herror with hmissing | ⟨rfl, htotal, halloc⟩ |
        ⟨rfl, hregisters, reply, hreply, hfailure⟩
      · rw [hprovided] at hmissing
        cases hmissing
      · have htext := text_append_zero_left payload [csumHigh, csumLow, 0]
        have hlength := hformed.length_eq
        refine ⟨state.allocated.allocated, ascii "E12", ?_, rfl, rfl, 49, 50, rfl, rfl, rfl⟩
        refine ifProvided_of_provided hprovided ?_
        rw [processRegWrite_allocates htotal (htext.symm ▸ hlength), if_neg halloc]
        exact connSendPktstr_of_fits (by decide) _
      · refine ⟨state, reply, ?_, rfl, rfl, hfailure⟩
        refine ifProvided_of_provided hprovided ?_
        have hlength := (isFailureReply_iff.mp hfailure).2.1
        rw [processRegRead_none hregisters, connSendPktbuf, hreply, inBounds_some, lift_ok_bind]
        exact connSendPktstr_of_fits (by rw [hlength]; decide) _

/-! ## The result -/

theorem firstCode_new {state after : StubState σ} {calls : List TargetCall}
    (hcalls : after.calls = state.calls ++ calls) :
    firstCode (after.calls.drop state.calls.length) = firstCode calls := by
  rw [hcalls, List.drop_left]

theorem callsSucceed_iff_firstCode {state after : StubState σ} :
    CallsSucceed state after ↔ firstCode (after.calls.drop state.calls.length) = none :=
  firstCode_eq_none.symm

theorem Smooth.firstCode_new {state after : StubState σ} (hsmooth : Smooth state after) :
    firstCode (after.calls.drop state.calls.length) = none := by
  obtain ⟨calls, hcalls, hnone⟩ := hsmooth.calls
  rw [MiniGdbstub.firstCode_new hcalls, hnone]

theorem sent_inj {sent : List (List UInt8)} {first second : List UInt8}
    (hsent : sent ++ [pktstrFrame first] = sent ++ [pktstrFrame second]) : first = second :=
  pktstrFrame_inj (List.singleton_inj.mp (List.append_cancel_left hsent))

/-- What the ends of a run mean to the client. -/
theorem Answered.recognisable_iff {formed error : Prop} {digits : Int32 → Prop}
    {report : Int32 → List UInt8} (hreport : ∀ code, IsFailureReply (report code) ↔ digits code)
    {state : StubState σ} {run : Except Fault Event × StubState σ}
    (hanswered :
      Answered (fun reply => IsFailureReply reply → formed → error) report .none state run)
    (hreplies : formed → error → ∃ between : StubState σ, ∃ reply,
      run = (.ok .none, between.reply reply) ∧ between.sent = state.sent ∧
        between.calls = state.calls ∧ IsFailureReply reply) :
    ((¬ CallsSucceed state run.2 → ∃ reply, run.1 = .ok .none ∧
          run.2.sent = state.sent ++ [pktstrFrame reply] ∧ IsFailureReply reply) ∧
        (formed → CallsSucceed state run.2 → ∀ reply,
          run.2.sent = state.sent ++ [pktstrFrame reply] → ¬ IsFailureReply reply)) ↔
      (∀ code ∈ firstCode (run.2.calls.drop state.calls.length), digits code) ∧
        (formed → ¬ error) := by
  cases hanswered with
  | @stopped fault after hsmooth =>
      -- nothing failed and nothing was sent
      have hnone := hsmooth.firstCode_new
      refine iff_of_true ⟨fun hfailed => ?_, fun _ _ reply hsent => ?_⟩
        ⟨fun code hcode => ?_, fun hformed herror => ?_⟩
      · exact absurd (callsSucceed_iff_firstCode.mpr hnone) hfailed
      · have hlength := congrArg List.length (hsmooth.sent.symm.trans hsent)
        rw [List.length_append, List.length_singleton] at hlength
        omega
      · cases hnone.symm.trans hcode
      · obtain ⟨between, reply, hrun, -⟩ := hreplies hformed herror
        cases hrun
  | @replied reply between hsmooth hfits =>
      have hnone : firstCode ((between.reply reply).calls.drop state.calls.length) = none :=
        hsmooth.firstCode_new
      have hsent : (between.reply reply).sent = state.sent ++ [pktstrFrame reply] := by
        rw [StubState.reply, hsmooth.sent]
      constructor
      · rintro ⟨-, hsucceeded⟩
        refine ⟨fun code hcode => ?_, fun hformed herror => ?_⟩
        · cases hnone.symm.trans hcode
        · obtain ⟨_, other, hrun, hbefore, -, hfailure⟩ := hreplies hformed herror
          have hother := congrArg (fun run : Except Fault Event × StubState σ => run.2.sent) hrun
          refine hsucceeded hformed (callsSucceed_iff_firstCode.mpr hnone) other ?_ hfailure
          rw [hother, StubState.reply, hbefore]
      · rintro ⟨-, hformed⟩
        refine ⟨fun hfailed => ?_, fun hwell _ other hother hfailure => ?_⟩
        · exact absurd (callsSucceed_iff_firstCode.mpr hnone) hfailed
        · obtain rfl := sent_inj (hsent.symm.trans hother)
          exact hformed hwell (hfits hfailure hwell)
  | @failed code calls after hcalls hcode hsent =>
      have hsome : firstCode (after.calls.drop state.calls.length) = some code :=
        (firstCode_new hcalls).trans hcode
      have hfailed : ¬ CallsSucceed state after := by
        rw [callsSucceed_iff_firstCode, hsome]
        intro hnone
        cases hnone
      constructor
      · rintro ⟨hreply, -⟩
        obtain ⟨reply, -, hother, hfailure⟩ := hreply hfailed
        obtain rfl := sent_inj (hsent.symm.trans hother)
        refine ⟨fun first hfirst => ?_, fun hformed herror => ?_⟩
        · cases hsome.symm.trans hfirst
          exact (hreport code).mp hfailure
        · obtain ⟨between, other, hrun, -, hsame, -⟩ := hreplies hformed herror
          cases hrun
          rw [StubState.reply, hsame, List.drop_length] at hsome
          cases hsome
      · rintro ⟨hdigits, -⟩
        exact ⟨fun _ => ⟨report code, rfl, hsent, (hreport code).mpr (hdigits code hsome)⟩,
          fun _ hsucceed => absurd hsucceed hfailed⟩

variable (stub) in
/-- **Failures can be recognised** exactly when the first code of the target, if there is one,
has two digits and is looked at, and no error is sent without one. -/
theorem failuresRecognisable_iff {request : UInt8} (hrequest : request ∈ accessRequests)
    (payload : List UInt8) (csumHigh csumLow : UInt8) (state : StubState σ) :
    FailuresRecognisable stub (request :: payload) csumHigh csumLow state ↔
      (∀ code ∈ firstCode ((processBody stub (request :: payload) csumHigh csumLow
          state).2.calls.drop state.calls.length), TwoDigits request code) ∧
        (WellFormedAccess stub (request :: payload) → ¬ ErrorWithoutCode stub request state) := by
  have hanswered := answered_processBody stub hrequest payload csumHigh csumLow state
  refine Iff.trans ⟨fun h => ⟨h.failed, h.succeeded⟩, fun h => ⟨h.1, h.2⟩⟩
    (hanswered.recognisable_iff (isFailureReply_codeReport_iff request) ?_)
  intro hformed herror
  exact herror.replies hrequest hformed csumHigh csumLow

end

/-- The target refuses to read any register, with this code. -/
def TargetOps.refusing (ops : TargetOps σ) (code : Int32) (hcode : code ≠ 0) : TargetOps σ :=
  { ops with
    readReg := some fun target _ => ((code, []), target)
    length_readReg := by
      intro op hop target regno hret
      cases hop
      exact absurd hret hcode }

/-- One register of one byte, which cannot be read. -/
def unreadableStub (code : Int32) (hcode : code ≠ 0) : Gdbstub (ℕ → List UInt8) :=
  oneByteStub.withOps (oneByteStub.ops.refusing code hcode) rfl

/-- A code of two digits. -/
theorem failuresRecognisable_thirteen :
    FailuresRecognisable (unreadableStub 13 (by decide)) (ascii "p0") 48 48
      (StubState.init fun _ => []) := by
  have hcode : firstCode ((processBody (unreadableStub 13 (by decide)) (ascii "p0") 48 48
      (StubState.init fun _ => [])).2.calls.drop 0) = some 13 := by decide +kernel
  refine (failuresRecognisable_iff (unreadableStub 13 (by decide)) (by decide) (ascii "0") 48 48
    (StubState.init fun _ => [])).mpr ⟨fun code hmem => ?_, fun _ herror => ?_⟩
  · cases hcode.symm.trans hmem
    exact ⟨by decide, by decide, by decide⟩
  · rcases herror with hmissing | ⟨hrequest, -⟩ | ⟨hrequest, -⟩
    · exact absurd hmissing (by decide)
    · exact absurd hrequest (by decide)
    · exact absurd hrequest (by decide)

/-- `EIO` is 5, and `E5` is no failure reply. -/
theorem oneDigit_unrecognisable :
    (processBody (unreadableStub 5 (by decide)) (ascii "p0") 48 48
        (StubState.init fun _ => [])).2.sent = [pktstrFrame (ascii "E5")] ∧
      ¬ FailuresRecognisable (unreadableStub 5 (by decide)) (ascii "p0") 48 48
        (StubState.init fun _ => []) := by
  have hsent : (processBody (unreadableStub 5 (by decide)) (ascii "p0") 48 48
      (StubState.init fun _ => [])).2.sent = [] ++ [pktstrFrame (ascii "E5")] := by
    decide +kernel
  refine ⟨hsent, fun hrecognisable => ?_⟩
  obtain ⟨reply, -, hreply, hfailure⟩ := hrecognisable.failed (by
    unfold CallsSucceed
    decide +kernel)
  obtain rfl := sent_inj (hsent.symm.trans hreply)
  have hlength : (ascii "E5").length = 3 := (isFailureReply_iff.mp hfailure).2.1
  exact absurd hlength (by decide)

end MiniGdbstub
