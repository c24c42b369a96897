import MiniGdbstub.Aborts
import MiniGdbstub.ThreadIds

/-!
# Well-formed requests

What a request looks like, said without the handlers: `Fields` is the grammar of what follows
each request letter.  Numbers are hexadecimal digits and fit the variables they are read into,
data is pairs of digits or has something behind every escape, separators stand where they
belong and nothing follows the last field.  A thread is named in decimal, as the stub lists
threads, and the actions of `vCont` and the annex of a transfer are those that the stub offers.
A query, a setting or a `v` packet with another name, and a request with another letter, is not
known to the stub; there is nothing in it that could be malformed.

No well-formed request aborts the stub (`neverAborts_dispatch`), but for the list of threads,
where the stub asserts that there are not too many.
-/

namespace MiniGdbstub

open CString

/-! ## The grammar -/

/-- A number that fits a `size_t`. -/
def IsAddress (digits : List UInt8) : Prop :=
  ∃ addr < 2 ^ 64, HexNumber digits addr

/-- A number that fits an `int`. -/
def IsRegister (digits : List UInt8) (regno : ℕ) : Prop :=
  HexNumber digits regno ∧ regno < 2 ^ 31

/-- A thread by its number, or all threads. -/
def NamesThread (thread : List UInt8) : Prop :=
  thread = ascii "-1" ∨ thread ≠ [] ∧ DigitsOf 10 thread

/-- The type, the address and the kind of a breakpoint. -/
def NamesBreakpoint (fields : List UInt8) : Prop :=
  ∃ type addr kind, IsAddress type ∧ IsAddress addr ∧ IsAddress kind ∧
    fields = type ++ comma :: (addr ++ comma :: kind)

/-- An action of `vCont` that the stub offers, for all threads or for one. -/
def ContAction (action : List UInt8) : Prop :=
  ∃ letter ∈ ascii "cs", action = [letter] ∨
    ∃ thread, NamesThread thread ∧ action = letter :: colon :: thread

/-- The names of the queries that the stub knows. -/
def queryNames : List (List UInt8) :=
  ["C", "Supported", "Attached", "Xfer", "Symbol", "fThreadInfo", "sThreadInfo"].map ascii

/-- The well-formed queries with such a name. -/
inductive Query : List UInt8 → Prop
  | cpu : Query (ascii "C")
  | supported : Query (ascii "Supported")
  | features (list : List UInt8) : Query (ascii "Supported" ++ colon :: list)
  | attached : Query (ascii "Attached")
  | process {pid : List UInt8} : IsAddress pid → Query (ascii "Attached" ++ colon :: pid)
  | transfer {object args : List UInt8} : 0 ∉ object → colon ∉ object →
      object ≠ ascii "features" → Query (ascii "Xfer" ++ colon :: (object ++ colon :: args))
  | description {range : List UInt8} {offset length : ℕ} : MemoryRange range offset length →
      Query (ascii "Xfer" ++ colon :: (ascii "features" ++ colon :: (ascii "read" ++
        colon :: (ascii "target.xml" ++ colon :: range))))
  | symbol {value name : List UInt8} : (∀ digit ∈ value, isHexDigit digit = true) →
      (∀ digit ∈ name, isHexDigit digit = true) →
      Query (ascii "Symbol" ++ colon :: (value ++ colon :: name))
  | threads : Query (ascii "fThreadInfo")
  | moreThreads : Query (ascii "sThreadInfo")

/-- The bytes of all registers. -/
def ArchInfo.registerBytes (arch : ArchInfo) (regBytes : ℤ → ℕ) : ℕ :=
  ((List.range arch.registers).map fun regno : ℕ => regBytes regno).sum

section

variable (arch : ArchInfo) (regBytes : ℤ → ℕ)

/-- What follows the letter of a well-formed request. -/
def Fields (payload : List UInt8) : Char → Prop
  | 'c' => payload = [] ∨ IsAddress payload
  | 'g' => payload = []
  | 'm' => ∃ addr len, MemoryRange payload addr len
  | 'p' => ∃ regno, IsRegister payload regno
  | 'q' => (cut colon payload).1 ∈ queryNames → Query payload
  | 'Q' => (cut colon payload).1 = ascii "StartNoAckMode" → payload = ascii "StartNoAckMode"
  | 's' => payload = [] ∨ IsAddress payload
  | 'v' => ((cut semicolon payload).1 = ascii "Cont" →
        ∃ actions, payload = ascii "Cont" ++ semicolon :: actions ∧
          ∀ action ∈ actions.splitOn semicolon, ContAction action) ∧
      ((cut semicolon payload).1 = ascii "Cont?" → payload = ascii "Cont?")
  | 'z' => NamesBreakpoint payload
  | '?' => payload = []
  | 'D' => payload = [] ∨ ∃ pid, IsAddress pid ∧ payload = semicolon :: pid
  | 'G' => ∃ data, HexData payload data ∧ data.length = arch.registerBytes regBytes
  | 'H' => ∃ op ∈ ascii "cg", ∃ thread, NamesThread thread ∧ payload = op :: thread
  | 'M' => ∃ fields digits data addr, payload = fields ++ colon :: digits ∧
      MemoryRange fields addr data.length ∧ HexData digits data
  | 'P' => ∃ regnoText digits data regno, payload = regnoText ++ equals :: digits ∧
      IsRegister regnoText regno ∧ HexData digits data ∧ data.length = regBytes regno
  | 'T' => NamesThread payload
  | 'X' => ∃ fields escaped data addr, payload = fields ++ colon :: escaped ∧
      MemoryRange fields addr data.length ∧ EscapedBytes escaped data
  | 'Z' => NamesBreakpoint payload
  | _ => True

/-- A well-formed body is a letter with its fields. -/
def WellFormedRequest : List UInt8 → Prop
  | [] => False
  | request :: payload => Fields arch regBytes payload (Char.ofNat request.toNat)

end

/-! ## What the conversions find -/

theorem IsAddress.scan {digits : List UInt8} (hdigits : IsAddress digits) (fields : ℕ) :
    ∃ value, scanHexFields (fields + 1) digits = [value] := by
  obtain ⟨value, hvalue, hnumber⟩ := hdigits
  exact ⟨value, scanHexFields_last hnumber hvalue fields⟩

theorem IsAddress.notMem {digits : List UInt8} (hdigits : IsAddress digits) {character : UInt8}
    (hcharacter : character ∈ [0, 44, 58, 59, 61, 43, 45, 88, 120]) : character ∉ digits := by
  obtain ⟨_, -, hnumber⟩ := hdigits
  exact notMem_of_hexDigits hnumber.all_digits hcharacter

theorem IsRegister.scan {digits : List UInt8} {regno : ℕ} (hdigits : IsRegister digits regno) :
    scanHexFields 1 digits = [regno] :=
  scanHexFields_last hdigits.1 (lt_trans hdigits.2 (by decide)) 0

theorem IsRegister.notMem {digits : List UInt8} {regno : ℕ} (hdigits : IsRegister digits regno)
    {character : UInt8} (hcharacter : character ∈ [0, 44, 58, 59, 61, 43, 45, 88, 120]) :
    character ∉ digits :=
  notMem_of_hexDigits hdigits.1.all_digits hcharacter

theorem NamesBreakpoint.text_eq {fields : List UInt8} (hfields : NamesBreakpoint fields)
    (rest : List UInt8) : text (fields ++ 0 :: rest) = fields := by
  obtain ⟨type, addr, kind, htype, haddr, hkind, rfl⟩ := hfields
  apply text_append_zero
  simp only [List.mem_append, List.mem_cons, not_or]
  exact ⟨htype.notMem (by decide), by decide, haddr.notMem (by decide), by decide,
    hkind.notMem (by decide)⟩

theorem NamesBreakpoint.scan {fields : List UInt8} (hfields : NamesBreakpoint fields) :
    ∃ type addr kind, scanHexFields 3 fields = [type, addr, kind] := by
  obtain ⟨type, addr, kind, ⟨typeValue, htype, htypeNumber⟩, ⟨addrValue, haddr, haddrNumber⟩,
    ⟨kindValue, hkind, hkindNumber⟩, rfl⟩ := hfields
  refine ⟨typeValue, addrValue, kindValue, ?_⟩
  rw [comma, scanHexFields_cons htypeNumber htype, scanHexFields_cons haddrNumber haddr,
    scanHexFields_last hkindNumber hkind]

theorem NamesThread.zero_notMem {thread : List UInt8} (hthread : NamesThread thread) :
    0 ∉ thread := by
  rcases hthread with rfl | ⟨-, hdigits⟩
  · decide
  · exact notMem_of_hexDigits (hdigits.isHexDigit (by decide)) (by decide)

theorem NamesThread.scan {thread : List UInt8} (hthread : NamesThread thread) :
    (scanDecimal thread).isSome := by
  rcases hthread with rfl | ⟨hnonempty, hdigits⟩
  · decide +kernel
  · obtain ⟨first, rest, rfl⟩ := List.exists_cons_of_ne_nil hnonempty
    have hsign := scanSign_of_digit (hdigits.isHexDigit (by decide) first List.mem_cons_self) rest
    have htake := List.takeWhile_eq_self_iff.mpr hdigits.isDigit
    simp only [scanDecimal, hsign, htake]
    rfl

/-- The transfer of the description is one that its handler takes apart. -/
theorem transferLegible_of_range {range : List UInt8} {offset length : ℕ}
    (hrange : MemoryRange range offset length) (rest : List UInt8) :
    TransferLegible (some ((ascii "read" ++ colon :: (ascii "target.xml" ++ colon :: range)) ++
      0 :: rest)) := by
  have hcharacters := hrange.characters
  have hnonempty : range ≠ [] := by
    obtain ⟨addrText, lenText, -, -, rfl⟩ := hrange.spelled
    simp
  have htext : text ((ascii "read" ++ colon :: (ascii "target.xml" ++ colon :: range)) ++
      0 :: rest) = ascii "read" ++ colon :: (ascii "target.xml" ++ colon :: range) := by
    refine text_append_zero ?_ _
    simp only [List.mem_append, List.mem_cons, not_or]
    exact ⟨by decide, by decide, by decide, by decide, hcharacters.1⟩
  refine ⟨_, ascii "target.xml" ++ colon :: range, range, [], range, offset, length, rfl, ?_, ?_,
    strtok_last hcharacters.2 hnonempty, hrange.scan⟩
  · rw [htext]
    exact strtok_append (by decide) (by decide) _
  · exact strtok_append (by decide) (by decide) _

/-! ## Queries -/

/-- A well-formed transfer is read to its end, if there is a description. -/
theorem Query.transfer_legible {payload : List UInt8} (hquery : Query payload)
    (hname : (cut colon payload).1 = ascii "Xfer") (rest : List UInt8) :
    ∃ s, (cut colon (payload ++ 0 :: rest)).2 = some s ∧
      ((cut colon s).1 = ascii "features" → TransferLegible (cut colon s).2) := by
  -- the other names are not this one
  have hother : ∀ {name args : List UInt8}, 0 ∉ name → colon ∉ name → name ≠ ascii "Xfer" →
      (cut colon (name ++ colon :: args)).1 ≠ ascii "Xfer" := by
    intro name args hzero hcolon hne heq
    rw [cut_append hzero hcolon (by decide)] at heq
    exact hne heq
  cases hquery with
  | transfer hzero hcolon hobject =>
      rename_i object args
      refine ⟨object ++ colon :: (args ++ 0 :: rest), ?_, ?_⟩
      · rw [List.append_assoc, List.cons_append, List.append_assoc, List.cons_append,
          cut_append (by decide) (by decide) (by decide)]
      · rw [cut_append hzero hcolon (by decide)]
        exact fun heq => absurd heq hobject
  | description hrange =>
      rename_i range _ _
      refine ⟨ascii "features" ++ colon :: ((ascii "read" ++ colon :: (ascii "target.xml" ++
        colon :: range)) ++ 0 :: rest), ?_, ?_⟩
      · rw [List.append_assoc, List.cons_append, List.append_assoc, List.cons_append,
          cut_append (by decide) (by decide) (by decide)]
      · rw [cut_append (by decide) (by decide) (by decide)]
        exact fun _ => transferLegible_of_range hrange rest
  | features list => exact absurd hname (hother (by decide) (by decide) (by decide))
  | process _ => exact absurd hname (hother (by decide) (by decide) (by decide))
  | symbol _ _ => exact absurd hname (hother (by decide) (by decide) (by decide))
  | _ => exact absurd hname (by decide +kernel)

theorem Query.threads_eq {payload : List UInt8} (hquery : Query payload)
    (hname : (cut colon payload).1 = ascii "fThreadInfo") : payload = ascii "fThreadInfo" := by
  have hother : ∀ {name args : List UInt8}, 0 ∉ name → colon ∉ name →
      name ≠ ascii "fThreadInfo" → (cut colon (name ++ colon :: args)).1 ≠
        ascii "fThreadInfo" := by
    intro name args hzero hcolon hne heq
    rw [cut_append hzero hcolon (by decide)] at heq
    exact hne heq
  cases hquery with
  | threads => rfl
  | features list => exact absurd hname (hother (by decide) (by decide) (by decide))
  | process _ => exact absurd hname (hother (by decide) (by decide) (by decide))
  | transfer _ _ _ => exact absurd hname (hother (by decide) (by decide) (by decide))
  | description _ => exact absurd hname (hother (by decide) (by decide) (by decide))
  | symbol _ _ => exact absurd hname (hother (by decide) (by decide) (by decide))
  | _ => exact absurd hname (by decide +kernel)

/-! ## Well-formed requests do not abort -/

section

variable {σ : Type} {stub : Gdbstub σ} (hops : stub.ops.Complete) (payload : List UInt8)
  (csumHigh csumLow : UInt8)

include hops

theorem neverAborts_query (hfields : (cut colon payload).1 ∈ queryNames → Query payload)
    (hthreads : payload = ascii "fThreadInfo" → stub.arch.smp < 10000) :
    NeverAborts (processQuery stub (payload ++ behindBody csumHigh csumLow)) := by
  have hcut := cut_append_zero colon payload [csumHigh, csumLow, 0]
  apply neverAborts_processQuery stub hops.getCpu
  · intro hname
    rw [behindBody, hcut] at hname
    have hquery := hfields (by rw [show (cut colon payload).1 = _ from hname]; decide)
    obtain ⟨s, hs, hlegible⟩ := hquery.transfer_legible hname [csumHigh, csumLow, 0]
    rw [behindBody, hs]
    exact neverAborts_processXfer stub fun _ => hlegible
  · intro hname
    rw [behindBody, hcut] at hname
    have hquery := hfields (by rw [show (cut colon payload).1 = _ from hname]; decide)
    exact hthreads (hquery.threads_eq hname)

theorem neverAborts_memWrite (hfields : ∃ fields digits data addr,
      payload = fields ++ colon :: digits ∧ MemoryRange fields addr data.length ∧
        HexData digits data) :
    NeverAborts (processMemWrite stub (payload ++ behindBody csumHigh csumLow)) := by
  obtain ⟨fields, digits, data, addr, rfl, hrange, -⟩ := hfields
  have hcut := hrange.cut (digits ++ behindBody csumHigh csumLow)
  rw [List.append_assoc, List.cons_append]
  exact neverAborts_processMemWrite stub hops.writeMem hcut hrange.scan

theorem neverAborts_memXwrite (hfields : ∃ fields escaped data addr,
      payload = fields ++ colon :: escaped ∧ MemoryRange fields addr data.length ∧
        EscapedBytes escaped data) :
    NeverAborts (processMemXwrite stub (payload ++ behindBody csumHigh csumLow)
      payload.length) := by
  obtain ⟨fields, escaped, data, addr, rfl, hrange, hdata⟩ := hfields
  have hcut := hrange.cut (escaped ++ behindBody csumHigh csumLow)
  have hfinish : (fields ++ colon :: escaped).length - (fields.length + 1) = escaped.length := by
    rw [List.length_append, List.length_cons]
    omega
  have hafter : (escaped ++ behindBody csumHigh csumLow)[escaped.length]? = some 0 := by
    rw [List.getElem?_append_right le_rfl, Nat.sub_self]
    rfl
  have hdecode := unescape_eq hafter
  rw [List.take_left] at hdecode
  rw [List.append_assoc, List.cons_append]
  refine neverAborts_processMemXwrite stub hops.writeMem hcut hrange.scan (hfinish ▸ hdecode) ?_
  rw [unescaped_of_escapedBytes hdata]

theorem neverAborts_regWriteOne (hfields : ∃ regnoText digits data regno,
      payload = regnoText ++ equals :: digits ∧ IsRegister regnoText regno ∧
        HexData digits data ∧ data.length = stub.ops.getRegBytes regno) :
    NeverAborts (processRegWriteOne stub (payload ++ behindBody csumHigh csumLow)) := by
  obtain ⟨regnoText, digits, data, regno, rfl, hregno, hdata, hlength⟩ := hfields
  have hcut : cut equals (regnoText ++ equals :: (digits ++ behindBody csumHigh csumLow)) =
      (regnoText, some (digits ++ behindBody csumHigh csumLow)) :=
    cut_append (hregno.notMem (by decide)) (hregno.notMem (by decide)) (by decide) _
  have htext : text (digits ++ behindBody csumHigh csumLow) = digits :=
    text_append_zero (notMem_of_hexDigits hdata.digits (by decide)) _
  rw [List.append_assoc, List.cons_append]
  refine neverAborts_processRegWriteOne stub hops.writeReg hcut hregno.scan ?_
  rw [htext, hdata.length_eq, hlength, asInt_of_lt hregno.2, Nat.mul_comm]

theorem neverAborts_setCpu (hfields : ∃ op ∈ ascii "cg", ∃ thread, NamesThread thread ∧
      payload = op :: thread) :
    NeverAborts (processSetCpu stub (payload ++ behindBody csumHigh csumLow)) := by
  obtain ⟨op, hop, thread, hthread, rfl⟩ := hfields
  apply neverAborts_processSetCpu stub hops.setCpu
  intro _
  have hzero : 0 ∉ op :: thread := by
    rw [List.mem_cons, not_or]
    exact ⟨fun heq => absurd (heq ▸ hop) (by decide), hthread.zero_notMem⟩
  rw [behindBody, text_append_zero hzero]
  exact hthread.scan

omit hops in
theorem neverAborts_vpacket
    (hfields : (cut semicolon payload).1 = ascii "Cont" →
      ∃ actions, payload = ascii "Cont" ++ semicolon :: actions ∧
        ∀ action ∈ actions.splitOn semicolon, ContAction action) :
    NeverAborts (processVpacket stub (payload ++ behindBody csumHigh csumLow)) := by
  have hcut := cut_append_zero semicolon payload [csumHigh, csumLow, 0]
  apply neverAborts_processVpacket
  intro hname
  rw [behindBody, hcut] at hname
  obtain ⟨actions, rfl, -⟩ := hfields hname
  rw [behindBody, List.append_assoc, List.cons_append,
    cut_append (by decide) (by decide) (by decide)]
  exact neverAborts_processVcont stub (by simp)

omit hops in
/-- The handlers of `z` and `Z`. -/
theorem neverAborts_breakPoints {op : ℕ → ℕ → StubM σ Bool} (hfields : NamesBreakpoint payload)
    (hop : ∀ addr type, NeverAborts (op addr type)) :
    NeverAborts (processBreakPoints op (payload ++ behindBody csumHigh csumLow)) := by
  obtain ⟨type, addr, kind, hscan⟩ := hfields.scan
  rw [← hfields.text_eq [csumHigh, csumLow, 0]] at hscan
  exact neverAborts_processBreakPoints hop hscan

omit hops in
theorem eq_queryRequest : ∀ byte : UInt8, Char.ofNat byte.toNat = 'q' → byte = 113 :=
  forall_byte (fun byte => Char.ofNat byte.toNat = 'q' → byte = 113) (by decide +kernel)

/-- **No well-formed request aborts the stub**, if there are not too many threads to list. -/
theorem neverAborts_dispatch {request : UInt8}
    (hfields : Fields stub.arch stub.ops.getRegBytes payload (Char.ofNat request.toNat))
    (hthreads : request :: payload = ascii "qfThreadInfo" → stub.arch.smp < 10000) :
    NeverAborts (dispatch stub request (payload ++ behindBody csumHigh csumLow)
      payload.length) := by
  have hquery : Char.ofNat request.toNat = 'q' → payload = ascii "fThreadInfo" →
      stub.arch.smp < 10000 := by
    rintro hrequest rfl
    apply hthreads
    obtain rfl := eq_queryRequest request hrequest
    rfl
  revert hfields hquery
  unfold dispatch
  generalize Char.ofNat request.toNat = letter
  intro hfields hquery
  split
  · exact neverAborts_processCont stub
  · exact neverAborts_ifProvided (neverAborts_processRegRead stub hops.readReg)
  · obtain ⟨addr, len, hrange⟩ := hfields
    have hscan : scanHexFields 2 (text (payload ++ behindBody csumHigh csumLow)) = [addr, len] := by
      rw [behindBody, text_append_zero hrange.characters.1]
      exact hrange.scan
    exact neverAborts_ifProvided (neverAborts_processMemRead stub hops.readMem hscan)
  · obtain ⟨regno, hregno⟩ := hfields
    have hscan : scanHexFields 1 (text (payload ++ behindBody csumHigh csumLow)) = [regno] := by
      rw [behindBody, text_append_zero (hregno.notMem (by decide))]
      exact hregno.scan
    exact neverAborts_ifProvided (neverAborts_processRegReadOne stub hops.readReg hscan)
  · exact (neverAborts_query hops payload csumHigh csumLow hfields (hquery rfl)).thenReturn _
  · exact (neverAborts_processGeneralSet _).thenReturn _
  · exact neverAborts_processStepi stub
  · exact neverAborts_vpacket payload csumHigh csumLow hfields.1
  · exact neverAborts_ifProvided (neverAborts_breakPoints payload csumHigh csumLow hfields
      fun _ _ => neverAborts_callOp (by rw [Option.isSome_map]; exact hops.delBp) _)
  · exact (neverAborts_connSendPktstr _).thenReturn _
  · exact (neverAborts_connSendPktstr _).thenReturn _
  · exact neverAborts_ifProvided
      (neverAborts_processRegWrite stub hops.readReg hops.writeReg _)
  · exact neverAborts_ifProvided (neverAborts_setCpu hops payload csumHigh csumLow hfields)
  · exact neverAborts_ifProvided (neverAborts_memWrite hops payload csumHigh csumLow hfields)
  · exact neverAborts_ifProvided (neverAborts_regWriteOne hops payload csumHigh csumLow hfields)
  · exact (neverAborts_connSendPktstr _).thenReturn _
  · exact neverAborts_ifProvided (neverAborts_memXwrite hops payload csumHigh csumLow hfields)
  · exact neverAborts_ifProvided (neverAborts_breakPoints payload csumHigh csumLow hfields
      fun _ _ => neverAborts_callOp (by rw [Option.isSome_map]; exact hops.setBp) _)
  · exact (neverAborts_connSendPktstr _).thenReturn _

end

end MiniGdbstub
