import MiniGdbstub.Library.Numerals
import MiniGdbstub.MemoryRequests

/-!
# Thread ids

The stub names a CPU by its number in decimal, padded with zeros to four digits; it does
so in the list of `qfThreadInfo` and in the reply to `qC`.  For the client a thread id is
a hexadecimal number.  It reads the characters as such, and in `Hg` it sends that number
in hexadecimal again, without leading zeros; the stub reads what it gets in decimal.

The number in the middle is not the number of the CPU, but decimal digits are hexadecimal
digits too: the characters come back without their leading zeros (`printed_clientThread`),
and so the CPU selected is the one listed (`threadIds_select`).
-/

namespace MiniGdbstub

open CString

variable {σ : Type} (stub : Gdbstub σ)

/-! ## The stub's ids -/

/-- How many CPUs are listed: at least one if the user gave no number. -/
def ArchInfo.cpus (arch : ArchInfo) : ℕ :=
  (if arch.smp = 0 then 1 else arch.smp).toNat

/-- `sprintf(cpuid_str, "%04d", cpuid)` -/
def threadId (cpuid : ℕ) : List UInt8 :=
  decimalPadded 4 cpuid

/-- The ids of the first CPUs, a comma behind each. -/
def threadList (cpus : ℕ) : List UInt8 :=
  (List.range cpus).flatMap fun cpuid => threadId cpuid ++ ascii ","

/-- The text that `qfThreadInfo` is answered with. -/
def threadInfo (cpus : ℕ) : List UInt8 :=
  ascii "m" ++ threadList cpus

theorem threadId_eq (cpuid : ℕ) :
    threadId cpuid =
      List.replicate (4 - (decimalDigits cpuid).length) 48 ++ decimalDigits cpuid := by
  simp [threadId, decimalPadded]

theorem digitsOf_threadId (cpuid : ℕ) : DigitsOf 10 (threadId cpuid) := by
  rw [threadId_eq]
  exact (digitsOf_zeros (by decide) _).append (digitsOf_printed (by decide) cpuid)

/-- In decimal an id is the number of its CPU. -/
theorem digitsValue_threadId (cpuid : ℕ) : digitsValue 10 (threadId cpuid) = cpuid := by
  rw [threadId_eq, digitsValue_zeros, decimalDigits_eq_printed,
    digitsValue_printed (by decide) (by decide)]

/-- Different CPUs have different ids. -/
theorem threadId_inj {first second : ℕ} (heq : threadId first = threadId second) :
    first = second := by
  rw [← digitsValue_threadId first, heq, digitsValue_threadId]

theorem length_threadId {cpuid : ℕ} (hcpuid : cpuid < 10000) : (threadId cpuid).length = 4 := by
  have hlength : (decimalDigits cpuid).length ≤ 4 := length_decimalDigits_le (by decide) hcpuid
  rw [threadId_eq, List.length_append, List.length_replicate]
  omega

theorem notMem_threadId (cpuid : ℕ) {character : UInt8}
    (hcharacter : character ∈ [0, 44, 58, 59, 61, 43, 45, 88, 120]) :
    character ∉ threadId cpuid :=
  notMem_of_hexDigits ((digitsOf_threadId cpuid).isHexDigit (by decide)) hcharacter

theorem threadList_succ (cpus : ℕ) :
    threadList (cpus + 1) = threadList cpus ++ (threadId cpus ++ ascii ",") := by
  rw [threadList, List.range_succ, List.flatMap_append, List.flatMap_singleton]
  rfl

theorem length_threadInfo {cpus : ℕ} (hcpus : cpus ≤ 10000) :
    (threadInfo cpus).length = 1 + 5 * cpus := by
  induction cpus with
  | zero => rfl
  | succ cpus ih =>
      have hprevious := ih (by omega)
      rw [threadInfo, List.length_append] at hprevious ⊢
      rw [threadList_succ, List.length_append, List.length_append, length_threadId (by omega)]
      simp only [show (ascii ",").length = 1 from rfl]
      omega

theorem zero_notMem_threadInfo (cpus : ℕ) : 0 ∉ threadInfo cpus := by
  rw [threadInfo, threadList, List.mem_append, List.mem_flatMap]
  rintro (hzero | ⟨cpuid, -, hzero⟩)
  · exact absurd hzero (by decide)
  · rcases List.mem_append.mp hzero with hzero | hzero
    · exact notMem_threadId cpuid (by decide) hzero
    · exact absurd hzero (by decide)

theorem threadInfo_zero : threadInfo 0 = ascii "m" := rfl

/-! ## The loop that lists them -/

theorem length_cpuidStr {cpuid : ℕ} (hcpuid : cpuid < 10000) :
    (decimalPadded 4 cpuid ++ ascii ",").length = 5 := by
  rw [List.length_append, ← threadId, length_threadId hcpuid]
  rfl

/-- One turn of the loop writes one id, if there is room for it. -/
theorem threadInfoLoop_turn {cpuid : ℕ} (hcpuid : cpuid < 10000) (todo : ℕ)
    {rest : List UInt8} (hroom : 5 ≤ rest.length) :
    (threadInfoLoop (todo + 1) cpuid (threadInfo cpuid ++ rest) : StubM σ (List UInt8)) =
      threadInfoLoop todo (cpuid + 1) (threadInfo (cpuid + 1) ++ rest.drop 5) := by
  have hcpuidStr := length_cpuidStr hcpuid
  have hnext : threadInfo (cpuid + 1) =
      threadInfo cpuid ++ (decimalPadded 4 cpuid ++ ascii ",") := by
    rw [threadInfo, threadInfo, threadList_succ, List.append_assoc, threadId]
  have hwrite : Block.write? (threadInfo cpuid ++ rest) (1 + 5 * cpuid)
      (decimalPadded 4 cpuid ++ ascii ",") = some (threadInfo (cpuid + 1) ++ rest.drop 5) := by
    rw [Block.write?_append (length_threadInfo hcpuid.le) (by rw [hcpuidStr]; exact hroom),
      hcpuidStr, hnext]
  rw [threadInfoLoop, List.take_of_length_le hcpuidStr.le, hwrite, inBounds_some]
  rfl

theorem threadInfoLoop_turn_error {cpuid : ℕ} (hcpuid : cpuid < 10000) (todo : ℕ)
    {rest : List UInt8} (hfull : rest.length < 5) :
    (threadInfoLoop (todo + 1) cpuid (threadInfo cpuid ++ rest) : StubM σ (List UInt8)) =
      Program.fail .outOfBounds := by
  have hcpuidStr := length_cpuidStr hcpuid
  rw [threadInfoLoop, List.take_of_length_le hcpuidStr.le,
    Block.write?_append_eq_none (length_threadInfo hcpuid.le) (by rw [hcpuidStr]; exact hfull)]
  rfl

/-- **The loop** lists the CPUs it has still to visit behind those it has visited, and ends
the text; where the array is too short for this it writes past its end. -/
theorem threadInfoLoop_eq (todo : ℕ) : ∀ (cpuid : ℕ) (rest : List UInt8),
    cpuid + todo ≤ 10000 →
      (threadInfoLoop todo cpuid (threadInfo cpuid ++ rest) : StubM σ (List UInt8)) =
        if 5 * todo < rest.length then
          pure (threadInfo (cpuid + todo) ++ 0 :: rest.drop (5 * todo + 1))
        else Program.fail .outOfBounds := by
  induction todo with
  | zero =>
      intro cpuid rest hcpus
      have hend := length_threadInfo (Nat.le_of_add_right_le hcpus)
      rw [threadInfoLoop]
      by_cases hroom : 0 < rest.length
      · rw [if_pos hroom, Block.write?_append hend (by exact hroom), List.append_assoc]
        rfl
      · rw [if_neg hroom, Block.write?_append_eq_none hend (by simpa using hroom)]
        rfl
  | succ todo ih =>
      intro cpuid rest hcpus
      by_cases hturn : 5 ≤ rest.length
      · rw [threadInfoLoop_turn (by omega) todo hturn, ih (cpuid + 1) (rest.drop 5) (by omega),
          List.length_drop, List.drop_drop, show cpuid + 1 + todo = cpuid + (todo + 1) by omega,
          show 5 + (5 * todo + 1) = 5 * (todo + 1) + 1 by omega]
        by_cases hroom : 5 * (todo + 1) < rest.length
        · rw [if_pos hroom, if_pos (by omega)]
        · rw [if_neg hroom, if_neg (by omega)]
      · rw [threadInfoLoop_turn_error (by omega) todo (by omega), if_neg (by omega)]

/-! ## The three requests -/

theorem smp_lt_of_cpus_lt {arch : ArchInfo} (hcpus : arch.cpus < 10000) :
    (if arch.smp = 0 then 1 else arch.smp) < 10000 := by
  rw [ArchInfo.cpus] at hcpus
  omega

/-- **The list.**  It is sent if the array has room for it and its terminating zero. -/
theorem processThreadInfo_eq (hsmp : (if stub.arch.smp = 0 then 1 else stub.arch.smp) < 10000) :
    processThreadInfo stub =
      if 5 * stub.arch.cpus + 1 < maxSendPacketSize then
        connSendPktstr (threadInfo stub.arch.cpus)
      else Program.fail .outOfBounds := by
  let rest := (localBuffer stub maxSendPacketSize).drop 1
  have hrest : rest.length = maxSendPacketSize - 1 := by
    rw [List.length_drop, length_localBuffer]
  have hwrite : Block.write? (localBuffer stub maxSendPacketSize) 0 (ascii "m") =
      some (threadInfo 0 ++ rest) := by
    refine Block.write?_eq_some.mpr ⟨by rw [length_localBuffer]; decide, ?_⟩
    rw [Block.overwrite, List.take_zero, List.nil_append, threadInfo_zero]
    rfl
  have hloop := @threadInfoLoop_eq σ stub.arch.cpus 0 rest
    (by rw [ArchInfo.cpus]; omega)
  rw [Nat.zero_add, hrest] at hloop
  rw [processThreadInfo, if_pos hsmp, hwrite, inBounds_some, ← ArchInfo.cpus]
  show (threadInfoLoop stub.arch.cpus 0 (threadInfo 0 ++ rest) >>= connSendPktbuf) = _
  rw [hloop]
  by_cases hroom : 5 * stub.arch.cpus + 1 < maxSendPacketSize
  · rw [if_pos hroom, if_pos (by omega)]
    funext state
    exact connSendPktbuf_of_text (zero_notMem_threadInfo _) _ state
  · rw [if_neg hroom, if_neg (by omega)]
    rfl

/-- A query that has no arguments is recognised by its whole text. -/
theorem cut_query {name : List UInt8} (hname : (cut colon name) = (name, none))
    (csumHigh csumLow : UInt8) :
    cut colon (name ++ behindBody csumHigh csumLow) = (name, none) := by
  rw [behindBody, cut_append_zero, hname]
  rfl

theorem gdbstubProcessPacket_threadInfo (csumHigh csumLow : UInt8) :
    gdbstubProcessPacket stub
        (Packet.ofFrame (framed (ascii "qfThreadInfo") csumHigh csumLow)) =
      (do
        processThreadInfo stub
        return .none) := by
  have hcut := cut_query (show cut colon (ascii "fThreadInfo") = (ascii "fThreadInfo", none) by
    decide) csumHigh csumLow
  have hquery : processQuery stub (ascii "fThreadInfo" ++ behindBody csumHigh csumLow) =
      processThreadInfo stub := processQuery_threadInfo stub (by rw [hcut])
  rw [show ascii "qfThreadInfo" = 113 :: ascii "fThreadInfo" from rfl,
    gdbstubProcessPacket_framed, ← hquery]
  rfl

/-- The reply to `qC` names the CPU that `get_cpu` returns. -/
theorem gdbstubProcessPacket_currentThread {op : σ → Int32 × σ} (hop : stub.ops.getCpu = some op)
    {cpuid : ℕ} (hcpuid : cpuid < 10000) {state : StubState σ}
    (hreturns : (op state.target).1.toInt = cpuid) (csumHigh csumLow : UInt8) :
    gdbstubProcessPacket stub (Packet.ofFrame (framed (ascii "qC") csumHigh csumLow)) state =
      (.ok .none, (state.called (.getCpu (op state.target).1) (op state.target).2).reply
        (ascii "QC" ++ threadId cpuid)) := by
  have hcut := cut_query (show cut colon (ascii "C") = (ascii "C", none) by decide)
    csumHigh csumLow
  have hlength : (ascii "QC" ++ threadId cpuid).length = 6 := by
    rw [List.length_append, length_threadId hcpuid]
    rfl
  have hquery : processQuery stub (ascii "C" ++ behindBody csumHigh csumLow) state =
      (.ok (), (state.called (.getCpu (op state.target).1) (op state.target).2).reply
        (ascii "QC" ++ threadId cpuid)) := by
    rw [processQuery, hcut]
    dsimp only
    rw [if_pos rfl, if_pos (Option.isSome_iff_exists.mpr ⟨op, hop⟩), callGetCpu, hop,
      Program.bind_of_ok (callOp_some _ _ _), hreturns]
    exact connSendPktstr_of_fits (by rw [← threadId, hlength]; decide) _
  rw [show ascii "qC" = 113 :: ascii "C" from rfl, gdbstubProcessPacket_framed]
  exact Program.bind_of_ok hquery _

/-- `Hg` with decimal digits selects the CPU they stand for. -/
theorem gdbstubProcessPacket_select {op : σ → ℤ → σ} (hop : stub.ops.setCpu = some op)
    {digits : List UInt8} (hdigits : DigitsOf 10 digits) (hnonempty : digits ≠ [])
    (hvalue : digitsValue 10 digits < 2 ^ 31) (state : StubState σ) (csumHigh csumLow : UInt8) :
    gdbstubProcessPacket stub (Packet.ofFrame (framed (ascii "Hg" ++ digits) csumHigh csumLow))
        state =
      (.ok .none, (state.called (.setCpu (digitsValue 10 digits))
        (op state.target (digitsValue 10 digits))).reply (ascii "OK")) := by
  have hzero : 0 ∉ 103 :: digits := by
    rw [List.mem_cons, not_or]
    exact ⟨by decide, notMem_of_hexDigits (hdigits.isHexDigit (by decide)) (by decide)⟩
  have htext : text (103 :: digits ++ behindBody csumHigh csumLow) = 103 :: digits :=
    text_append_zero hzero _
  have hscan := scanDecimal_of_digits hdigits hnonempty (by omega)
  have hhandler : processSetCpu stub (103 :: digits ++ behindBody csumHigh csumLow) state =
      (.ok (), (state.called (.setCpu (digitsValue 10 digits))
        (op state.target (digitsValue 10 digits))).reply (ascii "OK")) := by
    rw [processSetCpu, if_pos (by rfl), htext, List.tail_cons, hscan]
    dsimp only
    rw [asInt_of_lt hvalue, callSetCpu, hop, Option.map_some,
      Program.bind_of_ok (callOp_some _ _ _)]
    exact connSendPktstr_of_fits (by decide) _
  rw [show ascii "Hg" ++ digits = 72 :: 103 :: digits from rfl, gdbstubProcessPacket_framed]
  show ifProvided stub.ops.setCpu.isSome
    (processSetCpu stub (103 :: digits ++ behindBody csumHigh csumLow)) state = _
  rw [hop, Option.isSome_some, ifProvided_some _ hhandler]

/-! ## The client -/

/-- What the client takes a thread id for: a number in hexadecimal. -/
def clientThread (id : List UInt8) : ℕ :=
  digitsValue 16 id

/-- The request by which the client selects a thread, with the number in hexadecimal. -/
def selectThread (thread : ℕ) : List UInt8 :=
  ascii "Hg" ++ printed 16 thread

/-- The id at a place of a list that is divided by commas. -/
def listedId : ℕ → List UInt8 → List UInt8
  | 0, ids => ids.takeWhile (· != comma)
  | place + 1, ids => listedId place ((ids.dropWhile (· != comma)).drop 1)

/-- The client prints the characters of an id again, without the leading zeros. -/
theorem printed_clientThread (cpuid : ℕ) :
    printed 16 (clientThread (threadId cpuid)) = stripped (threadId cpuid) :=
  printed_digitsValue (by decide) le_rfl ((digitsOf_threadId cpuid).mono (by decide))

theorem listedId_flatMap {ids : List (List UInt8)} (hids : ∀ id ∈ ids, comma ∉ id) (place : ℕ)
    (hplace : place < ids.length) :
    listedId place (ids.flatMap fun id => id ++ ascii ",") = ids[place] := by
  induction ids generalizing place with
  | nil => simp at hplace
  | cons id ids ih =>
      have hid := bne_of_notMem (hids id (by simp))
      rw [List.flatMap_cons, List.append_assoc]
      cases place with
      | zero =>
          rw [listedId, List.takeWhile_append_of_pos hid]
          exact List.append_nil id
      | succ place =>
          rw [listedId, List.dropWhile_append_of_pos hid, List.getElem_cons_succ]
          exact ih (fun id hmem => hids id (List.mem_cons_of_mem _ hmem)) place
            (Nat.lt_of_succ_lt_succ hplace)

theorem listedId_threadList {cpus cpuid : ℕ} (hcpuid : cpuid < cpus) :
    listedId cpuid (threadList cpus) = threadId cpuid := by
  have hlist : threadList cpus =
      ((List.range cpus).map threadId).flatMap fun id => id ++ ascii "," := by
    rw [threadList, List.flatMap_map]
  have hids : ∀ id ∈ (List.range cpus).map threadId, comma ∉ id := by
    intro id hmem
    obtain ⟨other, -, rfl⟩ := List.mem_map.mp hmem
    exact notMem_threadId other (by decide)
  rw [hlist, listedId_flatMap hids cpuid (by simpa using hcpuid)]
  simp

/-- **The ids select the CPUs they name.**  The list is the one that is sent, and the id of
a CPU in it, as well as the one in the reply to `qC`, leads the client to a request that
calls `set_cpu` with this CPU. -/
theorem threadIds_select (stub : Gdbstub σ)
    (hfits : 5 * stub.arch.cpus + 1 < maxSendPacketSize) (csumHigh csumLow : UInt8) :
    (∃ ids,
      gdbstubProcessPacket stub
          (Packet.ofFrame (framed (ascii "qfThreadInfo") csumHigh csumLow)) =
        (do
          connSendPktstr (ascii "m" ++ ids)
          return .none) ∧
      ∀ cpuid < stub.arch.cpus, listedId cpuid ids = threadId cpuid) ∧
    ∀ cpuid < stub.arch.cpus,
      (∀ op ∈ stub.ops.getCpu, ∀ state : StubState σ, (op state.target).1.toInt = cpuid →
        gdbstubProcessPacket stub (Packet.ofFrame (framed (ascii "qC") csumHigh csumLow)) state =
          (.ok .none, (state.called (.getCpu (op state.target).1) (op state.target).2).reply
            (ascii "QC" ++ threadId cpuid))) ∧
      (∀ op ∈ stub.ops.setCpu, ∀ state : StubState σ,
        gdbstubProcessPacket stub (Packet.ofFrame
            (framed (selectThread (clientThread (threadId cpuid))) csumHigh csumLow)) state =
          (.ok .none,
            (state.called (.setCpu cpuid) (op state.target cpuid)).reply (ascii "OK"))) ∧
      ∀ other < stub.arch.cpus, threadId other = threadId cpuid → other = cpuid := by
  have hcpus : stub.arch.cpus < 10000 := by
    rw [maxSendPacketSize] at hfits
    omega
  constructor
  · refine ⟨threadList stub.arch.cpus, ?_, fun _ => listedId_threadList⟩
    rw [gdbstubProcessPacket_threadInfo, processThreadInfo_eq stub (smp_lt_of_cpus_lt hcpus),
      if_pos hfits]
    rfl
  · intro cpuid hcpuid
    refine ⟨?_, ?_, fun _ _ => threadId_inj⟩
    · intro op hop state hreturns
      exact gdbstubProcessPacket_currentThread stub hop (by omega) hreturns csumHigh csumLow
    · -- the client prints the number again, without the leading zeros
      intro op hop state
      have hvalue : digitsValue 10 (stripped (threadId cpuid)) = cpuid := by
        rw [digitsValue_stripped, digitsValue_threadId]
      have hselect := gdbstubProcessPacket_select stub hop
        ((digitsOf_threadId cpuid).stripped (by decide)) (stripped_ne_nil _)
        (by rw [hvalue]; omega) state csumHigh csumLow
      rw [hvalue] at hselect
      rw [selectThread, printed_clientThread, hselect]

/-- An architecture with so many CPUs and registers, and no description. -/
def plainArch (smp regNum : ℤ) : ArchInfo where
  targetDesc := none
  smp := smp
  regNum := regNum
  zero_notMem := zero_notMem_of_none

/-- A target that has CPUs. -/
def TargetOps.withCpus (ops : TargetOps σ) (setCpu : σ → ℤ → σ) (getCpu : σ → Int32 × σ) :
    TargetOps σ :=
  { ops with
    setCpu := some setCpu
    getCpu := some getCpu }

/-- A stub whose target has a number of CPUs and runs one of them. -/
def manyCpusStub (smp : ℤ) (current : Int32) : Gdbstub (ℕ → List UInt8) :=
  { oneByteStub with
    ops := oneByteStub.ops.withCpus (fun target _ => target) fun target => (current, target)
    arch := plainArch smp 1
    totalRegBytes_eq := oneByteStub.totalRegBytes_eq }

/-- The CPU 11 has the id `0011`, which is 17 for the client. -/
theorem threadIds_select_eleven :
    let state := StubState.init fun _ : ℕ => ([] : List UInt8)
    clientThread (threadId 11) = 17 ∧
      gdbstubProcessPacket (manyCpusStub 12 11) (Packet.ofFrame (framed (ascii "Hg11") 49 49))
          state =
        (.ok .none, (state.called (.setCpu 11) state.target).reply (ascii "OK")) := by
  intro state
  have hselect := ((threadIds_select (manyCpusStub 12 11) (by decide) 49 49).2 11 (by decide)).2.1
    _ rfl state
  rw [show selectThread (clientThread (threadId 11)) = ascii "Hg11" by decide +kernel] at hselect
  exact ⟨by decide +kernel, hselect⟩

end MiniGdbstub
