import MiniGdbstub.WriteRequests

/-!
# Malformed write requests

Which `M`, `X`, `P` and `G` packets make the stub write to the target, and what it then
writes.  Every handler has a predicate that says when it gives up before its first
write (`MemWriteStops`, `MemXwriteStops`, `RegWriteOneStops`, `RegWriteStops`), in terms
of the packet and the state it finds, and a lemma that says what it writes otherwise.

The checks let through more than the grammar of `Denotes`: the length of the data of `M`
is not compared with anything, and its decoder leaves the packet with it, no digit is looked
at by `P` and `G`, an escape at the end of the data of `X` takes the zero behind it, and the
numbers are whatever `sscanf` accepts.  `writesAsAsked_iff` says that a request has the
effect it should have exactly when it is well formed or stopped by one of the checks.
-/

namespace MiniGdbstub

open CString Layout

variable {σ : Type} (stub : Gdbstub σ)

/-- The value was read from the register in the same request. -/
def Restores (calls : List TargetCall) : Write → Prop
  | .reg regno data => .readReg regno 0 data ∈ calls
  | .mem .. => False

/-- Whenever a write operation was invoked, the request is well formed and the write is one
that it asks for, or puts back what the request had read from a register. -/
def WritesAsAsked (body : List UInt8) (before after : StubState σ) : Prop :=
  ∃ calls, after.calls = before.calls ++ calls ∧
    ∀ call ∈ calls, ∀ write ∈ call.write?, ∃ writes, Denotes stub body writes ∧
      (write ∈ writes ∨ Restores calls write)

theorem WritesAsAsked.of_no_write {body : List UInt8} {before after : StubState σ}
    {calls : List TargetCall} (hcalls : after.calls = before.calls ++ calls)
    (hnone : ∀ call ∈ calls, call.write? = none) : WritesAsAsked stub body before after := by
  refine ⟨calls, hcalls, ?_⟩
  intro call hmem write hwrite
  rw [hnone call hmem] at hwrite
  exact absurd hwrite (by simp)

/-- The writes of a request are as asked.  `M` has decoded nothing behind its packet either, to
hand it to the operation; the other three compare the length of their data first. -/
structure WriteSound {α : Type} (body : List UInt8) (before : StubState σ)
    (run : Except Fault α × StubState σ) : Prop where
  asked : WritesAsAsked stub body before run.2
  inside : body.head? = some 77 → run.1 ≠ .error .outOfBounds

/-- A request that wrote was well formed. -/
theorem WritesAsAsked.wellFormed {body : List UInt8} {before after : StubState σ}
    {calls : List TargetCall} (hasked : WritesAsAsked stub body before after)
    (hcalls : after.calls = before.calls ++ calls) {call : TargetCall} (hmem : call ∈ calls)
    {write : Write} (hwrite : call.write? = some write) : WellFormed stub body := by
  obtain ⟨calls', hcalls', hall⟩ := hasked
  obtain rfl : calls = calls' := List.append_cancel_left (hcalls.symm.trans hcalls')
  obtain ⟨writes, hdenotes, -⟩ := hall call hmem write hwrite
  exact ⟨writes, hdenotes⟩

/-! ## Memory -/

/-- `process_mem_write` gives up before the write: there are no two numbers before the
`':'`, or the length is positive as an `int` and there is no `':'` or no block for the
data. -/
def MemWriteStops (state : StubState σ) (payload : List UInt8) : Prop :=
  ∀ maddr mlen, scanHexFields 2 (cut colon payload).1 = [maddr, mlen] → 0 < asInt mlen ∧
    ((cut colon payload).2 = none ∨ stub.mallocs state.allocations mlen = false)

/-- `process_mem_xwrite` gives up before the write: there are no two numbers before the
`':'`, or there is no `':'`, or the data decodes to another number of bytes. -/
def MemXwriteStops (payload : List UInt8) (packetEnd : ℕ) : Prop :=
  ∀ maddr mlen, scanHexFields 2 (cut colon payload).1 = [maddr, mlen] →
    ∀ content ∈ (cut colon payload).2,
      asInt (unescaped 0 (content.take (packetEnd - ((cut colon payload).1.length + 1)))).length ≠
        asInt mlen

/-- `MemWriteStops` of a request with its two numbers. -/
theorem memWriteStops_iff {payload : List UInt8} {maddr mlen : ℕ}
    (hscan : scanHexFields 2 (cut colon payload).1 = [maddr, mlen]) (state : StubState σ) :
    MemWriteStops stub state payload ↔ 0 < asInt mlen ∧
      ((cut colon payload).2 = none ∨ stub.mallocs state.allocations mlen = false) := by
  refine ⟨fun hstops => hstops maddr mlen hscan, ?_⟩
  intro hreason maddr' mlen' hscan'
  rw [hscan] at hscan'
  cases hscan'
  exact hreason

/-- `MemXwriteStops` of a request with its two numbers. -/
theorem memXwriteStops_iff {payload fields : List UInt8} {content : Option (List UInt8)}
    (hcut : cut colon payload = (fields, content)) {maddr mlen : ℕ}
    (hscan : scanHexFields 2 fields = [maddr, mlen]) (packetEnd : ℕ) :
    MemXwriteStops payload packetEnd ↔ ∀ data ∈ content,
      asInt (unescaped 0 (data.take (packetEnd - (fields.length + 1)))).length ≠ asInt mlen := by
  rw [MemXwriteStops, hcut]
  refine ⟨fun hstops => hstops maddr mlen hscan, ?_⟩
  intro hreason maddr' mlen' hscan'
  rw [show scanHexFields 2 fields = [maddr', mlen'] from hscan'] at hscan
  cases hscan
  exact hreason

section

variable {stub} {op : σ → ℕ → ℕ → List UInt8 → Int32 × σ}

/-- **`M`.**  It gives up, or it decodes what stands behind the packet, or it writes what it
decoded. -/
theorem processMemWrite_writes (hop : stub.ops.writeMem = some op) (payload : List UInt8)
    (state : StubState σ) :
    let run := processMemWrite stub payload state
    (MemWriteStops stub state payload ∧ run.2.calls = state.calls ∧
        run.1 ≠ .error .outOfBounds) ∨
      (¬ MemWriteStops stub state payload ∧ run.2.calls = state.calls ∧
        run.1 = .error .outOfBounds ∧
        ∃ maddr mlen content, scanHexFields 2 (cut colon payload).1 = [maddr, mlen] ∧
          (cut colon payload).2 = some content ∧ (content.length : ℤ) < 2 * asInt mlen) ∨
      (¬ MemWriteStops stub state payload ∧ run.1 ≠ .error .outOfBounds ∧
        ∃ maddr mlen data block ret, scanHexFields 2 (cut colon payload).1 = [maddr, mlen] ∧
          decodeContent (cut colon payload).2 (dataBlock stub state mlen) mlen = .ok data ∧
          data.length = (asInt mlen).toNat ∧ (data.length = mlen → block = data) ∧
          run.2.calls = state.calls ++ [.writeMem maddr mlen block ret]) := by
  intro run
  by_cases hscan : ∃ maddr mlen, scanHexFields 2 (cut colon payload).1 = [maddr, mlen]
  · obtain ⟨maddr, mlen, hscan⟩ := hscan
    have hstops := memWriteStops_iff stub hscan state
    have hrun := @processMemWrite_scanned σ stub payload maddr mlen hscan state
    -- there is no `:` or no block; the data ends before its length; or all of it is decoded
    rcases decodeContent_cases stub (cut colon payload).2 mlen state with
      ⟨hpos, hmissing, fault, hfault, hdecode⟩ |
      ⟨hpos, halloc, content, hcontent, hshort, hdecode⟩ | ⟨hall, data, hdecode, hlength⟩
    · dsimp only at hrun
      rw [hdecode] at hrun
      have hrun : run = (.error fault, state.allocated) := hrun
      refine .inl ⟨hstops.mpr ⟨hpos, hmissing⟩, by rw [hrun]; rfl, ?_⟩
      rw [hrun]
      exact fun heq => hfault (Except.error.inj heq)
    · dsimp only at hrun
      rw [hdecode] at hrun
      have hrun : run = (.error .outOfBounds, state.allocated) := hrun
      refine .inr (.inl ⟨fun hstopped => ?_, by rw [hrun]; rfl, by rw [hrun], maddr, mlen,
        content, hscan, hcontent, hshort⟩)
      rcases (hstops.mp hstopped).2 with hnone | hfails
      · rw [hcontent] at hnone
        cases hnone
      · rw [halloc] at hfails
        cases hfails
    · obtain ⟨block, hwhole, hok⟩ := processMemWrite_ok hop hscan hdecode
      have hok : run = _ := hok
      refine .inr (.inr ⟨fun hstopped => ?_, by rw [hok]; nofun, maddr, mlen, data, block, _,
        hscan, hdecode, hlength, hwhole, by rw [hok]; rfl⟩)
      obtain ⟨hpos, hnone | hfails⟩ := hstops.mp hstopped
      · exact (hall hpos).1 hnone
      · rw [(hall hpos).2] at hfails
        cases hfails
  · left
    have hrun : run = (.error .assertFail, state) :=
      congrArg (fun program : StubM σ Unit => program state) (match_fields_of_not _ _ _ hscan)
    refine ⟨fun maddr mlen hfields => absurd ⟨maddr, mlen, hfields⟩ hscan, by rw [hrun], ?_⟩
    rw [hrun]
    nofun

/-- **`X`.**  It gives up, or it writes what it decoded. -/
theorem processMemXwrite_writes (hop : stub.ops.writeMem = some op) (body behind : List UInt8)
    (state : StubState σ) :
    let payload := body ++ 0 :: behind
    let after := (processMemXwrite stub payload body.length state).2
    (MemXwriteStops payload body.length ∧ after.calls = state.calls) ∨
      ¬ MemXwriteStops payload body.length ∧
        ∃ maddr mlen fields content ret, cut colon payload = (fields, some content) ∧
          scanHexFields 2 fields = [maddr, mlen] ∧
          (let data := unescaped 0 (content.take (body.length - (fields.length + 1)))
          after.calls = state.calls ++ [.writeMem maddr mlen
            ((data ++ content.drop data.length).take mlen) ret]) := by
  intro payload after
  rcases hcut : cut colon payload with ⟨fields, content⟩
  by_cases hscan : ∃ maddr mlen, scanHexFields 2 fields = [maddr, mlen]
  · obtain ⟨maddr, mlen, hscan⟩ := hscan
    have hstops := memXwriteStops_iff hcut hscan body.length
    cases content with
    | none =>
        refine .inl ⟨hstops.mpr (by simp), ?_⟩
        show (processMemXwrite stub payload body.length state).2.calls = state.calls
        rw [processMemXwrite, hcut]
        dsimp only
        rw [hscan]
        rfl
    | some content =>
        -- the zero behind the body is in reach of the decoder
        obtain ⟨hname, hcontent⟩ := cut_eq_some hcut
        have htext : (text payload).length ≤ body.length := by
          apply length_text_le
          rw [List.getElem?_append_right le_rfl, Nat.sub_self]
          rfl
        have hzero : content[body.length - (fields.length + 1)]? = some 0 := by
          rw [hcontent, List.getElem?_drop,
            show fields.length + 1 + (body.length - (fields.length + 1)) = body.length by omega,
            List.getElem?_append_right le_rfl, Nat.sub_self]
          rfl
        have hdecode := unescape_eq hzero
        by_cases hcount : asInt (unescaped 0 (content.take
            (body.length - (fields.length + 1)))).length = asInt mlen
        · have hrun := processMemXwrite_ok hop hcut hscan hdecode hcount state
          have hcalls := congrArg (fun outcome => outcome.2.calls) hrun
          refine .inr ⟨?_, maddr, mlen, fields, content, _, rfl, hscan, hcalls⟩
          exact fun hstopped => hstops.mp hstopped content rfl hcount
        · refine .inl ⟨hstops.mpr ?_, ?_⟩
          · intro data hdata
            rwa [← Option.some.inj hdata]
          · show (processMemXwrite stub payload body.length state).2.calls = state.calls
            rw [processMemXwrite, hcut]
            dsimp only
            rw [hscan]
            dsimp only
            rw [hdecode, Program.lift_ok_bind]
            dsimp only
            rw [if_neg hcount]
            rfl
  · left
    refine ⟨fun maddr mlen hfields => absurd ⟨maddr, mlen, by rwa [hcut] at hfields⟩ hscan, ?_⟩
    show (processMemXwrite stub payload body.length state).2.calls = state.calls
    rw [processMemXwrite, hcut]
    exact congrArg (fun program : StubM σ Unit => (program state).2.calls)
      (match_fields_of_not _ _ _ hscan)

end

/-! ## One register -/

/-- `regbuf_get` answers with a block in which so many bytes fit. -/
def BufferServes (state : StubState σ) (regSz : ℕ) : Prop :=
  if regSz ≤ state.regbuf.sz then storeAt state.regbuf.buf regSz = .ok ()
  else ∃ sz ∈ regbufGrow regSz 65 state.regbuf.sz, stub.mallocs state.allocations sz = true

/-- `process_reg_write_one` gives up before the write: there is no number before the `'='`,
or no `'='`, or the data has not two characters for each byte of the register, or there is
no buffer. -/
def RegWriteOneStops (state : StubState σ) (payload : List UInt8) : Prop :=
  ∀ regno, scanHexFields 1 (cut equals payload).1 = [regno] →
    ∀ dataStr ∈ (cut equals payload).2,
      (text dataStr).length ≠ 2 * stub.ops.getRegBytes (asInt regno) ∨
        ¬ BufferServes stub state (stub.ops.getRegBytes (asInt regno))

/-- `RegWriteOneStops` of a request with its number. -/
theorem regWriteOneStops_iff {payload regnoStr : List UInt8} {dataStr : Option (List UInt8)}
    (hcut : cut equals payload = (regnoStr, dataStr)) {regno : ℕ}
    (hscan : scanHexFields 1 regnoStr = [regno]) (state : StubState σ) :
    RegWriteOneStops stub state payload ↔
      ∀ content ∈ dataStr, (text content).length ≠ 2 * stub.ops.getRegBytes (asInt regno) ∨
        ¬ BufferServes stub state (stub.ops.getRegBytes (asInt regno)) := by
  rw [RegWriteOneStops, hcut]
  refine ⟨fun hstops => hstops regno hscan, ?_⟩
  intro hreason regno' hscan'
  rw [show scanHexFields 1 regnoStr = [regno'] from hscan'] at hscan
  cases hscan
  exact hreason

/-- `regbuf_get` neither calls the target nor changes it; what it answers is a block of
the size exactly when `BufferServes`. -/
theorem regbufGet_cases (regSz : ℕ) (state : StubState σ) :
    (regbufGet stub regSz state).2.calls = state.calls ∧
      (regbufGet stub regSz state).2.target = state.target ∧
      ((∃ buf, (regbufGet stub regSz state).1 = .ok buf ∧ storeAt buf regSz = .ok ()) ↔
        BufferServes stub state regSz) := by
  unfold regbufGet BufferServes
  rw [Program.get_bind]
  by_cases henough : regSz ≤ state.regbuf.sz
  · rw [if_pos henough, if_pos henough]
    refine ⟨rfl, rfl, ?_, fun hstore => ⟨_, rfl, hstore⟩⟩
    rintro ⟨buf, hbuf, hstore⟩
    cases hbuf
    exact hstore
  · rw [if_neg henough, if_neg henough]
    cases hgrow : regbufGrow regSz 65 state.regbuf.sz with
    | none =>
        refine ⟨rfl, rfl, ?_, ?_⟩
        · rintro ⟨buf, hbuf, -⟩
          cases hbuf
        · rintro ⟨sz, hsz, -⟩
          cases hsz
    | some sz =>
        have hle := le_of_regbufGrow hgrow
        dsimp only
        rw [Program.bind_of_ok (malloc_eq sz state), Program.update_bind]
        refine ⟨rfl, rfl, ?_, ?_⟩
        · rintro ⟨buf, hbuf, hstore⟩
          refine ⟨sz, rfl, ?_⟩
          by_contra hfails
          rw [if_neg hfails] at hbuf
          cases hbuf
          cases regSz with
          | zero => omega
          | succ regSz => cases hstore
        · rintro ⟨sz', hsz', halloc⟩
          cases hsz'
          refine ⟨some sz, ?_, storeAt_some hle⟩
          rw [if_pos halloc]
          rfl

/-- What is behind a separator is no longer than the whole. -/
theorem length_text_cut_le {separator : UInt8} {payload name dataStr : List UInt8}
    (hcut : cut separator payload = (name, some dataStr)) :
    (text dataStr).length ≤ payload.length := by
  have htext : (text dataStr).length ≤ dataStr.length := (List.takeWhile_prefix _).length_le
  obtain ⟨-, hcontent⟩ := cut_eq_some hcut
  have hdata : dataStr.length ≤ payload.length := by
    rw [hcontent, List.length_drop]
    omega
  exact htext.trans hdata

/-- The decoder on a text of exactly the length it reads. -/
theorem strToHex_text {block : List UInt8} {bytes : ℕ} (hbytes : bytes < 2 ^ 31)
    (htext : (text block).length = 2 * bytes) :
    strToHex block (asInt bytes) = .ok (hexPairs (text block)) ∧
      (hexPairs (text block)).length = bytes := by
  have hprefix : text block <+: block := List.takeWhile_prefix _
  have hle := hprefix.length_le
  refine ⟨?_, length_hexPairs htext⟩
  rw [asInt_of_lt hbytes, strToHex_eq (by rw [Int.toNat_natCast]; omega), Int.toNat_natCast,
    ← htext, ← List.prefix_iff_eq_take.mp hprefix]

/-- `process_reg_write_one` with its number: the buffer is there before the data is looked
at. -/
theorem processRegWriteOne_scanned {payload regnoStr : List UInt8}
    {dataStr : Option (List UInt8)} (hcut : cut equals payload = (regnoStr, dataStr))
    {regno : ℕ} (hscan : scanHexFields 1 regnoStr = [regno]) (state : StubState σ) :
    let regSz := stub.ops.getRegBytes (asInt regno)
    processRegWriteOne stub payload state = (do
      let buf ← regbufGet stub regSz
      match dataStr with
      | none => Program.fail .nullDeref
      | some dataStr =>
          if (text dataStr).length = regSz * 2 then
            let data ← Program.lift (strToHex dataStr (asInt regSz))
            Program.lift (storeAt buf data.length)
            let ret ← callWriteReg stub (asInt regno) data
            if ret = 0 then
              connSendPktstr (ascii "OK")
            else
              connSendPktstr (errorText ret)
          else
            Program.fail .assertFail : StubM σ Unit) state := by
  intro regSz
  rw [processRegWriteOne, hcut]
  dsimp only
  generalize scanHexFields 1 regnoStr = fields at hscan ⊢
  subst hscan
  rfl

/-- **`P`.**  It gives up, or it writes what it decoded. -/
theorem processRegWriteOne_writes {op : σ → ℤ → List UInt8 → Int32 × σ}
    (hop : stub.ops.writeReg = some op) {payload : List UInt8} (hbound : payload.length < 2 ^ 31)
    (state : StubState σ) :
    let after := (processRegWriteOne stub payload state).2
    (RegWriteOneStops stub state payload ∧ after.calls = state.calls) ∨
      ¬ RegWriteOneStops stub state payload ∧
        ∃ regno regnoStr dataStr ret, cut equals payload = (regnoStr, some dataStr) ∧
          scanHexFields 1 regnoStr = [regno] ∧
          (text dataStr).length = 2 * stub.ops.getRegBytes (asInt regno) ∧
          after.calls = state.calls ++
            [.writeReg (asInt regno) (hexPairs (text dataStr)) ret] := by
  intro after
  rcases hcut : cut equals payload with ⟨regnoStr, dataStr⟩
  by_cases hscan : ∃ regno, scanHexFields 1 regnoStr = [regno]
  · obtain ⟨regno, hscan⟩ := hscan
    have hstops := regWriteOneStops_iff stub hcut hscan state
    have hrun := processRegWriteOne_scanned stub hcut hscan state
    dsimp only at hrun
    set regSz := stub.ops.getRegBytes (asInt regno)
    obtain ⟨hcalls, htarget, hserves⟩ := regbufGet_cases stub regSz state
    -- the buffer is asked for before the digits are looked at
    rcases hget : regbufGet stub regSz state with ⟨fault | buf, between⟩
    · rw [hget] at hcalls hserves
      refine .inl ⟨hstops.mpr fun _ _ => .inr ?_, ?_⟩
      · intro hyes
        obtain ⟨buf, hbuf, -⟩ := hserves.mpr hyes
        cases hbuf
      · show (processRegWriteOne stub payload state).2.calls = state.calls
        rw [hrun, Program.bind_of_error hget]
        exact hcalls
    · rw [hget] at hcalls hserves
      rw [Program.bind_of_ok hget] at hrun
      cases dataStr with
      | none =>
          refine .inl ⟨hstops.mpr (by simp), ?_⟩
          show (processRegWriteOne stub payload state).2.calls = state.calls
          rw [hrun]
          exact hcalls
      | some dataStr =>
          dsimp only at hrun
          by_cases hlength : (text dataStr).length = regSz * 2
          · rw [if_pos hlength] at hrun
            have hshort := length_text_cut_le hcut
            have hsmall : regSz < 2 ^ 31 := by omega
            obtain ⟨hdecode, hdata⟩ :=
              strToHex_text hsmall (hlength.trans (Nat.mul_comm _ _))
            rw [hdecode, Program.lift_ok_bind, hdata] at hrun
            -- without a buffer `str_to_hex` stores through `NULL`, and nothing is written
            rcases hstore : storeAt buf regSz with fault | _
            · rw [hstore] at hrun
              refine .inl ⟨hstops.mpr fun _ _ => .inr ?_, ?_⟩
              · intro hyes
                obtain ⟨buf', hbuf, hok⟩ := hserves.mpr hyes
                cases hbuf
                rw [hstore] at hok
                cases hok
              · show (processRegWriteOne stub payload state).2.calls = state.calls
                rw [hrun]
                exact hcalls
            · rw [hstore, Program.lift_ok_bind,
                Program.bind_of_ok (callWriteReg_some hop _ _ _),
                connSendPktstr_writeReply] at hrun
              have hafter := congrArg (fun outcome => outcome.2.calls) hrun
              refine .inr ⟨?_, regno, regnoStr, dataStr, _, rfl, hscan,
                hlength.trans (Nat.mul_comm _ _), hafter.trans (congrArg (· ++ _) hcalls)⟩
              intro hstopped
              rcases hstops.mp hstopped dataStr rfl with hne | hno
              · exact hne (hlength.trans (Nat.mul_comm _ _))
              · exact hno (hserves.mp ⟨buf, rfl, hstore⟩)
          · rw [if_neg hlength] at hrun
            refine .inl ⟨hstops.mpr ?_, ?_⟩
            · intro content hcontent
              rw [← Option.some.inj hcontent]
              exact .inl fun heq => hlength (heq.trans (Nat.mul_comm _ _))
            · show (processRegWriteOne stub payload state).2.calls = state.calls
              rw [hrun]
              exact hcalls
  · left
    refine ⟨fun regno hfields => absurd ⟨regno, by rwa [hcut] at hfields⟩ hscan, ?_⟩
    show (processRegWriteOne stub payload state).2.calls = state.calls
    rw [processRegWriteOne, hcut]
    exact congrArg (fun program : StubM σ Unit => (program state).2.calls)
      (match_field_of_not _ _ _ hscan)

/-! ## All registers -/

/-- Every one of the registers from `i` on can be read, one after the other. -/
def Readable : (todo i : ℕ) → σ → Prop
  | 0, _, _ => True
  | todo + 1, i, target => ∃ op ∈ stub.ops.readReg, (op target i).1.1 = 0 ∧
      Readable todo (i + 1) (op target i).2

variable {stub} in
theorem readable_succ {op : σ → ℤ → (Int32 × List UInt8) × σ} (hop : stub.ops.readReg = some op)
    (todo i : ℕ) (target : σ) :
    Readable stub (todo + 1) i target ↔
      (op target i).1.1 = 0 ∧ Readable stub todo (i + 1) (op target i).2 := by
  constructor
  · rintro ⟨op', hmem, hread⟩
    rw [hop] at hmem
    cases hmem
    exact hread
  · exact fun hread => ⟨op, hop, hread⟩

theorem not_readable_of_none (hop : stub.ops.readReg = none) (todo i : ℕ) (target : σ) :
    ¬ Readable stub (todo + 1) i target := by
  rintro ⟨op, hmem, -⟩
  rw [hop] at hmem
  cases hmem

/-- `process_reg_write` gives up before its first write: there are no registers, or the
text has not two characters for each byte of theirs, or there is no memory for the values,
or a register cannot be read. -/
def RegWriteStops (state : StubState σ) (payload : List UInt8) : Prop :=
  stub.totalRegBytes = 0 ∨ (text payload).length ≠ 2 * stub.totalRegBytes ∨
    stub.mallocs state.allocations stub.totalRegBytes = false ∨
    stub.mallocs (state.allocations + 1) stub.totalRegBytes = false ∨
    ¬ Readable stub stub.arch.registers 0 state.target

/-- What the first pass has done when it reaches register `i`: it has only read, the new
values are decoded from the payload and the backup is what was read. -/
structure Saved (before : StubState σ) (payload : List UInt8) (i : ℕ)
    (newValues backupValues : List UInt8) (after : StubState σ) : Prop where
  length_new : newValues.length = stub.totalRegBytes
  length_backup : backupValues.length = stub.totalRegBytes
  new : ∀ j < i, slot stub.regSize newValues j = payloadSlot stub payload j
  calls : ∃ reads, after.calls = before.calls ++ reads ∧ (∀ call ∈ reads, call.write? = none) ∧
    ∀ j < i, TargetCall.readReg j 0 (slot stub.regSize backupValues j) ∈ reads

/-- A read behind other reads. -/
theorem reads_called {reads : List TargetCall} (hreads : ∀ call ∈ reads, call.write? = none)
    (regno : ℤ) (ret : Int32) (value : List UInt8) :
    ∀ call ∈ reads ++ [.readReg regno ret value], call.write? = none := by
  intro call hmem
  rcases List.mem_append.mp hmem with hmem | hmem
  · exact hreads call hmem
  · rw [List.mem_singleton.mp hmem]
    rfl

/-- One turn of the first pass that reads its register. -/
theorem Saved.step {before between : StubState σ} {payload : List UInt8} {i : ℕ}
    {newValues backupValues : List UInt8}
    (hsaved : Saved stub before payload i newValues backupValues between)
    (hi : i < stub.arch.registers) (hlength : payload.length = 2 * stub.totalRegBytes)
    {value : List UInt8} (hvalue : value.length = stub.regSize i) (target : σ) :
    Saved stub before payload (i + 1)
      (Block.overwrite newValues (offset stub.regSize i) (payloadSlot stub payload i))
      (Block.overwrite backupValues (offset stub.regSize i) value)
      (between.called (.readReg i 0 value) target) := by
  have hend := offset_add_size_le stub.regSize hi
  have htotal := stub.totalRegBytes_eq_offset
  have hnew := hsaved.length_new
  have hbackup := hsaved.length_backup
  have hdecoded := length_payloadSlot hi hlength
  obtain ⟨reads, hcalls, hreads, hvalues⟩ := hsaved.calls
  refine ⟨by rw [Block.length_overwrite (by omega), hnew],
    by rw [Block.length_overwrite (by omega), hbackup], ?_, reads ++ [.readReg i 0 value], ?_,
    reads_called hreads i 0 value, ?_⟩
  · intro j hj
    by_cases hlast : j = i
    · rw [hlast, slot_overwrite_self hi (by omega) hdecoded]
    · rw [slot_overwrite_of_ne hi hlast (by omega) hdecoded, hsaved.new j (by omega)]
  · rw [StubState.called, hcalls, List.append_assoc]
  · intro j hj
    by_cases hlast : j = i
    · rw [hlast, slot_overwrite_self hi (by omega) hvalue]
      simp
    · rw [slot_overwrite_of_ne hi hlast (by omega) hvalue]
      exact List.mem_append_left _ (hvalues j (by omega))

/-- **The first pass.**  It reads every register and parses its value, or it meets one that
cannot be read and has written nothing. -/
theorem regWriteParse_saves {before : StubState σ} {payload : List UInt8} (rest : List UInt8)
    (hlength : payload.length = 2 * stub.totalRegBytes) (hbound : payload.length < 2 ^ 31)
    (todo : ℕ) : ∀ (i : ℕ) (newValues backupValues : List UInt8) (between : StubState σ),
      i + todo = stub.arch.registers →
      Saved stub before payload i newValues backupValues between →
      let parsed := regWriteParse stub (payload ++ 0 :: rest) todo i (2 * offset stub.regSize i)
        (offset stub.regSize i) newValues backupValues between
      (Readable stub todo i between.target ∧ ∃ newValues backupValues,
          parsed.1 = .ok (.ok (newValues, backupValues)) ∧
          Saved stub before payload stub.arch.registers newValues backupValues parsed.2) ∨
        (¬ Readable stub todo i between.target ∧ (∀ values, parsed.1 ≠ .ok (.ok values)) ∧
          ∃ reads, parsed.2.calls = before.calls ++ reads ∧
            ∀ call ∈ reads, call.write? = none) := by
  induction todo with
  | zero =>
      intro i newValues backupValues between hi hsaved
      obtain rfl : i = stub.arch.registers := by omega
      exact .inl ⟨trivial, newValues, backupValues, rfl, hsaved⟩
  | succ todo ih =>
      intro i newValues backupValues between hi hsaved
      have hregister : i < stub.arch.registers := by omega
      obtain ⟨reads, hcalls, hreads, -⟩ := hsaved.calls
      intro parsed
      -- `G` is dispatched when `write_reg` is there, whether `read_reg` is or not
      cases hop : stub.ops.readReg with
      | none =>
          have hfault : parsed = (.error .nullCall, between) := by
            show regWriteParse stub (payload ++ 0 :: rest) (todo + 1) i _ _ newValues backupValues
              between = _
            rw [regWriteParse_succ rest hlength hbound hsaved.length_new hregister, callReadReg,
              hop]
            rfl
          refine .inr ⟨not_readable_of_none stub hop todo i _, ?_, reads, ?_, hreads⟩
          · rw [hfault]
            exact fun values heq => absurd heq (by simp)
          · rw [hfault, hcalls]
      | some op =>
          have hrun : parsed = _ := regWriteParse_turn hop rest hlength hbound hsaved.length_new
            hsaved.length_backup hregister todo between
          dsimp only at hrun
          rw [readable_succ hop]
          by_cases hret : (op between.target i).1.1 = 0
          · have hvalue : (op between.target i).1.2.length = stub.regSize i :=
              stub.ops.length_readReg op hop between.target i hret
            have hnext := hsaved.step stub hregister hlength hvalue (op between.target i).2
            have hrest := ih (i + 1) _ _ _ (by omega) hnext
            rw [if_pos hret] at hrun
            rw [← hret, ← hrun] at hrest
            rcases hrest with ⟨hreadable, hparsed⟩ | ⟨hfails, hparsed⟩
            · exact .inl ⟨⟨hret, hreadable⟩, hparsed⟩
            · exact .inr ⟨fun hread => hfails hread.2, hparsed⟩
          · -- the read that failed is the last call of the pass
            rw [if_neg hret] at hrun
            refine .inr ⟨fun hread => hret hread.1, ?_, reads ++ [.readReg i
              (op between.target i).1.1 (op between.target i).1.2], ?_, reads_called hreads _ _ _⟩
            · rw [hrun]
              exact fun values heq => absurd heq (by simp)
            · rw [hrun, StubState.called, hcalls, List.append_assoc]

section

variable {stub} {op : σ → ℤ → List UInt8 → Int32 × σ}

/-- **The second pass** writes slots of the new values, at least one if any register is
left. -/
theorem regWriteCommit_writes (hop : stub.ops.writeReg = some op) (newValues : List UInt8)
    (todo : ℕ) : ∀ (i : ℕ) (state : StubState σ), i + todo = stub.arch.registers →
      ∃ outcome after writes,
        regWriteCommit stub newValues todo i (offset stub.regSize i) state = (.ok outcome, after) ∧
        after.calls = state.calls ++ writes ∧
        (∀ call ∈ writes, ∃ j < stub.arch.registers, ∃ ret,
          call = .writeReg j (slot stub.regSize newValues j) ret) ∧
        (0 < todo → writes ≠ []) ∧ ∀ failed ∈ outcome, failed.1 < stub.arch.registers := by
  induction todo with
  | zero =>
      intro i state hi
      exact ⟨none, state, [], rfl, (List.append_nil _).symm, by simp, by simp, by simp⟩
  | succ todo ih =>
      intro i state hi
      rw [regWriteCommit_turn hop]
      dsimp only
      by_cases hret : (op state.target i (slot stub.regSize newValues i)).1 = 0
      · obtain ⟨outcome, after, writes, hrun, hcalls, hwrites, -, hfailed⟩ := ih (i + 1)
          (state.called (.writeReg i (slot stub.regSize newValues i)
            (op state.target i (slot stub.regSize newValues i)).1)
            (op state.target i (slot stub.regSize newValues i)).2) (by omega)
        refine ⟨outcome, after, .writeReg i (slot stub.regSize newValues i)
          (op state.target i (slot stub.regSize newValues i)).1 :: writes,
          by rw [if_pos hret, hrun], ?_, ?_, by simp, hfailed⟩
        · rw [hcalls, StubState.called, List.append_assoc]
          rfl
        · intro call hmem
          rcases List.mem_cons.mp hmem with rfl | hmem
          · exact ⟨i, by omega, _, rfl⟩
          · exact hwrites call hmem
      · refine ⟨some (i, (op state.target i (slot stub.regSize newValues i)).1), _,
          [.writeReg i (slot stub.regSize newValues i)
            (op state.target i (slot stub.regSize newValues i)).1],
          if_neg hret, rfl, ?_, by simp, ?_⟩
        · intro call hmem
          rw [List.mem_singleton.mp hmem]
          exact ⟨i, by omega, _, rfl⟩
        · intro failed hmem
          cases hmem
          show i < stub.arch.registers
          omega

/-- **The rollback** writes slots of the backup. -/
theorem regWriteRollback_writes (hop : stub.ops.writeReg = some op) (backupValues : List UInt8)
    (todo : ℕ) : ∀ (i : ℕ) (state : StubState σ),
      ∃ after writes,
        regWriteRollback stub backupValues todo i (offset stub.regSize i) state =
          (.ok (), after) ∧
        after.calls = state.calls ++ writes ∧
        ∀ call ∈ writes, ∃ j < i + todo, ∃ ret,
          call = .writeReg j (slot stub.regSize backupValues j) ret := by
  induction todo with
  | zero =>
      intro i state
      exact ⟨state, [], rfl, (List.append_nil _).symm, by simp⟩
  | succ todo ih =>
      intro i state
      obtain ⟨after, writes, hrun, hcalls, hwrites⟩ := ih (i + 1)
        (state.called (.writeReg i (slot stub.regSize backupValues i)
          (op state.target i (slot stub.regSize backupValues i)).1)
          (op state.target i (slot stub.regSize backupValues i)).2)
      refine ⟨after, .writeReg i (slot stub.regSize backupValues i)
        (op state.target i (slot stub.regSize backupValues i)).1 :: writes,
        by rw [regWriteRollback_turn hop, hrun], ?_, ?_⟩
      · rw [hcalls, StubState.called, List.append_assoc]
        rfl
      · intro call hmem
        rcases List.mem_cons.mp hmem with rfl | hmem
        · exact ⟨i, by omega, _, rfl⟩
        · obtain ⟨j, hj, ret, heq⟩ := hwrites call hmem
          exact ⟨j, by omega, ret, heq⟩

/-- The calls of a request that wrote: the reads of the first pass, the writes of the
second and what the rollback puts back. -/
theorem written_of_passes {payload newValues : List UInt8} {reads writes restores : List TargetCall}
    (hnew : ∀ j < stub.arch.registers,
      slot stub.regSize newValues j = payloadSlot stub payload j)
    (hreads : ∀ call ∈ reads, call.write? = none)
    (hwrites : ∀ call ∈ writes, ∃ j < stub.arch.registers, ∃ ret,
      call = .writeReg j (slot stub.regSize newValues j) ret)
    (hsome : writes ≠ [])
    (hrestores : ∀ call ∈ restores, ∀ write ∈ call.write?, Restores reads write) :
    let calls := reads ++ (writes ++ restores)
    (∃ call ∈ calls, ∃ write, call.write? = some write) ∧
      ∀ call ∈ calls, ∀ write ∈ call.write?,
        (∃ j < stub.arch.registers, write = .reg j (payloadSlot stub payload j)) ∨
          Restores calls write := by
  intro calls
  constructor
  · obtain ⟨first, others, hfirst⟩ := List.exists_cons_of_ne_nil hsome
    have hmem : first ∈ writes := by rw [hfirst]; exact List.mem_cons_self
    obtain ⟨j, -, ret, hcall⟩ := hwrites first hmem
    exact ⟨first, List.mem_append_right _ (List.mem_append_left _ hmem), _, by rw [hcall]; rfl⟩
  · intro call hmem write hwrite
    rcases List.mem_append.mp hmem with hread | hmem
    · rw [hreads call hread] at hwrite
      exact absurd hwrite (by simp)
    rcases List.mem_append.mp hmem with hwritten | hrestored
    · obtain ⟨j, hj, ret, rfl⟩ := hwrites call hwritten
      cases hwrite
      exact .inl ⟨j, hj, by rw [hnew j hj]⟩
    · right
      have hrestores := hrestores call hrestored write hwrite
      cases write with
      | reg regno data => exact List.mem_append_left _ hrestores
      | mem addr len data => exact hrestores

/-- The second pass and the rollback, once every register was read. -/
theorem regWriteApply_saved (hop : stub.ops.writeReg = some op) {payload rest : List UInt8}
    (hpos : 0 < stub.totalRegBytes) {state parsed : StubState σ}
    {newValues backupValues : List UInt8}
    (hrun : regWriteParse stub (payload ++ 0 :: rest) stub.arch.registers 0 0 0
      (localBuffer stub stub.totalRegBytes) (localBuffer stub stub.totalRegBytes) state =
        (.ok (.ok (newValues, backupValues)), parsed))
    (hsaved : Saved stub state payload stub.arch.registers newValues backupValues parsed) :
    ∃ calls, (regWriteApply stub (payload ++ 0 :: rest) state).2.calls = state.calls ++ calls ∧
      (∃ call ∈ calls, ∃ write, call.write? = some write) ∧
      ∀ call ∈ calls, ∀ write ∈ call.write?,
        (∃ j < stub.arch.registers, write = .reg j (payloadSlot stub payload j)) ∨
          Restores calls write := by
  obtain ⟨reads, hreadCalls, hreads, hbackup⟩ := hsaved.calls
  -- there are bytes, so there is a register, and the second pass writes it
  have hregisters : 0 < stub.arch.registers := by
    by_contra hzero
    have htotal := stub.totalRegBytes_eq_offset
    rw [Nat.eq_zero_of_not_pos hzero, offset_zero] at htotal
    omega
  obtain ⟨outcome, committed, writes, hcommit, hwriteCalls, hwrites, hsome, hfailed⟩ :=
    regWriteCommit_writes hop newValues stub.arch.registers 0 parsed (by omega)
  rw [offset_zero] at hcommit
  rw [regWriteApply, Program.bind_of_ok hrun]
  dsimp only
  rw [Program.bind_of_ok hcommit]
  cases outcome with
  | none =>
      refine ⟨reads ++ (writes ++ []), ?_,
        written_of_passes hsaved.new hreads hwrites (hsome hregisters) (by simp)⟩
      dsimp only
      rw [connSendPktstr_of_fits (by decide), List.append_nil, ← List.append_assoc,
        ← hreadCalls]
      exact hwriteCalls
  | some failed =>
      obtain ⟨failedRegno, errorCode⟩ := failed
      obtain ⟨restored, restores, hrollback, hrestoreCalls, hrestores⟩ :=
        regWriteRollback_writes hop backupValues failedRegno 0 committed
      rw [offset_zero] at hrollback
      refine ⟨reads ++ (writes ++ restores), ?_,
        written_of_passes hsaved.new hreads hwrites (hsome hregisters) ?_⟩
      · dsimp only
        rw [Program.bind_of_ok hrollback, connSendPktstr_errorText]
        show restored.calls = _
        rw [hrestoreCalls, hwriteCalls, hreadCalls, List.append_assoc, List.append_assoc]
      · intro call hmem write hwrite
        obtain ⟨j, hj, ret, rfl⟩ := hrestores call hmem
        cases hwrite
        have hlt := hfailed _ rfl
        exact hbackup j (by dsimp only at hlt; omega)

/-- What `process_reg_write` does with both blocks allocated. -/
theorem regWriteApply_writes (hop : stub.ops.writeReg = some op) {payload : List UInt8}
    (rest : List UInt8) (hlength : payload.length = 2 * stub.totalRegBytes)
    (hbound : payload.length < 2 ^ 31) (hpos : 0 < stub.totalRegBytes) (state : StubState σ) :
    let after := (regWriteApply stub (payload ++ 0 :: rest) state).2
    (¬ Readable stub stub.arch.registers 0 state.target ∧ ∃ reads,
        after.calls = state.calls ++ reads ∧ ∀ call ∈ reads, call.write? = none) ∨
      Readable stub stub.arch.registers 0 state.target ∧ ∃ calls,
        after.calls = state.calls ++ calls ∧
        (∃ call ∈ calls, ∃ write, call.write? = some write) ∧
        ∀ call ∈ calls, ∀ write ∈ call.write?,
          (∃ j < stub.arch.registers, write = .reg j (payloadSlot stub payload j)) ∨
            Restores calls write := by
  have hstart : Saved stub state payload 0 (localBuffer stub stub.totalRegBytes)
      (localBuffer stub stub.totalRegBytes) state :=
    ⟨length_localBuffer .., length_localBuffer .., by simp, [], by simp, by simp, by simp⟩
  have hparse := regWriteParse_saves stub rest hlength hbound stub.arch.registers 0 _ _ state
    (by omega) hstart
  rw [offset_zero, Nat.mul_zero] at hparse
  intro after
  rcases hrun : regWriteParse stub (payload ++ 0 :: rest) stub.arch.registers 0 0 0
    (localBuffer stub stub.totalRegBytes) (localBuffer stub stub.totalRegBytes) state with
    ⟨fault | parse, parsed⟩
  · rw [hrun] at hparse
    rcases hparse with ⟨-, newValues, backupValues, heq, -⟩ | ⟨hfails, -, hreads⟩
    · cases heq
    · refine .inl ⟨hfails, ?_⟩
      show ∃ reads, (regWriteApply stub (payload ++ 0 :: rest) state).2.calls = _ ∧ _
      rw [regWriteApply, Program.bind_of_error hrun]
      exact hreads
  · rw [hrun] at hparse
    -- the error of a register is replied; otherwise the second pass begins to write
    cases parse with
    | error ret =>
        rcases hparse with ⟨-, newValues, backupValues, heq, -⟩ | ⟨hfails, -, hreads⟩
        · cases heq
        · refine .inl ⟨hfails, ?_⟩
          show ∃ reads, (regWriteApply stub (payload ++ 0 :: rest) state).2.calls = _ ∧ _
          rw [regWriteApply, Program.bind_of_ok hrun]
          dsimp only
          rw [connSendPktstr_errorText]
          exact hreads
    | ok values =>
        rcases hparse with ⟨hreadable, newValues, backupValues, heq, hsaved⟩ | ⟨-, hno, -⟩
        · cases heq
          exact .inr ⟨hreadable, regWriteApply_saved hop hpos hrun hsaved⟩
        · exact absurd rfl (hno values)

/-- **`G`.**  It gives up without a write, or it writes what it decoded. -/
theorem processRegWrite_writes (hop : stub.ops.writeReg = some op) {payload : List UInt8}
    (hzero : 0 ∈ payload) (hbound : payload.length < 2 ^ 31) (state : StubState σ) :
    let after := (processRegWrite stub payload state).2
    (RegWriteStops stub state payload ∧ ∃ reads, after.calls = state.calls ++ reads ∧
        ∀ call ∈ reads, call.write? = none) ∨
      ¬ RegWriteStops stub state payload ∧ ∃ calls, after.calls = state.calls ++ calls ∧
        (∃ call ∈ calls, ∃ write, call.write? = some write) ∧
        ∀ call ∈ calls, ∀ write ∈ call.write?,
          (∃ j < stub.arch.registers, write = .reg j (payloadSlot stub (text payload) j)) ∨
            Restores calls write := by
  have hunchanged : ∃ reads, state.calls = state.calls ++ reads ∧
      ∀ call ∈ reads, call.write? = none := ⟨[], (List.append_nil _).symm, by simp⟩
  intro after
  by_cases htotal : stub.totalRegBytes = 0
  · refine .inl ⟨.inl htotal, ?_⟩
    show ∃ reads, (processRegWrite stub payload state).2.calls = _ ∧ _
    rw [processRegWrite, if_pos htotal, connSendPktstr_of_fits (by decide)]
    exact hunchanged
  by_cases hlength : (text payload).length = 2 * stub.totalRegBytes
  · obtain ⟨rest, hpayload⟩ := exists_eq_text_append hzero
    have htext : (text payload).length ≤ payload.length := (List.takeWhile_prefix _).length_le
    have hrun := processRegWrite_allocates htotal hlength state
    -- two blocks: for the new values and for those they replace
    by_cases halloc : stub.mallocs state.allocations stub.totalRegBytes = true ∧
        stub.mallocs (state.allocations + 1) stub.totalRegBytes = true
    · rw [if_pos halloc, hpayload] at hrun
      have happly := regWriteApply_writes hop rest hlength (by omega)
        (Nat.pos_of_ne_zero htotal) state.allocated.allocated
      rw [← hrun, ← hpayload] at happly
      rcases happly with ⟨hfails, hreads⟩ | ⟨hreadable, hcalls⟩
      · exact .inl ⟨.inr (.inr (.inr (.inr hfails))), hreads⟩
      · refine .inr ⟨?_, hcalls⟩
        rintro (hzero | hne | hfirst | hsecond | hno)
        · exact htotal hzero
        · exact hne hlength
        · rw [halloc.1] at hfirst
          exact absurd hfirst (by decide)
        · rw [halloc.2] at hsecond
          exact absurd hsecond (by decide)
        · exact hno hreadable
    · refine .inl ⟨?_, ?_⟩
      · rw [not_and_or, Bool.not_eq_true, Bool.not_eq_true] at halloc
        rcases halloc with hfirst | hsecond
        · exact .inr (.inr (.inl hfirst))
        · exact .inr (.inr (.inr (.inl hsecond)))
      · show ∃ reads, (processRegWrite stub payload state).2.calls = _ ∧ _
        rw [hrun, if_neg halloc, connSendPktstr_of_fits (by decide)]
        exact hunchanged
  · refine .inl ⟨.inr (.inl hlength), ?_⟩
    show ∃ reads, (processRegWrite stub payload state).2.calls = _ ∧ _
    rw [processRegWrite, if_neg htotal, if_pos (by omega), connSendPktstr_of_fits (by decide)]
    exact hunchanged

end

/-! ## The four requests -/

/-- The request is stopped before its first write: the operation is missing, or the handler
gives up. -/
inductive WriteStops (state : StubState σ) (csumHigh csumLow : UInt8) : List UInt8 → Prop
  | memory {payload : List UInt8} :
      stub.ops.writeMem = none ∨
        MemWriteStops stub state (payload ++ behindBody csumHigh csumLow) →
      WriteStops state csumHigh csumLow (77 :: payload)
  | binary {payload : List UInt8} :
      stub.ops.writeMem = none ∨
        MemXwriteStops (payload ++ behindBody csumHigh csumLow) payload.length →
      WriteStops state csumHigh csumLow (88 :: payload)
  | register {payload : List UInt8} :
      stub.ops.writeReg = none ∨
        RegWriteOneStops stub state (payload ++ behindBody csumHigh csumLow) →
      WriteStops state csumHigh csumLow (80 :: payload)
  | registers {payload : List UInt8} :
      stub.ops.writeReg = none ∨
        RegWriteStops stub state (payload ++ behindBody csumHigh csumLow) →
      WriteStops state csumHigh csumLow (71 :: payload)

/-! ### One lemma for each kind of request -/

section

variable {stub} {state : StubState σ} {csumHigh csumLow : UInt8} {payload : List UInt8}

theorem writeStops_memory : WriteStops stub state csumHigh csumLow (77 :: payload) ↔
    stub.ops.writeMem = none ∨
      MemWriteStops stub state (payload ++ behindBody csumHigh csumLow) := by
  refine ⟨?_, .memory⟩
  intro hstops
  generalize hbody : 77 :: payload = body at hstops
  cases hstops with
  | memory hyes => rwa [(List.cons.inj hbody).2]
  | _ => exact absurd (List.cons.inj hbody).1 (by decide)

theorem writeStops_binary : WriteStops stub state csumHigh csumLow (88 :: payload) ↔
    stub.ops.writeMem = none ∨
      MemXwriteStops (payload ++ behindBody csumHigh csumLow) payload.length := by
  refine ⟨?_, .binary⟩
  intro hstops
  generalize hbody : 88 :: payload = body at hstops
  cases hstops with
  | binary hyes => rwa [(List.cons.inj hbody).2]
  | _ => exact absurd (List.cons.inj hbody).1 (by decide)

theorem writeStops_register : WriteStops stub state csumHigh csumLow (80 :: payload) ↔
    stub.ops.writeReg = none ∨
      RegWriteOneStops stub state (payload ++ behindBody csumHigh csumLow) := by
  refine ⟨?_, .register⟩
  intro hstops
  generalize hbody : 80 :: payload = body at hstops
  cases hstops with
  | register hyes => rwa [(List.cons.inj hbody).2]
  | _ => exact absurd (List.cons.inj hbody).1 (by decide)

theorem writeStops_registers : WriteStops stub state csumHigh csumLow (71 :: payload) ↔
    stub.ops.writeReg = none ∨
      RegWriteStops stub state (payload ++ behindBody csumHigh csumLow) := by
  refine ⟨?_, .registers⟩
  intro hstops
  generalize hbody : 71 :: payload = body at hstops
  cases hstops with
  | registers hyes => rwa [(List.cons.inj hbody).2]
  | _ => exact absurd (List.cons.inj hbody).1 (by decide)

end

/-- A request either stops without a write, or writes, and then what a well-formed body
asks for. -/
structure Outcome (body : List UInt8) (before after : StubState σ) (stops : Prop) : Prop where
  stopped : stops → ∃ reads, after.calls = before.calls ++ reads ∧
    ∀ call ∈ reads, call.write? = none
  writes : ¬ stops → ∃ calls, after.calls = before.calls ++ calls ∧
    (∃ call ∈ calls, ∃ write, call.write? = some write) ∧
    ∀ writes, Denotes stub body writes → ∀ call ∈ calls, ∀ write ∈ call.write?,
      write ∈ writes ∨ Restores calls write

theorem Outcome.asked_iff {body : List UInt8} {before after : StubState σ} {stops : Prop}
    (houtcome : Outcome stub body before after stops) :
    WritesAsAsked stub body before after ↔ WellFormed stub body ∨ stops := by
  by_cases hstops : stops
  · obtain ⟨reads, hcalls, hnone⟩ := houtcome.stopped hstops
    exact ⟨fun _ => .inr hstops, fun _ => .of_no_write stub hcalls hnone⟩
  · obtain ⟨calls, hcalls, ⟨call, hmem, write, hwrite⟩, hall⟩ := houtcome.writes hstops
    constructor
    · exact fun hasked => .inl (hasked.wellFormed stub hcalls hmem hwrite)
    · rintro (⟨writes, hdenotes⟩ | hyes)
      · exact ⟨calls, hcalls, fun call hmem write hwrite =>
          ⟨writes, hdenotes, hall writes hdenotes call hmem write hwrite⟩⟩
      · exact absurd hyes hstops

/-- Without its operation a request is refused; with it, it is up to the handler. -/
theorem Outcome.of_provided {α : Type} {op : Option α} {body : List UInt8} {state : StubState σ}
    {stops : Prop} (handler : StubM σ Unit)
    (hhandler : ∀ f, op = some f → Outcome stub body state (handler state).2 stops) :
    Outcome stub body state (ifProvided op.isSome handler state).2 (op = none ∨ stops) := by
  cases op with
  | none =>
      refine ⟨fun _ => ⟨[], ?_, by simp⟩, fun hno => absurd (.inl rfl) hno⟩
      rw [List.append_nil]
      rfl
  | some f =>
      have hafter : (ifProvided true handler state).2 = (handler state).2 := by
        show ((handler >>= fun _ => pure Event.none) state).2 = (handler state).2
        rcases hrun : handler state with ⟨fault | _, after⟩
        · rw [Program.bind_of_error hrun]
        · rw [Program.bind_of_ok hrun]
          rfl
      have houtcome := hhandler f rfl
      rw [Option.isSome_some, hafter]
      exact ⟨fun hstops => houtcome.stopped (hstops.resolve_left (by simp)),
        fun hno => houtcome.writes fun hstops => hno (.inr hstops)⟩

/-! ### What well-formed bodies look like -/

theorem denotes_memory {payload : List UInt8} {writes : List Write}
    (hdenotes : Denotes stub (77 :: payload) writes) :
    ∃ fields digits data addr, payload = fields ++ colon :: digits ∧
      MemoryRange fields addr data.length ∧ HexData digits data ∧
      writes = [.mem addr data.length data] := by
  generalize hbody : 77 :: payload = body at hdenotes
  cases hdenotes with
  | memory hrange hdata =>
      exact ⟨_, _, _, _, (List.cons.inj hbody).2, hrange, hdata, rfl⟩
  | _ => exact absurd (List.cons.inj hbody).1 (by decide)

theorem denotes_binary {payload : List UInt8} {writes : List Write}
    (hdenotes : Denotes stub (88 :: payload) writes) :
    ∃ fields escaped data addr, payload = fields ++ colon :: escaped ∧
      MemoryRange fields addr data.length ∧ EscapedBytes escaped data ∧
      writes = [.mem addr data.length data] := by
  generalize hbody : 88 :: payload = body at hdenotes
  cases hdenotes with
  | binary hrange hdata =>
      exact ⟨_, _, _, _, (List.cons.inj hbody).2, hrange, hdata, rfl⟩
  | _ => exact absurd (List.cons.inj hbody).1 (by decide)

theorem denotes_register {payload : List UInt8} {writes : List Write}
    (hdenotes : Denotes stub (80 :: payload) writes) :
    ∃ (regnoText digits data : List UInt8) (regno : ℕ),
      payload = regnoText ++ equals :: digits ∧
      HexNumber regnoText regno ∧ regno < 2 ^ 31 ∧ HexData digits data ∧
      data.length = stub.ops.getRegBytes regno ∧ writes = [.reg regno data] := by
  generalize hbody : 80 :: payload = body at hdenotes
  cases hdenotes with
  | register hregno hlt hdata hlength =>
      exact ⟨_, _, _, _, (List.cons.inj hbody).2, hregno, hlt, hdata, hlength, rfl⟩
  | _ => exact absurd (List.cons.inj hbody).1 (by decide)

theorem denotes_registers {payload : List UInt8} {writes : List Write}
    (hdenotes : Denotes stub (71 :: payload) writes) :
    ∃ data, HexData payload data ∧ data.length = stub.totalRegBytes ∧
      writes = (List.range stub.arch.registers).map fun i : ℕ =>
        .reg i (slot stub.regSize data i) := by
  generalize hbody : 71 :: payload = body at hdenotes
  cases hdenotes with
  | registers hdata hlength =>
      rw [← (List.cons.inj hbody).2] at hdata
      exact ⟨_, hdata, hlength, rfl⟩
  | _ => exact absurd (List.cons.inj hbody).1 (by decide)

/-! ### The outcomes of the handlers -/

section

variable {stub} {payload : List UInt8} (csumHigh csumLow : UInt8)

/-- A handler that makes a single call when it does not stop. -/
theorem Outcome.of_single {body : List UInt8} {before after : StubState σ} {stops : Prop}
    (hcases : (stops ∧ after.calls = before.calls) ∨
      ¬ stops ∧ ∃ call write, after.calls = before.calls ++ [call] ∧ call.write? = some write ∧
        ∀ writes, Denotes stub body writes → write ∈ writes) :
    Outcome stub body before after stops := by
  rcases hcases with ⟨hstops, hcalls⟩ | ⟨hno, call, write, hcalls, hwrite, hasked⟩
  · exact ⟨fun _ => ⟨[], by rw [hcalls, List.append_nil], by simp⟩,
      fun hno => absurd hstops hno⟩
  · refine ⟨fun hstops => absurd hstops hno, fun _ => ⟨[call], hcalls,
      ⟨call, List.mem_singleton_self call, write, hwrite⟩, ?_⟩⟩
    intro writes hdenotes call' hmem write' hwrite'
    rw [List.mem_singleton.mp hmem, hwrite] at hwrite'
    rw [← Option.some.inj hwrite']
    exact .inl (hasked writes hdenotes)

/-- A well-formed `M` is taken apart to its range and its digits. -/
theorem memory_decoded {writes : List Write} (hdenotes : Denotes stub (77 :: payload) writes)
    (hbound : payload.length + 4 < 2 ^ 31) :
    ∃ addr digits bytes, HexData digits bytes ∧ bytes.length < 2 ^ 31 ∧
      scanHexFields 2 (cut colon (payload ++ behindBody csumHigh csumLow)).1 =
        [addr, bytes.length] ∧
      (cut colon (payload ++ behindBody csumHigh csumLow)).2 =
        some (digits ++ behindBody csumHigh csumLow) ∧
      writes = [.mem addr bytes.length bytes] := by
  obtain ⟨fields, digits, bytes, addr, rfl, hrange, hdata, rfl⟩ := denotes_memory stub hdenotes
  have hlength := hdata.length_eq
  rw [List.length_append, List.length_cons] at hbound
  refine ⟨addr, digits, bytes, hdata, by omega, ?_, ?_, rfl⟩
  · rw [List.append_assoc, List.cons_append, hrange.cut]
    exact hrange.scan
  · rw [List.append_assoc, List.cons_append, hrange.cut]

/-- The effect of `M`: it leaves the packet only if it is not well formed. -/
theorem memory_sound_iff {op : σ → ℕ → ℕ → List UInt8 → Int32 × σ}
    (hop : stub.ops.writeMem = some op) (hbound : payload.length + 4 < 2 ^ 31)
    (state : StubState σ) :
    WriteSound stub (77 :: payload) state
        (processMemWrite stub (payload ++ behindBody csumHigh csumLow) state) ↔
      WellFormed stub (77 :: payload) ∨
        MemWriteStops stub state (payload ++ behindBody csumHigh csumLow) := by
  rcases processMemWrite_writes hop (payload ++ behindBody csumHigh csumLow) state with
    ⟨hstops, hcalls, hinside⟩ | ⟨hno, -, hleaves, maddr, mlen, content, hscan, hcontent, hshort⟩ |
    ⟨hno, hinside, maddr, mlen, data, block, ret, hscan, hdecode, -, hblock, hcalls⟩
  · refine iff_of_true ⟨?_, fun _ => hinside⟩ (.inr hstops)
    exact .of_no_write stub (show _ = state.calls ++ [] by rw [hcalls, List.append_nil])
      (by simp)
  -- a well-formed request has all of its data in the packet
  · refine iff_of_false (fun hsound => hsound.inside rfl hleaves) ?_
    rintro (⟨writes, hdenotes⟩ | hstops)
    · obtain ⟨addr, digits, bytes, hdata, hsmall, hscan', hcontent', -⟩ :=
        memory_decoded csumHigh csumLow hdenotes hbound
      cases hscan.symm.trans hscan'
      cases hcontent.symm.trans hcontent'
      have hlength := hdata.length_eq
      rw [asInt_of_lt hsmall, List.length_append] at hshort
      omega
    · exact hno hstops
  · have houtcome : Outcome stub (77 :: payload) state
        (processMemWrite stub (payload ++ behindBody csumHigh csumLow) state).2
        (MemWriteStops stub state (payload ++ behindBody csumHigh csumLow)) := by
      apply Outcome.of_single
      refine .inr ⟨hno, _, _, hcalls, rfl, ?_⟩
      intro writes hdenotes
      obtain ⟨addr, digits, bytes, hdata, hsmall, hscan', hcontent', rfl⟩ :=
        memory_decoded csumHigh csumLow hdenotes hbound
      cases hscan.symm.trans hscan'
      have hlength := hdata.length_eq
      have hdecoded : data = bytes := by
        rw [hcontent'] at hdecode
        rcases hstore : storeAt (dataBlock stub state bytes.length) (asInt bytes.length).toNat
          with fault | _
        · rw [decodeContent, hstore] at hdecode
          cases hdecode
        · rw [decodeContent_of_store hstore, asInt_of_lt hsmall, strToHex_eq (by simp; omega),
            Int.toNat_natCast, ← hlength, List.take_left, hexPairs_of_hexData hdata] at hdecode
          exact (Except.ok.inj hdecode).symm
      rw [hblock (by rw [hdecoded]), hdecoded]
      simp
    rw [← houtcome.asked_iff stub]
    exact ⟨fun hsound => hsound.asked, fun hasked => ⟨hasked, fun _ => hinside⟩⟩

theorem binary_outcome {op : σ → ℕ → ℕ → List UInt8 → Int32 × σ}
    (hop : stub.ops.writeMem = some op) (state : StubState σ) :
    Outcome stub (88 :: payload) state
      (processMemXwrite stub (payload ++ behindBody csumHigh csumLow) payload.length state).2
      (MemXwriteStops (payload ++ behindBody csumHigh csumLow) payload.length) := by
  apply Outcome.of_single
  rcases processMemXwrite_writes hop payload [csumHigh, csumLow, 0] state with hstops |
      ⟨hno, maddr, mlen, fields, content, ret, hcut, hscan, hcalls⟩
  · exact .inl hstops
  · refine .inr ⟨hno, _, _, hcalls, rfl, ?_⟩
    intro writes hdenotes
    obtain ⟨fields', escaped, bytes, addr, rfl, hrange, hdata, rfl⟩ := denotes_binary stub hdenotes
    rw [List.append_assoc, List.cons_append, hrange.cut] at hcut
    cases hcut
    rw [hrange.scan] at hscan
    cases hscan
    have htake : (escaped ++ [0, csumHigh, csumLow, 0]).take
        ((fields ++ colon :: escaped).length - (fields.length + 1)) = escaped := by
      rw [List.length_append, List.length_cons,
        show fields.length + (escaped.length + 1) - (fields.length + 1) = escaped.length by omega,
        List.take_left]
    rw [htake, unescaped_of_escapedBytes hdata, List.take_left]
    simp

theorem register_outcome {op : σ → ℤ → List UInt8 → Int32 × σ}
    (hop : stub.ops.writeReg = some op) (hbound : payload.length + 4 < 2 ^ 31)
    (state : StubState σ) :
    Outcome stub (80 :: payload) state
      (processRegWriteOne stub (payload ++ behindBody csumHigh csumLow) state).2
      (RegWriteOneStops stub state (payload ++ behindBody csumHigh csumLow)) := by
  apply Outcome.of_single
  have hlength : (payload ++ behindBody csumHigh csumLow).length < 2 ^ 31 := by
    rw [List.length_append]
    exact hbound
  rcases processRegWriteOne_writes stub hop hlength state with hstops |
      ⟨hno, regno, regnoStr, dataStr, ret, hcut, hscan, -, hcalls⟩
  · exact .inl hstops
  · refine .inr ⟨hno, _, _, hcalls, rfl, ?_⟩
    intro writes hdenotes
    obtain ⟨regnoText, digits, bytes, number, rfl, hregno, hlt, hdata, -, rfl⟩ :=
      denotes_register stub hdenotes
    have hzero : 0 ∉ regnoText := notMem_of_hexDigits hregno.all_digits (by decide)
    have hequals : equals ∉ regnoText := notMem_of_hexDigits hregno.all_digits (by decide)
    rw [List.append_assoc, List.cons_append, cut_append hzero hequals (by decide)] at hcut
    cases hcut
    rw [scanHexFields_last hregno (by omega)] at hscan
    cases hscan
    have htext : text (digits ++ behindBody csumHigh csumLow) = digits :=
      text_append_zero (notMem_of_hexDigits hdata.digits (by decide)) _
    rw [htext, hexPairs_of_hexData hdata, asInt_of_lt hlt]
    simp

theorem registers_outcome {op : σ → ℤ → List UInt8 → Int32 × σ}
    (hop : stub.ops.writeReg = some op) (hbound : payload.length + 4 < 2 ^ 31)
    (state : StubState σ) :
    Outcome stub (71 :: payload) state
      (processRegWrite stub (payload ++ behindBody csumHigh csumLow) state).2
      (RegWriteStops stub state (payload ++ behindBody csumHigh csumLow)) := by
  have hlength : (payload ++ behindBody csumHigh csumLow).length < 2 ^ 31 := by
    rw [List.length_append]
    exact hbound
  have hzero : 0 ∈ payload ++ behindBody csumHigh csumLow := by simp [behindBody]
  rcases processRegWrite_writes hop hzero hlength state with ⟨hstops, hreads⟩ |
      ⟨hno, calls, hcalls, hsome, hall⟩
  · exact ⟨fun _ => hreads, fun hno => absurd hstops hno⟩
  · refine ⟨fun hstops => absurd hstops hno, fun _ => ⟨calls, hcalls, hsome, ?_⟩⟩
    intro writes hdenotes call hmem write hwrite
    obtain ⟨bytes, hdata, -, rfl⟩ := denotes_registers stub hdenotes
    have htext : text (payload ++ behindBody csumHigh csumLow) = payload :=
      text_append_zero (notMem_of_hexDigits hdata.digits (by decide)) _
    rcases hall call hmem write hwrite with ⟨j, hj, rfl⟩ | hrestores
    · left
      rw [htext, payloadSlot_of_hexData stub hdata]
      exact List.mem_map.mpr ⟨j, List.mem_range.mpr hj, rfl⟩
    · exact .inr hrestores

end

/-- Without the operation a request is refused; with it, it ends as its handler does. -/
theorem writeSound_ifProvided {α : Type} {op : Option α} {body : List UInt8}
    {state : StubState σ} {stops : Prop} (handler : StubM σ Unit)
    (hhandler : ∀ f, op = some f →
      (WriteSound stub body state (handler state) ↔ WellFormed stub body ∨ stops)) :
    WriteSound stub body state (ifProvided op.isSome handler state) ↔
      WellFormed stub body ∨ (op = none ∨ stops) := by
  cases op with
  | none =>
      have hcalls : (ifProvided false handler state).2.calls = state.calls ++ [] :=
        (List.append_nil _).symm
      exact iff_of_true ⟨.of_no_write stub hcalls (by simp), fun _ => nofun⟩ (.inr (.inl rfl))
  | some f =>
      have hsame : WriteSound stub body state (ifProvided true handler state) ↔
          WriteSound stub body state (handler state) := by
        show WriteSound stub body state ((handler >>= fun _ => pure Event.none) state) ↔ _
        rcases hrun : handler state with ⟨fault | _, after⟩
        · rw [Program.bind_of_error hrun]
          constructor
          · exact fun hsound => ⟨hsound.asked, fun hhead heq =>
              hsound.inside hhead (congrArg Except.error (Except.error.inj heq))⟩
          · exact fun hsound => ⟨hsound.asked, fun hhead heq =>
              hsound.inside hhead (congrArg Except.error (Except.error.inj heq))⟩
        · rw [Program.bind_of_ok hrun]
          exact ⟨fun hsound => ⟨hsound.asked, fun _ => nofun⟩,
            fun hsound => ⟨hsound.asked, fun _ => nofun⟩⟩
      rw [Option.isSome_some, hsame, hhandler f rfl]
      simp

/-- Requests other than `M` are judged by their writes alone. -/
theorem writeSound_of_outcome {request : UInt8} (hrequest : request ≠ 77)
    {payload : List UInt8} {before : StubState σ} {run : Except Fault Event × StubState σ}
    {stops : Prop} (houtcome : Outcome stub (request :: payload) before run.2 stops) :
    WriteSound stub (request :: payload) before run ↔
      WellFormed stub (request :: payload) ∨ stops := by
  rw [← houtcome.asked_iff stub]
  exact ⟨fun hsound => hsound.asked,
    fun hasked => ⟨hasked, fun hhead => absurd (Option.some.inj hhead) hrequest⟩⟩

/-- **A write request has the effect it should have if and only if it is well formed or
stopped by a check before its first write.** -/
theorem writesAsAsked_iff {request : UInt8} (hrequest : request ∈ [77, 88, 80, 71])
    {payload : List UInt8} (hbound : payload.length + 4 < 2 ^ 31) (csumHigh csumLow : UInt8)
    (state : StubState σ) :
    WriteSound stub (request :: payload) state
        (gdbstubProcessPacket stub
          (Packet.ofFrame (framed (request :: payload) csumHigh csumLow)) state) ↔
      WellFormed stub (request :: payload) ∨
        WriteStops stub state csumHigh csumLow (request :: payload) := by
  rw [gdbstubProcessPacket_framed]
  simp only [List.mem_cons, List.not_mem_nil, or_false] at hrequest
  rcases hrequest with rfl | rfl | rfl | rfl
  · have hsound := writeSound_ifProvided stub _ fun _ hop =>
      memory_sound_iff csumHigh csumLow hop hbound state
    exact hsound.trans (or_congr_right writeStops_memory.symm)
  · have houtcome : Outcome stub (88 :: payload) state _ _ := Outcome.of_provided stub _
      fun _ hop => binary_outcome csumHigh csumLow hop state
    exact (writeSound_of_outcome stub (by decide) houtcome).trans
      (or_congr_right writeStops_binary.symm)
  · have houtcome : Outcome stub (80 :: payload) state _ _ := Outcome.of_provided stub _
      fun _ hop => register_outcome csumHigh csumLow hop hbound state
    exact (writeSound_of_outcome stub (by decide) houtcome).trans
      (or_congr_right writeStops_register.symm)
  · have houtcome : Outcome stub (71 :: payload) state _ _ := Outcome.of_provided stub _
      fun _ hop => registers_outcome csumHigh csumLow hop hbound state
    exact (writeSound_of_outcome stub (by decide) houtcome).trans
      (or_congr_right writeStops_registers.symm)

theorem writesAsAsked_iff_twoBytes :
    WriteSound (byteStoreStub fun _ _ => true) (77 :: ascii "0,2:abcd")
      (StubState.init fun _ => 0)
      (gdbstubProcessPacket (byteStoreStub fun _ _ => true)
        (Packet.ofFrame (framed (77 :: ascii "0,2:abcd") 57 102))
          (StubState.init fun _ => 0)) := by
  have hrange : MemoryRange (ascii "0,2") 0 2 :=
    ⟨⟨ascii "0", ascii "2", .of_all (by decide), .of_all (by decide), rfl⟩,
      by decide, by decide⟩
  have hdata : HexData (ascii "abcd") [0xab, 0xcd] := hexData_hexText [0xab, 0xcd]
  exact (writesAsAsked_iff _ (by decide) (by decide) 57 102 _).mpr
    (.inl ⟨_, .memory hrange hdata⟩)

/-- `M0,2:ab` has one byte of data for a length of two.  The second byte written is decoded
from the zero in the place of the `'#'` and the first checksum character. -/
theorem shortData_written :
    let pkt := Packet.ofFrame (framed (77 :: ascii "0,2:ab") 100 56)
    let run := gdbstubProcessPacket (byteStoreStub fun _ _ => true) pkt
      (StubState.init fun _ => 0)
    packetCsumVerify pkt = .ok true ∧ run.2.calls = [.writeMem 0 2 [0xab, 0x0d] 0] ∧
      ¬ WriteSound (byteStoreStub fun _ _ => true) (77 :: ascii "0,2:ab")
        (StubState.init fun _ => 0) run := by
  intro pkt run
  have hcalls : run.2.calls = [.writeMem 0 2 [0xab, 0x0d] 0] := by decide +kernel
  refine ⟨by decide +kernel, hcalls, ?_⟩
  intro hsound
  obtain ⟨writes, hdenotes⟩ := hsound.asked.wellFormed _
    (show run.2.calls = [] ++ _ from hcalls) (List.mem_singleton_self _) rfl
  obtain ⟨fields, digits, data, addr, hpayload, hrange, hdata, -⟩ := denotes_memory _ hdenotes
  have hcut := hrange.cut digits
  rw [← hpayload, show cut colon (ascii "0,2:ab") = (ascii "0,2", some (ascii "ab")) by
    decide +kernel] at hcut
  cases hcut
  have hscan := hrange.scan
  rw [show scanHexFields 2 (ascii "0,2") = [0, 2] by decide +kernel] at hscan
  have hlength := hdata.length_eq
  rw [← (List.cons.inj (List.cons.inj hscan).2).1] at hlength
  exact absurd hlength (by decide)

end MiniGdbstub
