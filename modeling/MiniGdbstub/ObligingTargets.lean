import MiniGdbstub.Refusals

/-!
# Targets that oblige

On a target whose reads and writes all succeed (`Obliges`) a handler refuses only what it refuses
anyway.  It aborts, or replies as if the request had been well-formed (`Misanswers`); the reads
are asked of a stub without memory, which stops before there is a reply.  The handlers are gone
through one by one, and `misanswers_dispatch` puts them together.
-/

namespace MiniGdbstub

open CString

variable {σ : Type}

/-! ## Programs that do not refuse -/

/-- When the program returns, its reply is no refusal. -/
def Misanswers {α : Type} (program : StubM σ α) : Prop :=
  Program.Ensures program fun before _ after => ¬ Declined before after

/-- Nothing is sent, and the value is of this kind. -/
abbrev Silently {α : Type} (program : StubM σ α) (good : α → Prop) : Prop :=
  Program.Ensures program fun before value after => after.sent = before.sent ∧ good value

theorem Misanswers.fail {α : Type} (fault : Fault) :
    Misanswers (Program.fail fault : StubM σ α) :=
  Program.Ensures.of_fail

theorem Misanswers.of_silently {α : Type} {program : StubM σ α} {good : α → Prop}
    (hprogram : Silently program good) : Misanswers program := by
  intro state value after heq
  rintro ⟨reply, hreply, -⟩
  rw [(hprogram state value after heq).1] at hreply
  exact absurd (congrArg List.length hreply) (by simp)

theorem Misanswers.reply {pktstr : List UInt8} (hpktstr : ¬ IsRefusal pktstr) :
    Misanswers (connSendPktstr pktstr : StubM σ Unit) := by
  intro state value after hsend
  rcases Nat.lt_or_ge (pktstr.length + 5) maxSendPacketSize with hfits | hlong
  · rw [connSendPktstr_of_fits hfits] at hsend
    cases hsend
    rintro ⟨reply, hreply, hrefusal⟩
    exact hpktstr (state.reply_sent_inj rfl hreply ▸ hrefusal)
  · rw [connSendPktstr_of_long hlong] at hsend
    cases hsend

theorem Misanswers.ite {α : Type} {condition : Prop} [Decidable condition] {yes no : StubM σ α}
    (hyes : condition → Misanswers yes) (hno : ¬ condition → Misanswers no) :
    Misanswers (if condition then yes else no) :=
  Program.Ensures.ite hyes hno

theorem Misanswers.bind {α β : Type} {first : StubM σ α} {next : α → StubM σ β}
    {good : α → Prop} (hfirst : Silently first good)
    (hnext : ∀ value, good value → Misanswers (next value)) : Misanswers (first >>= next) := by
  intro state result after heq
  obtain ⟨value, between, hbetween, hafter⟩ := Program.ok_bind_iff.mp heq
  obtain ⟨hsent, hgood⟩ := hfirst state value between hbetween
  rintro ⟨reply, hreply, hrefusal⟩
  exact hnext value hgood between result after hafter ⟨reply, hsent ▸ hreply, hrefusal⟩

theorem Misanswers.lift_bind {α β : Type} {result : Except Fault α} {next : α → StubM σ β}
    (hnext : ∀ value, result = .ok value → Misanswers (next value)) :
    Misanswers (Program.lift result >>= next) := by
  rcases hresult : result with fault | value
  · exact Misanswers.fail fault
  · exact hnext value hresult

theorem Misanswers.thenReturn {handler : StubM σ Unit} (hhandler : Misanswers handler)
    (event : Event) : Misanswers (handler >>= fun _ => pure event) := by
  intro state value after heq
  obtain ⟨_, between, hbetween, hpure⟩ := Program.ok_bind_iff.mp heq
  cases hpure
  exact hhandler state () _ hbetween

/-- A request without a reply, when the register buffer has no block. -/
def StarvedMisanswers {α : Type} (program : StubM σ α) : Prop :=
  Program.Ensures program fun before _ after => before.regbuf.buf = none → ¬ Declined before after

theorem Misanswers.starved {α : Type} {program : StubM σ α} (hprogram : Misanswers program) :
    StarvedMisanswers program :=
  fun state value after heq _ => hprogram state value after heq

theorem StarvedMisanswers.ifProvided {provided : Bool} (hprovided : provided)
    {handler : StubM σ Unit} (hhandler : StarvedMisanswers handler) :
    StarvedMisanswers (ifProvided provided handler) := by
  unfold MiniGdbstub.ifProvided
  rw [if_pos hprovided]
  intro state value after heq
  obtain ⟨_, between, hbetween, hpure⟩ := Program.ok_bind_iff.mp heq
  cases hpure
  exact hhandler state () _ hbetween

theorem misanswers_ok : Misanswers (connSendPktstr (ascii "OK") : StubM σ Unit) :=
  Misanswers.reply (by decide)

/-- An array is sent up to its first zero. -/
theorem misanswers_connSendPktbuf {first : UInt8} (hzero : first ≠ 0) (herror : first ≠ 69)
    (rest : List UInt8) : Misanswers (connSendPktbuf (first :: rest) : StubM σ Unit) := by
  apply Misanswers.lift_bind
  intro pktstr hpktstr
  have htext : pktstr = first :: text rest := by
    unfold text? at hpktstr
    split at hpktstr
    · rw [← Except.ok.inj hpktstr]
      exact List.takeWhile_cons_of_pos (bne_iff_ne.mpr hzero)
    · cases hpktstr
  apply Misanswers.reply
  rw [htext]
  rintro (hnil | hhead)
  · cases hnil
  · exact herror (Option.some.inj hhead)

/-! ## A target that obliges -/

/-- All reads and writes succeed. -/
structure Obliges (ops : TargetOps σ) : Prop where
  readReg : ∀ op ∈ ops.readReg, ∀ target regno, (op target regno).1.1 = 0
  writeReg : ∀ op ∈ ops.writeReg, ∀ target regno data, (op target regno data).1 = 0
  writeMem : ∀ op ∈ ops.writeMem, ∀ target addr len data, (op target addr len data).1 = 0
  readMem : ∀ op ∈ ops.readMem, ∀ target addr len, (op target addr len).1.1 = 0
  setBp : ∀ op ∈ ops.setBp, ∀ target addr type, (op target addr type).1 = true
  delBp : ∀ op ∈ ops.delBp, ∀ target addr type, (op target addr type).1 = true

theorem silently_callOp {α : Type} {op : Option (σ → α × σ)} {good : α → Prop}
    (hop : ∀ f ∈ op, ∀ target, good (f target).1) (call : α → TargetCall) :
    Silently (callOp op call) good := by
  intro state value after heq
  cases op with
  | none => cases heq
  | some f =>
      cases heq
      exact ⟨rfl, hop f rfl state.target⟩

/-- An operation of the table, given its arguments. -/
theorem silently_callOp_map {α β : Type} {op : Option β} {apply : β → σ → α × σ} {good : α → Prop}
    (hop : ∀ f ∈ op, ∀ target, good (apply f target).1) (call : α → TargetCall) :
    Silently (callOp (op.map apply) call) good := by
  apply silently_callOp
  intro f hf
  obtain ⟨g, hg, rfl⟩ := Option.map_eq_some_iff.mp hf
  exact hop g hg

theorem silently_lift {α : Type} (result : Except Fault α) :
    Silently (Program.lift result : StubM σ α) fun _ => True :=
  Program.Ensures.of_lift fun _ _ _ => ⟨rfl, trivial⟩

theorem silently_malloc (stub : Gdbstub σ) (bytes : ℕ) :
    Silently (malloc stub bytes) fun room =>
      ((∀ k bytes, stub.mallocs k bytes = true) → room = some bytes) ∧
        ((∀ k bytes, stub.mallocs k bytes = false) → room = none) := by
  intro state room after heq
  rw [malloc_eq] at heq
  cases heq
  exact ⟨rfl, fun hall => by rw [if_pos (hall _ _)], fun hnone => by rw [hnone]; rfl⟩

theorem silently_regbufGet (stub : Gdbstub σ) (regSz : ℕ) :
    Silently (regbufGet stub regSz) fun _ => True :=
  fun _ _ _ heq => ⟨(regbufGet_frame stub heq).2.1, trivial⟩

section

variable {stub : Gdbstub σ} (hobliges : Obliges stub.ops)

include hobliges

theorem silently_callWriteReg (regno : ℤ) (data : List UInt8) :
    Silently (callWriteReg stub regno data) fun ret => ret = 0 :=
  silently_callOp_map (fun op hop target => hobliges.writeReg op hop target regno data) _

theorem silently_callWriteMem (addr len : ℕ) (data : List UInt8) :
    Silently (callWriteMem stub addr len data) fun ret => ret = 0 :=
  silently_callOp_map (fun op hop target => hobliges.writeMem op hop target addr len data) _

theorem silently_callReadReg (regno : ℤ) (room : Option ℕ) :
    Silently (callReadReg stub regno room) fun result => result.1 = 0 := by
  intro state result after heq
  cases hop : stub.ops.readReg with
  | none =>
      rw [callReadReg, hop] at heq
      cases heq
  | some op =>
      rw [callReadReg_some hop] at heq
      dsimp only at heq
      rw [if_pos (hobliges.readReg op hop _ _)] at heq
      cases hstore : storeAt room (op state.target regno).1.2.length with
      | error fault =>
          rw [hstore] at heq
          cases heq
      | ok _ =>
          rw [hstore] at heq
          cases heq
          exact ⟨rfl, hobliges.readReg op hop _ _⟩

/-! ## Writes -/

omit hobliges in
/-- `OK`, if the code is zero. -/
theorem misanswers_replyCode {ret : Int32} (hret : ret = 0) :
    Misanswers (if ret = 0 then connSendPktstr (ascii "OK")
      else connSendPktstr (errorText ret) : StubM σ Unit) := by
  rw [if_pos hret]
  exact misanswers_ok

theorem misanswers_processMemWrite (payload : List UInt8) :
    Misanswers (processMemWrite stub payload) := by
  unfold processMemWrite
  dsimp only
  split
  · apply Misanswers.bind (silently_malloc stub _)
    intro mval _
    apply Misanswers.bind (silently_lift _)
    intro data _
    apply Misanswers.bind (silently_callWriteMem hobliges _ _ _)
    intro ret hret
    exact misanswers_replyCode hret
  · exact Misanswers.fail .assertFail

omit hobliges in
/-- An `X` that returns says `OK`. -/
theorem misanswers_processMemXwrite (payload : List UInt8) (packetEnd : ℕ) :
    Misanswers (processMemXwrite stub payload packetEnd) := by
  unfold processMemXwrite
  dsimp only
  split
  · split
    · exact Misanswers.fail .nullDeref
    · apply Misanswers.bind (silently_lift _)
      intro decoded _
      apply Misanswers.ite
      · intro _
        have hwrite : ∀ addr len data,
            Silently (callWriteMem stub addr len data) fun _ => True :=
          fun _ _ _ => silently_callOp_map (fun _ _ _ => trivial) _
        apply Misanswers.bind (hwrite _ _ _)
        intro ret _
        exact misanswers_ok
      · intro _
        exact Misanswers.fail .assertFail
  · exact Misanswers.fail .assertFail

theorem misanswers_processRegWriteOne (payload : List UInt8) :
    Misanswers (processRegWriteOne stub payload) := by
  unfold processRegWriteOne
  dsimp only
  split
  · apply Misanswers.bind (silently_regbufGet stub _)
    intro buf _
    split
    · exact Misanswers.fail .nullDeref
    · apply Misanswers.ite
      · intro _
        apply Misanswers.bind (silently_lift _)
        intro data _
        apply Misanswers.bind (silently_lift _)
        intro _ _
        apply Misanswers.bind (silently_callWriteReg hobliges _ _)
        intro ret hret
        exact misanswers_replyCode hret
      · intro _
        exact Misanswers.fail .assertFail
  · exact Misanswers.fail .assertFail

omit hobliges in
/-- The handlers of `z` and `Z`. -/
theorem misanswers_processBreakPoints {op : ℕ → ℕ → StubM σ Bool}
    (hop : ∀ addr type, Silently (op addr type) fun ret => ret = true) (payload : List UInt8) :
    Misanswers (processBreakPoints op payload) := by
  unfold processBreakPoints
  split
  · apply Misanswers.bind (hop _ _)
    rintro ret rfl
    exact misanswers_ok
  · exact Misanswers.fail .assertFail

theorem regWriteParse_obliged (payload : List UInt8) (todo : ℕ) :
    ∀ (i payloadOffset storageOffset : ℕ) (newValues backupValues : List UInt8),
      Silently (regWriteParse stub payload todo i payloadOffset storageOffset newValues
        backupValues) fun parsed => ∃ values, parsed = .ok values := by
  induction todo with
  | zero =>
      intro i payloadOffset storageOffset newValues backupValues
      exact Program.Ensures.of_pure fun _ => ⟨rfl, _, rfl⟩
  | succ todo ih =>
      intro i payloadOffset storageOffset newValues backupValues state parsed after heq
      obtain ⟨value, first, hvalue, heq⟩ := Program.ok_bind_iff.mp heq
      obtain ⟨newValues, second, hnew, heq⟩ := Program.ok_bind_iff.mp heq
      obtain ⟨⟨ret, old⟩, third, hread, heq⟩ := Program.ok_bind_iff.mp heq
      have hfirst := (silently_lift _ _ _ _ hvalue).1
      have hsecond := (silently_lift _ _ _ _ hnew).1
      obtain ⟨hthird, hret⟩ := silently_callReadReg hobliges _ _ _ _ _ hread
      dsimp only at hret heq
      rw [if_pos hret] at heq
      obtain ⟨backupValues, fourth, hbackup, heq⟩ := Program.ok_bind_iff.mp heq
      have hfourth := (silently_lift _ _ _ _ hbackup).1
      obtain ⟨hafter, hparsed⟩ := ih _ _ _ _ _ _ _ _ heq
      refine ⟨?_, hparsed⟩
      rw [hafter, hfourth, hthird, hsecond, hfirst]

theorem regWriteCommit_obliged (newValues : List UInt8) (todo : ℕ) :
    ∀ i storageOffset, Silently (regWriteCommit stub newValues todo i storageOffset)
      fun failed => failed = none := by
  induction todo with
  | zero =>
      intro i storageOffset
      exact Program.Ensures.of_pure fun _ => ⟨rfl, rfl⟩
  | succ todo ih =>
      intro i storageOffset state failed after heq
      obtain ⟨ret, between, hwrite, heq⟩ := Program.ok_bind_iff.mp heq
      obtain ⟨hsent, hret⟩ := silently_callWriteReg hobliges _ _ _ _ _ hwrite
      rw [if_pos hret] at heq
      obtain ⟨hafter, hfailed⟩ := ih _ _ _ _ _ heq
      exact ⟨hafter.trans hsent, hfailed⟩

/-- With memory to spare a `G` is done, unless its length is checked. -/
theorem misanswers_processRegWrite (hmallocs : ∀ k bytes, stub.mallocs k bytes = true)
    {payload : List UInt8} (hlength : stub.totalRegBytes ≠ 0 →
      (text payload).length = stub.totalRegBytes * 2) :
    Misanswers (processRegWrite stub payload) := by
  unfold processRegWrite
  dsimp only
  apply Misanswers.ite
  · intro _
    exact misanswers_ok
  intro hbytes
  rw [if_neg (not_not.mpr (hlength hbytes))]
  apply Misanswers.bind (silently_malloc stub _)
  intro newValues hnew
  apply Misanswers.bind (silently_malloc stub _)
  intro backupValues hbackup
  rw [hnew.1 hmallocs, hbackup.1 hmallocs, if_neg (by simp)]
  apply Misanswers.bind (regWriteParse_obliged hobliges _ _ _ _ _ _ _)
  rintro _ ⟨values, rfl⟩
  apply Misanswers.bind (regWriteCommit_obliged hobliges _ _ _ _)
  rintro _ rfl
  exact misanswers_ok

/-! ## Reads without memory -/

omit hobliges in
theorem callReadReg_regbuf {regno : ℤ} {room : Option ℕ} {state after : StubState σ}
    {result : Int32 × List UInt8}
    (hread : callReadReg stub regno room state = (.ok result, after)) :
    after.regbuf = state.regbuf := by
  cases hop : stub.ops.readReg with
  | none =>
      rw [callReadReg, hop] at hread
      cases hread
  | some op =>
      rw [callReadReg_some hop] at hread
      dsimp only at hread
      split at hread
      · obtain ⟨-, rfl⟩ := Prod.mk.inj hread
        rfl
      · obtain ⟨-, rfl⟩ := Prod.mk.inj hread
        rfl

omit hobliges in
/-- Bytes cannot be stored through `NULL`. -/
theorem storeAt_none_ne_ok {count : ℕ} (hcount : count ≠ 0) : storeAt none count ≠ .ok () := by
  obtain ⟨count, rfl⟩ := Nat.exists_eq_succ_of_ne_zero hcount
  nofun

theorem callReadReg_starved {regno : ℤ} (hsize : stub.ops.getRegBytes regno ≠ 0) :
    Silently (callReadReg stub regno none) fun _ => False := by
  intro state result after heq
  cases hop : stub.ops.readReg with
  | none =>
      rw [callReadReg, hop] at heq
      cases heq
  | some op =>
      have hret := hobliges.readReg op hop state.target regno
      rw [callReadReg_some hop] at heq
      dsimp only at heq
      rw [if_pos hret, stub.ops.length_readReg op hop state.target regno hret] at heq
      cases hstore : storeAt none (stub.ops.getRegBytes regno) with
      | error fault =>
          rw [hstore] at heq
          cases heq
      | ok _ => exact absurd hstore (storeAt_none_ne_ok hsize)

theorem callReadMem_starved (addr : ℕ) {len : ℕ} (hlen : len ≠ 0) :
    Silently (callReadMem stub addr len none) fun _ => False := by
  intro state result after heq
  cases hop : stub.ops.readMem with
  | none =>
      rw [callReadMem, hop] at heq
      cases heq
  | some op =>
      have hret := hobliges.readMem op hop state.target addr len
      rw [callReadMem_some hop] at heq
      dsimp only at heq
      rw [if_pos hret, stub.ops.length_readMem op hop state.target addr len hret] at heq
      cases hstore : storeAt none len with
      | error fault =>
          rw [hstore] at heq
          cases heq
      | ok _ => exact absurd hstore (storeAt_none_ne_ok hlen)

section

variable (hmallocs : ∀ k bytes, stub.mallocs k bytes = false)

include hmallocs

theorem misanswers_processMemRead {payload : List UInt8}
    (hscan : ¬ ∃ maddr, scanHexFields 2 (text payload) = [maddr, 0]) :
    Misanswers (processMemRead stub payload) := by
  unfold processMemRead
  split
  · rename_i maddr mlen hfields
    have hlen : mlen ≠ 0 := by
      rintro rfl
      exact hscan ⟨maddr, hfields⟩
    apply Misanswers.bind (silently_malloc stub mlen)
    intro mval hmval
    rw [hmval.2 hmallocs]
    apply Misanswers.bind (callReadMem_starved hobliges maddr hlen)
    intro _ hfalse
    exact hfalse.elim
  · exact Misanswers.fail .assertFail

omit hobliges in
/-- A register buffer without a block does not get one. -/
theorem regbufGet_starved {regSz : ℕ} {state after : StubState σ} {room : Option ℕ}
    (hbuf : state.regbuf.buf = none) (hget : regbufGet stub regSz state = (.ok room, after)) :
    room = none ∧ after.regbuf.buf = none := by
  unfold regbufGet at hget
  rw [Program.get_bind] at hget
  split at hget
  · cases hget
    exact ⟨hbuf, hbuf⟩
  · cases hgrow : regbufGrow regSz 65 state.regbuf.sz with
    | none =>
        rw [hgrow] at hget
        cases hget
    | some sz =>
        rw [hgrow] at hget
        dsimp only at hget
        rw [Program.bind_of_ok (malloc_eq sz state), hmallocs] at hget
        cases hget
        exact ⟨rfl, rfl⟩

theorem misanswers_processRegReadOne {payload : List UInt8}
    (hscan : ¬ ∃ regno, scanHexFields 1 (text payload) = [regno] ∧
      stub.ops.getRegBytes (asInt regno) = 0) :
    StarvedMisanswers (processRegReadOne stub payload) := by
  unfold processRegReadOne
  split
  · rename_i regno hfields
    have hsize : stub.ops.getRegBytes (asInt regno) ≠ 0 :=
      fun hsize => hscan ⟨regno, hfields, hsize⟩
    intro state value after heq hbuf
    obtain ⟨room, between, hget, hrest⟩ := Program.ok_bind_iff.mp heq
    obtain ⟨rfl, -⟩ := regbufGet_starved hmallocs hbuf hget
    obtain ⟨result, later, hread, -⟩ := Program.ok_bind_iff.mp hrest
    exact (callReadReg_starved hobliges hsize _ _ _ hread).2.elim
  · exact Program.Ensures.of_fail

theorem regReadLoop_starved (todo : ℕ) :
    ∀ (i : ℕ) (packetStr written : List UInt8) (state after : StubState σ),
      state.regbuf.buf = none → (∃ j, i ≤ j ∧ j < i + todo ∧ stub.ops.getRegBytes j ≠ 0) →
      regReadLoop stub todo i packetStr state ≠ (.ok written, after) := by
  induction todo with
  | zero =>
      rintro i packetStr written state after - ⟨j, hj, hlt, -⟩
      omega
  | succ todo ih =>
      rintro i packetStr written state after hbuf ⟨j, hj, hlt, hsize⟩ heq
      rw [regReadLoop] at heq
      obtain ⟨room, first, hget, heq⟩ := Program.ok_bind_iff.mp heq
      obtain ⟨rfl, hfirst⟩ := regbufGet_starved hmallocs hbuf hget
      obtain ⟨⟨ret, value⟩, second, hread, heq⟩ := Program.ok_bind_iff.mp heq
      -- the first register with bytes cannot be stored
      by_cases hnothing : stub.ops.getRegBytes i = 0
      · have hsecond := callReadReg_regbuf hread
        have hret := (silently_callReadReg hobliges _ _ _ _ _ hread).2
        dsimp only at hret heq
        rw [if_pos hret] at heq
        obtain ⟨hex, third, hhex, heq⟩ := Program.ok_bind_iff.mp heq
        obtain ⟨packetStr', fourth, hwrite, heq⟩ := Program.ok_bind_iff.mp heq
        obtain ⟨-, rfl⟩ := Prod.mk.inj hhex
        obtain ⟨-, rfl⟩ := Prod.mk.inj hwrite
        have hne : j ≠ i := fun hji => hsize (hji ▸ hnothing)
        exact ih (i + 1) _ _ _ _ (by rw [hsecond, hfirst]) ⟨j, by omega, by omega, hsize⟩ heq
      · exact (callReadReg_starved hobliges hnothing _ _ _ hread).2

/-- Without registers the array is sent as it was. -/
theorem misanswers_processRegRead (hzero : stub.junk 0 ≠ 0) (herror : stub.junk 0 ≠ 69)
    (hsizes : ¬ (stub.arch.registers ≠ 0 ∧ stub.arch.registerBytes stub.ops.getRegBytes = 0)) :
    StarvedMisanswers (processRegRead stub) := by
  intro state value after heq hbuf
  by_cases hregisters : stub.arch.registers = 0
  · have hjunk : localBuffer stub maxSendPacketSize =
        stub.junk 0 :: (List.range (maxSendPacketSize - 1)).map (stub.junk ∘ Nat.succ) := by
      rw [localBuffer, show maxSendPacketSize = maxSendPacketSize - 1 + 1 from rfl,
        List.range_succ_eq_map, List.map_cons, List.map_map]
      rfl
    rw [processRegRead_none hregisters, hjunk] at heq
    exact misanswers_connSendPktbuf hzero herror _ state value after heq
  · obtain ⟨j, hj, hsize⟩ : ∃ j < stub.arch.registers, stub.ops.getRegBytes j ≠ 0 := by
      by_contra hnone
      push Not at hnone
      refine hsizes ⟨hregisters, List.sum_eq_zero_iff_forall_eq_nat.mpr ?_⟩
      intro size hsize
      obtain ⟨j, hj, rfl⟩ := List.mem_map.mp hsize
      exact hnone j (List.mem_range.mp hj)
    obtain ⟨packetStr, between, hloop, -⟩ := Program.ok_bind_iff.mp heq
    exact absurd hloop (regReadLoop_starved hobliges hmallocs _ 0 _ _ state between hbuf
      ⟨j, Nat.zero_le j, by omega, hsize⟩)

end

end

/-! ## Queries, threads and actions -/

section

variable {stub : Gdbstub σ}

/-- A part of the description is sent behind an `l` or an `m`. -/
theorem misanswers_xferReply (targetDesc : List UInt8) (offset length : ℤ) :
    Misanswers (xferReply stub targetDesc offset length) := by
  unfold xferReply
  dsimp only
  apply Misanswers.ite
  · intro _
    exact Misanswers.fail .outOfBounds
  intro _
  apply Misanswers.lift_bind
  intro buf hbuf
  generalize hfirst : (if asInt targetDesc.length - offset <
    (if length < maxDataPayload then length else maxDataPayload) then 108 else 109 : UInt8) =
      first at hbuf
  have hletter : first ≠ 0 ∧ first ≠ 69 := by
    rw [← hfirst]
    rcases ite_eq_or_eq (asInt targetDesc.length - offset <
      if length < maxDataPayload then length else maxDataPayload) (108 : UInt8) 109 with hl | hm
    · rw [hl]
      decide
    · rw [hm]
      decide
  obtain ⟨rest, rfl⟩ : ∃ rest, buf = first :: rest := by
    rcases hwrite : Block.write? (localBuffer stub maxSendPacketSize) 0 (first ::
      snprintfString (if length < maxDataPayload then length else maxDataPayload)
        (targetDesc.drop offset.toNat)) with _ | written
    · rw [hwrite] at hbuf
      cases hbuf
    · rw [hwrite] at hbuf
      rw [← Except.ok.inj hbuf, ← (Block.write?_eq_some.mp hwrite).2]
      exact ⟨_, rfl⟩
  exact misanswers_connSendPktbuf hletter.1 hletter.2 rest

theorem misanswers_xferTokens (targetDesc args : List UInt8) :
    Misanswers (xferTokens stub targetDesc args) := by
  unfold xferTokens
  split
  · exact Misanswers.fail .nullDeref
  apply Misanswers.ite _ fun _ => Misanswers.fail .assertFail
  intro _
  split
  · exact Misanswers.fail .nullDeref
  apply Misanswers.ite _ fun _ => Misanswers.fail .assertFail
  intro _
  split
  · exact Misanswers.fail .nullDeref
  split <;> exact misanswers_xferReply _ _ _

theorem silently_strtokStart (args : Option (List UInt8)) :
    Silently (strtokStart stub args) fun _ => True := by
  intro state content after heq
  unfold strtokStart at heq
  rw [Program.get_bind, Program.update_bind] at heq
  cases args with
  | some args =>
      cases heq
      exact ⟨rfl, trivial⟩
  | none =>
      dsimp only at heq
      split at heq
      · cases heq
      · cases heq
        exact ⟨rfl, trivial⟩

theorem misanswers_processXfer {s : Option (List UInt8)}
    (hdescription : ∀ block ∈ s, stub.arch.targetDesc ≠ none ∧
      (cut colon block).1 = ascii "features") : Misanswers (processXfer stub s) := by
  unfold processXfer
  cases s with
  | none => exact Misanswers.fail .nullDeref
  | some block =>
      obtain ⟨hdesc, hname⟩ := hdescription block rfl
      dsimp only
      split
      · rw [if_pos hname]
        apply Misanswers.bind (silently_strtokStart _)
        intro content _
        exact misanswers_xferTokens _ _
      · rename_i hnone
        exact absurd hnone hdesc

theorem misanswers_processThreadInfo : Misanswers (processThreadInfo stub) := by
  by_cases hsmp : (if stub.arch.smp = 0 then 1 else stub.arch.smp) < 10000
  · rw [processThreadInfo_eq stub hsmp]
    apply Misanswers.ite
    · intro _
      apply Misanswers.reply
      rintro (hnil | hhead)
      · exact absurd hnil (by simp [threadInfo, ascii])
      · exact absurd hhead (by simp [threadInfo, ascii])
    · intro _
      exact Misanswers.fail .outOfBounds
  · unfold processThreadInfo
    dsimp only
    rw [if_neg hsmp]
    exact Misanswers.fail .assertFail

/-- A query whose name is known is answered. -/
theorem misanswers_processQuery (hop : stub.ops.getCpu.isSome) {payload : List UInt8}
    (hname : (cut colon payload).1 ∈ queryNames)
    (hxfer : (cut colon payload).1 = ascii "Xfer" →
      Misanswers (processXfer stub (cut colon payload).2)) :
    Misanswers (processQuery stub payload) := by
  unfold processQuery
  dsimp only
  apply Misanswers.ite
  · intro _
    rw [if_pos hop]
    have hcpu : Silently (callGetCpu stub) fun _ => True := silently_callOp (fun _ _ _ => trivial) _
    apply Misanswers.bind hcpu
    intro cpuid _
    apply Misanswers.reply
    rintro (hnil | hhead)
    · exact absurd hnil (by simp [ascii])
    · exact absurd hhead (by simp [ascii])
  intro hcpu
  apply Misanswers.ite
  · intro _
    apply Misanswers.ite
    · intro _
      exact Misanswers.reply (by decide)
    · intro _
      exact Misanswers.reply (by decide)
  intro hsupported
  apply Misanswers.ite
  · intro _
    exact Misanswers.reply (by decide)
  intro hattached
  apply Misanswers.ite hxfer
  intro hother
  apply Misanswers.ite
  · intro _
    exact misanswers_ok
  intro hsymbol
  apply Misanswers.ite
  · intro _
    exact misanswers_processThreadInfo
  intro hthreads
  apply Misanswers.ite
  · intro _
    exact Misanswers.reply (by decide)
  · intro hmore
    -- there is no other name
    simp only [queryNames, List.map_cons, List.map_nil, List.mem_cons, List.not_mem_nil,
      or_false] at hname
    rcases hname with h | h | h | h | h | h | h
    exacts [absurd h hcpu, absurd h hsupported, absurd h hattached, absurd h hother,
      absurd h hsymbol, absurd h hthreads, absurd h hmore]

theorem misanswers_processGeneralSet {payload : List UInt8}
    (hname : (cut colon payload).1 = ascii "StartNoAckMode") :
    Misanswers (processGeneralSet payload : StubM σ Unit) := by
  unfold processGeneralSet
  dsimp only
  rw [if_pos hname]
  have hmode : Silently (Program.update fun state : StubState σ => { state with noAckMode := true })
      fun _ => True := Program.Ensures.of_update fun _ => ⟨rfl, trivial⟩
  apply Misanswers.bind hmode
  intro _ _
  exact misanswers_ok

theorem misanswers_processSetCpu (payload : List UInt8) :
    Misanswers (processSetCpu stub payload) := by
  unfold processSetCpu
  apply Misanswers.ite
  · intro _
    split
    · exact Misanswers.fail .assertFail
    · have hcpu : ∀ cpuid, Silently (callSetCpu stub cpuid) fun _ => True :=
        fun _ => silently_callOp_map (fun _ _ _ => trivial) _
      apply Misanswers.bind (hcpu _)
      intro _ _
      exact misanswers_ok
  · intro _
    exact misanswers_ok

/-- An event is no reply. -/
theorem misanswers_pure (event : Event) : Misanswers (pure event : StubM σ Event) := by
  have hpure : Silently (pure event : StubM σ Event) fun _ => True :=
    Program.Ensures.of_pure fun _ => ⟨rfl, trivial⟩
  exact Misanswers.of_silently hpure

theorem misanswers_processCont (hop : stub.ops.cont.isSome) : Misanswers (processCont stub) := by
  unfold processCont
  rw [if_pos hop]
  exact misanswers_pure .cont

theorem misanswers_processStepi (hop : stub.ops.stepi.isSome) :
    Misanswers (processStepi stub) := by
  unfold processStepi
  rw [if_pos hop]
  exact misanswers_pure .step

theorem misanswers_processVpacket (hcont : stub.ops.cont.isSome) (hstepi : stub.ops.stepi.isSome)
    {payload : List UInt8}
    (hname : (cut semicolon payload).1 = ascii "Cont" ∧
        (∀ actions ∈ (cut semicolon payload).2,
          actions.head? = some 99 ∨ actions.head? = some 115) ∨
      (cut semicolon payload).1 = ascii "Cont?") :
    Misanswers (processVpacket stub payload) := by
  unfold processVpacket
  dsimp only
  rcases hname with ⟨hname, hactions⟩ | hname
  · rw [if_pos hname]
    -- without a `;` the pointer behind it is `NULL`
    cases hsome : (cut semicolon payload).2 with
    | none => exact Misanswers.fail .nullDeref
    | some actions =>
        unfold processVcont
        rw [Option.bind_some]
        rcases hactions actions hsome with haction | haction
        · rw [haction]
          dsimp only
          rw [if_pos rfl]
          exact misanswers_processCont hcont
        · rw [haction]
          dsimp only
          rw [if_neg (by decide), if_pos rfl]
          exact misanswers_processStepi hstepi
  · rw [hname, if_neg (by decide), if_pos rfl]
    apply Misanswers.thenReturn
    unfold processVcontSupport
    dsimp only
    apply Misanswers.reply
    rintro (hnil | hhead)
    · exact absurd hnil (by simp [ascii])
    · exact absurd hhead (by simp [ascii])

theorem fields_of_unknown {arch : ArchInfo} {regBytes : ℤ → ℕ} {payload : List UInt8}
    {letter : Char} (hletter : letter ∉ "cgmpqQsvz?DGHMPTXZ".toList) :
    Fields arch regBytes payload letter := by
  unfold Fields
  split <;> trivial

/-- **A malformed request that need not be refused is not**, on a target that obliges. -/
theorem misanswers_dispatch (hops : stub.ops.Complete) (hobliges : Obliges stub.ops)
    {request : UInt8} {payload : List UInt8} (csumHigh csumLow : UInt8)
    (hmallocs : ∀ k bytes, stub.mallocs k bytes = (Char.ofNat request.toNat == 'G'))
    (hzero : stub.junk 0 ≠ 0) (herror : stub.junk 0 ≠ 69)
    (hfields : ¬ Fields stub.arch stub.ops.getRegBytes payload (Char.ofNat request.toNat))
    (hrefused : ¬ DeclinedAnyway stub.arch stub.ops.getRegBytes payload
      (Char.ofNat request.toNat)) :
    StarvedMisanswers
      (dispatch stub request (payload ++ behindBody csumHigh csumLow) payload.length) := by
  have htext : text (payload ++ behindBody csumHigh csumLow) = text payload :=
    text_append_zero_left payload [csumHigh, csumLow, 0]
  have hcut := fun separator => cut_append_zero separator payload [csumHigh, csumLow, 0]
  revert hmallocs hfields hrefused
  unfold dispatch
  generalize Char.ofNat request.toNat = letter
  intro hmallocs hfields hrefused
  split
  · exact (misanswers_processCont hops.cont).starved
  · exact (misanswers_processRegRead hobliges hmallocs hzero herror hrefused).ifProvided
      hops.readReg
  · refine (misanswers_processMemRead hobliges hmallocs ?_).starved.ifProvided hops.readMem
    rwa [htext]
  · refine (misanswers_processRegReadOne hobliges hmallocs ?_).ifProvided hops.readReg
    rwa [htext]
  · -- a query, or a transfer of the description
    obtain ⟨hname, -⟩ := Classical.not_imp.mp hfields
    refine ((misanswers_processQuery hops.getCpu ?_ ?_).thenReturn _).starved
    · rwa [behindBody, hcut]
    · rw [behindBody, hcut]
      intro hxfer
      apply misanswers_processXfer
      intro block hblock
      obtain ⟨s, hs, rfl⟩ := Option.map_eq_some_iff.mp hblock
      rw [cut_append_zero]
      constructor
      · exact fun hnone => hrefused ⟨hxfer, s, hs, .inl hnone⟩
      · exact by_contra fun hother => hrefused ⟨hxfer, s, hs, .inr hother⟩
  · obtain ⟨hname, -⟩ := Classical.not_imp.mp hfields
    refine ((misanswers_processGeneralSet ?_).thenReturn _).starved
    rwa [behindBody, hcut]
  · exact (misanswers_processStepi hops.stepi).starved
  · -- the actions of a `vCont`, or what follows a `vCont?`
    refine (misanswers_processVpacket hops.cont hops.stepi ?_).starved
    rw [behindBody, hcut]
    rcases not_and_or.mp hfields with hcont | hsupport
    · obtain ⟨hname, -⟩ := Classical.not_imp.mp hcont
      refine .inl ⟨hname, fun actions hactions => ?_⟩
      obtain ⟨content, hcontent, rfl⟩ := Option.map_eq_some_iff.mp hactions
      by_contra hneither
      obtain ⟨hc, hs⟩ := not_or.mp hneither
      refine hrefused ⟨hname, content, hcontent, ?_, ?_⟩
      · exact fun heq => hc (by rw [List.head?_append, heq]; rfl)
      · exact fun heq => hs (by rw [List.head?_append, heq]; rfl)
    · exact .inr (Classical.not_imp.mp hsupport).1
  · exact (misanswers_processBreakPoints (fun _ _ => silently_callOp_map
      (fun op hop target => hobliges.delBp op hop target _ _) _) _).starved.ifProvided hops.delBp
  · exact ((Misanswers.reply (by decide)).thenReturn _).starved
  · exact (misanswers_ok.thenReturn _).starved
  · refine (misanswers_processRegWrite hobliges hmallocs ?_).starved.ifProvided hops.writeReg
    intro hbytes
    rw [htext]
    by_contra hlength
    rw [← registerBytes_eq] at hbytes hlength
    exact hrefused ⟨hbytes, hlength⟩
  · exact (misanswers_processSetCpu _).starved.ifProvided hops.setCpu
  · exact (misanswers_processMemWrite hobliges _).starved.ifProvided hops.writeMem
  · exact (misanswers_processRegWriteOne hobliges _).starved.ifProvided hops.writeReg
  · exact (misanswers_ok.thenReturn _).starved
  · exact (misanswers_processMemXwrite _ _).starved.ifProvided hops.writeMem
  · exact (misanswers_processBreakPoints (fun _ _ => silently_callOp_map
      (fun op hop target => hobliges.setBp op hop target _ _) _) _).starved.ifProvided hops.setBp
  · exact absurd (fields_of_unknown (by simp_all)) hfields

end

end MiniGdbstub
