import MiniGdbstub.PlainReplies
import MiniGdbstub.RequestForms

/-!
# Requests that are refused

A reply refuses a request if it is empty or an error (`IsRefusal`).  Some requests are refused
whatever else is wrong with them, and whatever the target answers (`DeclinedAnyway`): a read of
nothing, whose reply has no digits, a transfer of another object than the description, an action
that `vCont` does not offer, and a `G` of the wrong length, the only request whose handler
compares the length first and does not assert it.
-/

namespace MiniGdbstub

open CString

variable {σ : Type}

/-! ## Refusals -/

/-- A reply that is empty or an error. -/
def IsRefusal (reply : List UInt8) : Prop :=
  reply = [] ∨ reply.head? = some 69

instance : DecidablePred IsRefusal :=
  fun reply => inferInstanceAs (Decidable (reply = [] ∨ reply.head? = some 69))

/-- One reply was sent, and it is a refusal. -/
def Declined (before after : StubState σ) : Prop :=
  ∃ reply, after.sent = before.sent ++ [pktstrFrame reply] ∧ IsRefusal reply

section

variable (arch : ArchInfo) (regBytes : ℤ → ℕ)

/-- Whatever else is wrong with it, such a request is refused: registers without bytes, nothing
to read, a transfer of something else than the description, an action that `vCont` does not
offer, as many digits as no register file has. -/
def DeclinedAnyway (payload : List UInt8) : Char → Prop
  | 'g' => arch.registers ≠ 0 ∧ arch.registerBytes regBytes = 0
  | 'm' => ∃ maddr, scanHexFields 2 (text payload) = [maddr, 0]
  | 'p' => ∃ regno, scanHexFields 1 (text payload) = [regno] ∧ regBytes (asInt regno) = 0
  | 'q' => (cut colon payload).1 = ascii "Xfer" ∧ ∃ s, (cut colon payload).2 = some s ∧
      (arch.targetDesc = none ∨ (cut colon s).1 ≠ ascii "features")
  | 'v' => (cut semicolon payload).1 = ascii "Cont" ∧
      ∃ actions, (cut semicolon payload).2 = some actions ∧
        actions.head? ≠ some 99 ∧ actions.head? ≠ some 115
  | 'G' => arch.registerBytes regBytes ≠ 0 ∧
      (text payload).length ≠ arch.registerBytes regBytes * 2
  | _ => False

end

/-! ## Programs that refuse -/

/-- The program returns, with a refusal as its only reply. -/
def Declines {α : Type} (program : StubM σ α) : Prop :=
  ∀ state, ∃ value after, program state = (.ok value, after) ∧ Declined state after

theorem Declines.reply {pktstr : List UInt8} (hrefusal : IsRefusal pktstr)
    (hfits : pktstr.length + 5 < maxSendPacketSize) :
    Declines (connSendPktstr pktstr : StubM σ Unit) :=
  fun state => ⟨(), state.reply pktstr, connSendPktstr_of_fits hfits state, pktstr, rfl, hrefusal⟩

theorem Declines.thenReturn {handler : StubM σ Unit} (hhandler : Declines handler)
    (event : Event) : Declines (handler >>= fun _ => pure event) := by
  intro state
  obtain ⟨_, after, hrun, hrefused⟩ := hhandler state
  exact ⟨event, after, Program.bind_of_ok hrun _, hrefused⟩

theorem Declines.ifProvided {provided : Bool} (hprovided : provided) {handler : StubM σ Unit}
    (hhandler : Declines handler) : Declines (ifProvided provided handler) := by
  unfold MiniGdbstub.ifProvided
  rw [if_pos hprovided]
  exact hhandler.thenReturn _

theorem isRefusal_errorText (ret : Int32) : IsRefusal (errorText ret) :=
  .inr rfl

theorem declines_errorText (ret : Int32) :
    Declines (connSendPktstr (errorText ret) : StubM σ Unit) :=
  fun state => ⟨(), state.reply (errorText ret), connSendPktstr_errorText ret state, _, rfl,
    isRefusal_errorText ret⟩

/-- A first part that sends nothing. -/
theorem Declines.bind {α β : Type} {first : StubM σ α} {next : α → StubM σ β}
    (good : α → Prop)
    (hfirst : ∀ state, ∃ value between, first state = (.ok value, between) ∧
      between.sent = state.sent ∧ good value)
    (hnext : ∀ value, good value → Declines (next value)) : Declines (first >>= next) := by
  intro state
  obtain ⟨value, between, hbetween, hsent, hgood⟩ := hfirst state
  obtain ⟨result, after, hafter, reply, hreply, hrefusal⟩ := hnext value hgood between
  exact ⟨result, after, (Program.bind_of_ok hbetween _).trans hafter, reply, hsent ▸ hreply,
    hrefusal⟩

/-! ## Reads of nothing -/

section

variable {stub : Gdbstub σ}

/-- A value without bytes can be stored anywhere. -/
theorem storeAt_nothing (room : Option ℕ) : storeAt room 0 = .ok () := by
  cases room with
  | none => rfl
  | some length => rw [storeAt, if_pos (Nat.zero_le length)]

/-- A read of nothing gives a code, or no bytes. -/
theorem callReadReg_nothing (hop : stub.ops.readReg.isSome) {regno : ℤ}
    (hsize : stub.ops.getRegBytes regno = 0) (room : Option ℕ) (state : StubState σ) :
    ∃ result after, callReadReg stub regno room state = (.ok result, after) ∧
      after.sent = state.sent ∧ (result.1 = 0 → result.2 = []) := by
  obtain ⟨op, hop⟩ := Option.isSome_iff_exists.mp hop
  have hread := callReadReg_some hop regno room state
  dsimp only at hread
  have hvalue : (op state.target regno).1.1 = 0 → (op state.target regno).1.2 = [] := by
    intro hret
    apply List.eq_nil_of_length_eq_zero
    rw [stub.ops.length_readReg op hop state.target regno hret, hsize]
  by_cases hret : (op state.target regno).1.1 = 0
  · rw [if_pos hret, hvalue hret, List.length_nil, storeAt_nothing] at hread
    exact ⟨_, _, hread, rfl, hvalue⟩
  · rw [if_neg hret] at hread
    exact ⟨_, _, hread, rfl, hvalue⟩

theorem callReadMem_nothing (hop : stub.ops.readMem.isSome) (addr : ℕ) (room : Option ℕ)
    (state : StubState σ) :
    ∃ result after, callReadMem stub addr 0 room state = (.ok result, after) ∧
      after.sent = state.sent ∧ (result.1 = 0 → result.2 = []) := by
  obtain ⟨op, hop⟩ := Option.isSome_iff_exists.mp hop
  have hread := callReadMem_some hop addr 0 room state
  dsimp only at hread
  have hvalue : (op state.target addr 0).1.1 = 0 → (op state.target addr 0).1.2 = [] := by
    intro hret
    exact List.eq_nil_of_length_eq_zero (stub.ops.length_readMem op hop state.target addr 0 hret)
  by_cases hret : (op state.target addr 0).1.1 = 0
  · rw [if_pos hret, hvalue hret, List.length_nil, storeAt_nothing] at hread
    exact ⟨_, _, hread, rfl, hvalue⟩
  · rw [if_neg hret] at hread
    exact ⟨_, _, hread, rfl, hvalue⟩

/-- The reply to a read of nothing is empty or an error. -/
theorem declines_replyNothing {ret : Int32} {value : List UInt8} (hvalue : ret = 0 → value = []) :
    Declines (if ret = 0 then do
        let hex ← Program.lift (hexToStr value (asInt (0 : ℕ)))
        let packetStr ← Program.lift
          (inBounds (Block.write? (localBuffer stub maxSendPacketSize) 0 hex))
        connSendPktbuf packetStr
      else connSendPktstr (errorText ret) : StubM σ Unit) := by
  by_cases hret : ret = 0
  · rw [if_pos hret, hvalue hret]
    intro state
    obtain ⟨rest, hwrite⟩ : ∃ rest,
        Block.write? (localBuffer stub maxSendPacketSize) 0 [0] = some (0 :: rest) := by
      refine ⟨_, Block.write?_eq_some.mpr ⟨?_, rfl⟩⟩
      rw [length_localBuffer]
      decide
    have hhex : hexToStr [] (asInt (0 : ℕ)) = .ok [0] := rfl
    refine ⟨(), state.reply [], ?_, [], rfl, .inl rfl⟩
    rw [hhex, Program.lift_ok_bind, hwrite, inBounds_some, Program.lift_ok_bind]
    rw [show (0 :: rest : List UInt8) = [] ++ 0 :: rest from rfl,
      connSendPktbuf_of_text List.not_mem_nil]
    exact connSendPktstr_of_fits (by decide) state
  · rw [if_neg hret]
    exact declines_errorText ret

theorem declines_processMemRead (hop : stub.ops.readMem.isSome) {payload : List UInt8}
    {maddr : ℕ} (hscan : scanHexFields 2 (text payload) = [maddr, 0]) :
    Declines (processMemRead stub payload) := by
  unfold processMemRead
  rw [hscan]
  dsimp only
  apply Declines.bind fun _ => True
  · exact fun state => ⟨_, _, malloc_eq 0 state, rfl, trivial⟩
  intro mval _
  apply Declines.bind _ (callReadMem_nothing hop maddr mval)
  rintro ⟨ret, value⟩ hvalue
  exact declines_replyNothing hvalue

theorem regbufGet_nothing (state : StubState σ) :
    regbufGet stub 0 state = (.ok state.regbuf.buf, state) := by
  rw [regbufGet, Program.get_bind, if_pos (Nat.zero_le _)]
  rfl

theorem declines_processRegReadOne (hop : stub.ops.readReg.isSome) {payload : List UInt8}
    {regno : ℕ} (hscan : scanHexFields 1 (text payload) = [regno])
    (hsize : stub.ops.getRegBytes (asInt regno) = 0) :
    Declines (processRegReadOne stub payload) := by
  unfold processRegReadOne
  rw [hscan]
  dsimp only
  rw [hsize]
  apply Declines.bind fun _ => True
  · exact fun state => ⟨_, _, regbufGet_nothing state, rfl, trivial⟩
  intro regValue _
  apply Declines.bind _ (callReadReg_nothing hop hsize regValue)
  rintro ⟨ret, value⟩ hvalue
  exact declines_replyNothing hvalue

/-- The array starts with a refusal. -/
def StartsRefusal (packetStr : List UInt8) : Prop :=
  ∃ pktstr rest, packetStr = pktstr ++ 0 :: rest ∧ 0 ∉ pktstr ∧ pktstr.length ≤ 12 ∧
    IsRefusal pktstr

theorem StartsRefusal.write {packetStr pktstr : List UInt8}
    (hlength : packetStr.length = maxSendPacketSize) (hzero : 0 ∉ pktstr)
    (hshort : pktstr.length ≤ 12) (hrefusal : IsRefusal pktstr) :
    ∃ written, Block.write? packetStr 0 (pktstr ++ [0]) = some written ∧
      written.length = maxSendPacketSize ∧ StartsRefusal written := by
  have hroom : 0 + (pktstr ++ [0]).length ≤ packetStr.length := by
    rw [hlength, maxSendPacketSize, List.length_append, List.length_singleton]
    omega
  refine ⟨_, Block.write?_eq_some.mpr ⟨hroom, rfl⟩, ?_, pktstr,
    packetStr.drop (0 + (pktstr ++ [0]).length), ?_, hzero, hshort, hrefusal⟩
  · rw [Block.length_overwrite hroom, hlength]
  · rw [Block.overwrite, List.take_zero, List.nil_append, List.append_assoc]
    rfl

/-- The loop over registers without bytes leaves a refusal: each turn ends the text at the
start of the array, or writes a code there. -/
theorem regReadLoop_nothing (hop : stub.ops.readReg.isSome) (todo : ℕ) :
    ∀ (i : ℕ) (packetStr : List UInt8) (state : StubState σ),
      (∀ j, i ≤ j → j < i + todo → stub.ops.getRegBytes j = 0) →
      packetStr.length = maxSendPacketSize → (todo = 0 → StartsRefusal packetStr) →
      ∃ written after, regReadLoop stub todo i packetStr state = (.ok written, after) ∧
        after.sent = state.sent ∧ StartsRefusal written := by
  induction todo with
  | zero =>
      intro i packetStr state _ _ hstarts
      exact ⟨packetStr, state, rfl, rfl, hstarts rfl⟩
  | succ todo ih =>
      intro i packetStr state hsizes hlength _
      have hsize := hsizes i le_rfl (by omega)
      obtain ⟨⟨ret, value⟩, between, hread, hsent, hvalue⟩ :=
        callReadReg_nothing hop hsize state.regbuf.buf state
      rw [regReadLoop]
      dsimp only
      rw [hsize, Program.bind_of_ok (regbufGet_nothing state), Program.bind_of_ok hread]
      dsimp only
      -- no digits but a zero at the start, or the code of the register
      by_cases hret : ret = 0
      · obtain ⟨written, hwrite, hwritten, hstarts⟩ := StartsRefusal.write hlength
          List.not_mem_nil (Nat.zero_le 12) (.inl rfl)
        obtain ⟨final, after, hloop, hafter, hfinal⟩ := ih (i + 1) written between
          (fun j hj hlt => hsizes j (by omega) (by omega)) hwritten fun _ => hstarts
        have hhex : hexToStr value (asInt (0 : ℕ)) = .ok ([] ++ [0]) := by
          rw [show value = [] from hvalue hret]
          rfl
        rw [if_pos hret, hhex, Program.lift_ok_bind, Nat.mul_zero, Nat.zero_mul, hwrite,
          inBounds_some, Program.lift_ok_bind, hloop]
        exact ⟨final, after, rfl, hafter.trans hsent, hfinal⟩
      · obtain ⟨written, hwrite, -, hstarts⟩ := StartsRefusal.write hlength
          (zero_notMem_errorText ret) (length_errorText_le ret) (isRefusal_errorText ret)
        rw [if_neg hret, hwrite, inBounds_some]
        exact ⟨written, between, rfl, hsent, hstarts⟩

theorem getRegBytes_of_registerBytes {arch : ArchInfo} {regBytes : ℤ → ℕ}
    (hbytes : arch.registerBytes regBytes = 0) {regno : ℕ} (hregno : regno < arch.registers) :
    regBytes regno = 0 :=
  List.sum_eq_zero_iff_forall_eq_nat.mp hbytes _
    (List.mem_map.mpr ⟨regno, List.mem_range.mpr hregno, rfl⟩)

theorem declines_processRegRead (hop : stub.ops.readReg.isSome)
    (hregisters : stub.arch.registers ≠ 0)
    (hbytes : stub.arch.registerBytes stub.ops.getRegBytes = 0) :
    Declines (processRegRead stub) := by
  apply Declines.bind StartsRefusal
  · intro state
    exact regReadLoop_nothing hop stub.arch.registers 0 _ state
      (fun j _ hlt => getRegBytes_of_registerBytes hbytes (by omega))
      (length_localBuffer stub maxSendPacketSize) fun hnone => absurd hnone hregisters
  · rintro _ ⟨pktstr, rest, rfl, hzero, hshort, hrefusal⟩ state
    refine ⟨(), state.reply pktstr, ?_, pktstr, rfl, hrefusal⟩
    rw [connSendPktbuf_of_text hzero]
    exact connSendPktstr_of_fits (by rw [maxSendPacketSize]; omega) state

/-! ## Requests that are refused anyway -/

theorem declines_processRegWrite {payload : List UInt8} (hbytes : stub.totalRegBytes ≠ 0)
    (hlength : (text payload).length ≠ stub.totalRegBytes * 2) :
    Declines (processRegWrite stub payload) := by
  unfold processRegWrite
  dsimp only
  rw [if_neg hbytes, if_pos hlength]
  exact Declines.reply (.inr rfl) (by decide)

theorem declines_processXfer {s : List UInt8}
    (hother : stub.arch.targetDesc = none ∨ (cut colon s).1 ≠ ascii "features") :
    Declines (processXfer stub (some s)) := by
  have hempty : Declines (connSendPktstr [] : StubM σ Unit) := Declines.reply (.inl rfl) (by decide)
  unfold processXfer
  dsimp only
  split
  · rename_i targetDesc hdesc
    rw [if_neg (hother.resolve_left (by rw [hdesc]; nofun))]
    exact hempty
  · exact hempty

theorem declines_processVcont {actions : List UInt8} (rest : List UInt8)
    (hcont : actions.head? ≠ some 99) (hstep : actions.head? ≠ some 115) :
    Declines (processVcont stub (some (actions ++ 0 :: rest))) := by
  have heperm : Declines (do
      sendEperm
      return Event.none : StubM σ Event) := (Declines.reply (.inr rfl) (by decide)).thenReturn _
  unfold processVcont
  cases actions with
  | nil => exact heperm
  | cons action others =>
      rw [List.head?_cons] at hcont hstep
      dsimp only [Option.bind_some, List.cons_append, List.head?_cons]
      rw [if_neg fun heq => hcont (congrArg some heq), if_neg fun heq => hstep (congrArg some heq)]
      exact heperm

theorem registerBytes_eq (stub : Gdbstub σ) :
    stub.arch.registerBytes stub.ops.getRegBytes = stub.totalRegBytes :=
  stub.totalRegBytes_eq.symm

theorem declines_dispatch (hops : stub.ops.Complete) {request : UInt8} {payload : List UInt8}
    (csumHigh csumLow : UInt8) (hrefused : DeclinedAnyway stub.arch stub.ops.getRegBytes payload
      (Char.ofNat request.toNat)) :
    Declines (dispatch stub request (payload ++ behindBody csumHigh csumLow) payload.length) := by
  have htext : text (payload ++ behindBody csumHigh csumLow) = text payload :=
    text_append_zero_left payload [csumHigh, csumLow, 0]
  have hcut := fun separator => cut_append_zero separator payload [csumHigh, csumLow, 0]
  revert hrefused
  unfold dispatch
  generalize Char.ofNat request.toNat = letter
  unfold DeclinedAnyway
  intro hrefused
  split at hrefused
  · exact (declines_processRegRead hops.readReg hrefused.1 hrefused.2).ifProvided hops.readReg
  · obtain ⟨maddr, hscan⟩ := hrefused
    rw [← htext] at hscan
    exact (declines_processMemRead hops.readMem hscan).ifProvided hops.readMem
  · obtain ⟨regno, hscan, hsize⟩ := hrefused
    rw [← htext] at hscan
    exact (declines_processRegReadOne hops.readReg hscan hsize).ifProvided hops.readReg
  · obtain ⟨hname, s, hs, hother⟩ := hrefused
    refine Declines.thenReturn ?_ _
    rw [behindBody, processQuery_xfer stub (by rw [hcut, hname]), hcut, hs]
    exact declines_processXfer (by rwa [cut_append_zero])
  · obtain ⟨hname, actions, hactions, hcont, hstep⟩ := hrefused
    show Declines (processVpacket stub _)
    unfold processVpacket
    rw [behindBody, hcut, hactions]
    dsimp only
    rw [if_pos hname]
    exact declines_processVcont _ hcont hstep
  · obtain ⟨hbytes, hlength⟩ := hrefused
    rw [registerBytes_eq] at hbytes hlength
    rw [← htext] at hlength
    exact (declines_processRegWrite hbytes hlength).ifProvided hops.writeReg
  · exact hrefused.elim

end

end MiniGdbstub
