import MiniGdbstub.ProgramRuns

/-!
# What a debugger does to a program

Breakpoints, reads and the way of executing make no difference to the program that is debugged.
What a debugger asks for comes to single steps and its writes, in the same order (`singleSteps`):
the memory, the registers and `pc` are afterwards those that these alone lead to
(`debugging_eq_singleSteps`).
-/

namespace MiniGdbstub

open Rv64i

/-! ## The machine and the debugger's fields -/

/-- The fields of the emulator that belong to the program. -/
structure SameMachine (emu other : Emu) : Prop where
  m : other.m = emu.m
  x : other.x = emu.x
  pc : other.pc = emu.pc

/-- The machine of `emu` with the debugger's fields of `control`. -/
def Emu.under (emu control : Emu) : Emu :=
  { emu with bpIsSet := control.bpIsSet, bpAddr := control.bpAddr, halt := control.halt }

theorem sameMachine_under (emu control : Emu) : SameMachine emu (emu.under control) :=
  ⟨rfl, rfl, rfl⟩

theorem SameMachine.eq_under {emu other : Emu} (hsame : SameMachine emu other) :
    other = emu.under other := by
  obtain ⟨hm, hx, hpc⟩ := hsame
  cases other
  cases hm
  cases hx
  cases hpc
  rfl

/-- What has a result does so under all debugger's fields, and with the same machine. -/
def CarriedOver {α : Type} (op : Emu → Except Fault (α × Emu)) : Prop :=
  ∀ emu other, SameMachine emu other → ∀ ret next, op emu = .ok (ret, next) →
    ∃ after, op other = .ok (ret, after) ∧ SameMachine next after

theorem CarriedOver.of_under {α : Type} {op : Emu → Except Fault (α × Emu)}
    (hunder : ∀ emu control, op (emu.under control) =
      (op emu).map fun executed => (executed.1, executed.2.under control)) : CarriedOver op := by
  intro emu other hsame ret next hop
  rw [hsame.eq_under, hunder, hop]
  exact ⟨next.under other, rfl, sameMachine_under next other⟩

theorem carriedOver_loadReg (bit : ℕ) (rd base : Reg) (offset : BitVec 12) :
    CarriedOver fun emu => emu.loadReg bit rd base offset := by
  refine CarriedOver.of_under fun emu control => ?_
  show readLen bit emu (emu.reg base + signed offset) >>= _ =
    Except.map _ (readLen bit emu (emu.reg base + signed offset) >>= _)
  cases readLen bit emu (emu.reg base + signed offset) with
  | error fault => rfl
  | ok value => rfl

theorem carriedOver_storeReg (bit : ℕ) (base rs2 : Reg) (offset : BitVec 12) :
    CarriedOver fun emu => emu.storeReg bit base rs2 offset := by
  refine CarriedOver.of_under fun emu control => ?_
  rw [Emu.storeReg, Emu.storeReg, writeLen, writeLen]
  show ((emu.m.write (emu.reg base + signed offset).toNat
      (littleEndianBytes (bit / 8) (emu.reg rs2)) >>= _) >>= _) =
    Except.map _ ((emu.m.write (emu.reg base + signed offset).toNat
      (littleEndianBytes (bit / 8) (emu.reg rs2)) >>= _) >>= _)
  cases emu.m.write (emu.reg base + signed offset).toNat
      (littleEndianBytes (bit / 8) (emu.reg rs2)) with
  | error fault => rfl
  | ok m => rfl

theorem carriedOver_execute (i : Instr) : CarriedOver fun emu => emu.execute i := by
  cases i with
  | lw rd base offset => exact carriedOver_loadReg 32 rd base offset
  | ld rd base offset => exact carriedOver_loadReg 64 rd base offset
  | sb base rs2 offset => exact carriedOver_storeReg 8 base rs2 offset
  | sw base rs2 offset => exact carriedOver_storeReg 32 base rs2 offset
  | sd base rs2 offset => exact carriedOver_storeReg 64 base rs2 offset
  | _ => exact CarriedOver.of_under fun _ _ => rfl

/-- **An instruction.** -/
theorem carriedOver_emuFetchExec : CarriedOver emuFetchExec := by
  intro emu other hsame ret next hrun
  obtain ⟨⟨code, bytes⟩, hread, hexec⟩ := Except.ok_bind_iff.mp hrun
  have hread' : emuReadMem other other.pc.toNat 4 = .ok (code, bytes) := by
    rw [hsame.eq_under]
    exact hread
  have hfetched : emuFetchExec other =
      emuExec { other with pc := other.pc + 4 } (littleEndian bytes).toUInt32 := by
    rw [emuFetchExec, hread']
    rfl
  dsimp only at hexec
  rw [hfetched, emuExec_eq]
  rw [emuExec_eq] at hexec
  have hzeroed : SameMachine (Emu.setReg { emu with pc := emu.pc + 4 } 0 0)
      (Emu.setReg { other with pc := other.pc + 4 } 0 0) := by
    rw [hsame.eq_under]
    exact ⟨rfl, rfl, rfl⟩
  revert hexec
  cases decode (littleEndian bytes).toUInt32.toBitVec with
  | none =>
      rintro ⟨⟩
      exact ⟨_, rfl, hzeroed⟩
  | some i => exact carriedOver_execute i _ _ hzeroed ret next

theorem carriedOver_emuWriteReg (regno : ℤ) (data : List UInt8) :
    CarriedOver fun emu => emuWriteReg emu regno data := by
  refine CarriedOver.of_under fun emu control => ?_
  rw [emuWriteReg, emuWriteReg]
  split
  · rfl
  · cases inBounds (Block.read? data 0 regsz) with
    | error fault => rfl
    | ok bytes =>
        show (if regno = 32 then _ else _) = Except.map _ (if regno = 32 then _ else _)
        split
        · rfl
        · split
          · rfl
          · rfl

theorem carriedOver_emuWriteMem (addr len : ℕ) (val : List UInt8) :
    CarriedOver fun emu => emuWriteMem emu addr len val := by
  refine CarriedOver.of_under fun emu control => ?_
  rw [emuWriteMem, emuWriteMem]
  split
  · rfl
  · cases inBounds (Block.read? val 0 len) with
    | error fault => rfl
    | ok bytes =>
        show emu.m.write addr bytes >>= _ = Except.map _ (emu.m.write addr bytes >>= _)
        cases emu.m.write addr bytes with
        | error fault => rfl
        | ok m => rfl

/-! ## Single steps -/

namespace Debugged

/-- What a request comes to: a single step if an instruction is executed, the request itself if it
writes, and nothing otherwise. -/
def comesTo (debugged : Debugged) : Request → List Request
  | .writeReg regno data => [.writeReg regno data]
  | .writeMem addr len val => [.writeMem addr len val]
  | .stepi => if debugged.emu.pc < debugged.emu.m.codeSize then [.stepi] else []
  | .turn => if emuContTest debugged.emu then [.stepi] else []
  | .setBp _ _ | .delBp _ _ | .readReg _ | .readMem _ _ | .cont => []

/-- What the requests of a run come to. -/
def singleSteps (debugged : Debugged) : List Request → List Request
  | [] => []
  | request :: requests =>
      match debugged.step request with
      | none => []
      | some next => debugged.comesTo request ++ next.singleSteps requests

end Debugged

/-- A single step of a machine executes what any step of it does. -/
theorem emuStepi_of_same {emu other next : Emu} {ret : Int32} (hsame : SameMachine emu other)
    (hinside : emu.pc < emu.m.codeSize) (hrun : emuFetchExec emu = .ok (ret, next)) :
    ∃ after, emuStepi other = .ok (.resume, after) ∧ SameMachine next after := by
  have hstarted : SameMachine emu (emuStartRun other) := ⟨hsame.m, hsame.x, hsame.pc⟩
  obtain ⟨after, hafter, hnext⟩ :=
    carriedOver_emuFetchExec emu (emuStartRun other) hstarted ret next hrun
  refine ⟨after, ?_, hnext⟩
  rw [emuStepi]
  dsimp only
  rw [if_pos (by rw [hstarted.pc, hstarted.m]; exact hinside), hafter]
  rfl

/-- The plain debugger is outside the loop, with the same machine. -/
structure Debugged.PlainOf (debugged plain : Debugged) : Prop where
  inLoop : plain.inLoop = false
  same : SameMachine debugged.emu plain.emu

section

variable (m : Mem) {debugged plain next : Debugged}

/-- A request outside the loop. -/
theorem runFrom_request {request : Request} (hloop : plain.inLoop = false) {after : Debugged}
    (hrequest : plain.request request = some after) :
    (debugging m).runFrom plain [request] = some after := by
  have hstep : (debugging m).step plain request = some after := by
    show plain.step request = some after
    unfold Debugged.step
    rw [hloop, if_neg (by decide), hrequest]
  rw [Machine.runFrom_cons, hstep]
  rfl

/-- An instruction is executed, and the plain debugger takes a single step. -/
theorem plainOf_stepi (hloop : plain.inLoop = false) {emu executed : Emu} {ret : Int32}
    (hsame : SameMachine emu plain.emu) (hinside : emu.pc < emu.m.codeSize)
    (hrun : emuFetchExec emu = .ok (ret, executed)) (hnext : next.emu = executed) :
    ∃ after, (debugging m).runFrom plain [.stepi] = some after ∧ next.PlainOf after := by
  subst hnext
  obtain ⟨after, hstepi, hafter⟩ := emuStepi_of_same hsame hinside hrun
  have hrequest : plain.request .stepi = some
      { plain with
        emu := after
        log := if plain.emu.pc < plain.emu.m.codeSize then
          .executed plain.emu false :: plain.log else plain.log } := by
    rw [Debugged.request, hstepi]
  exact ⟨_, runFrom_request m hloop hrequest, hloop, hafter⟩

/-- A turn of the loop. -/
theorem plainOf_turn (hplain : debugged.PlainOf plain) (hturn : debugged.turn = some next) :
    ∃ after, (debugging m).runFrom plain (debugged.comesTo .turn) = some after ∧
      next.PlainOf after := by
  rw [Debugged.turn] at hturn
  dsimp only at hturn
  rw [Debugged.comesTo]
  by_cases htest : emuContTest debugged.emu = true
  · have hinside := (emuContTest_true htest).1
    have hexecuted (act : Option Action) (emu : Emu)
        (hbody : emuContBody debugged.emu = .ok (act, emu)) :
        ∃ ret, emuFetchExec debugged.emu = .ok (ret, emu) := by
      rw [emuContBody_eq] at hbody
      obtain ⟨⟨ret, after⟩, hrun, hrest⟩ := Except.ok_bind_iff.mp hbody
      dsimp only at hrest
      split at hrest
      · cases hrest
        exact ⟨ret, hrun⟩
      · cases hrest
        exact ⟨ret, hrun⟩
    rw [if_pos htest] at hturn ⊢
    rcases hbody : emuContBody debugged.emu with fault | ⟨_ | act, emu⟩
    · rw [hbody] at hturn
      cases hturn
    · rw [hbody] at hturn
      cases hturn
      obtain ⟨ret, hrun⟩ := hexecuted none emu hbody
      exact plainOf_stepi m hplain.inLoop hplain.same hinside hrun rfl
    · rw [hbody] at hturn
      cases hturn
      obtain ⟨ret, hrun⟩ := hexecuted (some act) emu hbody
      exact plainOf_stepi m hplain.inLoop hplain.same hinside hrun rfl
  · rw [if_neg htest] at hturn ⊢
    cases hturn
    exact ⟨plain, rfl, hplain.inLoop, hplain.same⟩

/-- A request outside the loop. -/
theorem plainOf_request (hplain : debugged.PlainOf plain) {request : Request}
    (hrequest : debugged.request request = some next) :
    ∃ after, (debugging m).runFrom plain (debugged.comesTo request) = some after ∧
      next.PlainOf after := by
  obtain ⟨hloop, hsame⟩ := hplain
  cases request with
  | setBp addr type =>
      -- breakpoints are none of the plain debugger's business, and it stays where it is
      cases hrequest
      refine ⟨plain, rfl, hloop, ?_⟩
      show SameMachine (emuSetBp debugged.emu addr type).2 plain.emu
      rw [emuSetBp]
      split
      · exact hsame
      · exact ⟨hsame.m, hsame.x, hsame.pc⟩
  | delBp addr type =>
      cases hrequest
      refine ⟨plain, rfl, hloop, ?_⟩
      show SameMachine (emuDelBp debugged.emu addr type).2 plain.emu
      rw [emuDelBp]
      split
      · exact hsame
      · exact ⟨hsame.m, hsame.x, hsame.pc⟩
  | readReg regno =>
      rw [Debugged.request] at hrequest
      split at hrequest
      · cases hrequest
      · cases hrequest
        exact ⟨plain, rfl, hloop, hsame⟩
  | writeReg regno data =>
      -- a write is made in the same words, in a state that is the same but for the control fields
      rw [Debugged.request] at hrequest
      split at hrequest
      · cases hrequest
      · rename_i ret emu hwrite
        cases hrequest
        obtain ⟨after, hafter, hnext⟩ := carriedOver_emuWriteReg regno data _ _ hsame ret emu hwrite
        have hplain : plain.request (.writeReg regno data) = some
            { plain with emu := after, log := .writeReg regno data :: plain.log } := by
          dsimp only at hafter
          rw [Debugged.request, hafter]
        exact ⟨_, runFrom_request m hloop hplain, hloop, hnext⟩
  | readMem addr len =>
      rw [Debugged.request] at hrequest
      split at hrequest
      · cases hrequest
      · cases hrequest
        exact ⟨plain, rfl, hloop, hsame⟩
  | writeMem addr len val =>
      rw [Debugged.request] at hrequest
      split at hrequest
      · cases hrequest
      · rename_i ret emu hwrite
        cases hrequest
        obtain ⟨after, hafter, hnext⟩ :=
          carriedOver_emuWriteMem addr len val _ _ hsame ret emu hwrite
        have hplain : plain.request (.writeMem addr len val) =
            some { plain with emu := after } := by
          dsimp only at hafter
          rw [Debugged.request, hafter]
        exact ⟨_, runFrom_request m hloop hplain, hloop, hnext⟩
  | stepi =>
      rw [Debugged.request] at hrequest
      split at hrequest
      · cases hrequest
      · rename_i act emu hstepi
        cases hrequest
        rw [Debugged.comesTo]
        rw [emuStepi] at hstepi
        dsimp only at hstepi
        -- behind the code a step does nothing, and there is no instruction to follow
        by_cases hinside : debugged.emu.pc < debugged.emu.m.codeSize
        · have hstarted : (emuStartRun debugged.emu).pc < (emuStartRun debugged.emu).m.codeSize :=
            hinside
          rw [if_pos hinside]
          rw [if_pos hstarted] at hstepi
          obtain ⟨⟨ret, executed⟩, hrun, hreturn⟩ := Except.ok_bind_iff.mp hstepi
          cases hreturn
          have hother : SameMachine (emuStartRun debugged.emu) plain.emu :=
            ⟨hsame.m, hsame.x, hsame.pc⟩
          exact plainOf_stepi m hloop hother hstarted hrun rfl
        · have hstarted : ¬ (emuStartRun debugged.emu).pc < (emuStartRun debugged.emu).m.codeSize :=
            hinside
          rw [if_neg hinside]
          rw [if_neg hstarted] at hstepi
          cases hstepi
          exact ⟨plain, rfl, hloop, hsame.m, hsame.x, hsame.pc⟩
  | cont =>
      cases hrequest
      exact ⟨plain, rfl, hloop, hsame.m, hsame.x, hsame.pc⟩
  | turn => cases hrequest

/-- **A step.**  The plain debugger follows with what the request comes to. -/
theorem plainOf_step (hplain : debugged.PlainOf plain) {request : Request}
    (hstep : debugged.step request = some next) :
    ∃ after, (debugging m).runFrom plain (debugged.comesTo request) = some after ∧
      next.PlainOf after := by
  unfold Debugged.step at hstep
  cases hloop : debugged.inLoop with
  | true =>
      rw [hloop, if_pos rfl] at hstep
      cases request with
      | turn => exact plainOf_turn m hplain hstep
      | _ => cases hstep
  | false =>
      rw [hloop, if_neg (by decide)] at hstep
      exact plainOf_request m hplain hstep

/-- The run, from any state of the two. -/
theorem plainOf_run {requests : List Request} {last : Debugged} (hplain : debugged.PlainOf plain)
    (hrun : (debugging m).runFrom debugged requests = some last) :
    ∃ after, (debugging m).runFrom plain (debugged.singleSteps requests) = some after ∧
      last.PlainOf after := by
  induction requests generalizing debugged plain with
  | nil =>
      cases hrun
      exact ⟨plain, rfl, hplain⟩
  | cons request requests ih =>
      rw [Machine.runFrom_cons] at hrun
      obtain ⟨next, hstep, hrest⟩ := Option.bind_eq_some_iff.mp hrun
      obtain ⟨middle, hmiddle, hplain⟩ := plainOf_step m hplain hstep
      obtain ⟨after, hafter, hlast⟩ := ih hplain hrest
      refine ⟨after, ?_, hlast⟩
      rw [Debugged.singleSteps, show debugged.step request = some next from hstep,
        Machine.runFrom_append, hmiddle]
      exact hafter

end

/-- **A debugger changes a program by its writes and by how far it lets it run, and by nothing
else.**  Whatever a debugger asks for, in any order, with breakpoints set and deleted, continues
and single steps: its writes, with a single step for every instruction that was executed between
them, lead to the same memory, the same registers and the same `pc`. -/
theorem debugging_eq_singleSteps {m : Mem} {requests : List Request} {debugged : Debugged}
    (hrun : (debugging m).run requests = some debugged) :
    ∃ plain, (debugging m).run ((debugging m).start.singleSteps requests) = some plain ∧
      plain.inLoop = false ∧ SameMachine debugged.emu plain.emu := by
  obtain ⟨plain, hplain, hlast⟩ := plainOf_run m ⟨rfl, rfl, rfl, rfl⟩ hrun
  exact ⟨plain, hplain, hlast.inLoop, hlast.same⟩

/-- A continue to a breakpoint behind the first instruction, a write and a step. -/
def breakpointRun : List Request :=
  [.setBp 4 0, .cont, .turn, .turn, .writeReg 1 [7, 0, 0, 0, 0, 0, 0, 0], .stepi]

theorem debugging_eq_singleSteps_breakpointRun :
    ∃ debugged plain, (debugging patchesItself.m).run breakpointRun = some debugged ∧
      (debugging patchesItself.m).run
        ((debugging patchesItself.m).start.singleSteps breakpointRun) = some plain ∧
      plain.inLoop = false ∧ SameMachine debugged.emu plain.emu := by
  have hsome : ((debugging patchesItself.m).run breakpointRun).isSome = true := by
    decide +kernel
  obtain ⟨debugged, hrun⟩ := Option.isSome_iff_exists.mp hsome
  obtain ⟨plain, hplain, hlast⟩ := debugging_eq_singleSteps hrun
  exact ⟨debugged, plain, hrun, hplain, hlast⟩

end MiniGdbstub
