import MiniGdbstub.Debugging

/-!
# The breakpoint of the reference target

`emu_del_bp` clears `bp_is_set` and stores 0 in `bp_addr`, and the loop of `emu_cont` looks at
`bp_addr` only.  The two fields are tied to the history of the requests as long as no breakpoint
was deleted: `bp_addr` is then the breakpoint or -1, where no program ends.  After a breakpoint
was deleted and while there is no other, `emu_cont` stops at address 0 for no reason
(`stopsForReason_iff`).
-/

namespace MiniGdbstub

open Rv64i

/-! ## What the log says -/

/-- The breakpoint: set by a successful `emu_set_bp`, and not deleted since. -/
def breakpoint : List LogEntry → Option UInt64
  | [] => none
  | .setBp addr true :: _ => some addr
  | .delBp addr type :: before =>
      if type = bpSoftware ∧ breakpoint before = some addr then none else breakpoint before
  | _ :: before => breakpoint before

/-- A breakpoint was deleted at some time. -/
def deleted : List LogEntry → Bool
  | [] => false
  | .delBp addr type :: before =>
      decide (type = bpSoftware ∧ breakpoint before = some addr) || deleted before
  | _ :: before => deleted before

/-- The last thing that happened is that `emu_cont` came across a word that is no instruction. -/
def LastInvalid : List LogEntry → Prop
  | .executed emu true :: _ => emu.current = none
  | _ => False

/-- `emu_cont` returns `ACT_RESUME` for one of the three reasons, and it executes no instruction
at a breakpoint. -/
def Justified : LogEntry → List LogEntry → Prop
  | .returned .resume emu, before =>
      emu.m.codeSize ≤ emu.pc ∨ LastInvalid before ∨ breakpoint before = some emu.pc
  | .executed emu true, before => breakpoint before ≠ some emu.pc
  | _, _ => True

/-- All that happened is justified by what happened before. -/
def StopsForReason : List LogEntry → Prop
  | [] => True
  | entry :: before => Justified entry before ∧ StopsForReason before

/-- The loop is not tested at address 0, with a program there and without a breakpoint, after a
breakpoint was deleted. -/
def TestsFresh (debugged : Debugged) : Request → Prop
  | .turn => debugged.emu.pc = 0 → 0 < debugged.emu.m.codeSize →
      breakpoint debugged.log = none → deleted debugged.log = false
  | _ => True

instance (debugged : Debugged) : ∀ request, Decidable (TestsFresh debugged request)
  | .turn => inferInstanceAs (Decidable (debugged.emu.pc = 0 → 0 < debugged.emu.m.codeSize →
      breakpoint debugged.log = none → deleted debugged.log = false))
  | .setBp .. | .delBp .. | .readReg .. | .writeReg .. | .readMem .. | .writeMem .. | .stepi |
    .cont => inferInstanceAs (Decidable True)

/-! ## The two fields -/

/-- What every run keeps: the two fields of the emulator and the history of the requests. -/
structure Debugged.Controlled (debugged : Debugged) : Prop where
  set : breakpoint debugged.log =
    if debugged.emu.bpIsSet then some debugged.emu.bpAddr else none
  unset : debugged.emu.bpIsSet = false →
    debugged.emu.bpAddr = if deleted debugged.log then 0 else -1
  halt : debugged.inLoop = true → debugged.emu.halt = false
  valid : ¬ LastInvalid debugged.log

namespace Debugged.Controlled

theorem start (m : Mem) : (debugging m).start.Controlled where
  set := rfl
  unset _ := rfl
  halt hloop := by cases hloop
  valid := id

section

variable {debugged : Debugged} (hcontrolled : debugged.Controlled)
include hcontrolled

/-- What is neither a set nor a delete changes nothing. -/
theorem same {next : Emu} {inLoop : Bool} {log : List LogEntry}
    (hbpIsSet : next.bpIsSet = debugged.emu.bpIsSet) (hbpAddr : next.bpAddr = debugged.emu.bpAddr)
    (hset : breakpoint log = breakpoint debugged.log)
    (hdeleted : deleted log = deleted debugged.log) (hvalid : ¬ LastInvalid log)
    (hhalt : inLoop = true → next.halt = false) :
    Debugged.Controlled { emu := next, inLoop := inLoop, log := log } where
  set := by
    show breakpoint log = if next.bpIsSet then some next.bpAddr else none
    rw [hset, hbpIsSet, hbpAddr, hcontrolled.set]
  unset hclear := by
    show next.bpAddr = if deleted log then 0 else -1
    rw [hbpAddr, hdeleted]
    exact hcontrolled.unset (hbpIsSet ▸ hclear)
  halt := hhalt
  valid := hvalid

theorem setBp (addr : UInt64) (type : ℕ) (houtside : debugged.inLoop ≠ true) :
    Debugged.Controlled
      { debugged with
        emu := (emuSetBp debugged.emu addr type).2
        log := .setBp addr (emuSetBp debugged.emu addr type).1 :: debugged.log } := by
  by_cases hrefused : type ≠ bpSoftware ∨ debugged.emu.bpIsSet
  · rw [emuSetBp, if_pos hrefused]
    exact hcontrolled.same rfl rfl rfl rfl id fun hinside => absurd hinside houtside
  · rw [emuSetBp, if_neg hrefused]
    exact ⟨rfl, Bool.noConfusion, fun hinside => absurd hinside houtside, id⟩

/-- A delete takes effect exactly if it is one of the breakpoint. -/
theorem effective_iff (addr : UInt64) (type : ℕ) :
    (type = bpSoftware ∧ breakpoint debugged.log = some addr) ↔
      ¬ (type ≠ bpSoftware ∨ debugged.emu.bpIsSet = false ∨ debugged.emu.bpAddr ≠ addr) := by
  rw [hcontrolled.set]
  cases debugged.emu.bpIsSet <;> simp

theorem delBp (addr : UInt64) (type : ℕ) (houtside : debugged.inLoop ≠ true) :
    Debugged.Controlled
      { debugged with
        emu := (emuDelBp debugged.emu addr type).2
        log := .delBp addr type :: debugged.log } := by
  have heffective := hcontrolled.effective_iff addr type
  by_cases hignored : type ≠ bpSoftware ∨ debugged.emu.bpIsSet = false ∨
      debugged.emu.bpAddr ≠ addr
  · have hnone : ¬ (type = bpSoftware ∧ breakpoint debugged.log = some addr) :=
      fun hboth => heffective.mp hboth hignored
    rw [emuDelBp, if_pos hignored]
    refine hcontrolled.same rfl rfl (if_neg hnone) ?_ id fun hinside => absurd hinside houtside
    rw [deleted, decide_eq_false hnone, Bool.false_or]
  · have hboth := heffective.mpr hignored
    rw [emuDelBp, if_neg hignored]
    refine ⟨if_pos hboth, fun _ => ?_, fun hinside => absurd hinside houtside, id⟩
    show 0 = if deleted (.delBp addr type :: debugged.log) then 0 else -1
    rw [deleted, decide_eq_true hboth, Bool.true_or, if_pos rfl]

end

end Debugged.Controlled

/-! ## A turn of the loop -/

namespace Debugged.Controlled

variable {debugged next : Debugged}

/-- **A stop.**  The loop ends for a reason exactly if the test is fresh. -/
theorem stop_justified_iff (hcontrolled : debugged.Controlled) (hloop : debugged.inLoop = true)
    (htest : emuContTest debugged.emu = false) :
    Justified (.returned .resume debugged.emu) debugged.log ↔ TestsFresh debugged .turn := by
  show (_ ∨ _ ∨ breakpoint debugged.log = _) ↔ (_ → _ → breakpoint debugged.log = none → _)
  rcases emuContTest_false htest (hcontrolled.halt hloop) with hend | hpc
  · refine iff_of_true (.inl hend) fun hzero hpos => ?_
    rw [hzero] at hend
    exact absurd hpos (UInt64.not_lt.mpr hend)
  · have hset := hcontrolled.set
    have hunset := hcontrolled.unset
    cases hbp : debugged.emu.bpIsSet with
    | true =>
        rw [hbp, if_pos rfl, ← hpc] at hset
        exact iff_of_true (.inr (.inr hset)) fun _ _ hnone => by rw [hset] at hnone; cases hnone
    | false =>
        rw [hbp, if_neg (by decide)] at hset
        rw [hunset hbp] at hpc
        cases hdeleted : deleted debugged.log with
        | true =>
            -- nothing but the address of the last breakpoint deleted stopped the loop
            rw [hdeleted, if_pos rfl] at hpc
            constructor
            · rintro (hend | hinvalid | hat) hzero hpos -
              · rw [hzero] at hend
                exact absurd hpos (UInt64.not_lt.mpr hend)
              · exact absurd hinvalid hcontrolled.valid
              · rw [hset] at hat
                cases hat
            · intro hfresh
              refine .inl (UInt64.not_lt.mp fun hinside => ?_)
              cases hfresh hpc (hpc ▸ hinside) hset
        | false =>
            rw [hdeleted, if_neg (by decide)] at hpc
            refine iff_of_true (.inl ?_) fun _ _ _ => rfl
            have hsize := debugged.emu.m.codeSize_le
            rw [hpc, UInt64.le_iff_toNat_le]
            exact hsize.trans (by decide)

/-- The loop executes no instruction at a breakpoint. -/
theorem executed_justified (hcontrolled : debugged.Controlled)
    (htest : emuContTest debugged.emu = true) :
    Justified (.executed debugged.emu true) debugged.log := by
  have hpc := (emuContTest_true htest).2
  show breakpoint debugged.log ≠ some debugged.emu.pc
  rw [hcontrolled.set]
  cases debugged.emu.bpIsSet with
  | true => simpa using Ne.symm hpc
  | false => simp

/-- A test that is passed is fresh. -/
theorem fresh_of_test (hcontrolled : debugged.Controlled)
    (htest : emuContTest debugged.emu = true) : TestsFresh debugged .turn := by
  intro hzero _ hnone
  by_contra hdeleted
  have hclear : debugged.emu.bpIsSet = false := by
    by_contra hbp
    rw [hcontrolled.set, Bool.of_not_eq_false hbp, if_pos rfl] at hnone
    cases hnone
  have haddr := hcontrolled.unset hclear
  rw [Bool.of_not_eq_false hdeleted, if_pos rfl] at haddr
  exact (emuContTest_true htest).2 (hzero.trans haddr.symm)

/-- **The step.**  Each move keeps the two fields, and it is justified exactly if it tests
fresh. -/
theorem step (hcontrolled : debugged.Controlled) {request : Request}
    (hstep : debugged.step request = some next) :
    next.Controlled ∧
      (StopsForReason next.log ↔ StopsForReason debugged.log ∧ TestsFresh debugged request) := by
  have houtside (hloop : debugged.inLoop = false) : debugged.inLoop ≠ true :=
    Bool.eq_false_iff.mp hloop
  cases debugMove_of_step hstep with
  | setBp addr type hloop =>
      refine ⟨hcontrolled.setBp addr type (houtside hloop), ?_⟩
      simp [StopsForReason, Justified, TestsFresh]
  | delBp addr type hloop =>
      refine ⟨hcontrolled.delBp addr type (houtside hloop), ?_⟩
      simp [StopsForReason, Justified, TestsFresh]
  | readReg hloop =>
      refine ⟨hcontrolled.same rfl rfl rfl rfl id fun hinside =>
        absurd hinside (houtside hloop), ?_⟩
      simp [StopsForReason, Justified, TestsFresh]
  | writeReg hloop hwrite =>
      obtain ⟨hbpIsSet, hbpAddr, -⟩ := emuWriteReg_control hwrite
      refine ⟨hcontrolled.same hbpIsSet hbpAddr rfl rfl id fun hinside =>
        absurd hinside (houtside hloop), ?_⟩
      simp [StopsForReason, Justified, TestsFresh]
  | readMem =>
      refine ⟨hcontrolled, ?_⟩
      simp [TestsFresh]
  | writeMem m hloop =>
      refine ⟨hcontrolled.same rfl rfl rfl rfl hcontrolled.valid fun hinside =>
        absurd hinside (houtside hloop), ?_⟩
      simp [TestsFresh]
  | stepi hloop hexec =>
      refine ⟨hcontrolled.same hexec.bpIsSet hexec.bpAddr rfl rfl id fun hinside =>
        absurd hinside (houtside hloop), ?_⟩
      simp [StopsForReason, Justified, TestsFresh]
  | stepiOutside =>
      refine ⟨hcontrolled.same rfl rfl rfl rfl hcontrolled.valid fun _ => rfl, ?_⟩
      simp [TestsFresh]
  | cont =>
      refine ⟨hcontrolled.same rfl rfl rfl rfl hcontrolled.valid fun _ => rfl, ?_⟩
      simp [TestsFresh]
  | goOn hloop htest hexec hhalt hvalid =>
      refine ⟨hcontrolled.same hexec.bpIsSet hexec.bpAddr rfl rfl hvalid fun _ => ?_, ?_⟩
      · rw [hhalt, hcontrolled.halt hloop]
      · have hexecuted := hcontrolled.executed_justified htest
        have hfresh := hcontrolled.fresh_of_test htest
        exact ⟨fun hall => ⟨hall.2, hfresh⟩, fun hboth => ⟨hexecuted, hboth.1⟩⟩
  | @finish act after _ htest hexec hresume =>
      -- the log has two more entries: the instruction, and the return after it
      refine ⟨hcontrolled.same hexec.bpIsSet hexec.bpAddr rfl rfl id nofun, ?_⟩
      have hexecuted := hcontrolled.executed_justified htest
      have hfresh := hcontrolled.fresh_of_test htest
      have hreturned : Justified (.returned act after)
          (.executed debugged.emu true :: debugged.log) := by
        cases act with
        | resume => exact .inr (.inl (hresume rfl))
        | _ => trivial
      exact ⟨fun hall => ⟨hall.2.2, hfresh⟩, fun hboth => ⟨hreturned, hexecuted, hboth.1⟩⟩
  | stop hloop htest =>
      have hstop := hcontrolled.stop_justified_iff hloop htest
      refine ⟨hcontrolled.same rfl rfl rfl rfl id nofun, ?_⟩
      exact ⟨fun hall => ⟨hall.2, hstop.mp hall.1⟩, fun hboth => ⟨hstop.mpr hboth.2, hboth.1⟩⟩

end Debugged.Controlled

/-- **The emulator stops only for a reason, except at address 0.**  For every program and every
sequence of requests: each `ACT_RESUME` of `emu_cont` is justified, and none of its instructions is
at a breakpoint, if and only if its loop never comes to address 0 while no breakpoint is set and one
was deleted. -/
theorem stopsForReason_iff {m : Mem} {requests : List Request} {debugged : Debugged}
    (hrun : (debugging m).run requests = some debugged) :
    StopsForReason debugged.log ↔ (debugging m).Guarded TestsFresh requests :=
  Machine.run_iff_guarded ⟨Debugged.Controlled.start m, trivial⟩
    (fun _ _ _ hcontrolled hstep => Debugged.Controlled.step hcontrolled hstep) hrun

/-- Two instructions that do nothing. -/
def twoNops : Mem :=
  Mem.load [0x13, 0x00, 0x00, 0x00, 0x13, 0x00, 0x00, 0x00] (by decide)

/-- A breakpoint at the second instruction stops the loop there, and after it was deleted the loop
ends behind the program. -/
theorem stopsForReason_iff_secondNop :
    ∃ debugged, (debugging twoNops).run
        [.setBp 4 bpSoftware, .cont, .turn, .turn, .delBp 4 bpSoftware, .cont, .turn, .turn] =
          some debugged ∧ StopsForReason debugged.log := by
  have hsome : ((debugging twoNops).run
      [.setBp 4 bpSoftware, .cont, .turn, .turn, .delBp 4 bpSoftware, .cont, .turn,
        .turn]).isSome = true := by
    decide +kernel
  obtain ⟨debugged, hrun⟩ := Option.isSome_iff_exists.mp hsome
  exact ⟨debugged, hrun, (stopsForReason_iff hrun).mpr (by decide +kernel)⟩

/-- A breakpoint is set at 8 and deleted, and a continue from 0 executes nothing. -/
theorem deletedBreakpoint_stops :
    ∃ debugged, (debugging twoNops).run
        [.setBp 8 bpSoftware, .delBp 8 bpSoftware, .cont, .turn] = some debugged ∧
      breakpoint debugged.log = none ∧ debugged.emu.pc = 0 ∧
      debugged.log.head? = some (.returned .resume debugged.emu) ∧
      ¬ StopsForReason debugged.log := by
  refine ⟨_, rfl, rfl, rfl, rfl, ?_⟩
  rintro ⟨hend | hinvalid | hat, -⟩
  · exact absurd hend (by decide)
  · exact hinvalid
  · cases hat

end MiniGdbstub
