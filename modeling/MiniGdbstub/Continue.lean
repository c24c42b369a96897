import MiniGdbstub.Debugging
import MiniGdbstub.Library.Loop

/-!
# A continue and single steps

`emu_cont` as one loop, without interrupts.  A debugger that steps instead of continuing, and stops
stepping for the first of the reasons below, comes to the same place (`continue_eq_steps`):

* before an instruction, that `pc` is at a breakpoint or behind the program;
* after one, that its word was no instruction, or that the program has written to `tohost`.

A continue has no other way to end, and it leaves what C defines exactly where the next step does.
-/

namespace MiniGdbstub

/-! ## The loop and the steps -/

/-- The loop of `emu_cont`. -/
def contLoop : Loop Fault Emu Action where
  test := emuContTest
  body := emuContBody
  otherwise := .resume

/-- `emu_cont`, if its loop is over after so many turns. -/
def emuCont (turns : ℕ) (emu : Emu) : Option (Except Fault (Action × Emu)) :=
  contLoop.run turns (emuStartRun emu)

/-- So many calls of `emu_stepi`. -/
def emuSteps (emu : Emu) : ℕ → Except Fault Emu
  | 0 => .ok emu
  | count + 1 => do
      let before ← emuSteps emu count
      let (_, after) ← emuStepi before
      return after

/-! ## Reasons to stop -/

/-- The byte at `TOHOST_ADDR`. -/
def Emu.tohost (emu : Emu) : UInt8 :=
  (emu.m.mem[tohostAddr]?).getD 0

/-- The reason that an instruction gives to stop. -/
def stopAfter (before after : Emu) : Option Action :=
  if before.current = none then some .resume
  else if after.tohost ≠ 0 then some .shutdown
  else none

/-- The reason not to execute the next one. -/
def stopBefore (emu : Emu) : Option Action :=
  if emuContTest emu then none else some .resume

/-- The reason to stop that the last of so many steps gives. -/
def stopAfterSteps (emu : Emu) : ℕ → Option Action
  | 0 => none
  | count + 1 =>
      match emuSteps emu count, emuSteps emu (count + 1) with
      | .ok before, .ok after => stopAfter before after
      | _, _ => none

/-- The reason to stop after so many steps. -/
def stopsAt (emu : Emu) (count : ℕ) : Option Action :=
  match emuSteps emu count with
  | .ok now => (stopAfterSteps emu count).or (stopBefore now)
  | .error _ => none

/-! ## A turn is a step -/

/-- The byte that the loop tests is in the memory. -/
theorem readLen_tohost (emu : Emu) :
    readLen 8 emu tohostAddr.toUInt64 = .ok emu.tohost.toUInt64 := by
  have hmem : emu.m.mem.length = memSize := emu.m.length_mem
  have hinside : tohostAddr < emu.m.mem.length := by
    rw [hmem]
    decide
  have haddr : tohostAddr.toUInt64.toNat = tohostAddr := by decide
  have hread : Block.read? emu.m.mem tohostAddr 1 = some [emu.m.mem[tohostAddr]] := by
    rw [Block.read?, if_pos (by omega), Block.slice, List.drop_eq_getElem_cons hinside,
      List.take_succ_cons, List.take_zero]
  rw [readLen, haddr, show 8 / 8 = 1 from rfl, hread, inBounds_some, Emu.tohost,
    List.getElem?_eq_getElem hinside, Option.getD_some]
  show Except.ok (littleEndian [emu.m.mem[tohostAddr]]) = _
  simp [littleEndian]

/-- The body of the loop, by what the step does that it starts with. -/
theorem emuContBody_eq (emu : Emu) :
    emuContBody emu = emuFetchExec emu >>= fun executed =>
      if executed.1 < 0 then return (some .resume, executed.2)
      else return (if executed.2.tohost ≠ 0 then some .shutdown else none, executed.2) := by
  have hbyte (byte : UInt8) : byte.toUInt64 ≠ 0 ↔ byte ≠ 0 := by
    rw [ne_eq, ne_eq, ← UInt8.toUInt64_inj]
    rfl
  have htested : ∀ executed : Int32 × Emu,
      (if executed.1 < 0 then
          (return (some .resume, executed.2) : Except Fault (Option Action × Emu))
        else do
          let value ← readLen 8 executed.2 tohostAddr.toUInt64
          return (if value ≠ 0 then some .shutdown else none, executed.2)) =
        if executed.1 < 0 then return (some .resume, executed.2)
        else return (if executed.2.tohost ≠ 0 then some .shutdown else none, executed.2) := by
    intro executed
    rw [readLen_tohost]
    show (if _ then _ else Except.ok (if executed.2.tohost.toUInt64 ≠ 0 then _ else _, _)) = _
    simp only [hbyte]
    rfl
  simp only [← htested]
  rw [emuContBody, emuFetchExec]
  cases emuReadMem emu emu.pc.toNat 4 with
  | error fault => rfl
  | ok fetched => rfl

theorem emuStartRun_of_running {emu : Emu} (hhalt : emu.halt = false) : emuStartRun emu = emu := by
  rw [emuStartRun, ← hhalt]

/-- **A turn of the loop.**  It ends with the reason not to execute the next instruction, or it is
a step, and ends with the reason that this gives. -/
theorem contLoop_turn {emu : Emu} (hhalt : emu.halt = false) :
    contLoop.turn emu =
      match stopBefore emu with
      | some act => .ok (some act, emu)
      | none => (emuStepi emu).map fun stepped => (stopAfter emu stepped.2, stepped.2) := by
  rw [Loop.turn, stopBefore]
  cases htest : contLoop.test emu with
  | false =>
      rw [if_neg (by decide), if_neg (by rw [show emuContTest emu = false from htest]; decide)]
      rfl
  | true =>
      have hinside := (emuContTest_true htest).1
      rw [if_pos rfl, if_pos (show emuContTest emu = true from htest)]
      show emuContBody emu = (emuStepi emu).map _
      rw [emuContBody_eq, emuStepi, emuStartRun_of_running hhalt]
      dsimp only
      rw [if_pos hinside]
      cases hexec : emuFetchExec emu with
      | error fault => rfl
      | ok executed =>
          obtain ⟨ret, next⟩ := executed
          have hinvalid := (emuFetchExec_spec hinside hexec).1
          show (if ret < 0 then _ else _) = Except.ok (stopAfter emu next, next)
          rw [stopAfter]
          by_cases hret : ret < 0
          · rw [if_pos hret, if_pos (hinvalid.mp hret)]
            rfl
          · rw [if_neg hret, if_neg fun hnone => hret (hinvalid.mpr hnone)]
            rfl

/-- A step leaves the flag clear. -/
theorem emuStepi_halt {emu next : Emu} {act : Action} (hstep : emuStepi emu = .ok (act, next)) :
    next.halt = false := by
  have hspec := emuStepi_spec hstep
  split at hspec
  · exact hspec.1.halt
  · rw [hspec]
    rfl

theorem emuSteps_succ {emu before : Emu} {count : ℕ} (hbefore : emuSteps emu count = .ok before) :
    emuSteps emu (count + 1) = (emuStepi before).map Prod.snd := by
  rw [emuSteps, hbefore]
  cases hstep : emuStepi before with
  | error fault => simp [hstep, bind, Except.bind, Except.map]
  | ok stepped => simp [hstep, bind, Except.bind, Except.map, pure, Except.pure]

theorem emuSteps_halt {emu : Emu} (hhalt : emu.halt = false) {count : ℕ} {now : Emu}
    (hnow : emuSteps emu count = .ok now) : now.halt = false := by
  cases count with
  | zero =>
      cases hnow
      exact hhalt
  | succ count =>
      obtain ⟨before, -, hlast⟩ := Except.ok_bind_iff.mp hnow
      obtain ⟨⟨act, after⟩, hstep, hreturn⟩ := Except.ok_bind_iff.mp hlast
      cases hreturn
      exact emuStepi_halt hstep

/-- A turn goes on exactly if there is no reason to stop before its step, and none after it. -/
theorem contLoop_turn_iff {emu : Emu} (hhalt : emu.halt = false) (next : Emu) :
    contLoop.turn emu = .ok (none, next) ↔
      stopBefore emu = none ∧ (emuStepi emu).map Prod.snd = .ok next ∧
        stopAfter emu next = none := by
  rw [contLoop_turn hhalt]
  cases stopBefore emu with
  | some act => simp
  | none =>
      cases emuStepi emu with
      | error fault => simp [Except.map]
      | ok stepped =>
          simp only [Except.map, Except.ok.injEq, Prod.mk.injEq, true_and]
          constructor
          · rintro ⟨hafter, rfl⟩
            exact ⟨rfl, hafter⟩
          · rintro ⟨rfl, hafter⟩
            exact ⟨hafter, rfl⟩

/-- The ways in which the loop is over after a turn. -/
theorem contLoop_ending {emu : Emu} (hhalt : emu.halt = false) :
    contLoop.ending emu =
      match stopBefore emu with
      | some act => some (.ok (act, emu))
      | none =>
          match (emuStepi emu).map Prod.snd with
          | .error fault => some (.error fault)
          | .ok next => (stopAfter emu next).map fun act => .ok (act, next) := by
  rw [Loop.ending, Loop.run, contLoop_turn hhalt]
  cases stopBefore emu with
  | some act => rfl
  | none =>
      cases emuStepi emu with
      | error fault => rfl
      | ok stepped =>
          simp only [Except.map]
          cases stopAfter emu stepped.2 with
          | none => rfl
          | some act => rfl

/-! ## The whole loop -/

section

variable {start : Emu} (hhalt : start.halt = false)

theorem stopAfterSteps_succ {count : ℕ} {before after : Emu}
    (hbefore : emuSteps start count = .ok before)
    (hafter : emuSteps start (count + 1) = .ok after) :
    stopAfterSteps start (count + 1) = stopAfter before after := by
  rw [stopAfterSteps, hbefore, hafter]

theorem stopsAt_eq {count : ℕ} {now : Emu} (hnow : emuSteps start count = .ok now) :
    stopsAt start count = (stopAfterSteps start count).or (stopBefore now) := by
  rw [stopsAt, hnow]

/-- There are steps before a step. -/
theorem emuSteps_of_succ {count : ℕ} {after : Emu}
    (hafter : emuSteps start (count + 1) = .ok after) :
    ∃ before, emuSteps start count = .ok before ∧
      (emuStepi before).map Prod.snd = .ok after := by
  obtain ⟨before, hbefore, -⟩ := Except.ok_bind_iff.mp hafter
  exact ⟨before, hbefore, (emuSteps_succ hbefore).symm.trans hafter⟩

include hhalt

/-- Turns that go on are steps without a reason to stop. -/
theorem goesOn_iff (count : ℕ) (now : Emu) :
    contLoop.GoesOn count start now ↔
      emuSteps start count = .ok now ∧ stopAfterSteps start count = none ∧
        ∀ earlier < count, stopsAt start earlier = none := by
  induction count generalizing now with
  | zero =>
      constructor
      · intro hnone
        cases hnone
        exact ⟨rfl, rfl, fun _ hlt => absurd hlt (Nat.not_lt_zero _)⟩
      · rintro ⟨hnow, -, -⟩
        cases hnow
        exact .refl start
  | succ count ih =>
      rw [Loop.goesOn_succ_iff]
      constructor
      · rintro ⟨before, hgoesOn, hturn⟩
        obtain ⟨hbefore, hnone, hearlier⟩ := (ih before).mp hgoesOn
        obtain ⟨hgo, hstep, hafter⟩ :=
          (contLoop_turn_iff (emuSteps_halt hhalt hbefore) now).mp hturn
        have hnow : emuSteps start (count + 1) = .ok now := (emuSteps_succ hbefore).trans hstep
        refine ⟨hnow, (stopAfterSteps_succ hbefore hnow).trans hafter, fun earlier hlt => ?_⟩
        rcases Nat.lt_succ_iff_lt_or_eq.mp hlt with hlt | rfl
        · exact hearlier earlier hlt
        · rw [stopsAt_eq hbefore, hnone, hgo]
          rfl
      · rintro ⟨hnow, hafter, hearlier⟩
        obtain ⟨before, hbefore, hstep⟩ := emuSteps_of_succ hnow
        have hlast := hearlier count (Nat.lt_succ_self count)
        rw [stopsAt_eq hbefore, Option.or_eq_none_iff] at hlast
        rw [stopAfterSteps_succ hbefore hnow] at hafter
        refine ⟨before, (ih before).mpr ⟨hbefore, hlast.1, fun earlier hlt => ?_⟩, ?_⟩
        · exact hearlier earlier (Nat.lt_succ_of_lt hlt)
        · exact (contLoop_turn_iff (emuSteps_halt hhalt hbefore) now).mpr ⟨hlast.2, hstep, hafter⟩

/-- The loop returns at the first reason to stop. -/
theorem contLoop_returns_iff (act : Action) (next : Emu) :
    (∃ turns, contLoop.run turns start = some (.ok (act, next))) ↔
      ∃ count, emuSteps start count = .ok next ∧ stopsAt start count = some act ∧
        ∀ earlier < count, stopsAt start earlier = none := by
  rw [Loop.exists_run_iff]
  constructor
  · rintro ⟨before, last, hgoesOn, hending⟩
    obtain ⟨hlast, hnone, hearlier⟩ := (goesOn_iff hhalt before last).mp hgoesOn
    rw [contLoop_ending (emuSteps_halt hhalt hlast)] at hending
    cases hstop : stopBefore last with
    | some act' =>
        rw [hstop] at hending
        cases hending
        exact ⟨before, hlast, by rw [stopsAt_eq hlast, hnone, hstop, Option.none_or], hearlier⟩
    | none =>
        rw [hstop] at hending
        cases hstep : (emuStepi last).map Prod.snd with
        | error fault =>
            rw [hstep] at hending
            cases hending
        | ok after =>
            rw [hstep] at hending
            obtain ⟨act', hafter, heq⟩ := Option.map_eq_some_iff.mp hending
            cases heq
            have hnext : emuSteps start (before + 1) = .ok next :=
              (emuSteps_succ hlast).trans hstep
            refine ⟨before + 1, hnext, ?_, fun earlier hlt => ?_⟩
            · rw [stopsAt_eq hnext, stopAfterSteps_succ hlast hnext, hafter, Option.some_or]
            · rcases Nat.lt_succ_iff_lt_or_eq.mp hlt with hlt | rfl
              · exact hearlier earlier hlt
              · rw [stopsAt_eq hlast, hnone, hstop, Option.none_or]
  · rintro ⟨count, hnext, hstops, hearlier⟩
    rw [stopsAt_eq hnext] at hstops
    cases hnone : stopAfterSteps start count with
    | none =>
        -- the reason is one not to execute the next instruction
        rw [hnone, Option.none_or] at hstops
        refine ⟨count, next, (goesOn_iff hhalt count next).mpr ⟨hnext, hnone, hearlier⟩, ?_⟩
        rw [contLoop_ending (emuSteps_halt hhalt hnext), hstops]
    | some act' =>
        rw [hnone, Option.some_or] at hstops
        obtain rfl := Option.some.inj hstops
        cases count with
        | zero => cases hnone
        | succ count =>
            obtain ⟨before, hbefore, hstep⟩ := emuSteps_of_succ hnext
            have hlast := hearlier count (Nat.lt_succ_self count)
            rw [stopsAt_eq hbefore, Option.or_eq_none_iff] at hlast
            rw [stopAfterSteps_succ hbefore hnext] at hnone
            refine ⟨count, before, (goesOn_iff hhalt count before).mpr ⟨hbefore, hlast.1,
              fun earlier hlt => hearlier earlier (Nat.lt_succ_of_lt hlt)⟩, ?_⟩
            rw [contLoop_ending (emuSteps_halt hhalt hbefore), hlast.2, hstep]
            simp only [hnone, Option.map_some]

/-- The loop leaves what C defines where the next step does. -/
theorem contLoop_faults_iff (fault : Fault) :
    (∃ turns, contLoop.run turns start = some (.error fault)) ↔
      ∃ count, emuSteps start (count + 1) = .error fault ∧
        (∃ before, emuSteps start count = .ok before) ∧
        ∀ earlier ≤ count, stopsAt start earlier = none := by
  rw [Loop.exists_run_iff]
  constructor
  · rintro ⟨before, last, hgoesOn, hending⟩
    obtain ⟨hlast, hnone, hearlier⟩ := (goesOn_iff hhalt before last).mp hgoesOn
    rw [contLoop_ending (emuSteps_halt hhalt hlast)] at hending
    -- a turn that tests a reason to stop does not step
    cases hstop : stopBefore last with
    | some act =>
        rw [hstop] at hending
        cases hending
    | none =>
        rw [hstop] at hending
        cases hstep : (emuStepi last).map Prod.snd with
        | error fault' =>
            rw [hstep] at hending
            cases hending
            refine ⟨before, (emuSteps_succ hlast).trans hstep, ⟨last, hlast⟩, fun earlier hle => ?_⟩
            rcases Nat.lt_or_eq_of_le hle with hlt | rfl
            · exact hearlier earlier hlt
            · rw [stopsAt_eq hlast, hnone, hstop, Option.none_or]
        | ok after =>
            rw [hstep] at hending
            obtain ⟨act, -, heq⟩ := Option.map_eq_some_iff.mp hending
            cases heq
  · rintro ⟨count, hfault, ⟨before, hbefore⟩, hearlier⟩
    have hlast := hearlier count (Nat.le_refl count)
    rw [stopsAt_eq hbefore, Option.or_eq_none_iff] at hlast
    refine ⟨count, before, (goesOn_iff hhalt count before).mpr ⟨hbefore, hlast.1,
      fun earlier hlt => hearlier earlier (Nat.le_of_lt hlt)⟩, ?_⟩
    rw [contLoop_ending (emuSteps_halt hhalt hbefore), hlast.2,
      (emuSteps_succ hbefore).symm.trans hfault]

end

/-- **A continue is as many single steps as it takes to the first reason to stop.**  For every
state of the emulator: `emu_cont` returns an action and leaves the emulator in a state exactly if
steps from the same state come to that state, the last of them is the first after which there is a
reason to stop, and the reason gives the action; and it leaves what C defines exactly if a step does
before there was a reason. -/
theorem continue_eq_steps (emu : Emu) :
    (∀ act next, (∃ turns, emuCont turns emu = some (.ok (act, next))) ↔
      ∃ count, emuSteps (emuStartRun emu) count = .ok next ∧
        stopsAt (emuStartRun emu) count = some act ∧
        ∀ earlier < count, stopsAt (emuStartRun emu) earlier = none) ∧
      ∀ fault, (∃ turns, emuCont turns emu = some (.error fault)) ↔
        ∃ count, emuSteps (emuStartRun emu) (count + 1) = .error fault ∧
          (∃ before, emuSteps (emuStartRun emu) count = .ok before) ∧
          ∀ earlier ≤ count, stopsAt (emuStartRun emu) earlier = none :=
  ⟨contLoop_returns_iff rfl, contLoop_faults_iff rfl⟩

end MiniGdbstub
