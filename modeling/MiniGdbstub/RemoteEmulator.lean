import MiniGdbstub.Breakpoints
import MiniGdbstub.Server
import MiniGdbstub.SingleSteps

/-!
# The emulator behind the stub

`emu_ops`, and the stub that `main` of `emu.c` runs.  An operation of the emulator may not come
back: it leaves what C defines, or the program that it continues does not stop.  Then there is no
target any more, and no reply from then on means anything.

As long as there is one, it is where a debugger without any packets takes it (`emulator_debugged`):
what is said about the runs of `debugging` holds of the emulator behind a socket.
-/

namespace MiniGdbstub

open CString Layout

/-! ## The operations -/

/-- An operation of the emulator, as long as all of them have come back. -/
def hosted {α : Type} (lost : α) (op : Emu → Option (α × Emu)) : Option Emu → α × Option Emu
  | none => (lost, none)
  | some emu =>
      match op emu with
      | none => (lost, none)
      | some (value, next) => (value, some next)

/-- An operation that reads. -/
def hostedRead (op : Emu → Except Fault (Int32 × List UInt8)) :
    Option Emu → (Int32 × List UInt8) × Option Emu :=
  hosted (efault, []) fun emu => (op emu).toOption.map (·, emu)

section

variable {α : Type} {lost : α} {op : Emu → Option (α × Emu)}

/-- An operation that has come back. -/
theorem hosted_some {target : Option Emu} {next : Emu}
    (hhosted : (hosted lost op target).2 = some next) :
    ∃ emu value, target = some emu ∧ op emu = some (value, next) ∧
      hosted lost op target = (value, some next) := by
  cases target with
  | none => cases hhosted
  | some emu =>
      rw [hosted] at hhosted ⊢
      rcases hop : op emu with _ | ⟨value, other⟩
      · rw [hop] at hhosted
        cases hhosted
      · rw [hop] at hhosted
        cases hhosted
        exact ⟨emu, value, rfl, hop, rfl⟩

theorem hostedRead_some {op : Emu → Except Fault (Int32 × List UInt8)} {target : Option Emu}
    {next : Emu} (hhosted : (hostedRead op target).2 = some next) :
    ∃ read, target = some next ∧ op next = .ok read ∧
      hostedRead op target = (read, some next) := by
  obtain ⟨emu, read, rfl, hop, hresult⟩ := hosted_some hhosted
  obtain ⟨found, hfound, hpair⟩ := Option.map_eq_some_iff.mp hop
  cases hpair
  refine ⟨read, rfl, ?_, hresult⟩
  cases hread : op next with
  | error fault =>
      rw [hread] at hfound
      cases hfound
  | ok other =>
      rw [hread] at hfound
      cases hfound
      rfl

/-- What is read has its length, if it was read. -/
theorem length_hostedRead {op : Emu → Except Fault (Int32 × List UInt8)} {size : ℕ}
    (hop : ∀ {emu bytes}, op emu = .ok (0, bytes) → bytes.length = size) (target : Option Emu)
    (hret : (hostedRead op target).1.1 = 0) : (hostedRead op target).1.2.length = size := by
  cases target with
  | none => cases hret
  | some emu =>
      rw [hostedRead, hosted] at hret ⊢
      rcases hread : op emu with fault | ⟨ret, bytes⟩
      · rw [hread] at hret
        cases hret
      · rw [hread] at hret
        obtain rfl : ret = 0 := hret
        exact hop hread

end

theorem length_emuReadReg {emu : Emu} {regno : ℤ} {bytes : List UInt8}
    (hread : emuReadReg emu regno = .ok (0, bytes)) : bytes.length = regsz := by
  rw [emuReadReg] at hread
  split at hread
  · cases hread
  · split at hread
    · cases hread
      exact length_littleEndianBytes _ _
    · split at hread
      · cases hread
        exact length_littleEndianBytes _ _
      · cases hread

theorem length_emuReadMem {emu : Emu} {addr len : ℕ} {bytes : List UInt8}
    (hread : emuReadMem emu addr len = .ok (0, bytes)) : bytes.length = len := by
  rw [emuReadMem] at hread
  split at hread
  · cases hread
  · cases hblock : Block.read? emu.m.mem addr len with
    | none =>
        rw [hblock] at hread
        cases hread
    | some found =>
        rw [hblock] at hread
        cases hread
        obtain ⟨hfits, rfl⟩ := Block.read?_eq_some.mp hblock
        rw [Block.slice, List.length_take, List.length_drop]
        omega

/-- A continue comes back if its loop is over after so many turns. -/
def hostedCont (turns : ℕ) (target : Option Emu) : Action × Option Emu :=
  hosted .none (fun emu => (emuCont turns emu).bind Except.toOption) target

def hostedStepi (target : Option Emu) : Action × Option Emu :=
  hosted .none (fun emu => (emuStepi emu).toOption) target

def hostedReadReg (target : Option Emu) (regno : ℤ) : (Int32 × List UInt8) × Option Emu :=
  hostedRead (fun emu => emuReadReg emu regno) target

def hostedWriteMem (target : Option Emu) (addr len : ℕ) (val : List UInt8) : Int32 × Option Emu :=
  hosted efault (fun emu => (emuWriteMem emu addr len val).toOption) target

def hostedSetBp (target : Option Emu) (addr type : ℕ) : Bool × Option Emu :=
  hosted false (fun emu => some (emuSetBp emu addr.toUInt64 type)) target

def hostedDelBp (target : Option Emu) (addr type : ℕ) : Bool × Option Emu :=
  hosted false (fun emu => some (emuDelBp emu addr.toUInt64 type)) target

def hostedWriteReg (target : Option Emu) (regno : ℤ) (data : List UInt8) : Int32 × Option Emu :=
  hosted efault (fun emu => (emuWriteReg emu regno data).toOption) target

/-- `emu_ops` -/
def emuOps (turns : ℕ) : TargetOps (Option Emu) where
  cont := some (hostedCont turns)
  stepi := some hostedStepi
  getRegBytes := fun _ => regsz
  readReg := some hostedReadReg
  writeReg := some hostedWriteReg
  readMem := some fun target addr len => hostedRead (fun emu => emuReadMem emu addr len) target
  writeMem := some hostedWriteMem
  setBp := some hostedSetBp
  delBp := some hostedDelBp
  onInterrupt := some (Option.map emuOnInterrupt)
  setCpu := none
  getCpu := none
  length_readReg := by
    intro op hop target regno hret
    obtain rfl := Option.some.inj hop
    exact length_hostedRead length_emuReadReg target hret
  length_readMem := by
    intro op hop target addr len hret
    obtain rfl := Option.some.inj hop
    exact length_hostedRead length_emuReadMem target hret

/-- `TARGET_RV64` -/
def targetRv64 : List UInt8 :=
  ascii "<target version=\"1.0\"><architecture>riscv:rv64</architecture></target>"

theorem zero_notMem_targetRv64 : ∀ desc ∈ some targetRv64, 0 ∉ desc := by
  intro desc hdesc
  obtain rfl := Option.some.inj hdesc
  decide

/-- The stub that `main` runs. -/
def emuGdbstub (turns : ℕ) (mallocs : ℕ → ℕ → Bool) (junk : ℕ → UInt8) : Gdbstub (Option Emu) where
  ops := emuOps turns
  arch :=
    { targetDesc := some targetRv64, smp := 1, regNum := 33,
      zero_notMem := zero_notMem_targetRv64 }
  totalRegBytes := 33 * regsz
  mallocs := mallocs
  junk := junk
  totalRegBytes_eq := by
    show 33 * regsz = ((List.range 33).map fun _ => regsz).sum
    rw [List.map_const', List.sum_replicate, List.length_range]
    rfl

/-! ## What a request of the client comes to -/

/-- All registers are read from the `i`-th on. -/
def readRequests (todo i : ℕ) : List Request :=
  (List.range' i todo).map fun regno : ℕ => .readReg regno

/-- The registers from the `i`-th on get these values. -/
def writeRequests : List (List UInt8) → (i : ℕ) → List Request
  | [], _ => []
  | value :: values, i => .writeReg i value :: writeRequests values (i + 1)

/-- The values of the registers in the block of a `G`. -/
def registerValues (data : List UInt8) : List (List UInt8) :=
  (List.range 33).map (slot (fun _ => regsz) data)

/-- What a debugger does instead of asking the stub. -/
inductive Requested : Ask → List Request → Prop
  | haltReason : Requested .haltReason []
  | isAlive : Requested .isAlive []
  | readRegs : Requested .readRegs (readRequests 33 0)
  | writeRegs (data : List UInt8) :
      Requested (.writeRegs data) (readRequests 33 0 ++ writeRequests (registerValues data) 0)
  | readReg (regno : ℕ) : Requested (.readReg regno) [.readReg regno]
  | writeReg (regno : ℕ) (data : List UInt8) :
      Requested (.writeReg regno data) [.writeReg regno data]
  | readMem (addr len : ℕ) : Requested (.readMem addr len) [.readMem addr len]
  | writeMem (addr : ℕ) (data : List UInt8) :
      Requested (.writeMem addr data) [.writeMem addr data.length data]
  | writeBinary (addr : ℕ) (data : List UInt8) :
      Requested (.writeBinary addr data) [.writeMem addr data.length data]
  | setBp (addr type : ℕ) : Requested (.setBp addr type) [.setBp addr.toUInt64 type]
  | delBp (addr type : ℕ) : Requested (.delBp addr type) [.delBp addr.toUInt64 type]
  | setCpu (cpuid : ℕ) : Requested (.setCpu cpuid) []
  | getCpu : Requested .getCpu []
  | startNoAckMode : Requested .startNoAckMode []
  | cont (turns : ℕ) : Requested .cont (.cont :: List.replicate turns .turn)
  | stepi : Requested .stepi [.stepi]
  | detach : Requested .detach []

/-- The requests lead the debugger, outside the loop, to this state of the emulator. -/
def LeadsTo (m : Mem) (requests : List Request) (debugged : Debugged) (emu : Emu) : Prop :=
  ∃ after, (debugging m).runFrom debugged requests = some after ∧ after.emu = emu ∧
    after.inLoop = false

section

variable {m : Mem} {debugged : Debugged} {emu next : Emu}

theorem LeadsTo.nothing (hloop : debugged.inLoop = false) : LeadsTo m [] debugged debugged.emu :=
  ⟨debugged, rfl, rfl, hloop⟩

theorem LeadsTo.append {first second : List Request} (hfirst : LeadsTo m first debugged emu)
    (hsecond : ∀ between : Debugged, between.emu = emu → between.inLoop = false →
      LeadsTo m second between next) : LeadsTo m (first ++ second) debugged next := by
  obtain ⟨between, hrun, hemu, hloop⟩ := hfirst
  obtain ⟨after, hrest, hafter⟩ := hsecond between hemu hloop
  exact ⟨after, by rw [Machine.runFrom_append, hrun]; exact hrest, hafter⟩

/-- A request outside the loop. -/
theorem LeadsTo.single {request : Request} {after : Debugged} (hloop : debugged.inLoop = false)
    (hrequest : debugged.request request = some after) (hemu : after.emu = emu)
    (hafter : after.inLoop = false) : LeadsTo m [request] debugged emu :=
  ⟨after, runFrom_request m hloop hrequest, hemu, hafter⟩

theorem leadsTo_readReg (hloop : debugged.inLoop = false) {regno : ℤ}
    {read : Int32 × List UInt8} (hread : emuReadReg debugged.emu regno = .ok read) :
    LeadsTo m [.readReg regno] debugged debugged.emu := by
  have hrequest : debugged.request (.readReg regno) =
      some { debugged with log := .readReg regno read.2 :: debugged.log } := by
    rw [Debugged.request, hread]
  exact LeadsTo.single hloop hrequest rfl hloop

theorem leadsTo_writeReg (hloop : debugged.inLoop = false) {regno : ℤ} {data : List UInt8}
    {ret : Int32} (hwrite : emuWriteReg debugged.emu regno data = .ok (ret, next)) :
    LeadsTo m [.writeReg regno data] debugged next := by
  have hrequest : debugged.request (.writeReg regno data) =
      some { debugged with emu := next, log := .writeReg regno data :: debugged.log } := by
    rw [Debugged.request, hwrite]
  exact LeadsTo.single hloop hrequest rfl hloop

theorem leadsTo_readMem (hloop : debugged.inLoop = false) {addr len : ℕ}
    {read : Int32 × List UInt8} (hread : emuReadMem debugged.emu addr len = .ok read) :
    LeadsTo m [.readMem addr len] debugged debugged.emu := by
  have hrequest : debugged.request (.readMem addr len) = some debugged := by
    rw [Debugged.request, hread]
  exact LeadsTo.single hloop hrequest rfl hloop

theorem leadsTo_writeMem (hloop : debugged.inLoop = false) {addr len : ℕ} {val : List UInt8}
    {ret : Int32} (hwrite : emuWriteMem debugged.emu addr len val = .ok (ret, next)) :
    LeadsTo m [.writeMem addr len val] debugged next := by
  have hrequest : debugged.request (.writeMem addr len val) =
      some { debugged with emu := next } := by
    rw [Debugged.request, hwrite]
  exact LeadsTo.single hloop hrequest rfl hloop

theorem leadsTo_setBp (hloop : debugged.inLoop = false) (addr : UInt64) (type : ℕ) :
    LeadsTo m [.setBp addr type] debugged (emuSetBp debugged.emu addr type).2 :=
  LeadsTo.single hloop rfl rfl hloop

theorem leadsTo_delBp (hloop : debugged.inLoop = false) (addr : UInt64) (type : ℕ) :
    LeadsTo m [.delBp addr type] debugged (emuDelBp debugged.emu addr type).2 :=
  LeadsTo.single hloop rfl rfl hloop

theorem leadsTo_stepi (hloop : debugged.inLoop = false) {act : Action}
    (hstepi : emuStepi debugged.emu = .ok (act, next)) : LeadsTo m [.stepi] debugged next := by
  have hrequest : debugged.request .stepi = some
      { debugged with
        emu := next
        log := if debugged.emu.pc < debugged.emu.m.codeSize then
          .executed debugged.emu false :: debugged.log else debugged.log } := by
    rw [Debugged.request, hstepi]
  exact LeadsTo.single hloop hrequest rfl hloop

/-! ### A continue -/

theorem step_turn (hloop : debugged.inLoop = true) :
    (debugging m).step debugged .turn = debugged.turn := by
  show debugged.step .turn = _
  unfold Debugged.step
  rw [hloop, if_pos rfl]

/-- A turn of the loop that goes on. -/
theorem turn_of_goesOn (hturn : contLoop.turn debugged.emu = .ok (none, next)) :
    ∃ after, debugged.turn = some after ∧ after.emu = next ∧ after.inLoop = true := by
  rw [Loop.turn] at hturn
  rw [Debugged.turn]
  dsimp only
  split at hturn
  · rename_i htest
    have htest : emuContTest debugged.emu = true := htest
    rw [if_pos htest, show emuContBody debugged.emu = .ok (none, next) from hturn]
    exact ⟨_, rfl, rfl, rfl⟩
  · cases hturn

/-- The turn that ends the loop. -/
theorem turn_of_ending {act : Action}
    (hending : contLoop.ending debugged.emu = some (.ok (act, next))) :
    ∃ after, debugged.turn = some after ∧ after.emu = next ∧ after.inLoop = false := by
  rw [Loop.ending, Loop.run, Loop.turn] at hending
  rw [Debugged.turn]
  dsimp only
  by_cases htest : emuContTest debugged.emu = true
  · have hpasses : contLoop.test debugged.emu = true := htest
    rw [if_pos hpasses] at hending
    rw [if_pos htest]
    rcases hbody : contLoop.body debugged.emu with fault | ⟨_ | value, other⟩
    · rw [hbody] at hending
      cases hending
    · rw [hbody] at hending
      cases hending
    · rw [hbody] at hending
      cases hending
      rw [show emuContBody debugged.emu = .ok (some act, next) from hbody]
      exact ⟨_, rfl, rfl, rfl⟩
  · have hfails : ¬ contLoop.test debugged.emu = true := htest
    rw [if_neg hfails] at hending
    rw [if_neg htest]
    cases hending
    exact ⟨_, rfl, rfl, rfl⟩

/-- Turns that go on, and the one that ends the loop. -/
theorem leadsTo_turns {turns : ℕ} {last : Emu} {act : Action}
    (hgoesOn : contLoop.GoesOn turns emu last)
    (hending : contLoop.ending last = some (.ok (act, next))) :
    ∀ debugged : Debugged, debugged.emu = emu → debugged.inLoop = true →
      LeadsTo m (List.replicate (turns + 1) .turn) debugged next := by
  induction hgoesOn with
  | refl state =>
      rintro debugged rfl hloop
      obtain ⟨after, hturn, hafter⟩ := turn_of_ending hending
      refine ⟨after, ?_, hafter⟩
      rw [List.replicate_one, Machine.runFrom_cons, step_turn hloop, hturn]
      rfl
  | @head turns state between last hturn _ ih =>
      rintro debugged rfl hloop
      obtain ⟨after, hstep, hemu, hinLoop⟩ := turn_of_goesOn hturn
      obtain ⟨final, hrun, hfinal⟩ := ih hending after hemu hinLoop
      refine ⟨final, ?_, hfinal⟩
      rw [List.replicate_succ, Machine.runFrom_cons, step_turn hloop, hstep]
      exact hrun

variable (m) in
theorem leadsTo_cont (hloop : debugged.inLoop = false) {turns : ℕ} {act : Action}
    (hcont : emuCont turns debugged.emu = some (.ok (act, next))) :
    ∃ taken, LeadsTo m (.cont :: List.replicate taken .turn) debugged next := by
  obtain ⟨before, -, last, hgoesOn, hending⟩ := Loop.run_iff.mp hcont
  let started : Debugged := { debugged with emu := emuStartRun debugged.emu, inLoop := true }
  obtain ⟨after, hrun, hafter⟩ := leadsTo_turns hgoesOn hending started rfl rfl
  have hstep : (debugging m).step debugged .cont = some started := by
    show debugged.step .cont = _
    unfold Debugged.step
    rw [hloop, if_neg (by decide)]
    rfl
  refine ⟨before + 1, after, ?_, hafter⟩
  rw [Machine.runFrom_cons, hstep]
  exact hrun

/-! ### All registers -/

theorem toOption_eq_some {α : Type} {result : Except Fault α} {value : α} :
    result.toOption = some value ↔ result = .ok value := by
  cases result with
  | error fault => exact iff_of_false (fun heq => by cases heq) fun heq => by cases heq
  | ok other =>
      exact ⟨fun heq => congrArg Except.ok (Option.some.inj heq),
        fun heq => congrArg some (Except.ok.inj heq)⟩

/-- The registers that the stub knows can be read. -/
theorem emuReadReg_ret {regno : ℤ} {read : Int32 × List UInt8} (hregno : regno ≤ 32)
    (hread : emuReadReg emu regno = .ok read) : read.1 = 0 := by
  rw [emuReadReg, if_neg (by omega)] at hread
  split at hread
  · cases hread
    rfl
  · split at hread
    · cases hread
      rfl
    · cases hread

theorem emuWriteReg_ret {regno : ℤ} {data : List UInt8} {ret : Int32} (hregno : regno ≤ 32)
    (hwrite : emuWriteReg emu regno data = .ok (ret, next)) : ret = 0 := by
  rw [emuWriteReg, if_neg (by omega)] at hwrite
  obtain ⟨bytes, -, hwrite⟩ := Except.ok_bind_iff.mp hwrite
  split at hwrite
  · cases hwrite
    rfl
  · split at hwrite
    · cases hwrite
      rfl
    · cases hwrite

variable (m) in
theorem readEach_hosted (todo : ℕ) :
    ∀ (i : ℕ) (target : Option Emu), i + todo ≤ 33 →
      (readEach hostedReadReg todo i target).2 = some next →
      (∃ values, (readEach hostedReadReg todo i target).1 = .ok values) ∧ target = some next ∧
        ∀ debugged : Debugged, debugged.emu = next → debugged.inLoop = false →
          LeadsTo m (readRequests todo i) debugged next := by
  induction todo with
  | zero =>
      intro i target _ htarget
      refine ⟨⟨[], rfl⟩, htarget, ?_⟩
      rintro debugged rfl hloop
      exact LeadsTo.nothing hloop
  | succ todo ih =>
      intro i target hbound hlast
      rw [readEach] at hlast ⊢
      dsimp only at hlast ⊢
      by_cases hret : (hostedReadReg target i).1.1 = 0
      · rw [if_pos hret] at hlast ⊢
        obtain ⟨⟨values, hvalues⟩, hnext, hleads⟩ :=
          ih (i + 1) (hostedReadReg target i).2 (by omega) hlast
        obtain ⟨read, htarget, hread, -⟩ := hostedRead_some hnext
        refine ⟨⟨(hostedReadReg target i).1.2 :: values, ?_⟩, htarget, ?_⟩
        · rw [hvalues]
          rfl
        · rintro debugged rfl hloop
          have hfirst : LeadsTo m [.readReg i] debugged debugged.emu := leadsTo_readReg hloop hread
          exact hfirst.append hleads
      · -- no register that the stub knows is refused
        rw [if_neg hret] at hlast
        obtain ⟨read, -, hread, hresult⟩ := hostedRead_some hlast
        have hcode : (hostedReadReg target i).1 = read := congrArg Prod.fst hresult
        exact absurd (hcode ▸ emuReadReg_ret (by omega) hread) hret

variable (m) in
theorem writeEach_hosted (values : List (List UInt8)) :
    ∀ (i : ℕ) (target : Option Emu), i + values.length ≤ 33 →
      (writeEach hostedWriteReg values i target).2 = some next →
      (writeEach hostedWriteReg values i target).1 = none ∧ ∃ emu, target = some emu ∧
        ∀ debugged : Debugged, debugged.emu = emu → debugged.inLoop = false →
          LeadsTo m (writeRequests values i) debugged next := by
  induction values with
  | nil =>
      intro i target _ htarget
      refine ⟨rfl, next, htarget, ?_⟩
      rintro debugged rfl hloop
      exact LeadsTo.nothing hloop
  | cons value values ih =>
      intro i target hbound hlast
      rw [List.length_cons] at hbound
      rw [writeEach] at hlast ⊢
      by_cases hret : (hostedWriteReg target i value).1 = 0
      · rw [if_pos hret] at hlast ⊢
        obtain ⟨hall, between, hbetween, hleads⟩ :=
          ih (i + 1) (hostedWriteReg target i value).2 (by omega) hlast
        obtain ⟨emu, ret, htarget, hwrite, -⟩ := hosted_some hbetween
        refine ⟨hall, emu, htarget, ?_⟩
        rintro debugged rfl hloop
        have hfirst : LeadsTo m [.writeReg i value] debugged between :=
          leadsTo_writeReg hloop (toOption_eq_some.mp hwrite)
        exact hfirst.append hleads
      · rw [if_neg hret] at hlast
        obtain ⟨emu, ret, -, hwrite, hresult⟩ := hosted_some hlast
        have hcode : (hostedWriteReg target i value).1 = ret := congrArg Prod.fst hresult
        exact absurd (hcode ▸ emuWriteReg_ret (by omega) (toOption_eq_some.mp hwrite)) hret

theorem restoreEach_some (values : List (List UInt8)) :
    ∀ (i : ℕ) (target : Option Emu), restoreEach hostedWriteReg values i target = some next →
      ∃ emu, target = some emu := by
  induction values with
  | nil => exact fun i target hlast => ⟨next, hlast⟩
  | cons value values ih =>
      intro i target hlast
      obtain ⟨between, hbetween⟩ := ih (i + 1) _ hlast
      obtain ⟨emu, -, htarget, -⟩ := hosted_some hbetween
      exact ⟨emu, htarget⟩

variable (m) in
/-- A `G` that comes back has read all registers and written them all. -/
theorem transact_hosted {values : List (List UInt8)} (hlength : values.length = 33)
    {target : Option Emu}
    (hlast : (transact hostedReadReg hostedWriteReg values target).2 = some next) :
    ∃ emu, target = some emu ∧ ∀ debugged : Debugged, debugged.emu = emu →
      debugged.inLoop = false →
        LeadsTo m (readRequests 33 0 ++ writeRequests values 0) debugged next := by
  unfold transact at hlast
  rw [hlength] at hlast
  -- the reads come first, and those that have come back have succeeded
  rcases hread : readEach hostedReadReg 33 0 target with ⟨ret | old, after⟩
  · rw [hread] at hlast
    have hafter : (readEach hostedReadReg 33 0 target).2 = some next := by
      rw [hread]
      exact hlast
    obtain ⟨⟨values, hok⟩, -⟩ := readEach_hosted m 33 0 target (by omega) hafter
    rw [hread] at hok
    cases hok
  · rw [hread] at hlast
    dsimp only at hlast
    rcases hwrite : writeEach hostedWriteReg values 0 after with ⟨_ | ⟨failed, ret⟩, written⟩
    · rw [hwrite] at hlast
      have hwritten : (writeEach hostedWriteReg values 0 after).2 = some next := by
        rw [hwrite]
        exact hlast
      obtain ⟨-, emu, hemu, hwrites⟩ := writeEach_hosted m values 0 after (by omega) hwritten
      have hafter : (readEach hostedReadReg 33 0 target).2 = some emu := by
        rw [hread]
        exact hemu
      obtain ⟨-, htarget, hreads⟩ := readEach_hosted m 33 0 target (by omega) hafter
      refine ⟨emu, htarget, fun debugged hdebugged hloop => ?_⟩
      exact (hreads debugged hdebugged hloop).append hwrites
    · -- a register is refused only by an operation that has not come back
      rw [hwrite] at hlast
      obtain ⟨between, rfl⟩ := restoreEach_some (old.take failed) 0 written hlast
      have hwritten : (writeEach hostedWriteReg values 0 after).2 = some between := by rw [hwrite]
      obtain ⟨hall, -⟩ := writeEach_hosted m values 0 after (by omega) hwritten
      rw [hwrite] at hall
      cases hall

/-! ## The debugger follows the stub -/

variable {turns : ℕ} {mallocs : ℕ → ℕ → Bool} {junk : ℕ → UInt8}

theorem answer_readRegs {σ : Type} {stub : Gdbstub σ} {op : σ → ℤ → (Int32 × List UInt8) × σ}
    (hop : stub.ops.readReg = some op) (target : σ) :
    (stub.answer .readRegs target).2 = (readEach op stub.arch.registers 0 target).2 := by
  rw [Gdbstub.answer, hop, answerWith]
  split
  · rename_i hread
    rw [hread]
  · rename_i hread
    rw [hread]

variable (m) in
/-- Where a debugger is led by what the request comes to, the target has gone. -/
def Followed (ask : Ask) (target : Option Emu) (next : Emu) : Prop :=
  ∃ emu, target = some emu ∧ ∀ debugged : Debugged, debugged.emu = emu →
    debugged.inLoop = false → ∃ requests, Requested ask requests ∧ LeadsTo m requests debugged next

/-- What changes nothing leads nowhere. -/
theorem followed_nothing {ask : Ask} {target : Option Emu} (hsame : target = some next)
    (hrequested : Requested ask []) : Followed m ask target next := by
  refine ⟨next, hsame, ?_⟩
  rintro debugged rfl hloop
  exact ⟨[], hrequested, LeadsTo.nothing hloop⟩

/-- An operation that has come back, and leads a debugger to where it has left the emulator. -/
theorem followed_hosted {α : Type} {lost : α} {op : Emu → Option (α × Emu)} {ask : Ask}
    {target : Option Emu} (hnext : (hosted lost op target).2 = some next)
    (hleads : ∀ (debugged : Debugged) (value : α), debugged.inLoop = false →
      op debugged.emu = some (value, next) →
        ∃ requests, Requested ask requests ∧ LeadsTo m requests debugged next) :
    Followed m ask target next := by
  obtain ⟨emu, value, rfl, hop, -⟩ := hosted_some hnext
  refine ⟨emu, rfl, ?_⟩
  rintro debugged rfl hloop
  exact hleads debugged value hloop hop

theorem followed_hostedRead {op : Emu → Except Fault (Int32 × List UInt8)} {ask : Ask}
    {target : Option Emu} (hnext : (hostedRead op target).2 = some next)
    (hleads : ∀ (debugged : Debugged) (read : Int32 × List UInt8), debugged.inLoop = false →
      op debugged.emu = .ok read →
        ∃ requests, Requested ask requests ∧ LeadsTo m requests debugged debugged.emu) :
    Followed m ask target next := by
  obtain ⟨read, rfl, hread, -⟩ := hostedRead_some hnext
  refine ⟨next, rfl, ?_⟩
  rintro debugged rfl hloop
  exact hleads debugged read hloop hread

/-- The requests of `M` and `X` come to the same. -/
theorem followed_writeMem {ask : Ask} {addr : ℕ} {data : List UInt8} {target : Option Emu}
    (hrequested : Requested ask [.writeMem addr data.length data])
    (hnext : (hostedWriteMem target addr data.length data).2 = some next) :
    Followed m ask target next :=
  followed_hosted hnext fun _ _ hloop hwrite =>
    ⟨_, hrequested, leadsTo_writeMem hloop (toOption_eq_some.mp hwrite)⟩

/-- A breakpoint is set or deleted. -/
theorem followed_bp {ask : Ask} {request : Request} {bp : Emu → Bool × Emu} {target : Option Emu}
    (hrequested : Requested ask [request])
    (hbp : ∀ debugged : Debugged, debugged.inLoop = false →
      LeadsTo m [request] debugged (bp debugged.emu).2)
    (hnext : (hosted false (fun emu => some (bp emu)) target).2 = some next) :
    Followed m ask target next := by
  refine followed_hosted hnext fun debugged ret hloop heq => ⟨_, hrequested, ?_⟩
  rw [← show (bp debugged.emu).2 = next from congrArg Prod.snd (Option.some.inj heq)]
  exact hbp debugged hloop

theorem followed_cont {target : Option Emu} (hnext : (hostedCont turns target).2 = some next) :
    Followed m .cont target next := by
  refine followed_hosted hnext fun debugged act hloop hcont => ?_
  obtain ⟨result, hrun, hresult⟩ := Option.bind_eq_some_iff.mp hcont
  rw [toOption_eq_some.mp hresult] at hrun
  obtain ⟨taken, hleads⟩ := leadsTo_cont m hloop hrun
  exact ⟨_, .cont taken, hleads⟩

variable (m) in
/-- A request that was answered while all operations came back. -/
theorem answer_debugged {ask : Ask} {target : Option Emu}
    (hnext : ((emuGdbstub turns mallocs junk).answer ask target).2 = some next) :
    Followed m ask target next := by
  cases ask with
  | haltReason => exact followed_nothing hnext .haltReason
  | isAlive => exact followed_nothing hnext .isAlive
  | readRegs =>
      have hop : (emuGdbstub turns mallocs junk).ops.readReg = some hostedReadReg := rfl
      rw [answer_readRegs hop] at hnext
      obtain ⟨-, htarget, hleads⟩ := readEach_hosted m 33 0 target (by omega) hnext
      exact ⟨next, htarget, fun debugged hdebugged hloop =>
        ⟨_, .readRegs, hleads debugged hdebugged hloop⟩⟩
  | writeRegs data =>
      have hlength : (registerValues data).length = 33 := by
        rw [registerValues, List.length_map, List.length_range]
      obtain ⟨emu, htarget, hleads⟩ := transact_hosted m hlength hnext
      exact ⟨emu, htarget, fun debugged hdebugged hloop =>
        ⟨_, .writeRegs data, hleads debugged hdebugged hloop⟩⟩
  | readReg regno =>
      exact followed_hostedRead hnext fun _ _ hloop hread =>
        ⟨_, .readReg regno, leadsTo_readReg hloop hread⟩
  | writeReg regno data =>
      replace hnext : (hostedWriteReg target regno data).2 = some next := hnext
      exact followed_hosted hnext fun _ _ hloop hwrite =>
        ⟨_, .writeReg regno data, leadsTo_writeReg hloop (toOption_eq_some.mp hwrite)⟩
  | readMem addr len =>
      exact followed_hostedRead hnext fun _ _ hloop hread =>
        ⟨_, .readMem addr len, leadsTo_readMem hloop hread⟩
  | writeMem addr data => exact followed_writeMem (.writeMem addr data) hnext
  | writeBinary addr data => exact followed_writeMem (.writeBinary addr data) hnext
  | setBp addr type =>
      exact followed_bp (.setBp addr type) (fun _ hloop => leadsTo_setBp hloop _ type) hnext
  | delBp addr type =>
      exact followed_bp (.delBp addr type) (fun _ hloop => leadsTo_delBp hloop _ type) hnext
  | setCpu cpuid => exact followed_nothing hnext (.setCpu cpuid)
  | getCpu => exact followed_nothing hnext .getCpu
  | startNoAckMode => exact followed_nothing hnext .startNoAckMode
  | cont => exact followed_cont hnext
  | stepi =>
      replace hnext : (hostedStepi target).2 = some next := hnext
      exact followed_hosted hnext fun _ _ hloop hstepi =>
        ⟨_, .stepi, leadsTo_stepi hloop (toOption_eq_some.mp hstepi)⟩
  | detach => exact followed_nothing hnext .detach

variable (m) in
/-- A session in which all operations came back. -/
theorem session_debugged (asks : List Ask) :
    ∀ {target : Option Emu},
      ((emuGdbstub turns mallocs junk).session asks target).2.2 = some next →
      ∃ emu, target = some emu ∧ ∀ debugged : Debugged, debugged.emu = emu →
        debugged.inLoop = false →
          ∃ parts, List.Forall₂ Requested
              (asks.take ((emuGdbstub turns mallocs junk).session asks target).1.length) parts ∧
            LeadsTo m parts.flatten debugged next := by
  induction asks with
  | nil =>
      intro target hlast
      refine ⟨next, hlast, ?_⟩
      rintro debugged rfl hloop
      exact ⟨[], .nil, LeadsTo.nothing hloop⟩
  | cons ask asks ih =>
      intro target hlast
      rw [Gdbstub.session] at hlast ⊢
      dsimp only at hlast ⊢
      split at hlast
      · -- the answer ends the session
        obtain ⟨emu, htarget, hleads⟩ := answer_debugged m hlast
        refine ⟨emu, htarget, fun debugged hdebugged hloop => ?_⟩
        obtain ⟨requests, hrequested, hleads⟩ := hleads debugged hdebugged hloop
        refine ⟨[requests], .cons hrequested .nil, ?_⟩
        rwa [List.flatten_cons, List.flatten_nil, List.append_nil]
      · obtain ⟨between, hbetween, hrest⟩ := ih hlast
        obtain ⟨emu, htarget, hleads⟩ := answer_debugged m hbetween
        refine ⟨emu, htarget, fun debugged hdebugged hloop => ?_⟩
        obtain ⟨requests, hrequested, middle, hrun, hmiddle, hmiddleLoop⟩ :=
          hleads debugged hdebugged hloop
        obtain ⟨parts, hparts, after, hafter, hfinal⟩ := hrest middle hmiddle hmiddleLoop
        refine ⟨requests :: parts, .cons hrequested hparts, after, ?_, hfinal⟩
        rw [List.flatten_cons, Machine.runFrom_append, hrun]
        exact hafter

end

/-- **The emulator behind a socket is the emulator under a debugger.**  Whatever the client sends,
however it is cut into reads and the threads are interleaved: if all operations have come back, some
of the requests have been answered, the first ones, and the emulator is where these requests lead a
debugger that runs it without any packets; when nothing is left to do, these are all that are
answered. -/
theorem emulator_debugged {m : Mem} {turns : ℕ} {mallocs : ℕ → ℕ → Bool} {junk : ℕ → UInt8}
    {stream : List UInt8} {bodies : List (List UInt8)} {asks : List Ask}
    {labels : List ServerLabel} {server : Server (Option Emu)} {emu : Emu}
    (halloc : ∀ k bytes, mallocs k bytes = true) (hintr : intrChar ∉ stream)
    (hpkts : intactPackets (packetsIn stream) = packetsOf bodies)
    (hfew : FewCorrupted (packetsIn stream))
    (hasks : List.Forall₂ (Asks (emuGdbstub turns mallocs junk)) bodies asks)
    (hfits : ∀ ask ∈ asks, ask.Fits (emuGdbstub turns mallocs junk))
    (hguard : (gdbstubServer (emuGdbstub turns mallocs junk) stream (some (emuInit m))).Guarded
      Undisturbed labels)
    (hrun : (gdbstubServer (emuGdbstub turns mallocs junk) stream (some (emuInit m))).run labels =
      some server)
    (htarget : server.session.stub.target = some emu) :
    ∃ answered parts debugged, answered <+: asks ∧
      server.session.stub.replies = replyFrames
        ((emuGdbstub turns mallocs junk).session answered (some (emuInit m))).1 ∧
      List.Forall₂ Requested answered parts ∧
      (debugging m).run parts.flatten = some debugged ∧ debugged.emu = emu ∧
      debugged.inLoop = false ∧
      (server.Done stream → (emuGdbstub turns mallocs junk).session answered (some (emuInit m)) =
        (emuGdbstub turns mallocs junk).session asks (some (emuInit m))) := by
  obtain ⟨hearlier, hdone⟩ := (server_linked hintr hguard hrun).served halloc hpkts hfew hasks
    (session_fits hfits _)
  -- the requests up to here, which are all of them in the end
  obtain ⟨asked, hasked, hserved, hall⟩ : ∃ asked, asked <+: asks ∧
      Served (StubState.init (some (emuInit m)))
        (server.session.main.ended, server.session.stub)
        ((emuGdbstub turns mallocs junk).session asked (some (emuInit m))) ∧
      (server.Done stream → asked = asks) := by
    by_cases hended : server.Done stream
    · exact ⟨asks, List.prefix_rfl, hdone hended, fun _ => rfl⟩
    · obtain ⟨count, hserved⟩ := hearlier
      exact ⟨asks.take count, List.take_prefix count asks, hserved, fun h => absurd h hended⟩
  obtain ⟨start, hstart, hleads⟩ := session_debugged m asked (hserved.target.symm.trans htarget)
  cases hstart
  obtain ⟨parts, hparts, debugged, hdebugged, hemu, hloop⟩ := hleads (debugging m).start rfl rfl
  refine ⟨_, parts, debugged, (List.take_prefix _ asked).trans hasked, ?_, hparts, hdebugged, hemu,
    hloop, ?_⟩
  · rw [session_answered]
    exact hserved.replies
  · intro hended
    rw [session_answered, hall hended]

/-- A breakpoint at the second instruction, a continue to it, and a step. -/
def steppedBodies : List (List UInt8) :=
  [ascii "Z0,4,4", ascii "c", ascii "s"]

def steppedAsks : List Ask :=
  [.setBp 4 0, .cont, .stepi]

def steppedLabels : List ServerLabel :=
  takesIn 10 ++ takesIn 5 ++ takesIn 5 ++ List.replicate 12 .main

def steppedStream : List UInt8 :=
  (steppedBodies.map pktstrFrame).flatten

def steppedStub : Gdbstub (Option Emu) :=
  emuGdbstub 3 (fun _ _ => true) fun _ => 0

theorem emulator_debugged_stepped :
    ∃ server emu answered parts debugged,
      (gdbstubServer steppedStub steppedStream (some (emuInit twoNops))).run steppedLabels =
        some server ∧
      server.session.stub.target = some emu ∧ answered <+: steppedAsks ∧
      List.Forall₂ Requested answered parts ∧
      (debugging twoNops).run parts.flatten = some debugged ∧ debugged.emu = emu := by
  have hrange : MemoryRange (ascii "4,4") 4 4 :=
    ⟨⟨ascii "4", ascii "4", .of_all (by decide), .of_all (by decide), rfl⟩, by decide, by decide⟩
  have htype : HexNumber (ascii "0") 0 := .of_all (by decide)
  have hasks : List.Forall₂ (Asks steppedStub) steppedBodies steppedAsks :=
    .cons (.setBp htype (by decide) hrange) (.cons .cont (.cons .stepi .nil))
  have hpkts : packetsIn steppedStream = packetsOf steppedBodies := by decide +kernel
  have hintact : intactPackets (packetsOf steppedBodies) = packetsOf steppedBodies := by
    decide +kernel
  have hfits : ∀ ask ∈ steppedAsks, ask.Fits steppedStub := by
    simp [steppedAsks, Ask.Fits]
  have hguard : (gdbstubServer steppedStub steppedStream (some (emuInit twoNops))).Guarded
      Undisturbed steppedLabels := by decide +kernel
  have hfinal : (((gdbstubServer steppedStub steppedStream (some (emuInit twoNops))).run
      steppedLabels).map fun server => server.session.stub.target.isSome) = some true := by
    decide +kernel
  obtain ⟨server, hrun, hsome⟩ := Option.map_eq_some_iff.mp hfinal
  obtain ⟨emu, htarget⟩ := Option.isSome_iff_exists.mp hsome
  obtain ⟨answered, parts, debugged, hanswered, -, hparts, hdebugged, hemu, -, -⟩ :=
    emulator_debugged (fun _ _ => rfl) (by decide) (hpkts ▸ hintact)
      (hpkts ▸ fewCorrupted_of_length (by decide)) hasks hfits hguard hrun htarget
  exact ⟨server, emu, answered, parts, debugged, hrun, htarget, hanswered, hparts, hdebugged, hemu⟩

end MiniGdbstub
