import MiniGdbstub.ObligingTargets

/-!
# Malformed requests

What the stub owes a client that sends anything at all: the packet does not abort it, and a
request that is not well-formed is refused, by an empty reply or an error (`Handled`).  It owes
this whatever the target answers and whichever allocations succeed (`AlwaysHandled`).

For a malformed request there are two cases.  Every target refuses it (`DeclinedAnyway`).  Or
there is a target that obliges (`obligingStub`), and on it the stub aborts, stops for want of
memory, or replies as if the request had been well-formed.
-/

namespace MiniGdbstub

open CString

variable {σ : Type}

/-! ## What the stub owes -/

/-- The program does not abort, and a request that is not well-formed is refused. -/
structure HandledBy (program : StubM σ Event) (formed : Prop) (state : StubState σ) : Prop where
  normal : ∀ fault, (program state).1 = .error fault → ¬ fault.Aborts
  refused : ¬ formed → ∃ event after, program state = (.ok event, after) ∧ Declined state after

/-- What the stub owes the client that sent this body. -/
def Handled (stub : Gdbstub σ) (body : List UInt8) (csumHigh csumLow : UInt8)
    (state : StubState σ) : Prop :=
  HandledBy (gdbstubProcessPacket stub (Packet.ofFrame (framed body csumHigh csumLow)))
    (WellFormedRequest stub.arch stub.ops.getRegBytes body) state

section

variable (arch : ArchInfo) (regBytes : ℤ → ℕ)

/-- The stub does what it owes, for every target that has all operations and this
architecture, and in every state. -/
def AlwaysHandled (body : List UInt8) (csumHigh csumLow : UInt8) : Prop :=
  ∀ (σ : Type) (stub : Gdbstub σ), stub.arch = arch → stub.ops.getRegBytes = regBytes →
    stub.ops.Complete → ∀ state, Handled stub body csumHigh csumLow state

/-- The body is well-formed and does not ask for too many threads, or it is refused anyway; an
empty one is not known. -/
def Serves : List UInt8 → Prop
  | [] => True
  | request :: payload =>
      Fields arch regBytes payload (Char.ofNat request.toNat) ∧
          (request :: payload = ascii "qfThreadInfo" → arch.smp < 10000) ∨
        DeclinedAnyway arch regBytes payload (Char.ofNat request.toNat)

end

/-! ## Every request -/

/-- A target all of whose operations succeed; `available` says whether there is memory. -/
def obligingStub (arch : ArchInfo) (regBytes : ℤ → ℕ) (available : Bool) : Gdbstub Unit :=
  { readableStub regBytes arch with
    ops :=
      { (readableStub regBytes arch).ops with
        cont := some fun target => (.none, target)
        stepi := some fun target => (.none, target)
        writeReg := some fun target _ _ => (0, target)
        readMem := some fun target _ len => ((0, List.replicate len 0), target)
        writeMem := some fun target _ _ _ => (0, target)
        setBp := some fun target _ _ => (true, target)
        delBp := some fun target _ _ => (true, target)
        onInterrupt := some fun target => target
        setCpu := some fun target _ => target
        getCpu := some fun target => (0, target)
        length_readMem := by
          intro op hop target addr len _
          obtain rfl := Option.some.inj hop
          exact List.length_replicate }
    mallocs := fun _ _ => available
    totalRegBytes_eq := rfl }

section

variable (arch : ArchInfo) (regBytes : ℤ → ℕ) (available : Bool)

theorem obligingStub_complete : (obligingStub arch regBytes available).ops.Complete :=
  ⟨rfl, rfl, rfl, rfl, rfl, rfl, rfl, rfl, rfl, rfl, rfl⟩

theorem obligingStub_obliges : Obliges (obligingStub arch regBytes available).ops where
  readReg := by
    intro op hop target regno
    obtain rfl := Option.some.inj hop
    rfl
  writeReg := by
    intro op hop target regno data
    obtain rfl := Option.some.inj hop
    rfl
  writeMem := by
    intro op hop target addr len data
    obtain rfl := Option.some.inj hop
    rfl
  readMem := by
    intro op hop target addr len
    obtain rfl := Option.some.inj hop
    rfl
  setBp := by
    intro op hop target addr type
    obtain rfl := Option.some.inj hop
    rfl
  delBp := by
    intro op hop target addr type
    obtain rfl := Option.some.inj hop
    rfl

end

/-- Nothing was sent yet, and the register buffer could not be enlarged. -/
def starvedState : StubState Unit :=
  { StubState.init () with regbuf := { buf := none, sz := 16 } }

section

variable (arch : ArchInfo) (regBytes : ℤ → ℕ)

/-- What is owed is done where it is said to be. -/
theorem handled_of_serves {stub : Gdbstub σ} (hops : stub.ops.Complete) {body : List UInt8}
    (csumHigh csumLow : UInt8) (state : StubState σ)
    (hserves : Serves stub.arch stub.ops.getRegBytes body) :
    Handled stub body csumHigh csumLow state := by
  unfold Handled
  cases body with
  | nil =>
      have hrun := gdbstubProcessPacket_nil stub csumHigh csumLow state
      refine ⟨fun fault hfault => ?_, fun _ => ⟨_, _, hrun, [], rfl, .inl rfl⟩⟩
      rw [hrun] at hfault
      cases hfault
  | cons request payload =>
      rw [gdbstubProcessPacket_framed]
      rcases hserves with ⟨hfields, hthreads⟩ | hrefused
      · exact ⟨fun fault => neverAborts_dispatch hops payload csumHigh csumLow hfields hthreads
          state fault, fun hnot => absurd hfields hnot⟩
      · obtain ⟨event, after, hrun, hreply⟩ :=
          declines_dispatch hops csumHigh csumLow hrefused state
        refine ⟨fun fault hfault => ?_, fun _ => ⟨event, after, hrun, hreply⟩⟩
        rw [hrun] at hfault
        cases hfault

/-- Too many threads to list. -/
theorem threads_abort {stub : Gdbstub σ} (hsmp : ¬ stub.arch.smp < 10000) (csumHigh csumLow : UInt8)
    (state : StubState σ) :
    (gdbstubProcessPacket stub (Packet.ofFrame (framed (ascii "qfThreadInfo") csumHigh csumLow))
      state).1 = .error .assertFail := by
  rw [gdbstubProcessPacket_threadInfo]
  unfold processThreadInfo
  dsimp only
  rw [if_neg (by split <;> omega)]
  rfl

/-- **No packet aborts the stub, and a malformed request is refused, whatever the target answers,
if and only if the request is well-formed, and does not ask for too many threads, or is one of
those that are refused anyway.** -/
theorem handled_iff_serves (body : List UInt8) (csumHigh csumLow : UInt8) :
    AlwaysHandled arch regBytes body csumHigh csumLow ↔ Serves arch regBytes body := by
  constructor
  · intro hhandled
    cases body with
    | nil => trivial
    | cons request payload =>
        by_contra hserves
        obtain ⟨hunformed, hrefused⟩ := not_or.mp hserves
        let stub := obligingStub arch regBytes (Char.ofNat request.toNat == 'G')
        have hstub := hhandled Unit stub rfl rfl (obligingStub_complete _ _ _) starvedState
        by_cases hfields : Fields arch regBytes payload (Char.ofNat request.toNat)
        · -- only the assertion on the number of threads is left
          obtain ⟨hthreads, hsmp⟩ := Classical.not_imp.mp (not_and.mp hunformed hfields)
          rw [hthreads] at hstub
          exact hstub.normal _ (threads_abort hsmp csumHigh csumLow starvedState) (by decide)
        · obtain ⟨event, after, hrun, hreply⟩ := hstub.refused hfields
          rw [gdbstubProcessPacket_framed] at hrun
          exact misanswers_dispatch (obligingStub_complete _ _ _) (obligingStub_obliges _ _ _)
            csumHigh csumLow (fun _ _ => rfl) (by decide : (1 : UInt8) ≠ 0)
            (by decide : (1 : UInt8) ≠ 69) hfields hrefused _ _ _ hrun rfl hreply
  · rintro hserves σ stub rfl rfl hops state
    exact handled_of_serves hops csumHigh csumLow state hserves

end

/-- `m` without an address and a length: the checksum is good, every operation is there, and
the assertion about the two numbers fails. -/
theorem bareRead_aborts :
    let stub := obligingStub (plainArch 1 33) (fun _ => 4) true
    let pkt := Packet.ofFrame (framed (ascii "m") 54 100)
    packetCsumVerify pkt = .ok true ∧ stub.ops.Complete ∧
      (gdbstubProcessPacket stub pkt (StubState.init ())).1 = .error .assertFail ∧
      ¬ Handled stub (ascii "m") 54 100 (StubState.init ()) ∧
      ¬ AlwaysHandled (plainArch 1 33) (fun _ => 4) (ascii "m") 54 100 := by
  intro stub pkt
  have hcomplete : stub.ops.Complete := obligingStub_complete _ _ _
  have hfails : (gdbstubProcessPacket stub pkt (StubState.init ())).1 = .error .assertFail := by
    decide +kernel
  have hunhandled : ¬ Handled stub (ascii "m") 54 100 (StubState.init ()) :=
    fun hhandled => hhandled.normal _ hfails (by decide)
  exact ⟨by decide +kernel, hcomplete, hfails, hunhandled,
    fun hhandled => hunhandled (hhandled Unit stub rfl rfl hcomplete _)⟩

end MiniGdbstub
