import MiniGdbstub.Session
import MiniGdbstub.RegisterWrite

/-!
# What a disconnect leaves in the queue

`pktqueue_pop` returns `NULL` when it was interrupted as well as when the queue is shut
down and drained, and `gdbstub_run` tells these apart by a second look at the queue.  A
packet pushed between the two, followed by the shutdown, is left in the queue.

`Drained` is what holds as long as this does not happen, `Abandoned` what holds from then
on; every run is in one of them.
-/

namespace MiniGdbstub

variable {σ : Type} {stub : Gdbstub σ} {target : σ}

/-- Every packet pushed was taken and dispatched, and none is left. -/
def AllServed (session : Session σ) : Prop :=
  session.taken.map Taken.pkt = session.pushed ∧ session.served = session.pushed.length ∧
    session.queue.packets = []

/-- Is the main thread about to look at the flag, after a pop that returned `NULL`? -/
def MainTurn.looking : MainTurn → Bool
  | .isShutdown => true
  | _ => false

/-- If the reader signals the shutdown while the main thread, whose last pop returned
`NULL` from an empty queue, has yet to look at the flag, then nothing was pushed since
that pop. -/
def NothingSlippedIn (session : Session σ) : SessionLabel σ → Prop
  | .shutdown => session.main.looking = true → session.queue.packets = []
  | _ => True

instance (session : Session σ) : ∀ label, Decidable (NothingSlippedIn session label)
  | .shutdown => inferInstanceAs (Decidable (_ → _))
  | .interrupt => inferInstanceAs (Decidable True)
  | .push _ _ => inferInstanceAs (Decidable True)
  | .ack _ => inferInstanceAs (Decidable True)
  | .target _ => inferInstanceAs (Decidable True)
  | .main => inferInstanceAs (Decidable True)

/-! ## Drained or abandoned -/

/-- The queue is empty wherever the main thread can see the shutdown. -/
structure Drained (session : Session σ) : Prop where
  finished : session.queue.shutdown = true ↔ session.reader = .finished
  looking : session.main = .isShutdown → session.queue.shutdown = true →
    session.queue.packets = []
  seen : session.main = .shutdownSeen →
    session.queue.shutdown = true ∧ session.queue.packets = []

/-- The main thread will see the shutdown, or has seen it, with a packet in the queue. -/
structure Abandoned (session : Session σ) : Prop where
  reader : session.reader = .finished
  shutdown : session.queue.shutdown = true
  main : session.main = .isShutdown ∨ session.main = .shutdownSeen
  packets : session.queue.packets ≠ []

theorem Drained.step {session next : Session σ} {label : SessionLabel σ}
    (hdrained : Drained session) (hguard : NothingSlippedIn session label)
    (hstep : SessionStep stub session label next) : Drained next := by
  have hfinished := hdrained.finished
  -- a reader that can still move has not signalled the shutdown
  have hopen : session.reader ≠ .finished → session.queue.shutdown = false := by
    intro hreader
    exact Bool.eq_false_of_not_eq_true fun hshutdown => hreader (hfinished.mp hshutdown)
  cases hstep with
  | interrupt hreader => exact ⟨hfinished, hdrained.looking, hdrained.seen⟩
  | push pkt hreader =>
      have hfalse := hopen (by rw [hreader]; decide)
      constructor
      · simp [pktqueuePush, hfalse]
      · intro _ hshutdown
        exact absurd (hfalse.symm.trans hshutdown) (by decide)
      · intro hmain
        exact absurd (hfalse.symm.trans (hdrained.seen hmain).1) (by decide)
  | pushFailed _ => exact hdrained
  | ack hreader =>
      have hfalse := hopen (by rw [hreader]; decide)
      exact ⟨by simp [hfalse], hdrained.looking, hdrained.seen⟩
  | ackSkipped hreader =>
      have hfalse := hopen (by rw [hreader]; decide)
      exact ⟨by simp [hfalse], hdrained.looking, hdrained.seen⟩
  | shutdown hreader =>
      have hfalse := hopen (by rw [hreader]; decide)
      constructor
      · simp [pktqueueSignalShutdown]
      · intro hmain _
        exact hguard (by rw [show session.main = .isShutdown from hmain]; rfl)
      · intro hmain
        exact absurd (hfalse.symm.trans (hdrained.seen hmain).1) (by decide)
  | target _ => exact ⟨hfinished, hdrained.looking, hdrained.seen⟩
  | popNull hmain hpackets => exact ⟨hfinished, fun _ _ => hpackets, by simp⟩
  | popPacket pkt packets hmain hpackets => exact ⟨hfinished, by simp, by simp⟩
  | shutdownSeen hmain hshutdown =>
      exact ⟨hfinished, by simp, fun _ => ⟨hshutdown, hdrained.looking hmain hshutdown⟩⟩
  | notShutdown hmain _ => exact ⟨hfinished, by simp, by simp⟩
  | checkInterrupt hmain => exact ⟨hfinished, by simp, by simp⟩
  | verified pkt csumOk hmain _ => exact ⟨hfinished, by simp, by simp⟩
  | acknowledged pkt csumOk hmain _ => exact ⟨hfinished, by simp, by simp⟩
  | notAcknowledged pkt csumOk hmain _ => exact ⟨hfinished, by simp, by simp⟩
  | served pkt csumOk ret after hmain _ =>
      refine ⟨hfinished, ?_, ?_⟩
      · cases ret <;> simp [MainTurn.afterServe]
      · cases ret <;> simp [MainTurn.afterServe]
  | crashed fault after _ => exact ⟨hfinished, by simp, by simp⟩

/-- Once the queue is abandoned, the main thread can only see the flag. -/
theorem Abandoned.step {session next : Session σ} {label : SessionLabel σ}
    (habandoned : Abandoned session) (hstep : SessionStep stub session label next) :
    Abandoned next := by
  obtain ⟨hreader, hshutdown, hmain, hpackets⟩ := habandoned
  have hidle : session.main.unserved = 0 := by
    rcases hmain with hmain | hmain <;> rw [hmain] <;> rfl
  have hlooping : session.main ≠ .pop ∧ session.main ≠ .checkInterrupt := by
    rcases hmain with hmain | hmain <;> rw [hmain] <;> simp
  cases hstep with
  | interrupt hreading => exact absurd (hreading.symm.trans hreader) (by decide)
  | push pkt hreading => exact absurd (hreading.symm.trans hreader) (by decide)
  | pushFailed _ => exact ⟨hreader, hshutdown, hmain, hpackets⟩
  | ack hacking => exact absurd (hacking.symm.trans hreader) (by decide)
  | ackSkipped hacking => exact absurd (hacking.symm.trans hreader) (by decide)
  | shutdown hreading => exact absurd (hreading.symm.trans hreader) (by decide)
  | target _ => exact ⟨hreader, hshutdown, hmain, hpackets⟩
  | popNull hpop _ => exact absurd hpop hlooping.1
  | popPacket pkt packets hpop _ => exact absurd hpop hlooping.1
  | shutdownSeen _ _ => exact ⟨hreader, hshutdown, .inr rfl, hpackets⟩
  | notShutdown _ hopen => exact absurd (hopen.symm.trans hshutdown) (by decide)
  | checkInterrupt hcheck => exact absurd hcheck hlooping.2
  | verified pkt csumOk hverify _ =>
      rw [hverify] at hidle
      exact absurd hidle Nat.one_ne_zero
  | acknowledged pkt csumOk hack _ =>
      rw [hack] at hidle
      exact absurd hidle Nat.one_ne_zero
  | notAcknowledged pkt csumOk hack _ =>
      rw [hack] at hidle
      exact absurd hidle Nat.one_ne_zero
  | served pkt csumOk ret after hserve _ =>
      rw [hserve] at hidle
      exact absurd hidle Nat.one_ne_zero
  | crashed fault after hbusy => exact absurd (hbusy.symm.trans hidle) (by decide)

/-- The step that abandons the queue. -/
theorem abandoned_of_slipped {session next : Session σ} {label : SessionLabel σ}
    (hslipped : ¬ NothingSlippedIn session label)
    (hstep : SessionStep stub session label next) : Abandoned next := by
  cases hstep with
  | shutdown hreader =>
      obtain ⟨hlooking, hpackets⟩ := Classical.not_imp.mp hslipped
      refine ⟨rfl, rfl, .inl ?_, hpackets⟩
      show session.main = .isShutdown
      revert hlooking
      cases session.main <;> simp [MainTurn.looking]
  | _ => exact absurd trivial hslipped

/-- **Every run is drained or abandoned**, and it is abandoned only by a packet that
slipped in. -/
theorem drained_or_abandoned {labels : List (SessionLabel σ)} {session : Session σ}
    (hrun : (gdbstubSession stub target).run labels = some session) :
    ((gdbstubSession stub target).Guarded NothingSlippedIn labels ∧ Drained session) ∨
      (¬ (gdbstubSession stub target).Guarded NothingSlippedIn labels ∧ Abandoned session) := by
  refine Machine.run_induction
    (motive := fun labels session =>
      ((gdbstubSession stub target).Guarded NothingSlippedIn labels ∧ Drained session) ∨
        (¬ (gdbstubSession stub target).Guarded NothingSlippedIn labels ∧ Abandoned session))
    ?_ ?_ hrun
  · exact .inl ⟨trivial, by simp [gdbstubSession, pktqueueInit], by simp [gdbstubSession],
      by simp [gdbstubSession]⟩
  · intro labels label session next hrun ih hstep
    obtain ⟨-, hstep⟩ := gdbstubSession_step stub hstep
    rcases ih with ⟨hguard, hdrained⟩ | ⟨hslipped, habandoned⟩
    · by_cases hlast : NothingSlippedIn session label
      · exact .inl ⟨hguard.concat hrun hlast, hdrained.step hlast hstep⟩
      · exact .inr ⟨fun hall => hlast (hall.last hrun), abandoned_of_slipped hlast hstep⟩
    · exact .inr ⟨fun hall => hslipped hall.append_left, habandoned.step hstep⟩

/-! ## What a disconnect leaves -/

/-- **The queue is empty at a disconnect exactly when nothing slipped in.**  In every run
in which `gdbstub_run` has returned because it saw the shutdown flag, every packet pushed
was taken and dispatched if and only if the reader did not signal the shutdown while the
main thread was between a pop that returned `NULL` and its look at the flag, with a packet
pushed since that pop. -/
theorem allServed_iff {labels : List (SessionLabel σ)} {session : Session σ}
    (hrun : (gdbstubSession stub target).run labels = some session)
    (hseen : session.main = .shutdownSeen) :
    AllServed session ↔ (gdbstubSession stub target).Guarded NothingSlippedIn labels := by
  have hordered := session_ordered hrun
  have hserved := hordered.served (by rw [hseen]; rfl)
  have hfifo := hordered.fifo
  rcases drained_or_abandoned hrun with ⟨hguard, hdrained⟩ | ⟨hslipped, habandoned⟩
  · have hempty := (hdrained.seen hseen).2
    refine ⟨fun _ => hguard, fun _ => ⟨?_, ?_, hempty⟩⟩
    · rw [← hfifo, hempty, List.append_nil]
    · rw [hseen] at hserved
      calc session.served = session.taken.length := hserved
        _ = (session.taken.map Taken.pkt).length := (List.length_map _).symm
        _ = session.pushed.length := by rw [← hfifo, hempty, List.append_nil]
  · exact ⟨fun hall => absurd hall.2.2 habandoned.packets, fun hguard => absurd hguard hslipped⟩

/-- The packet `?`. -/
def haltReason : Packet UInt8 :=
  Packet.ofFrame (ascii "$?#3f")

/-- The packet is served before the disconnect. -/
def servedDisconnect : List (SessionLabel (ℕ → List UInt8)) :=
  [.push haltReason true, .ack false, .main, .main, .main, .main, .shutdown, .main, .main]

theorem allServed_iff_servedDisconnect :
    ∃ session, (gdbstubSession oneByteStub fun _ => [0x11]).run servedDisconnect =
      some session ∧ session.pushed = [haltReason] ∧ AllServed session := by
  obtain ⟨session, hrun, hpushed, hseen⟩ :
      ∃ session, (gdbstubSession oneByteStub fun _ => [0x11]).run servedDisconnect =
        some session ∧ session.pushed = [haltReason] ∧ session.main = .shutdownSeen :=
    ⟨_, rfl, rfl, rfl⟩
  exact ⟨session, hrun, hpushed, (allServed_iff hrun hseen).mpr (by decide +kernel)⟩

/-- An interrupt wakes the main thread, and before it looks at the flag the reader pushes
a packet and signals the shutdown. -/
def slippedIn : List (SessionLabel (ℕ → List UInt8)) :=
  [.interrupt, .main, .push haltReason true, .ack false, .shutdown, .main]

/-- `gdbstub_run` has returned because of the flag, with the packet in the queue. -/
theorem slippedIn_loses_packet :
    ∃ session, (gdbstubSession oneByteStub fun _ => [0x11]).run slippedIn = some session ∧
      session.main = .shutdownSeen ∧ session.pushed = [haltReason] ∧
      session.queue.packets = [haltReason] ∧ ¬ AllServed session := by
  refine ⟨_, rfl, rfl, rfl, rfl, ?_⟩
  rintro ⟨-, -, hempty⟩
  cases hempty

end MiniGdbstub
