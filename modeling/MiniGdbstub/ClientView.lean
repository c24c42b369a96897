import MiniGdbstub.ErrorReplies
import MiniGdbstub.RemoteSession
import MiniGdbstub.WritePaths

/-!
# What a client understands

A client that knows what it has asked for can tell from the replies what the target has answered
(`answers_understood`).  `OK`, the missing operation and the stop have replies of their own.  A text
of digits is no error, for its digits are in lower case; a code comes back from the decimal number
behind its `E`, and the code 1 is not the `E01` of a missing operation, since `%d` writes no zero
in front.
-/

namespace MiniGdbstub

open CString

variable {σ : Type} {stub : Gdbstub σ}

/-- What a reply can tell besides `OK`. -/
inductive Tells
  | digits
  | refusal
  | cpu

/-- What the replies to a request tell. -/
def Ask.tells : Ask → Tells
  | .setBp _ _ => .refusal
  | .delBp _ _ => .refusal
  | .getCpu => .cpu
  | _ => .digits

/-- What a client takes a reply to its request for. -/
def Ask.understand (ask : Ask) (reply : List UInt8) : Answer :=
  if reply = ascii "OK" then .ok
  else if reply = ascii "E01" then .missing
  else if reply = ascii "S" ++ hexByte gdbSignalTrap then .stopped
  else match ask.tells with
    | .cpu => if reply = [] then .unsupported else .cpu (Int32.ofInt (signedValue (reply.drop 2)))
    | .refusal => .refused
    | .digits =>
        if reply.head? = some 69 then .failed (Int32.ofInt (signedValue reply.tail))
        else .data (hexPairs reply)

/-- What it takes a session for. -/
def understood (asks : List Ask) (replies : List (List UInt8)) : List Answer :=
  List.zipWith (fun ask reply => ask.understand (framePayload reply)) asks replies

/-- The answers that a request can have. -/
def Ask.Expects (ask : Ask) : Answer → Prop
  | .data _ => ask.tells = .digits
  | .failed _ => ask.tells = .digits
  | .refused => ask.tells = .refusal
  | .unsupported => ask.tells = .cpu
  | .cpu _ => ask.tells = .cpu
  | _ => True

theorem expects_answerWith {α : Type} {ask : Ask} {op : Option α} {call : α → σ → Answer × σ}
    {target : σ} (hcall : ∀ provided, ask.Expects (call provided target).1) :
    ask.Expects (answerWith op call target).1 := by
  cases op with
  | none => trivial
  | some provided => exact hcall provided

theorem expects_ofCode {ask : Ask} (hdigits : ask.tells = .digits) (ret : Int32) :
    ask.Expects (.ofCode ret) := by
  rw [Answer.ofCode]
  split
  · trivial
  · exact hdigits

theorem expects_ofRead {ask : Ask} (hdigits : ask.tells = .digits)
    (result : Int32 × List UInt8) : ask.Expects (.ofRead result) := by
  rw [Answer.ofRead]
  split
  · exact hdigits
  · exact hdigits

theorem expects_ofAction (ask : Ask) (act : Action) : ask.Expects (.ofAction act) := by
  cases act with
  | none => trivial
  | resume => trivial
  | shutdown => trivial

theorem expects_transact {ask : Ask} (hdigits : ask.tells = .digits)
    (read : σ → ℤ → (Int32 × List UInt8) × σ) (write : σ → ℤ → List UInt8 → Int32 × σ)
    (values : List (List UInt8)) (target : σ) :
    ask.Expects (transact read write values target).1 := by
  unfold transact
  split
  · exact hdigits
  · split
    · trivial
    · exact hdigits

/-- A target does not answer but as expected. -/
theorem expects_answer (ask : Ask) (target : σ) : ask.Expects (stub.answer ask target).1 := by
  cases ask with
  | haltReason => trivial
  | isAlive => trivial
  | readRegs =>
      refine expects_answerWith fun op => ?_
      split
      · exact rfl
      · exact rfl
  | writeRegs data =>
      refine expects_answerWith fun write => ?_
      exact expects_answerWith fun read => expects_transact rfl read write _ target
  | readReg regno => exact expects_answerWith fun op => expects_ofRead rfl _
  | writeReg regno data => exact expects_answerWith fun op => expects_ofCode rfl _
  | readMem addr len => exact expects_answerWith fun op => expects_ofRead rfl _
  | writeMem addr data => exact expects_answerWith fun op => expects_ofCode rfl _
  | writeBinary addr data => exact expects_answerWith fun op => trivial
  | setBp addr type =>
      refine expects_answerWith fun op => ?_
      dsimp only
      split
      · trivial
      · exact rfl
  | delBp addr type =>
      refine expects_answerWith fun op => ?_
      dsimp only
      split
      · trivial
      · exact rfl
  | setCpu cpuid => exact expects_answerWith fun op => trivial
  | getCpu =>
      rw [Gdbstub.answer]
      dsimp only
      split
      · exact rfl
      · exact rfl
  | startNoAckMode => trivial
  | cont => exact expects_answerWith fun op => expects_ofAction _ _
  | stepi => exact expects_answerWith fun op => expects_ofAction _ _
  | detach => trivial

/-- A client that expects digits or an error. -/
theorem understand_of_digits {ask : Ask} {reply : List UInt8} (hdigits : ask.tells = .digits)
    (hok : reply ≠ ascii "OK") (hmissing : reply ≠ ascii "E01")
    (hstopped : reply ≠ ascii "S" ++ hexByte gdbSignalTrap) :
    ask.understand reply =
      if reply.head? = some 69 then .failed (Int32.ofInt (signedValue reply.tail))
      else .data (hexPairs reply) := by
  rw [Ask.understand, if_neg hok, if_neg hmissing, if_neg hstopped, hdigits]

/-- A code is not printed with a zero in front. -/
theorem errorText_ne_missing (ret : Int32) : errorText ret ≠ ascii "E01" := by
  intro htext
  have hdecimal : decimal ret.toInt = ascii "01" := List.cons_injective htext
  have hvalue : ret.toInt = 1 := by
    rw [← signedValue_decimal ret.toInt, hdecimal]
    rfl
  rw [hvalue] at hdecimal
  exact absurd hdecimal (by decide)

/-- A reply is understood as what it was sent for. -/
theorem understand_reply {ask : Ask} {answer : Answer} {reply : List UInt8}
    (hexpects : ask.Expects answer) (hreply : answer.reply? = some reply) :
    ask.understand reply = answer := by
  cases answer with
  | ok =>
      cases hreply
      rw [Ask.understand, if_pos rfl]
  | data bytes =>
      -- digits are in lower case: no reply of another kind begins like them
      cases hreply
      have hall : ∀ character ∈ hexText bytes, isHexDigit character = true := isHexDigit_hexText
      rw [understand_of_digits hexpects, if_neg, hexPairs_hexText]
      · exact fun hhead => notMem_hexText bytes (List.mem_of_head? hhead)
      · intro htext
        exact absurd (hall 79 (htext ▸ by decide)) (by decide)
      · intro htext
        exact notMem_hexText bytes (htext ▸ by decide)
      · intro htext
        exact absurd (hall 83 (htext ▸ by decide)) (by decide)
  | failed ret =>
      cases hreply
      have hhead : (errorText ret).head? = some 69 := rfl
      rw [understand_of_digits hexpects (errorText_ne_ok ret)
        (errorText_ne_missing ret), if_pos hhead]
      · rw [show (errorText ret).tail = decimal ret.toInt from rfl, signedValue_decimal,
          Int32.ofInt_toInt]
      · intro htext
        rw [htext] at hhead
        exact absurd hhead (by decide)
  | refused =>
      cases hreply
      have hexpects : ask.tells = .refusal := hexpects
      rw [Ask.understand, if_neg (by decide), if_neg (by decide), if_neg (by decide), hexpects]
  | missing =>
      cases hreply
      rfl
  | unsupported =>
      cases hreply
      have hexpects : ask.tells = .cpu := hexpects
      rw [Ask.understand, if_neg (by decide), if_neg (by decide), if_neg (by decide), hexpects]
      exact if_pos rfl
  | cpu cpuid =>
      cases hreply
      have hexpects : ask.tells = .cpu := hexpects
      have hhead : ∀ other : List UInt8, other.head? ≠ some 81 →
          ascii "QC" ++ decimalPadded 4 cpuid.toInt ≠ other := by
        rintro other hother rfl
        exact hother rfl
      have hdrop : (ascii "QC" ++ decimalPadded 4 cpuid.toInt).drop 2 =
          decimalPadded 4 cpuid.toInt := rfl
      rw [Ask.understand, if_neg (hhead _ (by decide)), if_neg (hhead _ (by decide)),
        if_neg (hhead _ (by decide)), hexpects]
      dsimp only
      rw [if_neg (hhead _ (by decide)), hdrop, signedValue_decimalPadded, Int32.ofInt_toInt]
  | stopped =>
      cases hreply
      rfl
  | silent => cases hreply
  | shutdown => cases hreply

theorem understood_cons {ask : Ask} {answer : Answer} (hexpects : ask.Expects answer)
    {reply : List UInt8} (hreply : answer.reply? = some reply) (asks : List Ask)
    (answers : List Answer) :
    understood (ask :: asks) (replyFrames (answer :: answers)) =
      answer :: understood asks (replyFrames answers) := by
  rw [replyFrames_cons, hreply]
  show ask.understand (framePayload (pktstrFrame reply)) :: _ = _
  rw [framePayload_pktstrFrame, understand_reply hexpects hreply]
  rfl

/-- Only `ACT_NONE` and `ACT_SHUTDOWN` have no reply. -/
theorem reply?_cases (answer : Answer) :
    answer = .silent ∨ answer = .shutdown ∨ ∃ reply, answer.reply? = some reply := by
  cases answer with
  | silent => exact .inl rfl
  | shutdown => exact .inr (.inl rfl)
  | _ => exact .inr (.inr ⟨_, rfl⟩)

/-- The answers of a session, from its replies. -/
theorem understood_session (asks : List Ask) :
    ∀ {target : σ}, (∀ answer ∈ (stub.session asks target).1, answer ≠ .silent) →
      understood asks (replyFrames (stub.session asks target).1) =
        (stub.session asks target).1.filter fun answer => answer.reply?.isSome := by
  induction asks with
  | nil =>
      intro target _
      rfl
  | cons ask asks ih =>
      intro target hanswered
      rw [Gdbstub.session] at hanswered ⊢
      have hexpects : ask.Expects (stub.answer ask target).1 := expects_answer ask target
      generalize stub.answer ask target = answered at hanswered hexpects ⊢
      obtain ⟨answer, next⟩ := answered
      dsimp only at hanswered hexpects ⊢
      rcases reply?_cases answer with rfl | rfl | ⟨reply, hreply⟩
      · refine absurd rfl (hanswered .silent ?_)
        split
        · exact List.mem_cons_self
        · exact List.mem_cons_self
      · -- the run is over, whatever was asked for
        have hshutdown : ask.outcome .shutdown = some true := by cases ask <;> rfl
        rw [hshutdown]
        rfl
      · cases houtcome : ask.outcome answer with
        | some ret =>
            rw [List.filter_cons_of_pos (by rw [hreply]; rfl)]
            exact (understood_cons hexpects hreply asks []).trans
              (congrArg (answer :: ·) (List.zipWith_nil_right))
        | none =>
            rw [houtcome] at hanswered
            dsimp only at hanswered ⊢
            rw [List.filter_cons_of_pos (by rw [hreply]; rfl),
              understood_cons hexpects hreply,
              ih fun answer hmem => hanswered answer (List.mem_cons_of_mem _ hmem)]

/-- **What is sent back tells the client what was answered**: all of it, but that `cont` or `stepi`
has ended the session.  What `write_mem` returned for an `X` is in no answer. -/
theorem answers_understood (halloc : ∀ k bytes, stub.mallocs k bytes = true)
    {pkts : List (Packet UInt8)} {bodies : List (List UInt8)} {asks : List Ask}
    (hpkts : intactPackets pkts = packetsOf bodies) (hfew : FewCorrupted pkts)
    (hasks : List.Forall₂ (Asks stub) bodies asks) (target : σ)
    (hfits : ∀ answer ∈ (stub.session asks target).1, answer.Fits)
    (hanswered : ∀ answer ∈ (stub.session asks target).1, answer ≠ .silent) :
    understood asks (gdbstubRun stub pkts (StubState.init target)).2.replies =
      (stub.session asks target).1.filter fun answer => answer.reply?.isSome := by
  have hserved : Served (StubState.init target) _ (stub.session asks target) :=
    gdbstubRun_carries halloc hpkts hfew hasks regbufInit_sound rfl hfits
  rw [hserved.replies]
  exact understood_session asks hanswered

theorem answers_understood_overlap :
    let stub := byteStoreStub fun addr len => addr + len ≤ 2 ^ 64
    understood overlapAsks (gdbstubRun stub overlapPackets (StubState.init fun _ => 7)).2.replies =
      [.ok, .data [0xcd, 7], .stopped] := by
  intro stub
  have halloc : ∀ k bytes, stub.mallocs k bytes = true := fun _ _ => rfl
  have hsession : (stub.session overlapAsks fun _ => 7).1 = _ := overlap_session
  have hfits : ∀ answer ∈ (stub.session overlapAsks fun _ => 7).1, answer.Fits := by
    rw [hsession]
    simp [Answer.Fits, maxSendPacketSize]
  have hanswered : ∀ answer ∈ (stub.session overlapAsks fun _ => 7).1, answer ≠ .silent := by
    rw [hsession]
    decide
  rw [answers_understood halloc overlap_intact (fewCorrupted_of_length (by decide)) overlap_asks
    (fun _ => 7) hfits hanswered, hsession]
  rfl

end MiniGdbstub
