import MiniGdbstub.ClientView
import MiniGdbstub.FrameRoundTrip
import MiniGdbstub.SendLoop
import MiniGdbstub.Server

/-!
# From the stream to the client

Both directions are streams of bytes.  What the stub sends are packets and acknowledgements of two
threads, one string behind the other as long as no send gives up, and a client divides the bytes
into frames without knowing where a string ends.  It finds just the replies: an acknowledgement has
no start mark, and a reply has a stop mark only at its end.

With `server_serves` in the other direction this closes the circle (`wire_understood`): the bytes of
the client's requests go in, cut in any way and served in any interleaving, and from the bytes that
come out the client reads the answers of the target.
-/

namespace MiniGdbstub

open CString Framing

variable {σ : Type} {stub : Gdbstub σ} {stream : List UInt8} {target : σ}

/-! ## Strings on the wire -/

/-- The sends of the two threads have carried these strings: the mutex was locked for them in this
order, and every loop has come to the end of its string. -/
structure Sending.Carries (sending : Sending) (strs : List (List UInt8)) : Prop where
  reached : ∃ labels, connSending.run labels = some sending
  messages : sending.attempts.map SendAttempt.message = strs
  returned : ∀ attempt ∈ sending.attempts, attempt.ret = some true

/-- The strings are on the socket, one behind the other. -/
theorem Sending.Carries.socket_eq {sending : Sending} {strs : List (List UInt8)}
    (hcarries : sending.Carries strs) : sending.socket = strs.flatten := by
  obtain ⟨labels, hrun⟩ := hcarries.reached
  have hsound := sending_sound hrun
  have hwritten : sending.attempts.map SendAttempt.written =
      sending.attempts.map SendAttempt.message :=
    List.map_congr_left fun attempt hmem =>
      (hsound.attempt hmem).2 (hcarries.returned attempt hmem)
  rw [hsound.socket, hwritten, hcarries.messages]

/-- An acknowledgement, or a packet. -/
def Sendable (str : List UInt8) : Prop :=
  str = ascii "+" ∨ str = ascii "-" ∨ ∃ payload, str = pktstrFrame payload

theorem frames_acknowledgement {str : List UInt8} (hstr : str = ascii "+" ∨ str = ascii "-") :
    frames gdbFrame str = [] ∧ residual gdbFrame str = [] := by
  apply frames_of_no_start
  intro symbol hsymbol
  rcases hstr with rfl | rfl
  · obtain rfl : symbol = 43 := List.mem_singleton.mp hsymbol
    decide
  · obtain rfl : symbol = 45 := List.mem_singleton.mp hsymbol
    decide

/-- A packet with a payload that has no stop mark is a frame by itself. -/
theorem nextFrame?_pktstrFrame {payload : List UInt8} (hpayload : hash ∉ payload) :
    nextFrame? gdbFrame (pktstrFrame payload) = some (pktstrFrame payload, []) := by
  obtain ⟨hskip, hup, hfrom⟩ := (firstFrame_pktstrFrame hpayload).parts
  have hlength : (dollar :: payload).length + (csumSize + 1) =
      (dollar :: (payload ++ hash :: hexByte (computeChecksum payload))).length := by
    simp [csumSize, hexByte]
  rw [nextFrame?_eq_take, hskip, hup, gdbFrame_trailer, hlength, List.take_length,
    List.drop_length]
  · rfl
  · rw [hskip, hfrom]
    simp [csumSize, hexByte]

/-- Strings of which a client finds those that begin with `'$'`. -/
theorem flatMap_frames {strs : List (List UInt8)} (hstrs : ∀ str ∈ strs,
    frames gdbFrame str = if str.head? = some dollar then [str] else []) :
    strs.flatMap (frames gdbFrame) = strs.filter fun str => str.head? = some dollar := by
  induction strs with
  | nil => rfl
  | cons str strs ih =>
      have hrest := ih fun later hlater => hstrs later (List.mem_cons_of_mem _ hlater)
      rw [List.flatMap_cons, hstrs str List.mem_cons_self, hrest, List.filter_cons]
      by_cases hhead : str.head? = some dollar
      · rw [if_pos hhead, if_pos (decide_eq_true hhead)]
        rfl
      · rw [if_neg hhead, if_neg (by simpa using hhead)]
        rfl

/-- A client finds the replies in what is sent, and nothing else. -/
theorem frames_socket {sending : Sending} {state : StubState σ}
    (hcarries : sending.Carries state.sent) (hsent : ∀ str ∈ state.sent, Sendable str)
    (hreplies : ∀ payload, pktstrFrame payload ∈ state.replies → hash ∉ payload) :
    frames gdbFrame sending.socket = state.replies ∧ residual gdbFrame sending.socket = [] := by
  have hwhole : ∀ str ∈ state.sent, residual gdbFrame str = [] ∧
      frames gdbFrame str = if str.head? = some dollar then [str] else [] := by
    intro str hmem
    have hcases : (str = ascii "+" ∨ str = ascii "-") ∨ ∃ payload, str = pktstrFrame payload :=
      or_assoc.mpr (hsent str hmem)
    rcases hcases with hack | ⟨payload, rfl⟩
    · obtain ⟨hframes, hresidual⟩ := frames_acknowledgement hack
      have hhead : str.head? ≠ some dollar := by
        rcases hack with rfl | rfl
        · decide
        · decide
      rw [if_neg hhead]
      exact ⟨hresidual, hframes⟩
    · have hreply : pktstrFrame payload ∈ state.replies :=
        List.mem_filter.mpr ⟨hmem, decide_eq_true rfl⟩
      obtain ⟨hframes, hresidual⟩ :=
        frames_of_whole (nextFrame?_pktstrFrame (hreplies payload hreply))
      exact ⟨hresidual, hframes.trans (if_pos rfl).symm⟩
  obtain ⟨hframes, hresidual⟩ := frames_flatten fun str hmem => (hwhole str hmem).1
  rw [hcarries.socket_eq]
  refine ⟨?_, hresidual⟩
  rw [hframes]
  exact flatMap_frames fun str hmem => (hwhole str hmem).2

/-! ## What the two threads send -/

/-- While it goes on, the stub sends nothing but acknowledgements and packets. -/
def Session.Speaks (session : Session σ) : Prop :=
  session.main.running = true → ∀ str ∈ session.stub.sent, Sendable str

theorem gdbstubServe_sent {pkt : Packet UInt8} {csumOk : Bool} {state after : StubState σ}
    {ret : Option Bool} (hserve : gdbstubServe stub pkt csumOk state = (.ok ret, after)) :
    ∃ replies : List (List UInt8), after.sent = state.sent ++ replies.map pktstrFrame := by
  cases csumOk with
  | false =>
      cases hserve
      exact ⟨[], (List.append_nil _).symm⟩
  | true =>
      obtain ⟨event, processed, act, handled, hevent, hact, hafter⟩ := gdbstubServe_ok stub hserve
      obtain ⟨replies, -, hprocessed⟩ :=
        (sendsFor_gdbstubProcessPacket stub pkt _ _ _ hevent).sent
      obtain ⟨more, hnone, hhandled⟩ := (quiet_gdbstubHandleEvent stub event _ _ _ hact).sent
      obtain rfl := List.length_eq_zero_iff.mp hnone
      rw [List.map_nil, List.append_nil] at hhandled
      have hsent : handled.sent = state.sent ++ replies.map pktstrFrame :=
        hhandled.trans hprocessed
      rcases hafter with ⟨-, -, rfl⟩ | ⟨-, -, rfl⟩ | ⟨-, -, rfl⟩
      · refine ⟨replies ++ [ascii "S05"], ?_⟩
        rw [List.map_append, ← List.append_assoc, ← hsent]
        rfl
      · exact ⟨replies, hsent⟩
      · exact ⟨replies, hsent⟩

theorem Session.Speaks.sent {session next : Session σ} (hspeaks : session.Speaks)
    (hrunning : session.main.running = true) {strs : List (List UInt8)}
    (hsent : next.stub.sent = session.stub.sent ++ strs) (hstrs : ∀ str ∈ strs, Sendable str) :
    next.Speaks := by
  intro _ str hmem
  rw [hsent] at hmem
  rcases List.mem_append.mp hmem with hmem | hmem
  · exact hspeaks hrunning str hmem
  · exact hstrs str hmem

theorem Session.Speaks.step {session next : Session σ} {label : SessionLabel σ}
    (hspeaks : session.Speaks)
    (hstep : (gdbstubSession stub target).step session label = some next) : next.Speaks := by
  obtain ⟨hrunning, hmoved⟩ := gdbstubSession_step stub hstep
  have hsame : ∀ {next : Session σ}, next.stub.sent = session.stub.sent → next.Speaks :=
    fun hsent => hspeaks.sent hrunning (hsent.trans (List.append_nil _).symm) (by simp)
  cases hmoved with
  | ack _ =>
      refine hspeaks.sent hrunning rfl fun str hmem => ?_
      rw [List.mem_singleton.mp hmem]
      exact .inl rfl
  | acknowledged pkt csumOk _ _ =>
      refine hspeaks.sent hrunning rfl fun str hmem => ?_
      rw [List.mem_singleton.mp hmem, ackText]
      cases csumOk with
      | true => exact .inl rfl
      | false => exact .inr (.inl rfl)
  | served pkt csumOk ret after _ hserve =>
      obtain ⟨replies, hsent⟩ := gdbstubServe_sent hserve
      refine hspeaks.sent hrunning hsent fun str hmem => ?_
      obtain ⟨reply, -, rfl⟩ := List.mem_map.mp hmem
      exact .inr (.inr ⟨reply, rfl⟩)
  | crashed fault after _ => exact fun hcrashed => (by cases hcrashed)
  | _ => exact hsame rfl

theorem speaks_of_run {labels : List (SessionLabel σ)} {session : Session σ}
    (hrun : (gdbstubSession stub target).run labels = some session) : session.Speaks := by
  refine Machine.run_invariant ?_ ?_ hrun
  · exact fun _ str hmem => absurd hmem List.not_mem_nil
  · exact fun _ _ _ hspeaks hstep => hspeaks.step hstep

/-! ## What a client reads -/

theorem hash_notMem_reply {answer : Answer} {reply : List UInt8}
    (hreply : answer.reply? = some reply) : hash ∉ reply := by
  have hplain : Plain reply := by
    cases answer with
    | data bytes =>
        cases hreply
        exact plain_hexText bytes
    | failed ret =>
        cases hreply
        exact plain_errorText ret
    | cpu cpuid =>
        cases hreply
        exact Plain.append (by decide) (plain_decimalPadded 4 _)
    | silent => cases hreply
    | shutdown => cases hreply
    | _ =>
        cases hreply
        decide
  exact fun hmem => hplain hash hmem List.mem_cons_self

theorem hash_notMem_of_replyFrames {answers : List Answer} {payload : List UInt8}
    (hmem : pktstrFrame payload ∈ replyFrames answers) : hash ∉ payload := by
  obtain ⟨reply, hreply, hframe⟩ := List.mem_map.mp hmem
  obtain ⟨answer, -, hanswer⟩ := List.mem_filterMap.mp hreply
  obtain rfl := pktstrFrame_inj hframe
  exact hash_notMem_reply hanswer

/-- A session with the target has no faults. -/
theorem session_unfaulted (asks : List Ask) (fault : Fault) :
    ∀ target : σ, (stub.session asks target).2.1 ≠ .faulted fault := by
  induction asks with
  | nil =>
      intro target heq
      cases heq
  | cons ask asks ih =>
      intro target
      rw [Gdbstub.session]
      dsimp only
      split
      · exact fun heq => (by cases heq)
      · exact ih _

theorem running_of_served {session : Session σ} {asks : List Ask} {state : StubState σ}
    (hserved : Served state (session.main.ended, session.stub) (stub.session asks target)) :
    session.main.running = true := by
  cases hmain : session.main with
  | crashed fault =>
      have hended := hserved.ended
      rw [hmain] at hended
      exact absurd hended.symm (session_unfaulted asks fault target)
  | _ => rfl

/-- What a client finds in the bytes sent is the answers to the requests that have been served. -/
theorem Session.Speaks.understood {session : Session σ} (hspeaks : session.Speaks)
    {sending : Sending} (hcarries : sending.Carries session.stub.sent) {asks : List Ask}
    (hanswered : ∀ answer ∈ (stub.session asks target).1, answer ≠ .silent)
    (hserved : Served (StubState.init target) (session.main.ended, session.stub)
      (stub.session asks target)) :
    frames gdbFrame sending.socket = session.stub.replies ∧
      residual gdbFrame sending.socket = [] ∧
      MiniGdbstub.understood asks (frames gdbFrame sending.socket) =
        (stub.session asks target).1.filter fun answer => answer.reply?.isSome := by
  have hreplies : session.stub.replies = replyFrames (stub.session asks target).1 :=
    hserved.replies
  obtain ⟨hframes, hresidual⟩ := frames_socket hcarries (hspeaks (running_of_served hserved)) <| by
    intro payload hmem
    rw [hreplies] at hmem
    exact hash_notMem_of_replyFrames hmem
  refine ⟨hframes, hresidual, ?_⟩
  rw [hframes, hreplies]
  exact understood_session asks hanswered

/-- Every string is written in two pieces. -/
def sentInTwo (str : List UInt8) : List SendLabel :=
  let half := str.length / 2
  [.call .main str, .lock .main, .poll .main true, .write .main (.wrote half), .poll .main true,
    .write .main (.wrote (str.length - half)), .unlock .main]

end MiniGdbstub
