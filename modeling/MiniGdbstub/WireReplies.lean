import MiniGdbstub.Library.RunLength
import MiniGdbstub.PlainReplies
import MiniGdbstub.TransferBounds

/-!
# Replies on the wire

`conn_send_pktstr` copies its string between `$` and `#` as it is.  The client on the other side
stops at the first `#`, checks the checksum, undoes escapes and expands run lengths
(`clientReceives`), so it obtains the string exactly when the string is plain
(`clientReceives_iff`).

All replies are plain but for two.  A transfer sends characters of the description that the user
of the library has written, and `g` without registers sends what the array held before.  What
has to be plain is the part of the description that is asked for (`SendsPlain`).  It has to be a
part at all: with an offset behind its end a transfer sends what stands there, and with a length
of zero what the array held before (`Delivered`).
-/

namespace MiniGdbstub

open CString Program

/-! ## The client -/

/-- `'}'` is followed by a character under a mask, `'*'` by the number of repetitions and 29. -/
def clientCode : RunLengthCode UInt8 where
  escape := escapeChar
  runMark := runLengthChar
  unmask := fun character => character ^^^ 0x20
  count := fun character =>
    if 32 ≤ character ∧ character ≤ 126 then some (character.toNat - 29) else none
  escape_ne := by decide

/-- What a client makes of a frame. -/
def clientReceives : List UInt8 → Option (List UInt8)
  | [] => none
  | first :: rest =>
      let body := rest.takeWhile (· != hash)
      match rest.drop (body.length + 1) with
      | high :: low :: _ => do
          let high ← hexValue? high
          let low ← hexValue? low
          if first = dollar ∧ 16 * high + low = (computeChecksum body).toNat then
            clientCode.expand none body
          else
            none
      | _ => none

/-! ## Which strings are sent -/

/-- Everything sent between these states arrives as it is. -/
def Survived {σ : Type} (state after : StubState σ) : Prop :=
  ∃ sent, after.sent = state.sent ++ sent ∧
    ∀ pktstr, pktstrFrame pktstr ∈ sent → clientReceives (pktstrFrame pktstr) = some pktstr

/-- A mark and a part of the description from this offset on. -/
def CutFrom (desc : List UInt8) (offset : ℤ) (pktstr : List UInt8) : Prop :=
  ∃ mark ∈ ascii "lm", ∃ slice, slice <+: desc.drop offset.toNat ∧ pktstr = mark :: slice

/-- A transfer has stayed inside the description and its array, and what it has sent is cut from
the description and arrives as it is. -/
structure Delivered {σ α : Type} (desc : List UInt8) (offset : ℤ) (state : StubState σ)
    (run : Except Fault α × StubState σ) : Prop where
  inside : run.1 ≠ .error .outOfBounds
  cut : ∀ pktstr, run.2.sent = state.sent ++ [pktstrFrame pktstr] → CutFrom desc offset pktstr
  survived : Survived state run.2

/-- The two numbers of a transfer, behind the name of its object. -/
def tokensRange (args : List UInt8) : Option (ℤ × ℤ) := do
  let (action, rest) ← strtok colon args
  let (annex, rest) ← if action = ascii "read" then strtok colon rest else none
  let (range, _) ← if annex = ascii "target.xml" then strtok colon rest else none
  match scanHexFields 2 range with
  | [offset, length] => some (asInt offset, asInt length)
  | [offset] => some (asInt offset, 0)
  | _ => some (0, 0)

variable {σ : Type} (stub : Gdbstub σ)

/-- What a transfer takes apart: its arguments, or what is left of a transfer before. -/
def transferText (state : StubState σ) : Option (List UInt8) → Option (List UInt8)
  | some args => some (text args)
  | none => if state.transfers = 0 then none else some (text (stub.freed state.transfers))

def objectRange (state : StubState σ) (s : List UInt8) : Option (ℤ × ℤ) :=
  if (cut colon s).1 = ascii "features" then
    (transferText stub state (cut colon s).2).bind tokensRange
  else
    none

/-- The offset and the length that a transfer of the description asks for. -/
def transferRange (state : StubState σ) : List UInt8 → Option (ℤ × ℤ)
  | [] => none
  | request :: payload =>
      if request = 113 ∧ (cut colon payload).1 = ascii "Xfer" then
        (cut colon payload).2.bind (objectRange stub state)
      else
        none

/-- What the client is owed for this body. -/
structure RepliesSurvive (body : List UInt8) (csumHigh csumLow : UInt8) (state : StubState σ) :
    Prop where
  survived : Survived state
    (gdbstubProcessPacket stub (Packet.ofFrame (framed body csumHigh csumLow)) state).2
  transfer : ∀ desc ∈ stub.arch.targetDesc, ∀ offset length,
    transferRange stub state body = some (offset, length) → Delivered desc offset state
      (gdbstubProcessPacket stub (Packet.ofFrame (framed body csumHigh csumLow)) state)

/-- The offset is inside the description, and what is cut from it is plain.  A length of zero
sends what the array held, a negative one all of the rest, if these are not too long to be
sent. -/
structure TransferPlain (desc : List UInt8) (offset length : ℤ) : Prop where
  inside : 0 ≤ offset ∧ offset ≤ desc.length
  slice : 1 ≤ length → Plain ((desc.drop offset.toNat).take ((xferSize length).toNat - 1))
  empty : length = 0 → ∃ rest ∈ text? ((localBuffer stub maxSendPacketSize).drop 1),
    rest.length + 6 < maxSendPacketSize → rest <+: desc.drop offset.toNat ∧ Plain rest
  endless : length < 0 → (desc.drop offset.toNat).length + 2 ≤ maxSendPacketSize ∧
    ((desc.drop offset.toNat).length + 6 < maxSendPacketSize → Plain (desc.drop offset.toNat))

/-- The condition on a request. -/
structure SendsPlain (state : StubState σ) (body : List UInt8) : Prop where
  transfer : ∀ desc ∈ stub.arch.targetDesc, ∀ offset length,
    transferRange stub state body = some (offset, length) → TransferPlain stub desc offset length
  registers : body.head? = some 103 → stub.ops.readReg.isSome → stub.arch.registers = 0 →
    ∀ pktstr ∈ text? (localBuffer stub maxSendPacketSize),
      pktstr.length + 5 < maxSendPacketSize → Plain pktstr

section

variable {stub}

/-! ## Frames -/

/-- The body of a frame ends at the first `'#'` of its string, if it has one. -/
theorem takeWhile_pktstr (pktstr rest : List UInt8) :
    (pktstr ++ hash :: rest).takeWhile (· != hash) = pktstr.takeWhile (· != hash) := by
  induction pktstr with
  | nil => rfl
  | cons character pktstr ih =>
      rw [List.cons_append, List.takeWhile_cons, List.takeWhile_cons, ih]

/-- **What arrives**: a string arrives as it is exactly when it is plain. -/
theorem clientReceives_iff (pktstr : List UInt8) :
    clientReceives (pktstrFrame pktstr) = some pktstr ↔ Plain pktstr := by
  rw [pktstrFrame, clientReceives, takeWhile_pktstr]
  constructor
  · intro hreceived
    split at hreceived
    · rename_i high low _ _
      obtain ⟨_, -, hlow⟩ := Option.bind_eq_some_iff.mp hreceived
      obtain ⟨_, -, hbody⟩ := Option.bind_eq_some_iff.mp hlow
      obtain ⟨-, hexpand⟩ := (Option.ite_none_right_eq_some).mp hbody
      have hsplit : pktstr = pktstr.takeWhile (· != hash) ++ pktstr.dropWhile (· != hash) :=
        List.takeWhile_append_dropWhile.symm
      have hnone : (none : Option UInt8) ≠ some clientCode.runMark := by
        intro hsome
        cases hsome
      -- the body decodes to no less than itself, so there was nothing in it to decode
      obtain ⟨hliteral, htail⟩ := RunLengthCode.eq_of_expand_eq_append _ none _ hnone
        (hexpand.trans (congrArg some hsplit))
      rw [htail, List.append_nil] at hsplit
      intro character hmem hspecial
      rw [hsplit] at hmem
      obtain ⟨hescape, hrun⟩ := hliteral character hmem
      have hhash : (character != hash) = true :=
        List.mem_takeWhile_imp (p := fun character => character != hash) hmem
      simp only [List.mem_cons, List.not_mem_nil, or_false] at hspecial
      rcases hspecial with rfl | heq | heq
      · exact absurd hhash (by decide)
      · exact hescape heq
      · exact hrun heq
    · cases hreceived
  · intro hplain
    have hspecial : ∀ character ∈ pktstr,
        character ≠ hash ∧ character ≠ escapeChar ∧ character ≠ runLengthChar := by
      intro character hmem
      have hnot := hplain character hmem
      simp only [List.mem_cons, List.not_mem_nil, or_false, not_or] at hnot
      exact hnot
    have hbody : pktstr.takeWhile (· != hash) = pktstr :=
      List.takeWhile_eq_self_iff.mpr fun character hmem =>
        bne_iff_ne.mpr (hspecial character hmem).1
    have hsum := (computeChecksum pktstr).toNat_lt
    have hliteral : clientCode.Literal pktstr := fun character hmem => (hspecial character hmem).2
    rw [hbody, List.drop_length_add_append, List.drop_one, List.tail_cons, hexByte]
    dsimp only
    rw [hexValue?_hexDigit _ (by omega), hexValue?_hexDigit _ (by omega)]
    show (if dollar = dollar ∧ _ then _ else _) = some pktstr
    rw [if_pos ⟨rfl, Nat.div_add_mod _ 16⟩, RunLengthCode.expand_of_literal hliteral]

/-! ## What is sent between two states -/

theorem Survived.of_sent {state after : StubState σ} (hsent : after.sent = state.sent) :
    Survived state after :=
  ⟨[], by rw [hsent, List.append_nil], nofun⟩

theorem Survived.trans {state between after : StubState σ} (hfirst : Survived state between)
    (hsecond : Survived between after) : Survived state after := by
  obtain ⟨earlier, hearlier, hreceived⟩ := hfirst
  obtain ⟨later, hlater, hreceived'⟩ := hsecond
  refine ⟨earlier ++ later, by rw [hlater, hearlier, List.append_assoc], fun pktstr hmem => ?_⟩
  rcases List.mem_append.mp hmem with hmem | hmem
  · exact hreceived pktstr hmem
  · exact hreceived' pktstr hmem

/-- One string was sent. -/
theorem survived_iff_plain {state after : StubState σ} {pktstr : List UInt8}
    (hsent : after.sent = state.sent ++ [pktstrFrame pktstr]) :
    Survived state after ↔ Plain pktstr := by
  constructor
  · rintro ⟨sent, hother, hreceived⟩
    rw [← List.append_cancel_left (hsent.symm.trans hother)] at hreceived
    exact (clientReceives_iff pktstr).mp (hreceived pktstr List.mem_cons_self)
  · intro hplain
    refine ⟨_, hsent, fun other hmem => ?_⟩
    rw [pktstrFrame_inj (List.mem_singleton.mp hmem)]
    exact (clientReceives_iff pktstr).mpr hplain

theorem tame_survived : Tame (σ := σ) (fun _ => False) Survived where
  bad_eq := fun _ hfalse => hfalse.elim
  silent := fun _ _ hsent => Survived.of_sent hsent
  reply := fun _ _ hplain => (survived_iff_plain rfl).mpr hplain
  trans := fun _ _ _ hfirst hsecond => hfirst.trans hsecond

/-- The text of an array, if it can be sent. -/
theorem connSendPktbuf_survived_iff (packetStr : List UInt8) (state : StubState σ) :
    Survived state (connSendPktbuf packetStr state).2 ↔
      ∀ pktstr ∈ text? packetStr, pktstr.length + 5 < maxSendPacketSize → Plain pktstr := by
  cases htext : text? packetStr with
  | none =>
      rw [connSendPktbuf, htext]
      refine iff_of_true (Survived.of_sent rfl) fun pktstr hmem => ?_
      cases hmem
  | some pktstr =>
      rw [connSendPktbuf, htext, inBounds_some, lift_ok_bind]
      by_cases hfits : pktstr.length + 5 < maxSendPacketSize
      · rw [connSendPktstr_of_fits hfits, survived_iff_plain rfl]
        constructor
        · rintro hplain other hmem -
          cases hmem
          exact hplain
        · exact fun hplain => hplain pktstr rfl hfits
      · rw [connSendPktstr_of_long (by omega)]
        refine iff_of_true (Survived.of_sent rfl) fun other hmem hother => ?_
        cases hmem
        exact absurd hother hfits

/-! ## Transfers -/

theorem plain_cons {first : UInt8} {rest : List UInt8} (hfirst : first = 108 ∨ first = 109) :
    Plain (first :: rest) ↔ Plain rest := by
  constructor
  · exact fun hplain character hmem => hplain character (List.mem_cons_of_mem _ hmem)
  · intro hplain character hmem
    rcases List.mem_cons.mp hmem with rfl | hmem
    · rcases hfirst with rfl | rfl <;> decide
    · exact hplain character hmem

theorem cutFrom_cons {desc : List UInt8} {offset : ℤ} {first : UInt8} {rest : List UInt8}
    (hfirst : first = 108 ∨ first = 109) :
    CutFrom desc offset (first :: rest) ↔ rest <+: desc.drop offset.toNat := by
  constructor
  · rintro ⟨mark, -, slice, hslice, heq⟩
    cases heq
    exact hslice
  · intro hrest
    refine ⟨first, ?_, rest, hrest, rfl⟩
    rcases hfirst with rfl | rfl <;> decide

section

variable {desc : List UInt8} {offset : ℤ} {state : StubState σ}

/-- One string was sent. -/
theorem delivered_reply_iff {α : Type} (value : α) (pktstr : List UInt8) :
    Delivered desc offset state ((.ok value : Except Fault α), state.reply pktstr) ↔
      CutFrom desc offset pktstr ∧ Plain pktstr := by
  constructor
  · intro hdelivered
    exact ⟨hdelivered.cut pktstr rfl, (survived_iff_plain rfl).mp hdelivered.survived⟩
  · rintro ⟨hcut, hplain⟩
    refine ⟨nofun, fun other hsent => ?_, (survived_iff_plain rfl).mpr hplain⟩
    rw [state.reply_sent_inj rfl hsent] at hcut
    exact hcut

/-- Nothing was sent, because of a fault. -/
theorem delivered_error_iff {α : Type} (fault : Fault) :
    Delivered desc offset state ((.error fault : Except Fault α), state) ↔
      fault ≠ .outOfBounds := by
  constructor
  · rintro hdelivered rfl
    exact hdelivered.inside rfl
  · intro hfault
    refine ⟨fun heq => hfault (Except.error.inj heq), fun pktstr hsent => ?_,
      Survived.of_sent rfl⟩
    exact absurd (congrArg List.length hsent) (by simp)

/-- The text of an array is sent, if there is one and it can be sent. -/
theorem connSendPktbuf_delivered_iff (packetStr : List UInt8) :
    Delivered desc offset state (connSendPktbuf packetStr state) ↔
      ∃ pktstr ∈ text? packetStr, pktstr.length + 5 < maxSendPacketSize →
        CutFrom desc offset pktstr ∧ Plain pktstr := by
  cases htext : text? packetStr with
  | none =>
      rw [connSendPktbuf, htext]
      refine iff_of_false (fun hdelivered => hdelivered.inside rfl) ?_
      rintro ⟨pktstr, hmem, -⟩
      cases hmem
  | some pktstr =>
      have hone : (∃ other ∈ some pktstr, other.length + 5 < maxSendPacketSize →
          CutFrom desc offset other ∧ Plain other) ↔
          (pktstr.length + 5 < maxSendPacketSize → CutFrom desc offset pktstr ∧ Plain pktstr) := by
        simp
      rw [hone, connSendPktbuf, htext, inBounds_some, lift_ok_bind]
      by_cases hfits : pktstr.length + 5 < maxSendPacketSize
      · rw [connSendPktstr_of_fits hfits, delivered_reply_iff]
        exact ⟨fun hsent _ => hsent, fun hsent => hsent hfits⟩
      · rw [connSendPktstr_of_long (by omega), delivered_error_iff]
        exact iff_of_true (by decide) fun hother => absurd hother hfits

end

theorem text?_cons {first : UInt8} (hfirst : first ≠ 0) (block : List UInt8) :
    text? (first :: block) = (text? block).map (first :: ·) := by
  by_cases hzero : 0 ∈ block
  · rw [text?, text?, if_pos hzero, if_pos (List.mem_cons_of_mem _ hzero), text,
      List.takeWhile_cons, if_pos (bne_iff_ne.mpr hfirst)]
    rfl
  · rw [text?, text?, if_neg hzero, if_neg (by
      rw [List.mem_cons, not_or]
      exact ⟨hfirst.symm, hzero⟩)]
    rfl

/-- A write at the start of a block. -/
theorem write?_start (block data : List UInt8) :
    Block.write? block 0 data =
      if data.length ≤ block.length then some (data ++ block.drop data.length) else none := by
  rw [Block.write?, Nat.zero_add, Block.overwrite, List.take_zero, List.nil_append, Nat.zero_add]

variable (stub) in
/-- The array of a transfer once `snprintf` has written `rest`. -/
theorem xferReply_delivered_write {desc : List UInt8} (rest : List UInt8) {offset : ℤ}
    (length : ℤ) (hoffset : 0 ≤ offset) (hend : offset ≤ desc.length)
    (hrest : snprintfString (xferSize length) (desc.drop offset.toNat) = rest)
    (state : StubState σ) :
    ∃ mark, (mark = 108 ∨ mark = 109) ∧
      (Delivered desc offset state (xferReply stub desc offset length state) ↔
        ∃ block ∈ Block.write? (localBuffer stub maxSendPacketSize) 0 (mark :: rest),
          ∃ pktstr ∈ text? block, pktstr.length + 5 < maxSendPacketSize →
            CutFrom desc offset pktstr ∧ Plain pktstr) := by
  let mark : UInt8 := if asInt desc.length - offset < xferSize length then 108 else 109
  have hmark : mark = 108 ∨ mark = 109 := by
    show (if asInt desc.length - offset < xferSize length then (108 : UInt8) else 109) = 108 ∨
      (if asInt desc.length - offset < xferSize length then (108 : UInt8) else 109) = 109
    split
    · exact .inl rfl
    · exact .inr rfl
  have hclip : (if length < (maxDataPayload : ℤ) then length else (maxDataPayload : ℤ)) =
      xferSize length := rfl
  refine ⟨mark, hmark, ?_⟩
  rw [xferReply]
  dsimp only
  rw [hclip, if_neg (by omega), hrest]
  cases hwrite : Block.write? (localBuffer stub maxSendPacketSize) 0 (mark :: rest) with
  | none =>
      rw [inBounds_none, lift_error_bind]
      refine iff_of_false (fun hdelivered => hdelivered.inside rfl) ?_
      rintro ⟨block, hmem, -⟩
      cases hmem
  | some block =>
      rw [inBounds_some, lift_ok_bind, connSendPktbuf_delivered_iff]
      simp

variable (stub) in
/-- A mark, a text and the zero behind it, written over the array. -/
theorem write_text_iff {mark : UInt8} (hmark : mark = 108 ∨ mark = 109) {rest : List UInt8}
    (hzero : 0 ∉ rest) (good : List UInt8 → Prop) :
    (∃ block ∈ Block.write? (localBuffer stub maxSendPacketSize) 0 (mark :: (rest ++ [0])),
        ∃ pktstr ∈ text? block, pktstr.length + 5 < maxSendPacketSize → good pktstr) ↔
      rest.length + 2 ≤ maxSendPacketSize ∧
        (rest.length + 6 < maxSendPacketSize → good (mark :: rest)) := by
  obtain ⟨junk, hjunk⟩ : ∃ junk,
      (localBuffer stub maxSendPacketSize).drop (rest.length + 2) = junk := ⟨_, rfl⟩
  have htext : text? ((mark :: rest) ++ 0 :: junk) = some (mark :: rest) := by
    refine text?_append_zero ?_ junk
    rw [List.mem_cons, not_or]
    refine ⟨?_, hzero⟩
    rcases hmark with rfl | rfl <;> decide
  have hdata : (mark :: (rest ++ [0])).length = rest.length + 2 := by simp
  have hwrite := write?_start (localBuffer stub maxSendPacketSize) (mark :: (rest ++ [0]))
  rw [hdata, hjunk, length_localBuffer] at hwrite
  have hblock : mark :: (rest ++ [0]) ++ junk = (mark :: rest) ++ 0 :: junk := by simp
  rw [hwrite, hblock]
  by_cases hroom : rest.length + 2 ≤ maxSendPacketSize
  · rw [if_pos hroom]
    constructor
    · rintro ⟨block, hmem, pktstr, hpktstr, hgood⟩
      cases hmem
      cases htext.symm.trans hpktstr
      exact ⟨hroom, fun hlength => hgood (by rw [List.length_cons]; omega)⟩
    · rintro ⟨-, hgood⟩
      refine ⟨_, rfl, _, htext, fun hlength => hgood ?_⟩
      rw [List.length_cons] at hlength
      omega
  · rw [if_neg hroom]
    refine iff_of_false ?_ fun hfits => hroom hfits.1
    rintro ⟨block, hmem, -⟩
    cases hmem

variable (stub) in
/-- Nothing but a mark, written over the array: what it held before is behind it. -/
theorem write_mark_iff {mark : UInt8} (hmark : mark = 108 ∨ mark = 109)
    (good : List UInt8 → Prop) :
    (∃ block ∈ Block.write? (localBuffer stub maxSendPacketSize) 0 [mark],
        ∃ pktstr ∈ text? block, pktstr.length + 5 < maxSendPacketSize → good pktstr) ↔
      ∃ rest ∈ text? ((localBuffer stub maxSendPacketSize).drop 1),
        rest.length + 6 < maxSendPacketSize → good (mark :: rest) := by
  have hwrite := write?_start (localBuffer stub maxSendPacketSize) [mark]
  have hne : mark ≠ 0 := by
    rcases hmark with rfl | rfl <;> decide
  obtain ⟨junk, hjunk⟩ : ∃ junk, (localBuffer stub maxSendPacketSize).drop 1 = junk := ⟨_, rfl⟩
  rw [hwrite, length_localBuffer, List.length_singleton,
    if_pos (by decide : 1 ≤ maxSendPacketSize), hjunk, List.singleton_append]
  constructor
  · rintro ⟨block, hblock, pktstr, hmem, hgood⟩
    cases hblock
    rw [text?_cons hne] at hmem
    obtain ⟨rest, hrest, rfl⟩ := Option.map_eq_some_iff.mp hmem
    exact ⟨rest, hrest, fun hlength => hgood (by rw [List.length_cons]; omega)⟩
  · rintro ⟨rest, hrest, hgood⟩
    refine ⟨_, rfl, mark :: rest, ?_, fun hlength => hgood ?_⟩
    · rw [text?_cons hne, hrest]
      rfl
    · rw [List.length_cons] at hlength
      omega

/-- **A transfer** delivers a part of the description exactly when its offset is inside and what
is cut is plain. -/
theorem xferReply_delivered_iff {desc : List UInt8} (hzero : 0 ∉ desc) (offset length : ℤ)
    (state : StubState σ) :
    Delivered desc offset state (xferReply stub desc offset length state) ↔
      TransferPlain stub desc offset length := by
  by_cases hinside : 0 ≤ offset ∧ offset ≤ desc.length
  swap
  · rw [xferReply_outside (by omega) length state]
    exact iff_of_false (fun hdelivered => hdelivered.inside rfl)
      fun hplain => hinside hplain.inside
  obtain ⟨hoffset, hend⟩ := hinside
  have hpayload : maxDataPayload = 4090 := by decide
  have hsize : xferSize length = if length < 4090 then length else 4090 := by
    rw [xferSize, hpayload]
    rfl
  rcases lt_trichotomy length 0 with hneg | rfl | hpos
  -- the whole rest
  · obtain ⟨mark, hmark, hdelivered⟩ := xferReply_delivered_write stub
      (desc.drop offset.toNat ++ [0]) length hoffset hend
      (by rw [hsize, if_pos (by omega), snprintfString, if_pos hneg]) state
    rw [hdelivered, write_text_iff stub hmark fun hmem => hzero (List.mem_of_mem_drop hmem)]
    simp only [plain_cons hmark, cutFrom_cons hmark, List.prefix_refl, true_and]
    refine ⟨fun hplain => ⟨⟨hoffset, hend⟩, ?_, ?_, fun _ => hplain⟩,
      fun hplain => hplain.endless hneg⟩
    · exact fun hpositive => absurd hpositive (by omega)
    · exact fun hnull => absurd hnull (by omega)
  -- nothing but the mark
  · obtain ⟨mark, hmark, hdelivered⟩ := xferReply_delivered_write stub [] 0 hoffset hend
      (by rw [hsize, if_pos (by decide)]; rfl) state
    rw [hdelivered, write_mark_iff stub hmark]
    simp only [plain_cons hmark, cutFrom_cons hmark]
    refine ⟨fun hplain => ⟨⟨hoffset, hend⟩, ?_, fun _ => hplain, ?_⟩,
      fun hplain => hplain.empty rfl⟩
    · exact fun hpositive => absurd hpositive (by omega)
    · exact fun hnegative => absurd hnegative (by omega)
  -- a slice
  · have hsend : xferReply stub desc offset length state = _ :=
      xferReply_inside hzero hoffset hend (by omega) state
    have hmark : (if asInt desc.length - offset < xferSize length then (108 : UInt8) else 109) =
        108 ∨ (if asInt desc.length - offset < xferSize length then (108 : UInt8) else 109) =
        109 := by
      split <;> simp
    rw [hsend, delivered_reply_iff, plain_cons hmark, cutFrom_cons hmark]
    refine ⟨fun hplain => ⟨⟨hoffset, hend⟩, fun _ => hplain.2, ?_, ?_⟩,
      fun hplain => ⟨List.take_prefix _ _, hplain.slice (by omega)⟩⟩
    · exact fun hnull => absurd hnull (by omega)
    · exact fun hnegative => absurd hnegative (by omega)

/-! ## Requests -/

/-- The tokens of a transfer are taken apart to its two numbers, or there is a fault. -/
theorem xferTokens_cases (desc args : List UInt8) :
    (∃ offset length, tokensRange args = some (offset, length) ∧
        xferTokens stub desc args = xferReply stub desc offset length) ∨
      (tokensRange args = none ∧ ∃ fault, xferTokens stub desc args = fail fault) := by
  unfold xferTokens tokensRange
  cases strtok colon args with
  | none => exact .inr ⟨rfl, _, rfl⟩
  | some token =>
      obtain ⟨action, rest⟩ := token
      dsimp only [Option.bind_eq_bind, Option.bind_some]
      by_cases haction : action = ascii "read"
      swap
      · rw [if_neg haction, if_neg haction]
        exact .inr ⟨rfl, _, rfl⟩
      rw [if_pos haction, if_pos haction]
      cases strtok colon rest with
      | none => exact .inr ⟨rfl, _, rfl⟩
      | some token =>
          obtain ⟨annex, rest⟩ := token
          dsimp only [Option.bind_some]
          by_cases hannex : annex = ascii "target.xml"
          swap
          · rw [if_neg hannex, if_neg hannex]
            exact .inr ⟨rfl, _, rfl⟩
          rw [if_pos hannex, if_pos hannex]
          cases strtok colon rest with
          | none => exact .inr ⟨rfl, _, rfl⟩
          | some token =>
              obtain ⟨range, rest⟩ := token
              dsimp only [Option.bind_some]
              rcases scanHexFields 2 range with _ | ⟨offset, _ | ⟨length, _ | ⟨third, others⟩⟩⟩
              · exact .inl ⟨0, 0, rfl, rfl⟩
              · exact .inl ⟨asInt offset, 0, rfl, rfl⟩
              · exact .inl ⟨asInt offset, asInt length, rfl, rfl⟩
              · exact .inl ⟨0, 0, rfl, rfl⟩

/-- A transfer begins, and then it is a reply or a fault. -/
theorem xferFeatures_cases (desc : List UInt8) (args : Option (List UInt8))
    (state : StubState σ) :
    (∃ offset length, (transferText stub state args).bind tokensRange = some (offset, length) ∧
        xferFeatures stub desc args state = xferReply stub desc offset length state.begun) ∨
      ((transferText stub state args).bind tokensRange = none ∧
        ∃ fault, xferFeatures stub desc args state = fail fault state.begun) := by
  -- with a text to take apart, whichever it is
  have hstarted : ∀ args', transferText stub state args = some args' →
      xferFeatures stub desc args state = xferTokens stub desc args' state.begun →
      (∃ offset length, (transferText stub state args).bind tokensRange = some (offset, length) ∧
          xferFeatures stub desc args state = xferReply stub desc offset length state.begun) ∨
        ((transferText stub state args).bind tokensRange = none ∧
          ∃ fault, xferFeatures stub desc args state = fail fault state.begun) := by
    intro args' htext hrun
    rw [htext, Option.bind_some, hrun]
    rcases @xferTokens_cases σ stub desc args' with
      ⟨offset, length, hrange, hreply⟩ | ⟨hnone, fault, hfault⟩
    · exact .inl ⟨offset, length, hrange, congrFun hreply _⟩
    · exact .inr ⟨hnone, fault, congrFun hfault _⟩
  cases args with
  | some args => exact hstarted (text args) rfl rfl
  | none =>
      by_cases hfirst : state.transfers = 0
      · refine .inr ⟨by rw [transferText, if_pos hfirst]; rfl, .nullDeref, ?_⟩
        rw [xferFeatures, strtokStart, Program.assoc, get_bind, Program.assoc, update_bind]
        dsimp only
        rw [if_pos hfirst]
        rfl
      · refine hstarted (text (stub.freed state.transfers)) (if_neg hfirst) ?_
        rw [xferFeatures, strtokStart, Program.assoc, get_bind, Program.assoc, update_bind]
        dsimp only
        rw [if_neg hfirst]
        rfl

theorem objectRange_append (state : StubState σ) (s rest : List UInt8) :
    objectRange stub state (s ++ 0 :: rest) = objectRange stub state s := by
  unfold objectRange
  rw [cut_append_zero]
  dsimp only
  cases (cut colon s).2 with
  | none => rfl
  | some args =>
      have hsame : transferText stub state (some (args ++ 0 :: rest)) =
          transferText stub state (some args) :=
        congrArg some (text_append_zero_left args rest)
      rw [Option.map_some, hsame]

variable (stub) in
/-- `qXfer`: a transfer of the description, or no string from outside is sent. -/
theorem processXfer_cases (s : Option (List UInt8)) (rest : List UInt8) (state : StubState σ) :
    (∃ desc ∈ stub.arch.targetDesc, ∃ offset length,
        s.bind (objectRange stub state) = some (offset, length) ∧
        processXfer stub (s.map (· ++ 0 :: rest)) state =
          xferReply stub desc offset length state.begun) ∨
      ((∀ desc ∈ stub.arch.targetDesc, s.bind (objectRange stub state) = none) ∧
        (processXfer stub (s.map (· ++ 0 :: rest)) state = connSendPktstr [] state ∨
          ∃ fault after, after.sent = state.sent ∧
            processXfer stub (s.map (· ++ 0 :: rest)) state = (.error fault, after))) := by
  cases s with
  | none => exact .inr ⟨fun _ _ => rfl, .inr ⟨_, state, rfl, rfl⟩⟩
  | some s =>
      rw [Option.map_some, Option.bind_some, ← objectRange_append state s rest]
      unfold processXfer objectRange
      dsimp only
      cases hdesc : stub.arch.targetDesc with
      | none =>
          refine .inr ⟨fun desc hmem => ?_, .inl rfl⟩
          cases hmem
      | some desc =>
          dsimp only
          by_cases hname : (cut colon (s ++ 0 :: rest)).1 = ascii "features"
          · rw [if_pos hname, if_pos hname]
            rcases xferFeatures_cases desc (cut colon (s ++ 0 :: rest)).2 state with
              ⟨offset, length, hrange, hrun⟩ | ⟨hrange, fault, hrun⟩
            · exact .inl ⟨desc, rfl, offset, length, hrange, hrun⟩
            · exact .inr ⟨fun _ _ => hrange, .inr ⟨fault, state.begun, rfl, hrun⟩⟩
          · rw [if_neg hname, if_neg hname]
            exact .inr ⟨fun _ _ => rfl, .inl rfl⟩

/-- A `qXfer` request, from the packet on. -/
theorem process_qXfer {payload : List UInt8} (hname : (cut colon payload).1 = ascii "Xfer")
    (csumHigh csumLow : UInt8) :
    gdbstubProcessPacket stub (Packet.ofFrame (framed (113 :: payload) csumHigh csumLow)) = (do
      processXfer stub ((cut colon payload).2.map (· ++ behindBody csumHigh csumLow))
      return .none) := by
  have hcut := cut_append_zero colon payload [csumHigh, csumLow, 0]
  have hquery : processQuery stub (payload ++ behindBody csumHigh csumLow) =
      processXfer stub ((cut colon payload).2.map (· ++ behindBody csumHigh csumLow)) := by
    rw [behindBody, processQuery_xfer stub (by rw [hcut, hname]), hcut]
  rw [gdbstubProcessPacket_framed, ← hquery]
  rfl

/-- A transfer of the description, from the packet on. -/
theorem process_transfer {body : List UInt8} {desc : List UInt8}
    (hdesc : stub.arch.targetDesc = some desc) {offset length : ℤ} {state : StubState σ}
    (hrange : transferRange stub state body = some (offset, length)) (csumHigh csumLow : UInt8) :
    gdbstubProcessPacket stub (Packet.ofFrame (framed body csumHigh csumLow)) state = (do
      xferReply stub desc offset length
      return Event.none) state.begun := by
  cases body with
  | nil => cases hrange
  | cons request payload =>
      rw [transferRange] at hrange
      by_cases hrequest : request = 113 ∧ (cut colon payload).1 = ascii "Xfer"
      swap
      · rw [if_neg hrequest] at hrange
        cases hrange
      rw [if_pos hrequest] at hrange
      obtain ⟨rfl, hname⟩ := hrequest
      rw [process_qXfer hname, behindBody]
      rcases processXfer_cases stub (cut colon payload).2 [csumHigh, csumLow, 0] state with
        ⟨other, hother, first, second, hsame, hrun⟩ | ⟨hnone, -⟩
      · cases hdesc.symm.trans hother
        cases hrange.symm.trans hsame
        exact bind_congr_left hrun _
      · cases (hnone desc hdesc).symm.trans hrange

/-- What follows sends nothing. -/
theorem survived_thenNone {program : StubM σ Unit} {state : StubState σ} :
    Survived state ((program >>= fun _ => pure Event.none) state).2 ↔
      Survived state (program state).2 := by
  rcases hrun : program state with ⟨fault | ⟨⟩, after⟩
  · rw [bind_of_error hrun]
  · rw [bind_of_ok hrun]
    rfl

theorem delivered_thenNone {desc : List UInt8} {offset : ℤ} {program : StubM σ Unit}
    {state : StubState σ} :
    Delivered desc offset state ((program >>= fun _ => pure Event.none) state) ↔
      Delivered desc offset state (program state) := by
  rcases hrun : program state with ⟨fault | ⟨⟩, after⟩
  · rw [bind_of_error hrun]
    exact ⟨fun hdelivered => ⟨fun heq => hdelivered.inside (congrArg Except.error
        (Except.error.inj heq)), hdelivered.cut, hdelivered.survived⟩,
      fun hdelivered => ⟨fun heq => hdelivered.inside (congrArg Except.error
        (Except.error.inj heq)), hdelivered.cut, hdelivered.survived⟩⟩
  · rw [bind_of_ok hrun]
    exact ⟨fun hdelivered => ⟨nofun, hdelivered.cut, hdelivered.survived⟩,
      fun hdelivered => ⟨nofun, hdelivered.cut, hdelivered.survived⟩⟩

/-- The beginning of a transfer sends nothing. -/
theorem delivered_begun {desc : List UInt8} {offset : ℤ} {state : StubState σ}
    {run : Except Fault Event × StubState σ} :
    Delivered desc offset state run ↔ Delivered desc offset state.begun run :=
  ⟨fun hdelivered => ⟨hdelivered.inside, hdelivered.cut, hdelivered.survived⟩,
    fun hdelivered => ⟨hdelivered.inside, hdelivered.cut, hdelivered.survived⟩⟩

/-- A `qXfer` that transfers nothing of the description. -/
theorem qXfer_survived {payload : List UInt8} (hname : (cut colon payload).1 = ascii "Xfer")
    (csumHigh csumLow : UInt8) {state : StubState σ}
    (hnone : ∀ desc ∈ stub.arch.targetDesc, transferRange stub state (113 :: payload) = none) :
    Survived state (gdbstubProcessPacket stub
      (Packet.ofFrame (framed (113 :: payload) csumHigh csumLow)) state).2 := by
  rw [process_qXfer hname, survived_thenNone, behindBody]
  rcases processXfer_cases stub (cut colon payload).2 [csumHigh, csumLow, 0] state with
    ⟨desc, hdesc, offset, length, hsame, -⟩ | ⟨-, hrun | ⟨fault, after, hsent, hrun⟩⟩
  · have hrange := hnone desc hdesc
    rw [transferRange, if_pos ⟨rfl, hname⟩, hsame] at hrange
    cases hrange
  · rw [hrun]
    exact (tame_survived.keeps_empty state).2
  · rw [hrun]
    exact Survived.of_sent hsent

/-- **Every other request**: nothing is sent that is not plain. -/
theorem dispatch_survived {request : UInt8} {payload : List UInt8} (packetEnd : ℕ)
    (csumHigh csumLow : UInt8)
    (hregisters : request = 103 → stub.ops.readReg.isSome → stub.arch.registers ≠ 0)
    (hother : ¬ (request = 113 ∧ (cut colon payload).1 = ascii "Xfer")) :
    Keeps (dispatch stub request (payload ++ behindBody csumHigh csumLow) packetEnd)
      (fun _ => False) Survived := by
  apply tame_survived.keeps_dispatch
  · intro hrequest hop
    exact tame_survived.keeps_processRegRead (fun _ => hop) (hregisters hrequest hop)
  · exact fun _ _ => tame_survived.keeps_processRegWrite (fun h => h.elim) (fun h => h.elim) _
  · intro hrequest hname
    rw [behindBody, cut_append_zero colon payload [csumHigh, csumLow, 0]] at hname
    exact absurd ⟨hrequest, hname⟩ hother

/-- Of a transfer in range the slice is sent behind its mark. -/
theorem transfer_received {desc : List UInt8} (hdesc : stub.arch.targetDesc = some desc)
    {body : List UInt8} {offset length : ℤ} {state : StubState σ}
    (hrange : transferRange stub state body = some (offset, length))
    (hoffset : 0 ≤ offset) (hend : offset ≤ desc.length) (hlength : 1 ≤ length)
    (csumHigh csumLow : UInt8) :
    ∃ mark ∈ ascii "lm",
      let slice := (desc.drop offset.toNat).take ((xferSize length).toNat - 1)
      gdbstubProcessPacket stub (Packet.ofFrame (framed body csumHigh csumLow)) state =
          (.ok .none, state.begun.reply (mark :: slice)) ∧
        (clientReceives (pktstrFrame (mark :: slice)) = some (mark :: slice) ↔ Plain slice) := by
  have hsend : xferReply stub desc offset length state.begun = _ :=
    xferReply_inside (stub.arch.zero_notMem desc hdesc) hoffset hend hlength state.begun
  refine ⟨if asInt desc.length - offset < xferSize length then 108 else 109,
    by split <;> decide, ?_, ?_⟩
  · rw [process_transfer hdesc hrange]
    exact bind_of_ok hsend _
  · rw [clientReceives_iff, plain_cons (by split <;> simp)]

/-- A transfer is no request for the registers. -/
theorem head_of_transfer {body : List UInt8} {state : StubState σ} {range : ℤ × ℤ}
    (hrange : transferRange stub state body = some range) : body.head? ≠ some 103 := by
  intro hhead
  cases body with
  | nil => cases hhead
  | cons request payload =>
      cases hhead
      rw [transferRange, if_neg fun hrequest => absurd hrequest.1 (by decide)] at hrange
      cases hrange

/-- The condition on a transfer of the description. -/
theorem transfer_survives_iff {desc : List UInt8} (hdesc : stub.arch.targetDesc = some desc)
    {body : List UInt8} {offset length : ℤ} {state : StubState σ}
    (hrange : transferRange stub state body = some (offset, length))
    (csumHigh csumLow : UInt8) :
    RepliesSurvive stub body csumHigh csumLow state ↔ SendsPlain stub state body := by
  have hdelivered : Delivered desc offset state
      (gdbstubProcessPacket stub (Packet.ofFrame (framed body csumHigh csumLow)) state) ↔
        TransferPlain stub desc offset length := by
    rw [process_transfer hdesc hrange, delivered_begun]
    exact delivered_thenNone.trans
      (xferReply_delivered_iff (stub.arch.zero_notMem desc hdesc) offset length state.begun)
  constructor
  · intro hsurvive
    refine ⟨fun other hother first second hsame => ?_,
      fun hregs => absurd hregs (head_of_transfer hrange)⟩
    cases hdesc.symm.trans hother
    cases hrange.symm.trans hsame
    exact hdelivered.mp (hsurvive.transfer desc hdesc offset length hrange)
  · intro hplain
    have hown := hdelivered.mpr (hplain.transfer desc hdesc offset length hrange)
    refine ⟨hown.survived, fun other hother first second hsame => ?_⟩
    cases hdesc.symm.trans hother
    cases hrange.symm.trans hsame
    exact hown

/-- The condition on a `g` request to an architecture that has no registers. -/
theorem registers_survived_iff {payload : List UInt8} (hop : stub.ops.readReg.isSome)
    (hregisters : stub.arch.registers = 0) (csumHigh csumLow : UInt8) (state : StubState σ) :
    Survived state (gdbstubProcessPacket stub
        (Packet.ofFrame (framed (103 :: payload) csumHigh csumLow)) state).2 ↔
      SendsPlain stub state (103 :: payload) := by
  have hrun : gdbstubProcessPacket stub
      (Packet.ofFrame (framed (103 :: payload) csumHigh csumLow)) = (do
        processRegRead stub
        return .none) := by
    rw [gdbstubProcessPacket_framed]
    exact if_pos hop
  rw [hrun, survived_thenNone, processRegRead_none hregisters, connSendPktbuf_survived_iff]
  refine ⟨fun hplain => ⟨fun desc hdesc offset length hrange => ?_, fun _ _ _ => hplain⟩,
    fun hplain => hplain.registers rfl hop hregisters⟩
  exact absurd rfl (head_of_transfer hrange)

/-- No other request sends anything that is not plain. -/
theorem other_survived {body : List UInt8} {state : StubState σ}
    (hnone : ∀ desc ∈ stub.arch.targetDesc, transferRange stub state body = none)
    (hregs : ¬ (body.head? = some 103 ∧ stub.ops.readReg.isSome ∧ stub.arch.registers = 0))
    (csumHigh csumLow : UInt8) :
    Survived state (gdbstubProcessPacket stub
      (Packet.ofFrame (framed body csumHigh csumLow)) state).2 := by
  cases body with
  | nil =>
      rw [gdbstubProcessPacket_nil]
      exact (survived_iff_plain rfl).mpr (by decide)
  | cons request payload =>
      by_cases hxfer : request = 113 ∧ (cut colon payload).1 = ascii "Xfer"
      · obtain ⟨rfl, hname⟩ := hxfer
        exact qXfer_survived hname csumHigh csumLow hnone
      rw [gdbstubProcessPacket_framed]
      refine (dispatch_survived _ csumHigh csumLow ?_ hxfer state).2
      rintro rfl hop hregisters
      exact hregs ⟨rfl, hop, hregisters⟩

variable (stub) in
/-- **Replies survive the wire** exactly when a transfer asks for a part of the description and
this part is plain, and so is what `g` sends without registers.  Of a transfer in range the
client obtains the slice exactly when it is plain. -/
theorem repliesSurvive_iff (body : List UInt8) (csumHigh csumLow : UInt8) (state : StubState σ) :
    (RepliesSurvive stub body csumHigh csumLow state ↔ SendsPlain stub state body) ∧
      ∀ desc ∈ stub.arch.targetDesc, ∀ offset length,
        transferRange stub state body = some (offset, length) → 0 ≤ offset →
        offset ≤ desc.length → 1 ≤ length → ∃ mark ∈ ascii "lm",
          let slice := (desc.drop offset.toNat).take ((xferSize length).toNat - 1)
          gdbstubProcessPacket stub (Packet.ofFrame (framed body csumHigh csumLow)) state =
              (.ok .none, state.begun.reply (mark :: slice)) ∧
            (clientReceives (pktstrFrame (mark :: slice)) = some (mark :: slice) ↔
              Plain slice) := by
  constructor
  swap
  · intro desc hdesc offset length hrange hoffset hend hlength
    exact transfer_received hdesc hrange hoffset hend hlength csumHigh csumLow
  by_cases htransfer : ∃ desc ∈ stub.arch.targetDesc, ∃ range,
      transferRange stub state body = some range
  · obtain ⟨desc, hdesc, ⟨offset, length⟩, hrange⟩ := htransfer
    exact transfer_survives_iff hdesc hrange csumHigh csumLow
  have hnone : ∀ desc ∈ stub.arch.targetDesc, transferRange stub state body = none := by
    intro desc hdesc
    cases hrange : transferRange stub state body with
    | none => rfl
    | some range => exact absurd ⟨desc, hdesc, range, hrange⟩ htransfer
  -- without a transfer only what is sent matters
  have hsurvive : RepliesSurvive stub body csumHigh csumLow state ↔ Survived state
      (gdbstubProcessPacket stub (Packet.ofFrame (framed body csumHigh csumLow)) state).2 := by
    refine ⟨fun hsurvive => hsurvive.survived, fun hsurvived => ⟨hsurvived, ?_⟩⟩
    intro desc hdesc offset length hrange
    cases (hnone desc hdesc).symm.trans hrange
  rw [hsurvive]
  by_cases hregs : body.head? = some 103 ∧ stub.ops.readReg.isSome ∧ stub.arch.registers = 0
  · obtain ⟨hhead, hop, hregisters⟩ := hregs
    cases body with
    | nil => cases hhead
    | cons request payload =>
        cases hhead
        exact registers_survived_iff hop hregisters csumHigh csumLow state
  · refine iff_of_true (other_survived hnone hregs csumHigh csumLow)
      ⟨fun desc hdesc offset length hrange => ?_, fun hhead hop hregisters => ?_⟩
    · cases (hnone desc hdesc).symm.trans hrange
    · exact absurd ⟨hhead, hop, hregisters⟩ hregs

end

/-- An architecture with a description of its own. -/
def customArch (desc : List UInt8) (hdesc : 0 ∉ desc) : ArchInfo where
  targetDesc := some desc
  smp := 1
  regNum := 0
  zero_notMem := by
    intro other hmem
    cases hmem
    exact hdesc

/-- A description with a character reference. -/
def referenceStub : Gdbstub (ℕ → UInt8) :=
  { describedStub with
    arch := customArch (ascii "<t>&#42;</t>") (by decide)
    totalRegBytes_eq := rfl }

/-- The client takes the `'#'` of the reference for the end of the packet. -/
theorem reference_lost :
    let state := StubState.init fun _ => 0
    let packet := Packet.ofFrame (framed (ascii "qXfer:features:read:target.xml:0,fff") 48 48)
    (gdbstubProcessPacket referenceStub packet state).2.sent =
        [pktstrFrame (ascii "l<t>&#42;</t>")] ∧
      clientReceives (pktstrFrame (ascii "l<t>&#42;</t>")) = none ∧
      ¬ RepliesSurvive referenceStub (ascii "qXfer:features:read:target.xml:0,fff") 48 48
        state := by
  have hsent : (gdbstubProcessPacket referenceStub
      (Packet.ofFrame (framed (ascii "qXfer:features:read:target.xml:0,fff") 48 48))
      (StubState.init fun _ => 0)).2.sent = [] ++ [pktstrFrame (ascii "l<t>&#42;</t>")] := by
    decide +kernel
  refine ⟨hsent, by decide +kernel, fun hsurvive => ?_⟩
  have hplain : Plain (ascii "l<t>&#42;</t>") := (survived_iff_plain hsent).mp hsurvive.survived
  exact absurd hplain (by decide)

end MiniGdbstub
