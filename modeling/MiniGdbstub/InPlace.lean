import MiniGdbstub.WritePaths

/-!
# Decoding in place

`unescape` reads and writes the same block, with two cursors.  `unescapeLogged` is its loop
with a record of every turn: the cursors, the cells that are read and the cell that is
written, in this order.

The write cursor never passes the read cursor, because a turn moves the one by a single
cell and the other by one or two; so what a turn overwrites has been read before, and the
bytes behind the read cursor are still those of the message (`unescapeLogged_inPlace`).
Only a `'}'` that has nothing to escape makes the loop read the byte behind the message.

The number of bytes decoded is returned as an `int`, which is the number itself below
`2 ^ 31`.
-/

namespace MiniGdbstub

open CString

/-! ## The turns of the loop -/

/-- A turn: the cursors at its start, the cells read, and then the cell written. -/
structure UnescapeTurn where
  r : ℕ
  w : ℕ
  reads : List ℕ
  write : Option ℕ

/-- `unescapeLoop` with the turns that it takes. -/
def unescapeLogged (finish : ℕ) :
    ℕ → List UInt8 → ℕ → ℕ → List UnescapeTurn × Except Fault (ℕ × List UInt8)
  | 0, msg, _, w => ([], .ok (w, msg))
  | turns + 1, msg, r, w =>
      if r < finish then
        match msg[r]? with
        | none => ([⟨r, w, [r], none⟩], .error .outOfBounds)
        | some ch =>
            if ch = escapeChar then
              match msg[r + 1]? with
              | none => ([⟨r, w, [r, r + 1], none⟩], .error .outOfBounds)
              | some next =>
                  let (log, result) :=
                    unescapeLogged finish turns (msg.set w (next ^^^ 0x20)) (r + 2) (w + 1)
                  (⟨r, w, [r, r + 1], some w⟩ :: log, result)
            else
              let (log, result) := unescapeLogged finish turns (msg.set w ch) (r + 1) (w + 1)
              (⟨r, w, [r], some w⟩ :: log, result)
      else
        ([], .ok (w, msg))

/-- The record does not change what the loop does. -/
theorem unescapeLogged_result (finish turns : ℕ) :
    ∀ (msg : List UInt8) (r w : ℕ),
      (unescapeLogged finish turns msg r w).2 = unescapeLoop finish turns msg r w := by
  induction turns with
  | zero => intro msg r w; rfl
  | succ turns ih =>
      intro msg r w
      by_cases hread : r < finish
      · rw [unescapeLogged, unescapeLoop, if_pos hread, if_pos hread]
        cases hcell : msg[r]? with
        | none => rfl
        | some ch =>
            by_cases hescape : ch = escapeChar
            · cases hnext : msg[r + 1]? with
              | none => simp [hescape, bind, Except.bind]
              | some next => simp [hescape, bind, Except.bind, ih]
            · simp [hescape, bind, Except.bind, ih]
      · rw [unescapeLogged, unescapeLoop, if_neg hread, if_neg hread]

/-! ## The law of the two cursors -/

/-- What the turns of a loop over `message` do that ends at `finish`. -/
structure InPlace (message : List UInt8) (finish : ℕ) (log : List UnescapeTurn) : Prop where
  cursors : ∀ turn ∈ log, turn.w ≤ turn.r
  writes : ∀ turn ∈ log, ∀ i ∈ turn.write, i = turn.w ∧ i < finish
  unread : log.Pairwise fun earlier later => ∀ i ∈ earlier.write, ∀ j ∈ later.reads, i < j
  reads : ∀ turn ∈ log, ∀ j ∈ turn.reads, turn.r ≤ j ∧ j ≤ finish
  behind : (log.flatMap UnescapeTurn.reads).count finish = if dangling message then 1 else 0

/-- One more turn in front.  The turns behind it read from `next` on, and it reads and
writes before that. -/
theorem InPlace.cons {message rest : List UInt8} {finish next : ℕ} {log : List UnescapeTurn}
    (hlog : InPlace rest finish log) (hfrom : ∀ later ∈ log, next ≤ later.r)
    {turn : UnescapeTurn} (hcursors : turn.w ≤ turn.r) (hnext : turn.r < next)
    (hfinish : turn.r < finish) (hwrite : ∀ i ∈ turn.write, i = turn.w)
    (hreads : ∀ j ∈ turn.reads, turn.r ≤ j ∧ j ≤ finish)
    (hbehind : turn.reads.count finish + (if dangling rest then 1 else 0) =
      if dangling message then 1 else 0) :
    InPlace message finish (turn :: log) where
  cursors := List.forall_mem_cons.mpr ⟨hcursors, hlog.cursors⟩
  writes := by
    refine List.forall_mem_cons.mpr ⟨fun i hi => ?_, hlog.writes⟩
    have heq := hwrite i hi
    exact ⟨heq, by omega⟩
  unread := by
    refine List.pairwise_cons.mpr ⟨fun later hlater i hi j hj => ?_, hlog.unread⟩
    have hw := hwrite i hi
    have hr := hfrom later hlater
    have hread := (hlog.reads later hlater j hj).1
    omega
  reads := List.forall_mem_cons.mpr ⟨hreads, hlog.reads⟩
  behind := by
    rw [List.flatMap_cons, List.count_append, hlog.behind, hbehind]

section

variable {rest : List UInt8} {finish r w : ℕ} {log : List UnescapeTurn}

/-- A turn for a byte that stands for itself. -/
theorem InPlace.plain (hlog : InPlace rest finish log) (hfrom : ∀ later ∈ log, r + 1 ≤ later.r)
    (hcursors : w ≤ r) (hread : r < finish) {ch : UInt8} (hch : ch ≠ escapeChar) :
    InPlace (ch :: rest) finish (⟨r, w, [r], some w⟩ :: log) := by
  refine hlog.cons hfrom hcursors (Nat.lt_succ_self r) hread (by simp) ?_ ?_
  · simp [hread.le]
  · rw [dangling_cons_of_ne hch, List.count_singleton, if_neg (by simp; omega), Nat.zero_add]

/-- A turn for an escape inside the message. -/
theorem InPlace.escape (hlog : InPlace rest finish log) (hfrom : ∀ later ∈ log, r + 2 ≤ later.r)
    (hcursors : w ≤ r) (hread : r + 1 < finish) (second : UInt8) :
    InPlace (escapeChar :: second :: rest) finish (⟨r, w, [r, r + 1], some w⟩ :: log) := by
  refine hlog.cons hfrom hcursors (by dsimp only; omega) (by dsimp only; omega) (by simp) ?_ ?_
  · simp only [List.forall_mem_cons]
    exact ⟨by omega, by omega, fun _ hmem => by cases hmem⟩
  · have hfirst : r ≠ finish := by omega
    have hsecond : r + 1 ≠ finish := by omega
    simp [hfirst, hsecond]

/-- A turn for a `'}'` at the end of the message: the byte behind it is read, if there is
one. -/
theorem InPlace.last (hcursors : w ≤ r) (hread : r + 1 = finish) {write : Option ℕ}
    (hwrite : ∀ i ∈ write, i = w) :
    InPlace [escapeChar] finish [⟨r, w, [r, r + 1], write⟩] := by
  have hdone : InPlace [] finish [] := ⟨by simp, by simp, .nil, by simp, rfl⟩
  refine hdone.cons (fun _ hmem => by cases hmem) hcursors (Nat.lt_succ_self r)
    (by dsimp only; omega) hwrite ?_ ?_
  · simp only [List.forall_mem_cons]
    exact ⟨by omega, by omega, fun _ hmem => by cases hmem⟩
  · have hfirst : r ≠ finish := by omega
    simp [hfirst, hread, dangling]

end

/-- Once the read cursor has reached the end there are no turns. -/
theorem unescapeLogged_over {finish r : ℕ} (hr : finish ≤ r) (turns : ℕ) (msg : List UInt8)
    (w : ℕ) : (unescapeLogged finish turns msg r w).1 = [] := by
  cases turns with
  | zero => rfl
  | succ turns => rw [unescapeLogged, if_neg (by omega)]

/-- **The loop decodes in place.**  From cursors `w ≤ r` on, its turns obey the law of the two
cursors for what is left of the message. -/
theorem unescapeLogged_inPlace {finish : ℕ} (turns : ℕ) :
    ∀ (msg : List UInt8) (r w : ℕ), w ≤ r → finish ≤ msg.length → finish - r ≤ turns →
      InPlace ((msg.take finish).drop r) finish (unescapeLogged finish turns msg r w).1 ∧
        ∀ turn ∈ (unescapeLogged finish turns msg r w).1, r ≤ turn.r := by
  have hover : ∀ (msg : List UInt8) (r : ℕ), finish ≤ r →
      InPlace ((msg.take finish).drop r) finish [] := by
    intro msg r hr
    rw [List.drop_of_length_le (by rw [List.length_take]; omega)]
    exact ⟨by simp, by simp, .nil, by simp, rfl⟩
  induction turns with
  | zero =>
      intro msg r w _ _ hturns
      exact ⟨hover msg r (by omega), fun _ hmem => by cases hmem⟩
  | succ turns ih =>
      intro msg r w hcursors hfinish hturns
      by_cases hread : r < finish
      · have hmessage : (msg.take finish).drop r = msg[r] :: (msg.take finish).drop (r + 1) := by
          rw [List.drop_eq_getElem_cons (by rw [List.length_take]; omega), List.getElem_take]
        rw [unescapeLogged, if_pos hread, List.getElem?_eq_getElem (by omega), hmessage]
        dsimp only
        by_cases hescape : msg[r] = escapeChar
        · rw [if_pos hescape, hescape]
          by_cases hlast : r + 1 = finish
          · -- the last byte of the message has nothing to escape, and the loop is over
            rw [List.drop_of_length_le (by rw [List.length_take]; omega)]
            cases hnext : msg[r + 1]? with
            | none => exact ⟨.last hcursors hlast (by simp), by simp⟩
            | some next =>
                dsimp only
                rw [unescapeLogged_over (by omega)]
                exact ⟨.last hcursors hlast (by simp), by simp⟩
          · have hsecond : (msg.take finish).drop (r + 1) =
                msg[r + 1] :: (msg.take finish).drop (r + 2) := by
              rw [List.drop_eq_getElem_cons (by rw [List.length_take]; omega), List.getElem_take]
            rw [List.getElem?_eq_getElem (by omega), hsecond]
            dsimp only
            obtain ⟨hlog, hfrom⟩ := ih (msg.set w (msg[r + 1] ^^^ 0x20)) (r + 2) (w + 1) (by omega)
              (by rwa [List.length_set]) (by omega)
            rw [drop_set_unread msg _ (by omega)] at hlog
            refine ⟨hlog.escape hfrom hcursors (by omega) _, ?_⟩
            exact List.forall_mem_cons.mpr
              ⟨le_rfl, fun turn hturn => (Nat.le_add_right r 2).trans (hfrom turn hturn)⟩
        · rw [if_neg hescape]
          obtain ⟨hlog, hfrom⟩ := ih (msg.set w msg[r]) (r + 1) (w + 1) (by omega)
            (by rwa [List.length_set]) (by omega)
          rw [drop_set_unread msg _ (by omega)] at hlog
          refine ⟨hlog.plain hfrom hcursors hread hescape, ?_⟩
          exact List.forall_mem_cons.mpr
            ⟨le_rfl, fun turn hturn => (Nat.le_add_right r 1).trans (hfrom turn hturn)⟩
      · rw [unescapeLogged, if_neg hread]
        exact ⟨hover msg r (by omega), fun _ hmem => by cases hmem⟩

/-! ## The whole decoding -/

/-- `unescape` with its result as the `int` that it returns. -/
def unescapeReturn (msg : List UInt8) (finish : ℕ) : Except Fault (ℤ × List UInt8) :=
  (unescape msg finish).map fun (count, msg) => (asInt count, msg)

/-- Every escape of an escaped form has its second half. -/
theorem dangling_escape (data : List UInt8) : dangling (escape data) = false := by
  induction data with
  | nil => rfl
  | cons byte data ih =>
      rw [escape]
      by_cases hescaped : byte ∈ escapedCharacters
      · rw [if_pos hescaped, dangling_escape_cons, ih]
      · have hplain : byte ≠ escapeChar := by
          rintro rfl
          exact hescaped (by decide)
        rw [if_neg hescaped, dangling_cons_of_ne hplain, ih]

/-- The escaped form of `data` is decoded to `data`; the cells behind it stay. -/
theorem unescapeReturn_escape (data rest : List UInt8) :
    unescapeReturn (escape data ++ rest) (escape data).length =
      .ok (asInt data.length, data ++ (escape data ++ rest).drop data.length) := by
  have hmessage : (escape data ++ rest).take (escape data).length = escape data := List.take_left
  have hwhole : dangling ((escape data ++ rest).take (escape data).length) = false := by
    rw [hmessage, dangling_escape]
  have hdecode := unescape_eq_of_not_dangling (by rw [List.length_append]; omega) hwhole 0
  rw [hmessage, unescaped_of_escapedBytes (escapedBytes_escape data)] at hdecode
  rw [unescapeReturn, hdecode]
  rfl

/-- **Decoding undoes escaping, in place.**  The escaped form of `data` is decoded to `data` in
the first cells of the block, and the number of bytes is returned as an `int`, so as it is
below `2 ^ 31`.  For every message that ends in its block, the turns of the loop obey the law
of the two cursors. -/
theorem unescape_escape_inPlace :
    (∀ data rest : List UInt8,
      let msg := escape data ++ rest
      unescapeReturn msg (escape data).length =
          .ok (asInt data.length, data ++ msg.drop data.length) ∧
        (data.length < 2 ^ 31 → asInt data.length = data.length)) ∧
      ∀ (msg : List UInt8) (finish : ℕ), finish ≤ msg.length →
        (unescapeLogged finish finish msg 0 0).2 = unescape msg finish ∧
          InPlace (msg.take finish) finish (unescapeLogged finish finish msg 0 0).1 := by
  refine ⟨fun data rest => ?_, fun msg finish hfinish => ?_⟩
  · exact ⟨unescapeReturn_escape data rest, fun hlength => asInt_of_lt hlength⟩
  · refine ⟨unescapeLogged_result finish finish msg 0 0, ?_⟩
    have hturns := (unescapeLogged_inPlace finish msg 0 0 le_rfl hfinish (by omega)).1
    rwa [List.drop_zero] at hturns

/-- For `2 ^ 31` bytes the `int` that is returned is negative. -/
theorem unescape_count_overflows :
    let data := List.replicate (2 ^ 31) (0 : UInt8)
    unescapeReturn (escape data ++ [0]) (escape data).length ≠
      .ok (data.length, data ++ (escape data ++ [0]).drop data.length) := by
  intro data hreturn
  rw [unescapeReturn_escape] at hreturn
  have hcount := congrArg Prod.fst (Except.ok.inj hreturn)
  dsimp only [data] at hcount
  rw [List.length_replicate] at hcount
  exact absurd hcount (by decide)

end MiniGdbstub
