import Mathlib.Data.List.Basic
import Mathlib.Data.List.TakeWhile

/-!
# Delimited frames in a stream

A stream over any alphabet, in which a *frame* begins at a start mark, runs to
the first stop mark behind it and ends a fixed number of symbols after that (the
trailer: a checksum, a length, nothing).  What stands between frames is skipped.

`frames` cuts a stream into its complete frames and `residual` is what is left:
nothing, or the beginning of a frame that is not finished yet.  The two together
are all that a reader has to remember: `frames_append` and `residual_append` say
that a stream may be cut anywhere, its first part framed and reduced to its
residual, and the second part framed behind that residual.  `inFrames` marks the
symbols of a stream that lie inside its complete frames.
-/

namespace Framing

/-- The marks of a frame: where it starts, where its body stops, and how many
symbols follow the stop mark. -/
structure Delimiters (α : Type*) where
  isStart : α → Bool
  isStop : α → Bool
  trailer : ℕ

variable {α : Type*} (d : Delimiters α)

/-! ## The first frame of a stream -/

/-- The stream from its first start mark on; empty when it has none. -/
def skip (stream : List α) : List α :=
  stream.dropWhile fun symbol => !d.isStart symbol

/-- From a start mark up to the first stop mark, which is left out. -/
def upToStop (head : List α) : List α :=
  head.takeWhile fun symbol => !d.isStop symbol

/-- From the first stop mark on; empty when there is none. -/
def fromStop (head : List α) : List α :=
  head.dropWhile fun symbol => !d.isStop symbol

/-- The first complete frame of a stream, and what follows it. -/
def nextFrame? (stream : List α) : Option (List α × List α) :=
  let head := skip d stream
  let tail := fromStop d head
  if d.trailer < tail.length then
    some (upToStop d head ++ tail.take (d.trailer + 1), tail.drop (d.trailer + 1))
  else
    none

variable {d}

theorem upToStop_append_fromStop (head : List α) : upToStop d head ++ fromStop d head = head :=
  List.takeWhile_append_dropWhile

@[simp] theorem skip_nil : skip d ([] : List α) = [] := rfl

theorem skip_append (first second : List α) :
    skip d (first ++ second) = if skip d first = [] then skip d second
      else skip d first ++ second := by
  simp [skip, List.dropWhile_append]

theorem skip_eq_self {stream : List α} (hstart : ∀ symbol ∈ stream.head?, d.isStart symbol) :
    skip d stream = stream := by
  cases stream with
  | nil => rfl
  | cons symbol rest => simp_all [skip]

theorem isStart_of_mem_head?_skip {stream : List α} :
    ∀ symbol ∈ (skip d stream).head?, d.isStart symbol := by
  induction stream with
  | nil => simp
  | cons first rest ih =>
      by_cases hfirst : d.isStart first
      · simp [skip, hfirst]
      · simpa [skip, hfirst] using ih

@[simp] theorem skip_skip (stream : List α) : skip d (skip d stream) = skip d stream :=
  skip_eq_self isStart_of_mem_head?_skip

/-- A symbol that is no start mark is skipped. -/
theorem skip_cons_of_not_isStart {symbol : α} (hsymbol : ¬ d.isStart symbol) (rest : List α) :
    skip d (symbol :: rest) = skip d rest := by
  simp [skip, hsymbol]

theorem fromStop_append (first second : List α) :
    fromStop d (first ++ second) = if fromStop d first = [] then fromStop d second
      else fromStop d first ++ second := by
  simp [fromStop, List.dropWhile_append]

theorem upToStop_append_of_ne_nil {first : List α} (hstop : fromStop d first ≠ [])
    (second : List α) : upToStop d (first ++ second) = upToStop d first := by
  have hlonger : upToStop d first ≠ first := by
    intro heq
    have happend := upToStop_append_fromStop (d := d) first
    rw [heq] at happend
    exact hstop (List.append_right_eq_self.mp happend)
  have hlength : (upToStop d first).length ≠ first.length := fun hlength =>
    hlonger ((List.takeWhile_prefix _).eq_of_length hlength)
  simp only [upToStop] at hlength ⊢
  rw [List.takeWhile_append, if_neg hlength]

/-- Where a search for a mark stops: behind everything that does not carry it. -/
theorem findIdx?_eq (mark : α → Bool) (stream : List α) :
    stream.findIdx? mark = if stream.dropWhile (fun symbol => !mark symbol) = [] then none
      else some (stream.takeWhile fun symbol => !mark symbol).length := by
  induction stream with
  | nil => rfl
  | cons first rest ih =>
      rw [List.findIdx?_cons, ih]
      by_cases hfirst : mark first = true
      · simp [hfirst]
      · by_cases hrest : rest.dropWhile (fun symbol => !mark symbol) = []
        · simp only [hfirst, List.dropWhile_cons, hrest]
          simp
        · simp only [hfirst, List.dropWhile_cons, List.takeWhile_cons, hrest]
          simpa using hrest

theorem findIdx?_isStart (stream : List α) :
    stream.findIdx? d.isStart = if skip d stream = [] then none
      else some (stream.takeWhile fun symbol => !d.isStart symbol).length :=
  findIdx?_eq d.isStart stream

theorem findIdx?_isStop (head : List α) :
    head.findIdx? d.isStop = if fromStop d head = [] then none
      else some (upToStop d head).length :=
  findIdx?_eq d.isStop head

theorem drop_length_takeWhile (stream : List α) :
    stream.drop (stream.takeWhile fun symbol => !d.isStart symbol).length = skip d stream := by
  have hsplit := List.takeWhile_append_dropWhile (p := fun symbol => !d.isStart symbol)
    (l := stream)
  conv_lhs => arg 2; rw [← hsplit]
  exact List.drop_left

/-- A frame and what follows it are the stream from its first start mark on, and
a frame has at least its trailer and its stop mark. -/
theorem nextFrame?_eq_some {stream frame rest : List α}
    (hnext : nextFrame? d stream = some (frame, rest)) :
    skip d stream = frame ++ rest ∧ d.trailer < frame.length := by
  simp only [nextFrame?] at hnext
  split at hnext
  · rename_i hlong
    obtain ⟨rfl, rfl⟩ := Prod.mk.inj (Option.some.inj hnext)
    constructor
    · rw [List.append_assoc, List.take_append_drop, upToStop_append_fromStop]
    · rw [List.length_append, List.length_take]
      omega
  · exact absurd hnext (by simp)

theorem length_rest_lt {stream frame rest : List α}
    (hnext : nextFrame? d stream = some (frame, rest)) : rest.length < stream.length := by
  obtain ⟨hskip, htrailer⟩ := nextFrame?_eq_some hnext
  have hlength := congrArg List.length hskip
  rw [List.length_append] at hlength
  have hle : (skip d stream).length ≤ stream.length := (List.dropWhile_sublist _).length_le
  omega

theorem nextFrame?_eq_none {stream : List α} :
    nextFrame? d stream = none ↔ (fromStop d (skip d stream)).length ≤ d.trailer := by
  simp only [nextFrame?]
  split <;> simp_all

/-- The first frame, counted out from its start mark. -/
theorem nextFrame?_eq_take (stream : List α)
    (htrailer : d.trailer < (fromStop d (skip d stream)).length) :
    nextFrame? d stream =
      some ((skip d stream).take ((upToStop d (skip d stream)).length + (d.trailer + 1)),
        (skip d stream).drop ((upToStop d (skip d stream)).length + (d.trailer + 1))) := by
  have hsplit := upToStop_append_fromStop (d := d) (skip d stream)
  have htake : (skip d stream).take ((upToStop d (skip d stream)).length + (d.trailer + 1)) =
      upToStop d (skip d stream) ++ (fromStop d (skip d stream)).take (d.trailer + 1) := by
    calc (skip d stream).take ((upToStop d (skip d stream)).length + (d.trailer + 1))
        = (upToStop d (skip d stream) ++ fromStop d (skip d stream)).take
            ((upToStop d (skip d stream)).length + (d.trailer + 1)) := by rw [hsplit]
      _ = _ := List.take_length_add_append ..
  have hdrop : (skip d stream).drop ((upToStop d (skip d stream)).length + (d.trailer + 1)) =
      (fromStop d (skip d stream)).drop (d.trailer + 1) := by
    calc (skip d stream).drop ((upToStop d (skip d stream)).length + (d.trailer + 1))
        = (upToStop d (skip d stream) ++ fromStop d (skip d stream)).drop
            ((upToStop d (skip d stream)).length + (d.trailer + 1)) := by rw [hsplit]
      _ = _ := List.drop_length_add_append ..
  rw [htake, hdrop]
  exact if_pos htrailer

@[simp] theorem nextFrame?_nil : nextFrame? d ([] : List α) = none := by
  simp [nextFrame?, fromStop]

/-- What stands before the first start mark does not matter. -/
@[simp] theorem nextFrame?_skip (stream : List α) :
    nextFrame? d (skip d stream) = nextFrame? d stream := by
  simp [nextFrame?]

theorem nextFrame?_cons_of_not_isStart {symbol : α} (hsymbol : ¬ d.isStart symbol)
    (rest : List α) : nextFrame? d (symbol :: rest) = nextFrame? d rest := by
  rw [← nextFrame?_skip, skip_cons_of_not_isStart hsymbol, nextFrame?_skip]

theorem nextFrame?_skip_append (first second : List α) :
    nextFrame? d (skip d first ++ second) = nextFrame? d (first ++ second) := by
  rw [← nextFrame?_skip (first ++ second), ← nextFrame?_skip (skip d first ++ second),
    skip_append, skip_append, skip_skip]

/-- A frame that is complete stays the first frame whatever follows. -/
theorem nextFrame?_append {stream frame rest : List α}
    (hnext : nextFrame? d stream = some (frame, rest)) (more : List α) :
    nextFrame? d (stream ++ more) = some (frame, rest ++ more) := by
  have hnone : nextFrame? d stream ≠ none := by simp [hnext]
  rw [Ne, nextFrame?_eq_none, not_le] at hnone
  have hstop : fromStop d (skip d stream) ≠ [] := by
    intro hnil
    simp [hnil] at hnone
  have hskip : skip d stream ≠ [] := by
    intro hnil
    simp [hnil, fromStop] at hstop
  simp only [nextFrame?] at hnext
  rw [if_pos hnone] at hnext
  obtain ⟨rfl, rfl⟩ := Prod.mk.inj (Option.some.inj hnext)
  simp only [nextFrame?, skip_append, if_neg hskip, fromStop_append, if_neg hstop,
    upToStop_append_of_ne_nil hstop]
  rw [if_pos (by rw [List.length_append]; omega), List.take_append_of_le_length (by omega),
    List.drop_append_of_le_length (by omega)]

/-! ## All frames of a stream -/

variable (d)

/-- The complete frames of a stream, in order. -/
def frames (stream : List α) : List (List α) :=
  match _hnext : nextFrame? d stream with
  | none => []
  | some (frame, rest) => frame :: frames rest
termination_by stream.length
decreasing_by exact length_rest_lt _hnext

/-- What is left behind the last complete frame, from its start mark on. -/
def residual (stream : List α) : List α :=
  match _hnext : nextFrame? d stream with
  | none => skip d stream
  | some (_, rest) => residual rest
termination_by stream.length
decreasing_by exact length_rest_lt _hnext

variable {d}

theorem frames_of_none {stream : List α} (hnext : nextFrame? d stream = none) :
    frames d stream = [] := by
  rw [frames]
  split <;> simp_all

theorem frames_of_some {stream frame rest : List α}
    (hnext : nextFrame? d stream = some (frame, rest)) :
    frames d stream = frame :: frames d rest := by
  rw [frames]
  split <;> simp_all

theorem residual_of_none {stream : List α} (hnext : nextFrame? d stream = none) :
    residual d stream = skip d stream := by
  rw [residual]
  split <;> simp_all

theorem residual_of_some {stream frame rest : List α}
    (hnext : nextFrame? d stream = some (frame, rest)) :
    residual d stream = residual d rest := by
  rw [residual]
  split <;> simp_all

@[simp] theorem frames_nil : frames d ([] : List α) = [] := frames_of_none nextFrame?_nil

@[simp] theorem residual_nil : residual d ([] : List α) = [] := by
  rw [residual_of_none nextFrame?_nil, skip_nil]

theorem frames_cons_of_not_isStart {symbol : α} (hsymbol : ¬ d.isStart symbol)
    (rest : List α) : frames d (symbol :: rest) = frames d rest := by
  have hnext := nextFrame?_cons_of_not_isStart (d := d) hsymbol rest
  cases hrest : nextFrame? d rest with
  | none => rw [frames_of_none (hnext.trans hrest), frames_of_none hrest]
  | some next => rw [frames_of_some (hnext.trans hrest), frames_of_some hrest]

theorem residual_cons_of_not_isStart {symbol : α} (hsymbol : ¬ d.isStart symbol)
    (rest : List α) : residual d (symbol :: rest) = residual d rest := by
  have hnext := nextFrame?_cons_of_not_isStart (d := d) hsymbol rest
  cases hrest : nextFrame? d rest with
  | none =>
      rw [residual_of_none (hnext.trans hrest), residual_of_none hrest,
        skip_cons_of_not_isStart hsymbol]
  | some next => rw [residual_of_some (hnext.trans hrest), residual_of_some hrest]

/-- **A stream may be framed in two parts**: the frames of the first, and then the
frames of the second behind what the first left unfinished. -/
theorem frames_append (first second : List α) :
    frames d (first ++ second) = frames d first ++ frames d (residual d first ++ second) := by
  induction first using frames.induct d with
  | case1 first hnext =>
      rw [frames_of_none hnext, residual_of_none hnext, List.nil_append]
      have hskip := nextFrame?_skip_append (d := d) first second
      cases hboth : nextFrame? d (first ++ second) with
      | none => rw [frames_of_none hboth, frames_of_none (hskip.trans hboth)]
      | some next => rw [frames_of_some hboth, frames_of_some (hskip.trans hboth)]
  | case2 first frame rest hnext ih =>
      rw [frames_of_some (nextFrame?_append hnext second), frames_of_some hnext,
        residual_of_some hnext, ih, List.cons_append]

theorem residual_append (first second : List α) :
    residual d (first ++ second) = residual d (residual d first ++ second) := by
  induction first using residual.induct d with
  | case1 first hnext =>
      rw [residual_of_none hnext]
      have hskip := nextFrame?_skip_append (d := d) first second
      cases hboth : nextFrame? d (first ++ second) with
      | none =>
          rw [residual_of_none hboth, residual_of_none (hskip.trans hboth), skip_append,
            skip_append, skip_skip]
      | some next => rw [residual_of_some hboth, residual_of_some (hskip.trans hboth)]
  | case2 first frame rest hnext ih =>
      rw [residual_of_some (nextFrame?_append hnext second), residual_of_some hnext, ih]

/-- Without a start mark nothing is framed, and nothing left. -/
theorem frames_of_no_start {stream : List α} (hstream : ∀ symbol ∈ stream, ¬ d.isStart symbol) :
    frames d stream = [] ∧ residual d stream = [] := by
  induction stream with
  | nil => exact ⟨frames_nil, residual_nil⟩
  | cons symbol rest ih =>
      have hsymbol := hstream symbol List.mem_cons_self
      rw [frames_cons_of_not_isStart hsymbol, residual_cons_of_not_isStart hsymbol]
      exact ih fun other hother => hstream other (List.mem_cons_of_mem _ hother)

/-- A frame by itself. -/
theorem frames_of_whole {frame : List α} (hframe : nextFrame? d frame = some (frame, [])) :
    frames d frame = [frame] ∧ residual d frame = [] := by
  rw [frames_of_some hframe, residual_of_some hframe, frames_nil, residual_nil]
  exact ⟨rfl, rfl⟩

/-- **A stream may be framed in many parts**, one by one, if none leaves anything unfinished. -/
theorem frames_flatten {parts : List (List α)} (hparts : ∀ part ∈ parts, residual d part = []) :
    frames d parts.flatten = parts.flatMap (frames d) ∧ residual d parts.flatten = [] := by
  induction parts with
  | nil => exact ⟨frames_nil, residual_nil⟩
  | cons part parts ih =>
      obtain ⟨hframes, hresidual⟩ := ih fun later hlater =>
        hparts later (List.mem_cons_of_mem _ hlater)
      have hpart := hparts part List.mem_cons_self
      rw [List.flatten_cons, List.flatMap_cons]
      constructor
      · rw [frames_append, hpart, List.nil_append, hframes]
      · rw [residual_append, hpart, List.nil_append, hresidual]

/-! ## Symbols inside frames -/

variable (d)

/-- One mark for each symbol of the stream: does it lie inside a complete frame? -/
def inFrames (stream : List α) : List Bool :=
  match _hnext : nextFrame? d stream with
  | none => stream.map fun _ => false
  | some (frame, rest) =>
      (stream.takeWhile fun symbol => !d.isStart symbol).map (fun _ => false) ++
        frame.map (fun _ => true) ++ inFrames rest
termination_by stream.length
decreasing_by exact length_rest_lt _hnext

variable {d}

theorem inFrames_of_some {stream frame rest : List α}
    (hnext : nextFrame? d stream = some (frame, rest)) :
    inFrames d stream = (stream.takeWhile fun symbol => !d.isStart symbol).map (fun _ => false) ++
      frame.map (fun _ => true) ++ inFrames d rest := by
  rw [inFrames]
  split <;> simp_all

end Framing
