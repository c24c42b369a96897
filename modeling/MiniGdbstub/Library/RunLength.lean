import Mathlib.Data.List.Basic

/-!
# Escapes and run lengths

A code in which one symbol escapes the next and another repeats the symbol before it.  The
decoder goes once through its input and knows the last symbol of its output.

A sender that does not encode at all is understood only when it uses neither of the two
symbols: the decoder never gives back an input with one of them, nor such an input with more
behind it (`eq_of_expand_eq_append`).  Once a symbol of the input is passed over, the output is
behind the input by some symbols, and the induction shows that it stays behind: a run that could
catch up would repeat its own mark.
-/

/-- The two symbols, what an escaped symbol stands for, and how often a run repeats. -/
structure RunLengthCode (α : Type*) where
  escape : α
  runMark : α
  unmask : α → α
  count : α → Option ℕ
  escape_ne : escape ≠ runMark

namespace RunLengthCode

variable {α : Type*} (code : RunLengthCode α)

/-- No symbol has a meaning of its own. -/
def Literal (input : List α) : Prop :=
  ∀ symbol ∈ input, symbol ≠ code.escape ∧ symbol ≠ code.runMark

/-- The output is behind by these symbols, and no run will repeat them all. -/
structure Behind (last : Option α) (pending : List α) : Prop where
  nonempty : pending ≠ []
  not_run : last = some code.runMark → ∃ symbol ∈ pending, symbol ≠ code.runMark

section

variable {code}

theorem Literal.tail {symbol : α} {input : List α} (hliteral : code.Literal (symbol :: input)) :
    code.Literal input :=
  fun other hmem => hliteral other (List.mem_cons_of_mem _ hmem)

theorem Behind.of_ne {last : α} {pending : List α} (hlast : last ≠ code.runMark)
    (hnonempty : pending ≠ []) : code.Behind (some last) pending :=
  ⟨hnonempty, fun heq => absurd (Option.some.inj heq) hlast⟩

/-- A run takes its symbols from those that are pending, and not all of what is pending then. -/
theorem Behind.drop {repeated next : α} {pending output rest : List α} {count : ℕ}
    (hbehind : code.Behind (some repeated) pending)
    (heq : List.replicate count repeated ++ output = pending ++ code.runMark :: next :: rest) :
    code.Behind (some repeated) (pending.drop count ++ [code.runMark, next]) ∧
      output = pending.drop count ++ [code.runMark, next] ++ rest := by
  have hfew : count ≤ pending.length := by
    by_contra hmany
    -- the run reaches its own mark, so it repeats marks only
    have hcell : ∀ index ≤ pending.length, (pending ++ code.runMark :: next :: rest)[index]? =
        some repeated := by
      intro index hindex
      rw [← heq, List.getElem?_append_left (by rw [List.length_replicate]; omega),
        List.getElem?_replicate_of_lt (by omega)]
    have hmark : code.runMark = repeated := by
      have hlast := hcell pending.length (Nat.le_refl _)
      rw [List.getElem?_append_right (Nat.le_refl _), Nat.sub_self] at hlast
      exact Option.some.inj hlast
    obtain ⟨symbol, hmem, hne⟩ := hbehind.not_run (by rw [hmark])
    obtain ⟨index, hindex, hsymbol⟩ := List.getElem_of_mem hmem
    have hsame := hcell index (Nat.le_of_lt hindex)
    rw [List.getElem?_append_left hindex, List.getElem?_eq_getElem hindex, hsymbol] at hsame
    exact hne ((Option.some.inj hsame).trans hmark.symm)
  have hsplit : List.replicate count repeated ++ output =
      pending.take count ++ (pending.drop count ++ code.runMark :: next :: rest) := by
    rw [heq, ← List.append_assoc, List.take_append_drop]
  obtain ⟨hrun, houtput⟩ := List.append_inj hsplit
    (by rw [List.length_replicate, List.length_take]; omega)
  refine ⟨⟨by simp, fun hlast => ?_⟩, ?_⟩
  · obtain ⟨symbol, hmem, hne⟩ := hbehind.not_run hlast
    have hmark : repeated = code.runMark := Option.some.inj hlast
    rw [← List.take_append_drop count pending, List.mem_append, ← hrun] at hmem
    rcases hmem with hmem | hmem
    · exact absurd ((List.eq_of_mem_replicate hmem).trans hmark) hne
    · exact ⟨symbol, List.mem_append_left _ hmem, hne⟩
  · rw [houtput, List.append_assoc]
    rfl

end

/-! ## The decoder -/

variable [DecidableEq α]

/-- The decoder; `last` is the last symbol of its output.  An escape or a run mark without what
belongs to it is an error. -/
def expand : (last : Option α) → List α → Option (List α)
  | _, [] => some []
  | _, [symbol] => if symbol = code.escape ∨ symbol = code.runMark then none else some [symbol]
  | last, symbol :: next :: rest =>
      if symbol = code.escape then
        (expand (some (code.unmask next)) rest).map (code.unmask next :: ·)
      else if symbol = code.runMark then
        last.bind fun repeated => (code.count next).bind fun count =>
          (expand (some repeated) rest).map (List.replicate count repeated ++ ·)
      else
        (expand (some symbol) (next :: rest)).map (symbol :: ·)

variable {code}

/-- What needs no code is understood. -/
theorem expand_of_literal {input : List α} (hliteral : code.Literal input) (last : Option α) :
    code.expand last input = some input := by
  induction input generalizing last with
  | nil => rfl
  | cons symbol input ih =>
      obtain ⟨hescape, hrun⟩ := hliteral symbol List.mem_cons_self
      cases input with
      | nil =>
          rw [expand, if_neg]
          rintro (heq | heq)
          · exact hescape heq
          · exact hrun heq
      | cons next rest =>
          rw [expand, if_neg hescape, if_neg hrun, ih hliteral.tail]
          rfl

/-- **Behind once, behind for ever.** -/
theorem expand_ne_of_behind (tail : List α) :
    ∀ (last : Option α) (input pending : List α), code.Behind last pending →
      code.expand last input ≠ some (pending ++ (input ++ tail))
  | _, [], pending, hbehind => by
      intro heq
      have hempty : [] = pending ++ ([] ++ tail) := Option.some.inj heq
      exact hbehind.nonempty (List.append_eq_nil_iff.mp hempty.symm).1
  | _, [symbol], pending, hbehind => by
      intro heq
      rw [expand] at heq
      split at heq
      · cases heq
      · have hlength := congrArg List.length (Option.some.inj heq)
        have hpos := List.length_pos_iff.mpr hbehind.nonempty
        simp only [List.length_append, List.length_singleton] at hlength
        omega
  | last, symbol :: next :: rest, pending, hbehind => by
      intro heq
      obtain ⟨first, others, rfl⟩ := List.exists_cons_of_ne_nil hbehind.nonempty
      rw [expand] at heq
      -- two symbols give one, so more is pending than before
      by_cases hescape : symbol = code.escape
      · rw [if_pos hescape] at heq
        obtain ⟨output, houtput, hcons⟩ := Option.map_eq_some_iff.mp heq
        obtain ⟨-, hrest⟩ := List.cons.inj hcons
        have hlater : code.Behind (some (code.unmask next)) (others ++ [symbol, next]) :=
          ⟨by simp, fun _ => ⟨symbol, by simp, hescape ▸ code.escape_ne⟩⟩
        refine expand_ne_of_behind tail _ rest _ hlater ?_
        rw [houtput, hrest]
        simp
      rw [if_neg hescape] at heq
      -- a run repeats one symbol, which cannot use up what is pending
      by_cases hrun : symbol = code.runMark
      · rw [if_pos hrun] at heq
        obtain ⟨repeated, rfl, hcount⟩ := Option.bind_eq_some_iff.mp heq
        obtain ⟨count, -, hmap⟩ := Option.bind_eq_some_iff.mp hcount
        obtain ⟨output, houtput, hcells⟩ := Option.map_eq_some_iff.mp hmap
        rw [hrun, List.cons_append, List.cons_append] at hcells
        obtain ⟨hlater, hrest⟩ := hbehind.drop hcells
        exact expand_ne_of_behind tail _ rest _ hlater (houtput.trans (congrArg some hrest))
      · rw [if_neg hrun] at heq
        obtain ⟨output, houtput, hcons⟩ := Option.map_eq_some_iff.mp heq
        obtain ⟨-, hrest⟩ := List.cons.inj hcons
        refine expand_ne_of_behind tail _ (next :: rest) (others ++ [symbol])
          (.of_ne hrun (by simp)) ?_
        rw [houtput, hrest]
        simp

/-- **What is understood as it stands** uses neither of the two symbols, and all of it was
there. -/
theorem eq_of_expand_eq_append (tail : List α) :
    ∀ (last : Option α) (input : List α), last ≠ some code.runMark →
      code.expand last input = some (input ++ tail) → code.Literal input ∧ tail = []
  | _, [], _, heq => by
      have hempty : [] = [] ++ tail := Option.some.inj heq
      exact ⟨nofun, hempty.symm⟩
  | _, [symbol], _, heq => by
      rw [expand] at heq
      split at heq
      · cases heq
      · rename_i hplain
        obtain ⟨-, htail⟩ := List.cons.inj (Option.some.inj heq)
        refine ⟨fun other hmem => ?_, htail.symm⟩
        rw [List.mem_singleton.mp hmem]
        exact ⟨fun hescape => hplain (.inl hescape), fun hrun => hplain (.inr hrun)⟩
  | last, symbol :: next :: rest, hlast, heq => by
      rw [expand] at heq
      by_cases hescape : symbol = code.escape
      -- the output begins with the escape itself, and is behind by what follows
      · rw [if_pos hescape] at heq
        obtain ⟨output, houtput, hcons⟩ := Option.map_eq_some_iff.mp heq
        obtain ⟨hfirst, hrest⟩ := List.cons.inj hcons
        have hlater : code.Behind (some (code.unmask next)) [next] :=
          .of_ne (by rw [hfirst, hescape]; exact code.escape_ne) (by simp)
        refine absurd ?_ (expand_ne_of_behind tail _ rest _ hlater)
        rw [houtput, hrest]
        rfl
      rw [if_neg hescape] at heq
      by_cases hrun : symbol = code.runMark
      -- what is repeated is no run mark, so nothing was repeated
      · rw [if_pos hrun] at heq
        obtain ⟨repeated, rfl, hcount⟩ := Option.bind_eq_some_iff.mp heq
        obtain ⟨count, -, hmap⟩ := Option.bind_eq_some_iff.mp hcount
        obtain ⟨output, houtput, hcells⟩ := Option.map_eq_some_iff.mp hmap
        have hne : repeated ≠ code.runMark := fun hsame => hlast (congrArg some hsame)
        cases count with
        | succ count =>
            rw [List.replicate_succ, List.cons_append, List.cons_append] at hcells
            exact absurd ((List.cons.inj hcells).1.trans hrun) hne
        | zero =>
            have hlater : code.Behind (some repeated) [symbol, next] := .of_ne hne (by simp)
            refine absurd ?_ (expand_ne_of_behind tail _ rest _ hlater)
            rw [houtput]
            exact congrArg some hcells
      · rw [if_neg hrun] at heq
        obtain ⟨output, houtput, hcons⟩ := Option.map_eq_some_iff.mp heq
        obtain ⟨-, hrest⟩ := List.cons.inj hcons
        rw [hrest] at houtput
        obtain ⟨hliteral, htail⟩ := eq_of_expand_eq_append tail (some symbol) (next :: rest)
          (fun hsame => hrun (Option.some.inj hsame)) houtput
        refine ⟨fun other hmem => ?_, htail⟩
        rcases List.mem_cons.mp hmem with rfl | hmem
        · exact ⟨hescape, hrun⟩
        · exact hliteral other hmem

end RunLengthCode
