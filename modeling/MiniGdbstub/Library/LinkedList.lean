import Mathlib.Data.List.Basic
import Mathlib.Data.List.Nodup
import Mathlib.Logic.Function.Basic

/-!
# Singly linked lists in memory

Nodes at addresses, each with a value and the address of the next.  `Chain` relates the
address of the first node to the addresses that are visited on the way to the end and to
the values found there.

A chain that ends visits no node twice (`Chain.nodup`), depends on the nodes it visits
only (`Chain.congr`), and grows at its end when the last node is made to point to a new
one (`Chain.link`).
-/

namespace LinkedList

variable {α : Type*}

structure Node (α : Type*) where
  value : α
  next : Option ℕ
  deriving DecidableEq

/-- The nodes that are allocated. -/
abbrev Memory (α : Type*) := ℕ → Option (Node α)

/-- From `start` the list visits these addresses, finds these values and ends. -/
inductive Chain (memory : Memory α) : Option ℕ → List ℕ → List α → Prop
  | nil : Chain memory none [] []
  | cons {addr : ℕ} {node : Node α} {addrs : List ℕ} {values : List α} :
      memory addr = some node → Chain memory node.next addrs values →
      Chain memory (some addr) (addr :: addrs) (node.value :: values)

namespace Chain

variable {memory : Memory α} {start : Option ℕ} {addrs : List ℕ} {values : List α}

theorem start_eq (hchain : Chain memory start addrs values) : start = addrs.head? := by
  cases hchain with
  | nil => rfl
  | cons _ _ => rfl

theorem values_nil_iff (hchain : Chain memory start addrs values) :
    values = [] ↔ addrs = [] := by
  cases hchain with
  | nil => simp
  | cons _ _ => simp

/-- Every address that is visited is allocated. -/
theorem allocated (hchain : Chain memory start addrs values) {addr : ℕ} (hmem : addr ∈ addrs) :
    ∃ node, memory addr = some node := by
  induction hchain with
  | nil => simp at hmem
  | cons hnode _ ih =>
      rcases List.mem_cons.mp hmem with rfl | hmem
      · exact ⟨_, hnode⟩
      · exact ih hmem

/-- The start determines the list. -/
theorem unique (hchain : Chain memory start addrs values) {addrs' : List ℕ} {values' : List α}
    (hchain' : Chain memory start addrs' values') : addrs = addrs' ∧ values = values' := by
  induction hchain generalizing addrs' values' with
  | nil =>
      cases hchain'
      exact ⟨rfl, rfl⟩
  | cons hnode _ ih =>
      cases hchain' with
      | cons hnode' hrest' =>
          rw [hnode] at hnode'
          cases hnode'
          obtain ⟨rfl, rfl⟩ := ih hrest'
          exact ⟨rfl, rfl⟩

/-- From every address that is visited the list goes on as it does there. -/
theorem suffix (hchain : Chain memory start addrs values) {addr : ℕ} {before after : List ℕ}
    (haddrs : addrs = before ++ addr :: after) :
    ∃ rest, Chain memory (some addr) (addr :: after) rest := by
  induction hchain generalizing before with
  | nil => simp at haddrs
  | cons hnode hrest ih =>
      cases before with
      | nil =>
          obtain ⟨rfl, rfl⟩ := List.cons.inj haddrs
          exact ⟨_, .cons hnode hrest⟩
      | cons first before => exact ih (List.cons.inj haddrs).2

/-- A list that ends visits no node twice. -/
theorem nodup (hchain : Chain memory start addrs values) : addrs.Nodup := by
  induction hchain with
  | nil => exact List.nodup_nil
  | @cons addr node addrs values hnode hrest ih =>
      refine List.nodup_cons.mpr ⟨?_, ih⟩
      intro hmem
      obtain ⟨before, after, hsplit⟩ := List.append_of_mem hmem
      obtain ⟨rest, hagain⟩ := hrest.suffix hsplit
      -- from its second visit on the list would be shorter than itself
      have hsame := ((Chain.cons hnode hrest).unique hagain).1
      have hlength := congrArg List.length (List.cons.inj hsame).2
      rw [hsplit, List.length_append, List.length_cons] at hlength
      omega

/-- A change outside the nodes that are visited is not noticed. -/
theorem congr {memory' : Memory α} (hchain : Chain memory start addrs values)
    (hsame : ∀ addr ∈ addrs, memory' addr = memory addr) : Chain memory' start addrs values := by
  induction hchain with
  | nil => exact .nil
  | cons hnode _ ih =>
      refine .cons ((hsame _ (List.mem_cons_self ..)).trans hnode) (ih ?_)
      exact fun addr hmem => hsame addr (List.mem_cons_of_mem _ hmem)

theorem update_of_notMem (hchain : Chain memory start addrs values) {addr : ℕ}
    (hnot : addr ∉ addrs) (node : Option (Node α)) :
    Chain (Function.update memory addr node) start addrs values := by
  apply hchain.congr
  intro visited hmem
  apply Function.update_of_ne
  rintro rfl
  exact hnot hmem

/-- **Growing at the end.**  The last node is made to point to a new one. -/
theorem link (hchain : Chain memory start addrs values) {last addr : ℕ} {node : Node α}
    {value : α} (hlast : addrs.getLast? = some last) (hnode : memory last = some node)
    (hfresh : memory addr = some ⟨value, none⟩) (hnew : addr ∉ addrs) :
    Chain (Function.update memory last (some { node with next := some addr })) start
      (addrs ++ [addr]) (values ++ [value]) := by
  have hend : Chain (Function.update memory last (some { node with next := some addr }))
      (some addr) [addr] [value] := by
    have hother : addr ≠ last := by
      rintro rfl
      exact hnew (List.mem_of_getLast? hlast)
    exact .cons ((Function.update_of_ne hother ..).trans hfresh) .nil
  have hnodup := hchain.nodup
  induction hchain with
  | nil => exact absurd hlast (by simp)
  | @cons first firstNode addrs values hfirst hrest ih =>
      obtain ⟨hfirstNew, hrestNodup⟩ := List.nodup_cons.mp hnodup
      -- the induction is on the chain, and the write happens where it ends
      cases hrestCase : addrs with
      | nil =>
          rw [hrestCase] at hlast hrest
          obtain rfl : first = last := Option.some.inj hlast
          obtain rfl : firstNode = node := Option.some.inj (hfirst.symm.trans hnode)
          obtain rfl : values = [] := hrest.values_nil_iff.mpr rfl
          have hlinked : Function.update memory first (some { firstNode with next := some addr })
              first = some { firstNode with next := some addr } := Function.update_self ..
          have hgrown := Chain.cons hlinked hend
          exact hgrown
      | cons second others =>
          have hinner : addrs.getLast? = some last := by
            rw [hrestCase, ← hlast, hrestCase, List.getLast?_cons_cons]
          have hother : first ≠ last := fun heq =>
            hfirstNew (heq ▸ List.mem_of_getLast? hinner)
          rw [← hrestCase]
          refine .cons ((Function.update_of_ne hother ..).trans hfirst) ?_
          exact ih hinner (fun hmem => hnew (List.mem_cons_of_mem _ hmem)) hrestNodup

end Chain

end LinkedList
