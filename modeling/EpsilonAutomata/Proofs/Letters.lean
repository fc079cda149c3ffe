import EpsilonAutomata.Proofs.Occurrence
import EpsilonAutomata.Proofs.Degrees
import Mathlib.Data.List.Induction

/-!
# Characters and leaves

The states of a leaf are laid out where the leaf stands, from left to right, and every other node
connects finished blocks by silent transitions only. So the transitions on a character, read by
source state in state order, spell out the leaves of the tree, and the alphabet is that spelling
with each character kept where it is met first.

* `filterMap_label_edges` -- the characters of a block are the letters of the expression, in order;
* `eraseDups_eq_firstOccurrences` -- what is left of a list without its later repetitions;
* `labels_compile` -- the letters, the alphabet, and one transition for each leaf.
-/

namespace EpsilonAutomata

/-! ## 1. The letters of an expression -/

namespace Regex

/-- **The characters at the leaves, from left to right**, with repetitions. -/
def letters : Regex → List Char
  | epsilon => []
  | symbol c => [c]
  | union l r => l.letters ++ r.letters
  | concat l r => l.letters ++ r.letters
  | star b => b.letters

/-- **The characters on the edges of a block are the letters of its expression, in order.** -/
theorem filterMap_label_edges (e : Regex) (k : State) :
    (e.edges k).filterMap (·.label) = e.letters := by
  induction e generalizing k with
  | epsilon => rfl
  | symbol c => rfl
  | union l r ihl ihr => simp [edges, letters, ihl, ihr]
  | concat l r ihl ihr => simp [edges, letters, ihl, ihr]
  | star b ih => simp [edges, letters, ih]

end Regex

/-! ## 2. First occurrences -/

section FirstOccurrences

variable {α : Type} [DecidableEq α]

/-- The members of a list that do not stand further to the front already, in order. -/
def firstOccurrences (l : List α) : List α :=
  (l.zipIdx.filter fun (x, i) => x ∉ l.take i).map Prod.fst

/-- One more member at the end is kept if it is new. -/
theorem firstOccurrences_append_singleton (l : List α) (x : α) :
    firstOccurrences (l ++ [x]) = firstOccurrences l ++ if x ∈ l then [] else [x] := by
  -- the members in front do not look as far as the new one
  have hfront : l.zipIdx.filter (fun (y, i) => y ∉ (l ++ [x]).take i) =
      l.zipIdx.filter fun (y, i) => y ∉ l.take i := by
    refine List.filter_congr fun (y, i) hy => ?_
    have hi : i < l.length := by simpa using List.snd_lt_of_mem_zipIdx hy
    simp only [List.take_append_of_le_length (Nat.le_of_lt hi)]
  unfold firstOccurrences
  rw [List.zipIdx_append, List.filter_append, List.map_append, hfront]
  congr 1
  by_cases hx : x ∈ l
  · simp [hx]
  · simp [hx]

/-- **Erasing the later repetitions leaves the first occurrences.** -/
theorem eraseDups_eq_firstOccurrences (l : List α) : l.eraseDups = firstOccurrences l := by
  induction l using List.reverseRecOn with
  | nil => rfl
  | append_singleton l x ih =>
      rw [List.eraseDups_append, ih, firstOccurrences_append_singleton]
      congr 1
      by_cases hx : x ∈ l
      · simp [List.removeAll, hx]
      · simp [List.removeAll, hx, List.eraseDups_cons]

example : firstOccurrences ['b', 'a', 'b', 'c', 'a'] = ['b', 'a', 'c'] := by decide

end FirstOccurrences

/-! ## 3. Leaves and their transitions -/

/-- The transition of a leaf, on its character. -/
def Occurrence.letterEdge {c : Char} {e : Regex} (o : Occurrence (.symbol c) e) : Transition :=
  ⟨o.offset, some c, o.offset + 1⟩

namespace Regex

section Leaves

variable {e : Regex} {c : Char}

/-- The transition of a leaf is an edge of the expression. -/
theorem letterEdge_mem_edges (o : Occurrence (symbol c) e) : o.letterEdge ∈ e.edges 0 :=
  mem_edges_of_occurrence o (List.mem_singleton_self _)

/-- Different leaves have different transitions, even on the same character. -/
theorem eq_of_letterEdge_eq {o p : Occurrence (symbol c) e} (h : o.letterEdge = p.letterEdge) :
    o = p :=
  eq_of_offset_eq (congrArg Transition.source h)

/-- **An edge on a character is the transition of a leaf**: the other nodes add silent edges
    only. -/
theorem exists_leaf_of_mem_edges {k : State} {t : Transition}
    (ht : t ∈ e.edges k) (hlabel : t.label = some c) :
    ∃ o : Occurrence (symbol c) e, t = ⟨k + o.offset, some c, k + o.offset + 1⟩ := by
  induction e generalizing k with
  | epsilon =>
      obtain rfl := List.mem_singleton.mp ht
      exact nomatch hlabel
  | symbol d =>
      obtain rfl := List.mem_singleton.mp ht
      obtain rfl : d = c := Option.some.inj hlabel
      exact ⟨.here, rfl⟩
  | union l r ihl ihr =>
      rcases mem_edges_union.mp ht with ht | rfl | ht | rfl | rfl | rfl
      · obtain ⟨o, rfl⟩ := ihl ht
        exact ⟨.unionLeft o r, rfl⟩
      · exact nomatch hlabel
      · obtain ⟨o, rfl⟩ := ihr ht
        exact ⟨.unionRight l o, by rw [add_offset_unionRight]⟩
      · exact nomatch hlabel
      · exact nomatch hlabel
      · exact nomatch hlabel
  | concat l r ihl ihr =>
      rcases mem_edges_concat.mp ht with ht | rfl | ht
      · obtain ⟨o, rfl⟩ := ihl ht
        exact ⟨.concatLeft o r, rfl⟩
      · exact nomatch hlabel
      · obtain ⟨o, rfl⟩ := ihr ht
        exact ⟨.concatRight l o, by rw [add_offset_concatRight]⟩
  | star b ih =>
      rcases mem_edges_star.mp ht with ht | rfl | rfl | rfl | rfl
      · obtain ⟨o, rfl⟩ := ih ht
        exact ⟨.starBody o, rfl⟩
      · exact nomatch hlabel
      · exact nomatch hlabel
      · exact nomatch hlabel
      · exact nomatch hlabel

end Leaves

/-- **The characters of a compiled expression.** Those on its transitions, by source state in state
    order, are its letters from left to right; the alphabet is what is left of them without later
    repetitions. Every leaf has one transition, on its character, and every transition on a
    character belongs to one leaf. -/
theorem labels_compile (e : Regex) :
    e.compile.transitions.filterMap (·.label) = e.letters ∧
    e.compile.alphabet = firstOccurrences e.letters ∧
    (∀ (c : Char) (o : Occurrence (symbol c) e), e.compile.transitions.count o.letterEdge = 1) ∧
    ∀ (t : Transition) (c : Char), t ∈ e.compile.transitions ∧ t.label = some c ↔
      ∃! o : Occurrence (symbol c) e, o.letterEdge = t := by
  have hletters : e.compile.transitions.filterMap (·.label) = e.letters := by
    rw [transitions_compile, filterMap_label_edges]
  refine ⟨hletters, ?_, fun c o => ?_, fun t c => ⟨fun ⟨ht, hlabel⟩ => ?_, fun ⟨o, ho, _⟩ => ?_⟩⟩
  · rw [Automaton.alphabet, hletters, eraseDups_eq_firstOccurrences]
  · have hmem : o.letterEdge ∈ e.compile.transitions := by
      rw [transitions_compile]
      exact letterEdge_mem_edges o
    -- no two transitions connect the same states, so none is there twice
    exact List.count_eq_one_of_mem (List.Nodup.of_map _ e.nodup_ends_compile) hmem
  · rw [transitions_compile] at ht
    obtain ⟨o, ho⟩ := exists_leaf_of_mem_edges ht hlabel
    rw [Nat.zero_add] at ho
    exact ⟨o, ho.symm, fun p hp => eq_of_letterEdge_eq (hp.trans ho)⟩
  · subst ho
    rw [transitions_compile]
    exact ⟨letterEdge_mem_edges o, rfl⟩

end Regex

end EpsilonAutomata
