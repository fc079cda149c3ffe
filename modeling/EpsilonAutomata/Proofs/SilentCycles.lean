import EpsilonAutomata.Proofs.Language
import EpsilonAutomata.Proofs.Occurrence

/-!
# Silent cycles

Going round silently is what a search through the silent transitions has to guard against. This file
shows when it can happen: exactly if an operand that accepts the empty word is iterated somewhere in
the expression.

One direction runs once round such an iteration. For the other, no cycle is taken apart. Every state
of a block gets a *level*, and no silent edge leads down a level. So a cycle stays on one level, and
the levels of a node are chosen so that the edges on one level are edges of one operand: the cycle
was there before the operands were joined. The only node for which this could fail is an iteration,
where the exit of the body leads back in front of it. Its body has two levels, with the entry of the
iteration between them: the states that lead on to the exit of the body silently come before it, the
others behind it. The exit of the body is before it for sure, and its entry is behind it unless the
body accepts the empty word.

* `cycle_on_level` -- a cycle stays on one level;
* `silent_cycle_compile_iff` -- a compiled expression has a silent cycle exactly if it iterates an
  operand that accepts the empty word.
-/

namespace EpsilonAutomata

open Relation

/-! ## 1. Levels -/

section Levels

variable {step : State → State → Prop} {inner : Nat → State → State → Prop} {level : State → Nat}

/-- No step leads down a level, and the steps on level `n` are steps of `inner n`. -/
def Climbs (level : State → Nat) (step : State → State → Prop)
    (inner : Nat → State → State → Prop) : Prop :=
  ∀ s t, step s t → level s < level t ∨ level s = level t ∧ inner (level s) s t

/-- One step or more lead up, or they stay on one level all the time. -/
theorem Climbs.transGen (h : Climbs level step inner) {s t : State} (hst : TransGen step s t) :
    level s < level t ∨ level s = level t ∧ TransGen (inner (level s)) s t := by
  induction hst with
  | single hstep => exact (h _ _ hstep).imp_right (And.imp_right .single)
  | tail _ hstep ih =>
      rcases ih with hlt | ⟨heq, hpath⟩
      · rcases h _ _ hstep with hlt' | ⟨heq', _⟩
        · exact Or.inl (hlt.trans hlt')
        · exact Or.inl (heq' ▸ hlt)
      · rcases h _ _ hstep with hlt' | ⟨heq', hinner⟩
        · exact Or.inl (heq ▸ hlt')
        · rw [← heq] at hinner
          exact Or.inr ⟨heq.trans heq', hpath.tail hinner⟩

/-- **A cycle stays on one level.** -/
theorem Climbs.cycle_on_level (h : Climbs level step inner) {s : State} (hs : TransGen step s s) :
    ∃ n, TransGen (inner n) s s := by
  rcases h.transGen hs with hlt | ⟨_, hcycle⟩
  · exact absurd hlt (Nat.lt_irrefl _)
  · exact ⟨_, hcycle⟩

end Levels

/-! ## 2. Cycles in a block -/

/-- A silent transition among `ts` leads from `s` to `t`. -/
def SilentEdge (ts : List Transition) (s t : State) : Prop := ⟨s, none, t⟩ ∈ ts

namespace Regex

/-- The block at `k` has a cycle of silent edges. -/
def SilentCycle (e : Regex) (k : State) : Prop := ∃ s, TransGen (SilentEdge (e.edges k)) s s

open Classical in
/-- **The levels of the states of a block.** -/
noncomputable def level : Regex → State → State → Nat
  | epsilon, _, s => s
  | symbol _, _, s => s
  | union l r, k, s =>
    if s ≤ k + l.exitOffset then 1
    else if s ≤ k + l.exitOffset + 1 + r.exitOffset then 2
    else if s = k + l.exitOffset + 1 + r.exitOffset + 1 then 0
    else 3
  | concat l _, k, s => if s ≤ k + l.exitOffset then 1 else 2
  | star b, k, s =>
    if s ≤ k + b.exitOffset then if [] ∈ b.tail k s then 0 else 2
    else if s = k + b.exitOffset + 1 then 1
    else 3

/-- The silent edges on a level of a node with two operands: those of the left one on level one, and
    those of the right one on level two. -/
def operandEdge (l r : Regex) (k : State) (n : Nat) : State → State → Prop :=
  if n = 1 then SilentEdge (l.edges k) else SilentEdge (r.edges (k + l.exitOffset + 1))

section Climbs

variable {l r b : Regex} {k s t : State}

theorem climbs_epsilon (k : State) :
    Climbs (epsilon.level k) (SilentEdge (epsilon.edges k)) fun _ _ _ => False := by
  intro s t hst
  cases List.mem_singleton.mp hst
  exact Or.inl (Nat.lt_succ_self k)

theorem climbs_symbol (c : Char) (k : State) :
    Climbs ((symbol c).level k) (SilentEdge ((symbol c).edges k)) fun _ _ _ => False := by
  intro s t hst
  cases List.mem_singleton.mp hst

/-- An edge of the left operand stays on level one. -/
theorem operandEdge_left (hst : SilentEdge (l.edges k) s t) : operandEdge l r k 1 s t := by
  rw [operandEdge, if_pos rfl]
  exact hst

/-- An edge of the right operand stays on level two. -/
theorem operandEdge_right (hst : SilentEdge (r.edges (k + l.exitOffset + 1)) s t) :
    operandEdge l r k 2 s t := by
  rw [operandEdge, if_neg (by decide)]
  exact hst

theorem climbs_union (l r : Regex) (k : State) :
    Climbs ((union l r).level k) (SilentEdge ((union l r).edges k)) (operandEdge l r k) := by
  intro s t hst
  have hl := l.entryOffset_lt_exitOffset
  have hr := r.entryOffset_lt_exitOffset
  rcases mem_edges_union.mp hst with hst | heq | hst | heq | heq | heq
  · obtain ⟨_, h2, _, h4⟩ := edges_inside hst
    have hs : (union l r).level k s = 1 := if_pos (Nat.le_of_lt h2)
    have ht : (union l r).level k t = 1 := if_pos h4
    rw [hs, ht]
    exact Or.inr ⟨rfl, operandEdge_left hst⟩
  · cases heq
    simp only [level]
    lia
  · obtain ⟨h1, h2, h3, h4⟩ := edges_inside hst
    have hs : (union l r).level k s = 2 := by
      rw [level, if_neg (by lia), if_pos (Nat.le_of_lt h2)]
    have ht : (union l r).level k t = 2 := by rw [level, if_neg (by lia), if_pos h4]
    rw [hs, ht]
    exact Or.inr ⟨rfl, operandEdge_right hst⟩
  · cases heq
    simp only [level]
    lia
  · cases heq
    simp only [level]
    lia
  · cases heq
    simp only [level]
    lia

theorem climbs_concat (l r : Regex) (k : State) :
    Climbs ((concat l r).level k) (SilentEdge ((concat l r).edges k)) (operandEdge l r k) := by
  intro s t hst
  rcases mem_edges_concat.mp hst with hst | heq | hst
  · obtain ⟨_, h2, _, h4⟩ := edges_inside hst
    have hs : (concat l r).level k s = 1 := if_pos (Nat.le_of_lt h2)
    have ht : (concat l r).level k t = 1 := if_pos h4
    rw [hs, ht]
    exact Or.inr ⟨rfl, operandEdge_left hst⟩
  · cases heq
    simp only [level]
    lia
  · obtain ⟨h1, _, h3, _⟩ := edges_inside hst
    have hs : (concat l r).level k s = 2 := if_neg (by lia)
    have ht : (concat l r).level k t = 2 := if_neg (by lia)
    rw [hs, ht]
    exact Or.inr ⟨rfl, operandEdge_right hst⟩

/-- In front of a silent edge of the body to a state that leads on to its exit silently, there is
    another such state. -/
theorem nil_mem_tail_of_silentEdge (hst : SilentEdge (b.edges k) s t) (ht : [] ∈ b.tail k t) :
    [] ∈ b.tail k s := b.handsBack k _ hst [] ht

theorem climbs_star (hb : [] ∉ b.language) (k : State) :
    Climbs (b.star.level k) (SilentEdge (b.star.edges k)) fun _ => SilentEdge (b.edges k) := by
  intro s t hst
  have hlt := b.entryOffset_lt_exitOffset
  have hentry : b.star.level k (k + b.exitOffset + 1) = 1 := by
    rw [level, if_neg (by lia), if_pos rfl]
  have hexit : b.star.level k (k + b.exitOffset + 2) = 3 := by
    rw [level, if_neg (by lia), if_neg (by lia)]
  have hlast : b.star.level k (k + b.exitOffset) = 0 := by
    rw [level, if_pos (Nat.le_refl _), tail_exit rfl]
    exact if_pos rfl
  have hfirst : b.star.level k (k + b.entryOffset) = 2 := by
    rw [level, if_pos (by lia), tail_entry rfl, if_neg hb]
  rcases mem_edges_star.mp hst with hst | heq | heq | heq | heq
  · obtain ⟨_, h2, _, h4⟩ := edges_inside hst
    rw [level, level, if_pos (Nat.le_of_lt h2), if_pos h4]
    by_cases ht : [] ∈ b.tail k t
    · rw [if_pos ht, if_pos (nil_mem_tail_of_silentEdge hst ht)]
      exact Or.inr ⟨rfl, hst⟩
    · rw [if_neg ht]
      by_cases hs : [] ∈ b.tail k s
      · rw [if_pos hs]
        exact Or.inl Nat.two_pos
      · rw [if_neg hs]
        exact Or.inr ⟨rfl, hst⟩
  · cases heq
    rw [hlast, hentry]
    exact Or.inl Nat.one_pos
  · cases heq
    rw [hlast, hexit]
    exact Or.inl (Nat.succ_pos 2)
  · cases heq
    rw [hentry, hfirst]
    exact Or.inl Nat.one_lt_two
  · cases heq
    rw [hentry, hexit]
    exact Or.inl (by decide)

end Climbs

/-! ## 3. Operands that accept the empty word -/

/-- Somewhere in the expression an operand that accepts the empty word is iterated. -/
def IteratesEmpty (e : Regex) : Prop :=
  ∃ b : Regex, Nonempty (Occurrence b.star e) ∧ [] ∈ b.language

section IteratesEmpty

variable {l r b e : Regex} {k : State}

/-- What stands in an operand stands in the node too. -/
theorem IteratesEmpty.lift (h : l.IteratesEmpty)
    (f : ∀ x : Regex, Occurrence x l → Occurrence x e) : e.IteratesEmpty := by
  obtain ⟨b, ⟨o⟩, hb⟩ := h
  exact ⟨b, ⟨f b.star o⟩, hb⟩

/-- A leaf has no silent cycle, since its only edge leads up. -/
theorem not_silentCycle_of_climbs (h : Climbs (e.level k) (SilentEdge (e.edges k))
    fun _ _ _ => False) : ¬ SilentCycle e k := by
  rintro ⟨s, hs⟩
  obtain ⟨_, hcycle⟩ := h.cycle_on_level hs
  cases hcycle with
  | single hfalse => exact hfalse
  | tail _ hfalse => exact hfalse

/-- A cycle on a level of a node with two operands is a cycle of one of them. -/
theorem silentCycle_operand {e : Regex} (h : Climbs (e.level k) (SilentEdge (e.edges k))
    (operandEdge l r k)) (hc : SilentCycle e k) :
    SilentCycle l k ∨ SilentCycle r (k + l.exitOffset + 1) := by
  obtain ⟨s, hs⟩ := hc
  obtain ⟨n, hcycle⟩ := h.cycle_on_level hs
  by_cases hn : n = 1
  · rw [operandEdge, if_pos hn] at hcycle
    exact Or.inl ⟨s, hcycle⟩
  · rw [operandEdge, if_neg hn] at hcycle
    exact Or.inr ⟨s, hcycle⟩

/-- **A block with a silent cycle iterates an operand that accepts the empty word.** The induction
    follows the cycle down to the iteration that closes it. -/
theorem iteratesEmpty_of_silentCycle (h : SilentCycle e k) : e.IteratesEmpty := by
  induction e generalizing k with
  | epsilon => exact absurd h (not_silentCycle_of_climbs (climbs_epsilon k))
  | symbol c => exact absurd h (not_silentCycle_of_climbs (climbs_symbol c k))
  | union l r ihl ihr =>
      rcases silentCycle_operand (climbs_union l r k) h with h | h
      · exact (ihl h).lift fun _ o => o.unionLeft r
      · exact (ihr h).lift fun _ o => o.unionRight l
  | concat l r ihl ihr =>
      rcases silentCycle_operand (climbs_concat l r k) h with h | h
      · exact (ihl h).lift fun _ o => o.concatLeft r
      · exact (ihr h).lift fun _ o => o.concatRight l
  | star b ih =>
      by_cases hb : [] ∈ b.language
      · exact ⟨b, ⟨.here⟩, hb⟩
      · obtain ⟨s, hs⟩ := h
        obtain ⟨_, hcycle⟩ := (climbs_star hb k).cycle_on_level hs
        exact (ih ⟨s, hcycle⟩).lift fun _ o => o.starBody

end IteratesEmpty

/-! ## 4. Compiled expressions -/

/-- A path of a compiled expression that reads nothing runs along silent transitions. -/
theorem reflTransGen_of_reads {e : Regex} {s t : State} (h : e.compile.Reads s [] t) :
    ReflTransGen (SilentEdge e.compile.transitions) s t := by
  refine h.induction (P := fun s w => w = [] → ReflTransGen (SilentEdge e.compile.transitions) s t)
    (fun _ => .refl) (fun s tr htr w ih hw => ?_) rfl
  obtain ⟨hlabel, rfl⟩ := List.append_eq_nil_iff.mp hw
  obtain ⟨hedge, rfl⟩ := mem_outgoing_compile.mp htr
  rw [← transitions_compile] at hedge
  obtain ⟨source, label, target⟩ := tr
  obtain rfl : label = none := by simpa using hlabel
  exact .head hedge (ih rfl)

/-- **An iteration of an operand that accepts the empty word can be gone round silently.** -/
theorem silentCycle_of_iteratesEmpty {e : Regex} (h : e.IteratesEmpty) :
    ∃ s, TransGen (SilentEdge e.compile.transitions) s s := by
  obtain ⟨b, ⟨o⟩, hb⟩ := h
  have hlt := b.entryOffset_lt_exitOffset
  have ha : HasEdges e.compile b.star o.offset := fun t ht =>
    e.hasEdges_compile t (mem_edges_of_occurrence o ht)
  have hin : e.compile.Reads (o.offset + b.exitOffset + 1) [] (o.offset + b.entryOffset) :=
    ha.reads (by simp [edges])
  have hthrough : e.compile.Reads (o.offset + b.entryOffset) [] (o.offset + b.exitOffset) :=
    readsTails ha.starBody _ [] (by lia) (by lia) (by rwa [tail_entry rfl])
  have hback : SilentEdge e.compile.transitions (o.offset + b.exitOffset)
      (o.offset + b.exitOffset + 1) := by
    rw [transitions_compile]
    exact mem_edges_of_occurrence o (by simp [edges])
  exact ⟨_, .tail' (reflTransGen_of_reads (hin.trans hthrough)) hback⟩

/-- **A compiled expression has a cycle of silent transitions exactly if it holds, at any depth, an
    iteration whose operand accepts the empty word.** -/
theorem silent_cycle_compile_iff (e : Regex) :
    (∃ s, TransGen (fun p q => ⟨p, none, q⟩ ∈ e.compile.transitions) s s) ↔
      ∃ b : Regex, Nonempty (Occurrence b.star e) ∧ [] ∈ b.language := by
  refine ⟨fun h => ?_, silentCycle_of_iteratesEmpty⟩
  rw [transitions_compile] at h
  exact iteratesEmpty_of_silentCycle h

end Regex

end EpsilonAutomata
