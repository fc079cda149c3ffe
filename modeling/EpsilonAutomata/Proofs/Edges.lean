import EpsilonAutomata.Proofs.Layout

/-!
# The transitions of a block

`Regex.edges` lists the transitions inside the block of an expression, by source state in state
order and without those that leave its exit. Inside a block nothing leaves the exit and nothing
leads out, so the block of an operand can be studied on its own.

* `transitions_compile` -- the transitions of a compiled expression are the edges of its block;
* `edges_inside` -- an edge starts before the exit and ends no later than it;
* `outgoing_compile` -- what leaves a state of a compiled expression are the edges from it, in
  order.
-/

namespace EpsilonAutomata

/-! ## 1. Edges -/

/-- **The transitions inside the block of an expression that begins at state `k`.** -/
def Regex.edges : Regex → State → List Transition
  | .epsilon, k => [⟨k, none, k + 1⟩]
  | .symbol c, k => [⟨k, some c, k + 1⟩]
  | .union l r, k =>
    let m := k + l.exitOffset + 1
    let entry := m + r.exitOffset + 1
    l.edges k ++ ⟨k + l.exitOffset, none, entry + 1⟩ ::
      (r.edges m ++ [⟨m + r.exitOffset, none, entry + 1⟩, ⟨entry, none, k + l.entryOffset⟩,
        ⟨entry, none, m + r.entryOffset⟩])
  | .concat l r, k =>
    let m := k + l.exitOffset + 1
    l.edges k ++ ⟨k + l.exitOffset, none, m + r.entryOffset⟩ :: r.edges m
  | .star b, k =>
    let entry := k + b.exitOffset + 1
    b.edges k ++ [⟨k + b.exitOffset, none, entry⟩, ⟨k + b.exitOffset, none, entry + 1⟩,
      ⟨entry, none, k + b.entryOffset⟩, ⟨entry, none, entry + 1⟩]

namespace Regex

variable {e : Regex} {k : State} {t : Transition}

/-- The transitions of a block: its edges, and what leaves its exit. -/
theorem flatMap_outgoing_block (e : Regex) (k : State) (next : List State) :
    (e.block k next).flatMap (·.outgoing) =
      e.edges k ++ next.map (⟨k + e.exitOffset, none, ·⟩) := by
  induction e generalizing k next with
  | epsilon => simp [block, edges, ownStates, silentNode, exitOffset]
  | symbol c => simp [block, edges, silentNode, exitOffset]
  | union l r ihl ihr =>
      have hexit : k + (l.union r).exitOffset = k + l.exitOffset + 1 + r.exitOffset + 1 + 1 := by
        simp only [exitOffset]
        lia
      simp only [block, List.flatMap_append, ihl, ihr, hexit]
      simp [edges, ownStates, silentNode]
  | concat l r ihl ihr =>
      have hexit : k + (l.concat r).exitOffset = k + l.exitOffset + 1 + r.exitOffset := by
        simp only [exitOffset]
        lia
      simp only [block, List.flatMap_append, ihl, ihr, hexit]
      simp [edges]
  | star b ih =>
      have hexit : k + b.star.exitOffset = k + b.exitOffset + 1 + 1 := rfl
      simp only [block, List.flatMap_append, ih, hexit]
      simp [edges, ownStates, silentNode]

/-- **The transitions of a compiled expression are the edges of its block.** -/
theorem transitions_compile (e : Regex) : e.compile.transitions = e.edges 0 := by
  rw [compile_eq]
  show ((e.block 0 []).toArray.toList).flatMap (·.outgoing) = e.edges 0
  rw [List.toList_toArray, flatMap_outgoing_block, List.map_nil, List.append_nil]

/-! ## 2. Edges stay inside -/

/-- The edges of a union, one kind after the other. -/
theorem mem_edges_union {l r : Regex} : t ∈ (union l r).edges k ↔
    t ∈ l.edges k ∨ t = ⟨k + l.exitOffset, none, k + l.exitOffset + 1 + r.exitOffset + 2⟩ ∨
      t ∈ r.edges (k + l.exitOffset + 1) ∨
      t = ⟨k + l.exitOffset + 1 + r.exitOffset, none, k + l.exitOffset + 1 + r.exitOffset + 2⟩ ∨
      t = ⟨k + l.exitOffset + 1 + r.exitOffset + 1, none, k + l.entryOffset⟩ ∨
      t = ⟨k + l.exitOffset + 1 + r.exitOffset + 1, none,
        k + l.exitOffset + 1 + r.entryOffset⟩ := by
  simp only [edges, List.mem_append, List.mem_cons, List.not_mem_nil, or_false]

/-- The edges of a concatenation. -/
theorem mem_edges_concat {l r : Regex} : t ∈ (concat l r).edges k ↔
    t ∈ l.edges k ∨ t = ⟨k + l.exitOffset, none, k + l.exitOffset + 1 + r.entryOffset⟩ ∨
      t ∈ r.edges (k + l.exitOffset + 1) := by
  simp only [edges, List.mem_append, List.mem_cons]

/-- The edges of an iteration. -/
theorem mem_edges_star {b : Regex} : t ∈ (star b).edges k ↔
    t ∈ b.edges k ∨ t = ⟨k + b.exitOffset, none, k + b.exitOffset + 1⟩ ∨
      t = ⟨k + b.exitOffset, none, k + b.exitOffset + 2⟩ ∨
      t = ⟨k + b.exitOffset + 1, none, k + b.entryOffset⟩ ∨
      t = ⟨k + b.exitOffset + 1, none, k + b.exitOffset + 2⟩ := by
  simp only [edges, List.mem_append, List.mem_cons, List.not_mem_nil, or_false]

/-- Where an edge may be: it leaves a state of the block other than the exit, for one of its
    states. -/
def Inside (e : Regex) (k : State) (t : Transition) : Prop :=
  k ≤ t.source ∧ t.source < k + e.exitOffset ∧ k ≤ t.target ∧ t.target ≤ k + e.exitOffset

/-- **An edge of a block stays inside it.** -/
theorem edges_inside (ht : t ∈ e.edges k) : e.Inside k t := by
  unfold Inside
  induction e generalizing k with
  | epsilon =>
      obtain rfl := List.mem_singleton.mp ht
      simp [exitOffset]
  | symbol c =>
      obtain rfl := List.mem_singleton.mp ht
      simp [exitOffset]
  | union l r ihl ihr =>
      have hl := l.entryOffset_lt_exitOffset
      have hr := r.entryOffset_lt_exitOffset
      simp only [exitOffset]
      rcases mem_edges_union.mp ht with ht | rfl | ht | rfl | rfl | rfl
      · obtain ⟨h1, h2, h3, h4⟩ := ihl ht
        lia
      · lia
      · obtain ⟨h1, h2, h3, h4⟩ := ihr ht
        lia
      · lia
      · lia
      · lia
  | concat l r ihl ihr =>
      have hr := r.entryOffset_lt_exitOffset
      simp only [exitOffset]
      rcases mem_edges_concat.mp ht with ht | rfl | ht
      · obtain ⟨h1, h2, h3, h4⟩ := ihl ht
        lia
      · lia
      · obtain ⟨h1, h2, h3, h4⟩ := ihr ht
        lia
  | star b ih =>
      have hb := b.entryOffset_lt_exitOffset
      simp only [exitOffset]
      rcases mem_edges_star.mp ht with ht | rfl | rfl | rfl | rfl
      · obtain ⟨h1, h2, h3, h4⟩ := ih ht
        lia
      · lia
      · lia
      · lia
      · lia

end Regex

/-! ## 3. Edges by source -/

/-- The state with number `k + i` is the source of every transition that the `i`-th of these states
    keeps. -/
def Numbered (k : State) (ns : List Node) : Prop :=
  ∀ i node, ns[i]? = some node → ∀ t ∈ node.outgoing, t.source = k + i

theorem Numbered.append {k : State} {ms ns : List Node} (hm : Numbered k ms)
    (hn : Numbered (k + ms.length) ns) : Numbered k (ms ++ ns) := by
  intro i node hi t ht
  rcases Nat.lt_or_ge i ms.length with h | h
  · rw [List.getElem?_append_left h] at hi
    exact hm i node hi t ht
  · rw [List.getElem?_append_right h] at hi
    have := hn _ node hi t ht
    lia

theorem numbered_singleton {k : State} {node : Node} (h : ∀ t ∈ node.outgoing, t.source = k) :
    Numbered k [node] := by
  intro i n hi t ht
  match i with
  | 0 =>
      obtain rfl : node = n := by simpa using hi
      exact h t ht
  | i + 1 => simp at hi

theorem numbered_silentNode (e : Regex) (k : State) (targets : List State) :
    Numbered k [silentNode e k targets] :=
  numbered_singleton fun t ht => by
    obtain ⟨_, _, rfl⟩ := List.mem_map.mp ht
    rfl

theorem numbered_ownStates (e : Regex) (k : State) (targets next : List State) :
    Numbered k (ownStates e k targets next) :=
  (numbered_silentNode e k targets).append (numbered_silentNode e (k + 1) next)

theorem Numbered.head {k : State} {node : Node} {rest : List Node} (h : Numbered k (node :: rest)) :
    ∀ t ∈ node.outgoing, t.source = k := fun t ht => h 0 node rfl t ht

theorem Numbered.tail {k : State} {node : Node} {rest : List Node} (h : Numbered k (node :: rest)) :
    Numbered (k + 1) rest := fun i n hi t ht => by
  have := h (i + 1) n hi t ht
  lia

/-- Numbered states have no transition from a state in front of them. -/
theorem Numbered.le_source {k : State} {ns : List Node} (h : Numbered k ns) :
    ∀ t ∈ ns.flatMap (·.outgoing), k ≤ t.source := fun t ht => by
  obtain ⟨node, hnode, ht⟩ := List.mem_flatMap.mp ht
  obtain ⟨i, hi⟩ := List.mem_iff_getElem?.mp hnode
  have := h i node hi t ht
  lia

/-- What leaves a numbered state are the transitions from it, in order. -/
theorem Numbered.outgoing_eq {k : State} {ns : List Node} (h : Numbered k ns) (i : Nat) :
    ((ns[i]?).map (·.outgoing)).getD [] =
      (ns.flatMap (·.outgoing)).filter (·.source = k + i) := by
  induction ns generalizing k i with
  | nil => rfl
  | cons node rest ih =>
      rw [List.flatMap_cons, List.filter_append]
      match i with
      | 0 =>
          have h1 : node.outgoing.filter (·.source = k + 0) = node.outgoing :=
            List.filter_eq_self.mpr fun t ht => decide_eq_true (h.head t ht)
          have h2 : (rest.flatMap (·.outgoing)).filter (·.source = k + 0) = [] := by
            refine List.filter_eq_nil_iff.mpr fun t ht => ?_
            have := h.tail.le_source t ht
            rw [decide_eq_true_eq]
            lia
          rw [h1, h2, List.append_nil]
          rfl
      | i + 1 =>
          have h1 : node.outgoing.filter (·.source = k + (i + 1)) = [] := by
            refine List.filter_eq_nil_iff.mpr fun t ht => ?_
            have := h.head t ht
            rw [decide_eq_true_eq]
            lia
          have h2 : k + (i + 1) = k + 1 + i := by lia
          rw [h1, List.nil_append, h2, ← ih h.tail i]
          rfl

namespace Regex

theorem numbered_block (e : Regex) (k : State) (next : List State) :
    Numbered k (e.block k next) := by
  induction e generalizing k next with
  | epsilon => exact numbered_ownStates _ _ _ _
  | symbol c =>
      have hfirst : Numbered k [⟨.symbol c, [⟨k, some c, k + 1⟩]⟩] :=
        numbered_singleton fun t ht => by
          obtain rfl := List.mem_singleton.mp ht
          rfl
      exact hfirst.append (numbered_silentNode _ _ _)
  | union l r ihl ihr =>
      refine (ihl k _).append (.append ?_ ?_)
      · rw [length_block]
        exact ihr _ _
      · rw [length_block, length_block]
        exact numbered_ownStates _ _ _ _
  | concat l r ihl ihr =>
      refine (ihl k _).append ?_
      rw [length_block]
      exact ihr _ _
  | star b ih =>
      refine (ih k _).append ?_
      rw [length_block]
      exact numbered_ownStates _ _ _ _

/-- **What leaves a state of a compiled expression are the edges from it, in order.** -/
theorem outgoing_compile (e : Regex) (s : State) :
    e.compile.outgoing s = (e.edges 0).filter (·.source = s) := by
  have h := (e.numbered_block 0 []).outgoing_eq s
  rw [flatMap_outgoing_block, List.map_nil, List.append_nil, Nat.zero_add] at h
  rw [← h, compile_eq]
  unfold Automaton.outgoing
  rw [List.getElem?_toArray]
  cases (e.block 0 [])[s]? <;> rfl

theorem mem_outgoing_compile {e : Regex} {s : State} {t : Transition} :
    t ∈ e.compile.outgoing s ↔ t ∈ e.edges 0 ∧ t.source = s := by
  rw [outgoing_compile, List.mem_filter, decide_eq_true_eq]

end Regex

end EpsilonAutomata
