import EpsilonAutomata.Proofs.Edges
import EpsilonAutomata.Proofs.Ownership
import Mathlib.Data.List.Nodup

/-!
# How many transitions meet at a state

The outgoing transitions of a state are added by the node that owns it and by the node around it,
the incoming ones by nodes at any depth. Two bounds survive every joining of blocks:

* a state keeps one transition on a character or at most two silent ones to different states; of the
  states of a block only the exit may still be given any (`sparse_block`);
* at most two transitions enter a state, and at most one the entry of a block, so that the node
  around the block may add one there (`inDegree_add_le`).

The start state is the entry of the leftmost factor. Whether it is entered at all depends on that
factor alone, because a concatenation inherits the entry of its left operand with everything that
leads to it (`inDegree_entry`).

* `compile_degrees` -- the two bounds, no two transitions between the same states, and how often the
  start state is entered.
-/

namespace EpsilonAutomata

/-! ## 1. Outgoing transitions -/

/-- **What may leave a state**: one transition on a character, or at most two silent ones. -/
def Branching (ts : List Transition) : Prop :=
  (∃ t, ts = [t] ∧ t.isSilent = false) ∨ ts.length ≤ 2 ∧ ∀ t ∈ ts, t.isSilent = true

/-- A state with few outgoing transitions, all of them to different states. -/
structure Node.Sparse (node : Node) : Prop where
  branching : Branching node.outgoing
  targets_nodup : (node.outgoing.map (·.target)).Nodup

theorem sparse_silentNode (origin : Regex) (s : State) {targets : List State}
    (hlen : targets.length ≤ 2) (hnodup : targets.Nodup) :
    (silentNode origin s targets).Sparse where
  branching := by
    refine Or.inr ⟨by simpa [silentNode] using hlen, fun t ht => ?_⟩
    obtain ⟨_, _, rfl⟩ := List.mem_map.mp ht
    rfl
  targets_nodup := by
    have h : (silentNode origin s targets).outgoing.map (·.target) = targets := by
      simp [silentNode, Function.comp_def]
    rwa [h]

/-- The two states of a node, its entry with two targets. -/
theorem sparse_ownStates (origin : Regex) (entry : State) {x y : State} {next : List State}
    (hne : x ≠ y) (hlen : next.length ≤ 2) (hnodup : next.Nodup) :
    ∀ node ∈ ownStates origin entry [x, y] next, node.Sparse := by
  have hentry : [x, y].Nodup := List.nodup_cons.mpr ⟨by simpa using hne, List.nodup_singleton y⟩
  intro node hnode
  rcases List.mem_cons.mp hnode with rfl | hnode
  · exact sparse_silentNode origin entry (Nat.le_refl 2) hentry
  · obtain rfl := List.mem_singleton.mp hnode
    exact sparse_silentNode origin (entry + 1) hlen hnodup

namespace Regex

/-- **Every state of a block is sparse**, if its exit leads to at most two different states. -/
theorem sparse_block (e : Regex) (k : State) (next : List State) (hlen : next.length ≤ 2)
    (hnodup : next.Nodup) : ∀ node ∈ e.block k next, node.Sparse := by
  have hone : ∀ s : State, [s].length ≤ 2 ∧ [s].Nodup := fun s =>
    ⟨Nat.le_succ 1, List.nodup_singleton s⟩
  induction e generalizing k next with
  | epsilon =>
      intro node hnode
      rcases List.mem_cons.mp hnode with rfl | hnode
      · exact sparse_silentNode epsilon k (hone _).1 (hone _).2
      · obtain rfl := List.mem_singleton.mp hnode
        exact sparse_silentNode epsilon (k + 1) hlen hnodup
  | symbol c =>
      intro node hnode
      rcases List.mem_cons.mp hnode with rfl | hnode
      · exact ⟨Or.inl ⟨_, rfl, rfl⟩, List.nodup_singleton _⟩
      · obtain rfl := List.mem_singleton.mp hnode
        exact sparse_silentNode (symbol c) (k + 1) hlen hnodup
  | union l r ihl ihr =>
      have hl := l.entryOffset_lt_exitOffset
      intro node hnode
      rw [block, List.mem_append, List.mem_append] at hnode
      rcases hnode with hnode | hnode | hnode
      · exact ihl k _ (hone _).1 (hone _).2 node hnode
      · exact ihr _ _ (hone _).1 (hone _).2 node hnode
      · exact sparse_ownStates _ _ (by lia) hlen hnodup node hnode
  | concat l r ihl ihr =>
      intro node hnode
      rw [block, List.mem_append] at hnode
      rcases hnode with hnode | hnode
      · exact ihl k _ (hone _).1 (hone _).2 node hnode
      · exact ihr _ _ hlen hnodup node hnode
  | star b ih =>
      have hb := b.entryOffset_lt_exitOffset
      intro node hnode
      rw [block, List.mem_append] at hnode
      rcases hnode with hnode | hnode
      · exact ih k [_, k + b.exitOffset + 1 + 1] (Nat.le_refl 2) (by simp) node hnode
      · exact sparse_ownStates _ _ (by lia) hlen hnodup node hnode

end Regex

/-- The two states a transition connects. -/
def Transition.ends (t : Transition) : State × State := (t.source, t.target)

/-- Numbered states that each lead to different states have no two transitions between the same
    states. -/
theorem Numbered.nodup_ends {k : State} {ns : List Node} (h : Numbered k ns)
    (hns : ∀ node ∈ ns, (node.outgoing.map (·.target)).Nodup) :
    ((ns.flatMap (·.outgoing)).map (·.ends)).Nodup := by
  induction ns generalizing k with
  | nil => exact List.nodup_nil
  | cons node rest ih =>
      have hfirst : (node.outgoing.map (·.ends)).Nodup := by
        refine List.Nodup.of_map Prod.snd ?_
        rw [List.map_map]
        exact hns node List.mem_cons_self
      have hrest := ih h.tail fun n hn => hns n (List.mem_cons_of_mem _ hn)
      rw [List.flatMap_cons, List.map_append]
      refine List.nodup_append.mpr ⟨hfirst, hrest, ?_⟩
      rintro x hx y hy rfl
      obtain ⟨t, ht, rfl⟩ := List.mem_map.mp hx
      obtain ⟨u, hu, heq⟩ := List.mem_map.mp hy
      -- the later states have higher numbers
      have hsource : u.source = t.source := congrArg Prod.fst heq
      have := h.head t ht
      have := h.tail.le_source u hu
      lia

/-! ## 2. Incoming transitions -/

/-- How many of the transitions lead to the state. -/
def inDegree (ts : List Transition) (s : State) : Nat := ts.countP (·.target = s)

@[simp] theorem inDegree_nil (s : State) : inDegree [] s = 0 := rfl

@[simp] theorem inDegree_cons (t : Transition) (ts : List Transition) (s : State) :
    inDegree (t :: ts) s = inDegree ts s + if t.target = s then 1 else 0 := by
  simp [inDegree, List.countP_cons]

@[simp] theorem inDegree_append (ts us : List Transition) (s : State) :
    inDegree (ts ++ us) s = inDegree ts s + inDegree us s := List.countP_append

namespace Regex

variable {e : Regex} {k s : State}

/-- No edge of a block leads to a state outside it. -/
theorem inDegree_outside (h : s < k ∨ k + e.exitOffset < s) : inDegree (e.edges k) s = 0 := by
  refine List.countP_eq_zero.mpr fun t ht => ?_
  obtain ⟨_, _, hge, hle⟩ := edges_inside ht
  rw [decide_eq_true_eq]
  lia

/-- **At most two edges of a block lead to a state, and at most one to its entry**, which leaves
    room for one from outside. -/
theorem inDegree_add_le (e : Regex) (k s : State) :
    inDegree (e.edges k) s + (if s = k + e.entryOffset then 1 else 0) ≤ 2 := by
  induction e generalizing k with
  | epsilon =>
      simp only [edges, inDegree_cons, inDegree_nil, entryOffset]
      lia
  | symbol c =>
      simp only [edges, inDegree_cons, inDegree_nil, entryOffset]
      lia
  | union l r ihl ihr =>
      have hl := l.entryOffset_lt_exitOffset
      have hr := r.entryOffset_lt_exitOffset
      have hleft := ihl k
      have hright := ihr (k + l.exitOffset + 1)
      simp only [edges, inDegree_append, inDegree_cons, inDegree_nil, entryOffset]
      -- the edges of the operand that does not hold `s` do not count
      by_cases h1 : s ≤ k + l.exitOffset
      · have hother : inDegree (r.edges (k + l.exitOffset + 1)) s = 0 :=
          inDegree_outside (Or.inl (by lia))
        lia
      have hfirst : inDegree (l.edges k) s = 0 := inDegree_outside (Or.inr (by lia))
      by_cases h2 : s ≤ k + l.exitOffset + 1 + r.exitOffset
      · lia
      · have hother : inDegree (r.edges (k + l.exitOffset + 1)) s = 0 :=
          inDegree_outside (Or.inr (by lia))
        lia
  | concat l r ihl ihr =>
      have hl := l.entryOffset_lt_exitOffset
      have hr := r.entryOffset_lt_exitOffset
      have hleft := ihl k
      have hright := ihr (k + l.exitOffset + 1)
      simp only [edges, inDegree_append, inDegree_cons, entryOffset]
      by_cases h1 : s ≤ k + l.exitOffset
      · have hother : inDegree (r.edges (k + l.exitOffset + 1)) s = 0 :=
          inDegree_outside (Or.inl (by lia))
        lia
      · have hother : inDegree (l.edges k) s = 0 := inDegree_outside (Or.inr (by lia))
        lia
  | star b ih =>
      have hb := b.entryOffset_lt_exitOffset
      have hbody := ih k
      simp only [edges, inDegree_append, inDegree_cons, inDegree_nil, entryOffset]
      by_cases h1 : s ≤ k + b.exitOffset
      · lia
      · have hnone : inDegree (b.edges k) s = 0 := inDegree_outside (Or.inr (by lia))
        lia

/-- **One edge leads to the entry of a block if its leftmost factor is an iteration, and none
    otherwise.** -/
theorem inDegree_entry (e : Regex) (k : State) :
    inDegree (e.edges k) (k + e.entryOffset) =
      if e.leftmostFactor.kind = .iteration then 1 else 0 := by
  induction e with
  | epsilon => simp [edges, entryOffset, leftmostFactor, kind]
  | symbol c => simp [edges, entryOffset, leftmostFactor, kind]
  | union l r _ _ =>
      have hl := l.entryOffset_lt_exitOffset
      have hr := r.entryOffset_lt_exitOffset
      have hentry : k + (l.union r).entryOffset = k + l.exitOffset + 1 + r.exitOffset + 1 := by
        rw [entryOffset]
        lia
      have hleft : inDegree (l.edges k) (k + l.exitOffset + 1 + r.exitOffset + 1) = 0 :=
        inDegree_outside (Or.inr (by lia))
      have hright : inDegree (r.edges (k + l.exitOffset + 1))
          (k + l.exitOffset + 1 + r.exitOffset + 1) = 0 := inDegree_outside (Or.inr (by lia))
      rw [hentry]
      simp only [edges, inDegree_append, inDegree_cons, inDegree_nil, hleft, hright,
        leftmostFactor, kind]
      lia
  | concat l r ihl _ =>
      have hl := l.entryOffset_lt_exitOffset
      have hright : inDegree (r.edges (k + l.exitOffset + 1)) (k + l.entryOffset) = 0 :=
        inDegree_outside (Or.inl (by lia))
      simp only [edges, inDegree_append, inDegree_cons, entryOffset, leftmostFactor, ihl, hright]
      lia
  | star b _ =>
      have hb := b.entryOffset_lt_exitOffset
      have hentry : k + b.star.entryOffset = k + b.exitOffset + 1 := rfl
      have hbody : inDegree (b.edges k) (k + b.exitOffset + 1) = 0 :=
        inDegree_outside (Or.inr (by lia))
      rw [hentry]
      simp only [edges, inDegree_append, inDegree_cons, inDegree_nil, hbody, leftmostFactor, kind]
      lia

end Regex

/-! ## 3. Compiled expressions -/

/-- The transitions that lead to a state, by source state in state order. -/
def Automaton.incoming (a : Automaton) (s : State) : List Transition :=
  a.transitions.filter (·.target = s)

namespace Regex

theorem length_incoming_compile (e : Regex) (s : State) :
    (e.compile.incoming s).length = inDegree (e.edges 0) s := by
  rw [Automaton.incoming, transitions_compile, ← List.countP_eq_length_filter]
  rfl

/-- The states of a compiled expression are sparse; one beyond it has no transitions at all. -/
theorem branching_outgoing_compile (e : Regex) (s : State) : Branching (e.compile.outgoing s) := by
  rw [compile_eq]
  unfold Automaton.outgoing
  rw [List.getElem?_toArray]
  cases h : (e.block 0 [])[s]? with
  | none => exact Or.inr ⟨Nat.zero_le 2, fun t ht => absurd ht List.not_mem_nil⟩
  | some node =>
      exact (e.sparse_block 0 [] (Nat.zero_le 2) List.nodup_nil node
        (List.mem_of_getElem? h)).branching

/-- No two transitions of a compiled expression connect the same states in the same direction. -/
theorem nodup_ends_compile (e : Regex) : (e.compile.transitions.map (·.ends)).Nodup := by
  have h := (e.numbered_block 0 []).nodup_ends fun node hnode =>
    (e.sparse_block 0 [] (Nat.zero_le 2) List.nodup_nil node hnode).targets_nodup
  rwa [flatMap_outgoing_block, List.map_nil, List.append_nil, ← transitions_compile] at h

/-- **Few transitions meet at a state of a compiled expression.** One transition on a character
    leaves it or at most two silent ones, at most two enter it, and no two connect the same states.
    The start state is entered once if the leftmost factor of the expression is an iteration, and
    not at all otherwise. -/
theorem compile_degrees (e : Regex) :
    (∀ s, (∃ t, e.compile.outgoing s = [t] ∧ t.isSilent = false) ∨
      (e.compile.outgoing s).length ≤ 2 ∧ ∀ t ∈ e.compile.outgoing s, t.isSilent = true) ∧
    (∀ s, (e.compile.incoming s).length ≤ 2) ∧
    (e.compile.transitions.map fun t => (t.source, t.target)).Nodup ∧
    (e.compile.incoming e.compile.start).length =
      if e.leftmostFactor.kind = .iteration then 1 else 0 := by
  refine ⟨e.branching_outgoing_compile, fun s => ?_, e.nodup_ends_compile, ?_⟩
  · have := e.inDegree_add_le 0 s
    rw [length_incoming_compile]
    omega
  · have h := e.inDegree_entry 0
    rwa [Nat.zero_add, ← length_incoming_compile, ← compile_start] at h

end Regex

end EpsilonAutomata
