import EpsilonAutomata.Proofs.Edges

/-!
# The block of every subexpression

Wherever an expression `x` stands inside an expression `e`, the automaton of `e` holds the automaton
of `x` as a block of consecutive states that the rest enters by one silent transition to its entry
and leaves by at most two silent transitions from its exit.

The proof goes from the root down to the occurrence. What it carries along is an `Embedding`: the
transitions in front of the block, those behind it, where the exit leads, and the fact that at most
one transition of the surroundings enters, silently and at the entry. An operand of an embedded
expression is embedded again (`Embedding.narrow`): either its entry is not the entry of the node,
and only the node itself leads to it, or it is, and the node adds nothing.
-/

namespace EpsilonAutomata

/-! ## 1. Occurrences and blocks -/

/-- **A place of an expression at which the subexpression `x` stands.** -/
inductive Occurrence (x : Regex) : Regex → Type where
  | here : Occurrence x x
  | unionLeft {l : Regex} (o : Occurrence x l) (r : Regex) : Occurrence x (.union l r)
  | unionRight (l : Regex) {r : Regex} (o : Occurrence x r) : Occurrence x (.union l r)
  | concatLeft {l : Regex} (o : Occurrence x l) (r : Regex) : Occurrence x (.concat l r)
  | concatRight (l : Regex) {r : Regex} (o : Occurrence x r) : Occurrence x (.concat l r)
  | starBody {b : Regex} (o : Occurrence x b) : Occurrence x (.star b)

/-- How many states are laid out before those of the occurrence: all states of the operands to the
    left of it. -/
def Occurrence.offset {x e : Regex} : Occurrence x e → Nat
  | here => 0
  | unionLeft o _ => o.offset
  | unionRight l o => l.compile.stateCount + o.offset
  | concatLeft o _ => o.offset
  | concatRight l o => l.compile.stateCount + o.offset
  | starBody o => o.offset

/-- A transition with both ends moved on by `k` states. -/
def Transition.shift (k : Nat) (t : Transition) : Transition :=
  ⟨k + t.source, t.label, k + t.target⟩

namespace Automaton

/-- The state is one of the `n` states from `k` on. -/
def InBlock (k n : Nat) (s : State) : Prop := k ≤ s ∧ s < k + n

instance (k n : Nat) (s : State) : Decidable (InBlock k n s) :=
  inferInstanceAs (Decidable (_ ∧ _))

/-- The transitions that lead into the block of the `n` states from `k` on. -/
def entering (a : Automaton) (k n : Nat) : List Transition :=
  a.transitions.filter fun t => ¬ InBlock k n t.source ∧ InBlock k n t.target

/-- **The states of `a` from `k` on are a copy of `b` with one way in and one way out.** -/
structure HasBlock (a b : Automaton) (k : Nat) : Prop where
  /-- The block lies inside the automaton. -/
  fits : k + b.stateCount ≤ a.stateCount
  /-- The entry lies in the block, -/
  start_lt : b.start < b.stateCount
  /-- and so does the exit. -/
  accept_lt : b.accept < b.stateCount
  /-- A state other than the exit has the transitions of its original, in order. -/
  copies : ∀ i < b.stateCount, i ≠ b.accept →
    a.outgoing (k + i) = (b.outgoing i).map (·.shift k)
  /-- The exit has at most two transitions. -/
  exit_le : (a.outgoing (k + b.accept)).length ≤ 2
  /-- They are silent and leave the block. -/
  exit_leaves : ∀ t ∈ a.outgoing (k + b.accept),
    t.isSilent = true ∧ ¬ InBlock k b.stateCount t.target
  /-- At most one transition leads into the block. -/
  entering_le : (a.entering k b.stateCount).length ≤ 1
  /-- It is silent and leads to the entry. -/
  entering_start : ∀ t ∈ a.entering k b.stateCount, t.isSilent = true ∧ t.target = k + b.start

end Automaton

/-! ## 2. Blocks can be moved -/

namespace Regex

/-- Moving a block moves its edges. -/
theorem edges_shift (e : Regex) (k d : Nat) : e.edges (k + d) = (e.edges d).map (·.shift k) := by
  induction e generalizing d with
  | epsilon => rfl
  | symbol c => rfl
  | union l r ihl ihr =>
      simp only [edges, ihl, ihr, List.map_append, List.map_cons, List.map_nil,
        Transition.shift, Nat.add_assoc]
  | concat l r ihl ihr =>
      simp only [edges, ihl, ihr, List.map_append, List.map_cons, Transition.shift,
        Nat.add_assoc]
  | star b ih =>
      simp only [edges, ih, List.map_append, List.map_cons, List.map_nil, Transition.shift,
        Nat.add_assoc]

/-- The block of the expression at `k` holds the state. -/
def Spans (e : Regex) (k s : State) : Prop := k ≤ s ∧ s ≤ k + e.exitOffset

instance (e : Regex) (k s : State) : Decidable (e.Spans k s) :=
  inferInstanceAs (Decidable (_ ∧ _))

section Spans

variable {x b l r : Regex} {k s : State}

theorem not_spans_before (h : s < k) : ¬ x.Spans k s := fun hs =>
  Nat.not_lt_of_le hs.1 h

theorem not_spans_behind (h : k + x.exitOffset < s) : ¬ x.Spans k s := fun hs =>
  Nat.not_lt_of_le hs.2 h

theorem Spans.unionLeft (h : l.Spans k s) : (union l r).Spans k s := by
  obtain ⟨hge, hle⟩ := h
  simp only [Spans, exitOffset]
  lia

theorem Spans.unionRight (h : r.Spans (k + l.exitOffset + 1) s) : (union l r).Spans k s := by
  obtain ⟨hge, hle⟩ := h
  simp only [Spans, exitOffset]
  lia

theorem Spans.concatLeft (h : l.Spans k s) : (concat l r).Spans k s := by
  obtain ⟨hge, hle⟩ := h
  simp only [Spans, exitOffset]
  lia

theorem Spans.concatRight (h : r.Spans (k + l.exitOffset + 1) s) : (concat l r).Spans k s := by
  obtain ⟨hge, hle⟩ := h
  simp only [Spans, exitOffset]
  lia

theorem Spans.starBody (h : b.Spans k s) : (star b).Spans k s := by
  obtain ⟨hge, hle⟩ := h
  simp only [Spans, exitOffset]
  lia

end Spans

/-- How many of the transitions lead into the block of an expression. -/
def entries (x : Regex) (k : State) (ts : List Transition) : Nat :=
  ts.countP fun t => x.Spans k t.target

theorem entries_nil (x : Regex) (k : State) : x.entries k [] = 0 := rfl

theorem entries_append (x : Regex) (k : State) (ts us : List Transition) :
    x.entries k (ts ++ us) = x.entries k ts + x.entries k us := List.countP_append

theorem entries_cons_of_outside {x : Regex} {k : State} {t : Transition} {ts : List Transition}
    (h : ¬ x.Spans k t.target) : x.entries k (t :: ts) = x.entries k ts :=
  List.countP_cons_of_neg (by simpa using h)

theorem entries_cons_le (x : Regex) (k : State) (t : Transition) (ts : List Transition) :
    x.entries k (t :: ts) ≤ x.entries k ts + 1 := by
  rw [entries, entries, List.countP_cons]
  split
  · exact Nat.le_refl _
  · exact Nat.le_succ _

theorem entries_eq_zero {x : Regex} {k : State} {ts : List Transition}
    (h : ∀ t ∈ ts, ¬ x.Spans k t.target) : x.entries k ts = 0 :=
  List.countP_eq_zero.mpr fun t ht => by simpa using h t ht

/-- Silent transitions to states outside a block do not lead into it. -/
theorem entries_map_eq_zero {x : Regex} {k s : State} {next : List State}
    (h : ∀ u ∈ next, ¬ x.Spans k u) : x.entries k (next.map (⟨s, none, ·⟩)) = 0 :=
  entries_eq_zero fun t ht => by
    obtain ⟨u, hu, rfl⟩ := List.mem_map.mp ht
    exact h u hu

section Offset

variable {x l r : Regex}

/-- Where an occurrence in the right operand of a union is laid out, if the union begins at `k`. -/
theorem add_offset_unionRight (k : State) (o : Occurrence x r) :
    k + (Occurrence.unionRight l o).offset = k + l.exitOffset + 1 + o.offset := by
  rw [Occurrence.offset, stateCount_compile]
  lia

/-- The same for the right operand of a concatenation. -/
theorem add_offset_concatRight (k : State) (o : Occurrence x r) :
    k + (Occurrence.concatRight l o).offset = k + l.exitOffset + 1 + o.offset := by
  rw [Occurrence.offset, stateCount_compile]
  lia

end Offset

/-! ## 3. Embedded blocks -/

/-- **The transitions `all` hold the block of `x` at `k`, with one way in and one way out.** -/
structure Embedding (all : List Transition) (x : Regex) (k : State) where
  /-- The transitions in front of the block. -/
  before : List Transition
  /-- Where the exit leads. -/
  next : List State
  /-- The transitions behind the block. -/
  after : List Transition
  all_eq : all = before ++ (x.edges k ++ (next.map (⟨k + x.exitOffset, none, ·⟩) ++ after))
  before_lt : ∀ t ∈ before, t.source < k
  lt_after : ∀ t ∈ after, k + x.exitOffset < t.source
  next_le : next.length ≤ 2
  next_outside : ∀ s ∈ next, ¬ x.Spans k s
  entries_le : x.entries k (before ++ after) ≤ 1
  entry : ∀ t ∈ before ++ after, x.Spans k t.target →
    t.label = none ∧ t.target = k + x.entryOffset

/-- An expression is embedded in its own edges, with nothing around it. -/
def Embedding.root (e : Regex) : Embedding (e.edges 0) e 0 where
  before := []
  next := []
  after := []
  all_eq := by simp
  before_lt t ht := absurd ht List.not_mem_nil
  lt_after t ht := absurd ht List.not_mem_nil
  next_le := Nat.zero_le 2
  next_outside s hs := absurd hs List.not_mem_nil
  entries_le := Nat.zero_le 1
  entry t ht := absurd ht List.not_mem_nil

namespace Embedding

variable {all : List Transition} {e x l r b : Regex} {k j : State}

/-- The surroundings enter the block only at its entry. -/
theorem entries_around_le (h : Embedding all e k) (hsub : ∀ s, x.Spans j s → e.Spans k s) :
    x.entries j (h.before ++ h.after) ≤ if x.Spans j (k + e.entryOffset) then 1 else 0 := by
  split
  · refine Nat.le_trans (List.countP_mono_left fun t _ ht => ?_) h.entries_le
    simp only [decide_eq_true_eq] at ht ⊢
    exact hsub _ ht
  · rename_i hne
    refine Nat.le_of_eq (entries_eq_zero fun t ht hs => hne ?_)
    rw [← (h.entry t ht (hsub _ hs)).2]
    exact hs

/-- **An operand of an embedded expression is embedded.** The node itself has the transitions
    `front` in front of the operand and `back` behind it. -/
def narrow (h : Embedding all e k) (front back : List Transition) (next : List State)
    (heq : e.edges k ++ h.next.map (⟨k + e.exitOffset, none, ·⟩) =
      front ++ (x.edges j ++ (next.map (⟨j + x.exitOffset, none, ·⟩) ++ back)))
    (hsub : ∀ s, x.Spans j s → e.Spans k s)
    (hentry : x.Spans j (k + e.entryOffset) → k + e.entryOffset = j + x.entryOffset)
    (hfront : ∀ t ∈ front, t.source < j) (hback : ∀ t ∈ back, j + x.exitOffset < t.source)
    (hnext : next.length ≤ 2) (houtside : ∀ s ∈ next, ¬ x.Spans j s)
    (hcount : x.entries j (front ++ back) +
      (if x.Spans j (k + e.entryOffset) then 1 else 0) ≤ 1)
    (hown : ∀ t ∈ front ++ back, x.Spans j t.target →
      t.label = none ∧ t.target = j + x.entryOffset) : Embedding all x j where
  before := h.before ++ front
  next := next
  after := back ++ h.after
  all_eq := h.all_eq.trans (by
    rw [← List.append_assoc (e.edges k), heq]
    simp only [List.append_assoc])
  before_lt t ht := by
    have hk := (hsub j ⟨Nat.le_refl j, Nat.le_add_right j _⟩).1
    rcases List.mem_append.mp ht with ht | ht
    · exact Nat.lt_of_lt_of_le (h.before_lt t ht) hk
    · exact hfront t ht
  lt_after t ht := by
    have hk := (hsub (j + x.exitOffset) ⟨Nat.le_add_right j _, Nat.le_refl _⟩).2
    rcases List.mem_append.mp ht with ht | ht
    · exact hback t ht
    · exact Nat.lt_of_le_of_lt hk (h.lt_after t ht)
  next_le := hnext
  next_outside := houtside
  entries_le := by
    have haround := h.entries_around_le hsub
    rw [entries_append] at haround hcount
    simp only [entries_append]
    omega
  entry t ht hs := by
    by_cases hmem : t ∈ h.before ++ h.after
    · obtain ⟨hsilent, htarget⟩ := h.entry t hmem (hsub _ hs)
      rw [htarget] at hs ⊢
      exact ⟨hsilent, hentry hs⟩
    · refine hown t ?_ hs
      rw [List.mem_append, List.mem_append, List.mem_append] at ht
      rw [List.mem_append] at hmem ⊢
      rcases ht with (ht | ht) | ht | ht
      · exact absurd (Or.inl ht) hmem
      · exact Or.inl ht
      · exact Or.inr ht
      · exact absurd (Or.inr ht) hmem

/-- The left operand of a union. -/
theorem unionLeft (h : Embedding all (l.union r) k) : Nonempty (Embedding all l k) := by
  obtain ⟨m, hm⟩ : ∃ m, m = k + l.exitOffset + 1 := ⟨_, rfl⟩
  obtain ⟨entry, he⟩ : ∃ s, s = m + r.exitOffset + 1 := ⟨_, rfl⟩
  have hsub : ∀ s, l.Spans k s → (l.union r).Spans k s := fun _ => Spans.unionLeft
  have hnext : ∀ s ∈ h.next, ¬ l.Spans k s := fun s hs hl => h.next_outside s hs (hsub s hl)
  have hentry : ¬ l.Spans k (k + (l.union r).entryOffset) :=
    not_spans_behind (by simp only [entryOffset]; lia)
  have hexit : ¬ l.Spans k (entry + 1) := not_spans_behind (by lia)
  have hother : ¬ l.Spans k (m + r.entryOffset) := not_spans_behind (by lia)
  have hedges : ∀ t ∈ r.edges m, ¬ l.Spans k t.target := fun t ht =>
    not_spans_behind (by have := (edges_inside ht).2.2.1; lia)
  refine ⟨h.narrow []
    (r.edges m ++ ([⟨m + r.exitOffset, none, entry + 1⟩, ⟨entry, none, k + l.entryOffset⟩,
      ⟨entry, none, m + r.entryOffset⟩] ++ h.next.map (⟨k + (l.union r).exitOffset, none, ·⟩)))
    [entry + 1] (by simp [edges, hm, he]) hsub (absurd · hentry) (by simp) ?_ (by simp)
    (by simpa using hexit) ?_ ?_⟩
  · intro t ht
    simp only [List.mem_append, List.mem_cons, List.mem_map, List.not_mem_nil, or_false] at ht
    rcases ht with ht | (rfl | rfl | rfl) | ⟨s, _, rfl⟩
    · have := (edges_inside ht).1
      lia
    · lia
    · lia
    · lia
    · simp only [exitOffset]
      lia
  · rw [if_neg hentry, List.nil_append, entries_append, entries_append, entries_eq_zero hedges,
      entries_map_eq_zero hnext, entries_cons_of_outside hexit]
    have hnone : l.entries k [⟨entry, none, m + r.entryOffset⟩] = 0 :=
      entries_cons_of_outside hother
    have hone := l.entries_cons_le k ⟨entry, none, k + l.entryOffset⟩
      [⟨entry, none, m + r.entryOffset⟩]
    rw [hnone] at hone
    omega
  · intro t ht hs
    simp only [List.nil_append, List.mem_append, List.mem_cons, List.mem_map, List.not_mem_nil,
      or_false] at ht
    rcases ht with ht | (rfl | rfl | rfl) | ⟨s, hmem, rfl⟩
    · exact absurd hs (hedges t ht)
    · exact absurd hs hexit
    · exact ⟨rfl, rfl⟩
    · exact absurd hs hother
    · exact absurd hs (hnext s hmem)

/-- The right operand of a union. -/
theorem unionRight (h : Embedding all (l.union r) k) :
    Nonempty (Embedding all r (k + l.exitOffset + 1)) := by
  obtain ⟨m, hm⟩ : ∃ m, m = k + l.exitOffset + 1 := ⟨_, rfl⟩
  obtain ⟨entry, he⟩ : ∃ s, s = m + r.exitOffset + 1 := ⟨_, rfl⟩
  rw [← hm]
  have hl := l.entryOffset_lt_exitOffset
  have hsub : ∀ s, r.Spans m s → (l.union r).Spans k s := fun _ hs => Spans.unionRight (hm ▸ hs)
  have hnext : ∀ s ∈ h.next, ¬ r.Spans m s := fun s hs hr => h.next_outside s hs (hsub s hr)
  have hentry : ¬ r.Spans m (k + (l.union r).entryOffset) :=
    not_spans_behind (by simp only [entryOffset]; lia)
  have hexit : ¬ r.Spans m (entry + 1) := not_spans_behind (by lia)
  have hother : ¬ r.Spans m (k + l.entryOffset) := not_spans_before (by lia)
  have hedges : ∀ t ∈ l.edges k, ¬ r.Spans m t.target := fun t ht =>
    not_spans_before (by have := (edges_inside ht).2.2.2; lia)
  refine ⟨h.narrow (l.edges k ++ [⟨k + l.exitOffset, none, entry + 1⟩])
    ([⟨entry, none, k + l.entryOffset⟩, ⟨entry, none, m + r.entryOffset⟩] ++
      h.next.map (⟨k + (l.union r).exitOffset, none, ·⟩))
    [entry + 1] (by simp [edges, hm, he]) hsub (absurd · hentry) ?_ ?_ (by simp)
    (by simpa using hexit) ?_ ?_⟩
  · intro t ht
    simp only [List.mem_append, List.mem_cons, List.not_mem_nil, or_false] at ht
    rcases ht with ht | rfl
    · have := (edges_inside ht).2.1
      lia
    · lia
  · intro t ht
    simp only [List.mem_append, List.mem_cons, List.mem_map, List.not_mem_nil, or_false] at ht
    rcases ht with (rfl | rfl) | ⟨s, _, rfl⟩
    · lia
    · lia
    · simp only [exitOffset]
      lia
  · rw [if_neg hentry, entries_append, entries_append, entries_append, entries_eq_zero hedges,
      entries_map_eq_zero hnext, entries_cons_of_outside hexit, entries_cons_of_outside hother,
      entries_nil]
    have hone := r.entries_cons_le m ⟨entry, none, m + r.entryOffset⟩ []
    rw [entries_nil] at hone
    omega
  · intro t ht hs
    simp only [List.mem_append, List.mem_cons, List.mem_map, List.not_mem_nil, or_false] at ht
    rcases ht with (ht | rfl) | (rfl | rfl) | ⟨s, hmem, rfl⟩
    · exact absurd hs (hedges t ht)
    · exact absurd hs hexit
    · exact absurd hs hother
    · exact ⟨rfl, rfl⟩
    · exact absurd hs (hnext s hmem)

/-- The left operand of a concatenation: its entry is the entry of the concatenation. -/
theorem concatLeft (h : Embedding all (l.concat r) k) : Nonempty (Embedding all l k) := by
  obtain ⟨m, hm⟩ : ∃ m, m = k + l.exitOffset + 1 := ⟨_, rfl⟩
  have hsub : ∀ s, l.Spans k s → (l.concat r).Spans k s := fun _ => Spans.concatLeft
  have hnext : ∀ s ∈ h.next, ¬ l.Spans k s := fun s hs hl => h.next_outside s hs (hsub s hl)
  have hother : ¬ l.Spans k (m + r.entryOffset) := not_spans_behind (by lia)
  have hedges : ∀ t ∈ r.edges m, ¬ l.Spans k t.target := fun t ht =>
    not_spans_behind (by have := (edges_inside ht).2.2.1; lia)
  refine ⟨h.narrow [] (r.edges m ++ h.next.map (⟨k + (l.concat r).exitOffset, none, ·⟩))
    [m + r.entryOffset] (by simp [edges, hm]) hsub (fun _ => rfl) (by simp) ?_ (by simp)
    (by simpa using hother) ?_ ?_⟩
  · intro t ht
    rcases List.mem_append.mp ht with ht | ht
    · have := (edges_inside ht).1
      lia
    · obtain ⟨s, _, rfl⟩ := List.mem_map.mp ht
      simp only [exitOffset]
      lia
  · rw [List.nil_append, entries_append, entries_eq_zero hedges, entries_map_eq_zero hnext]
    split
    · exact Nat.le_refl 1
    · exact Nat.zero_le 1
  · intro t ht hs
    rw [List.nil_append] at ht
    rcases List.mem_append.mp ht with ht | ht
    · exact absurd hs (hedges t ht)
    · obtain ⟨s, hmem, rfl⟩ := List.mem_map.mp ht
      exact absurd hs (hnext s hmem)

/-- The right operand of a concatenation: its exit is the exit of the concatenation. -/
theorem concatRight (h : Embedding all (l.concat r) k) :
    Nonempty (Embedding all r (k + l.exitOffset + 1)) := by
  obtain ⟨m, hm⟩ : ∃ m, m = k + l.exitOffset + 1 := ⟨_, rfl⟩
  rw [← hm]
  have hl := l.entryOffset_lt_exitOffset
  have hsub : ∀ s, r.Spans m s → (l.concat r).Spans k s := fun _ hs => Spans.concatRight (hm ▸ hs)
  have hnext : ∀ s ∈ h.next, ¬ r.Spans m s := fun s hs hr => h.next_outside s hs (hsub s hr)
  have hentry : ¬ r.Spans m (k + (l.concat r).entryOffset) :=
    not_spans_before (by simp only [entryOffset]; lia)
  have hexit : k + (l.concat r).exitOffset = m + r.exitOffset := by
    simp only [exitOffset]
    lia
  have hedges : ∀ t ∈ l.edges k, ¬ r.Spans m t.target := fun t ht =>
    not_spans_before (by have := (edges_inside ht).2.2.2; lia)
  refine ⟨h.narrow (l.edges k ++ [⟨k + l.exitOffset, none, m + r.entryOffset⟩]) [] h.next
    (by simp [edges, hexit, hm]) hsub (absurd · hentry) ?_ (by simp) h.next_le hnext ?_ ?_⟩
  · intro t ht
    simp only [List.mem_append, List.mem_cons, List.not_mem_nil, or_false] at ht
    rcases ht with ht | rfl
    · have := (edges_inside ht).2.1
      lia
    · lia
  · rw [if_neg hentry, List.append_nil, entries_append, entries_eq_zero hedges]
    have hone := r.entries_cons_le m ⟨k + l.exitOffset, none, m + r.entryOffset⟩ []
    rw [entries_nil] at hone
    omega
  · intro t ht hs
    simp only [List.append_nil, List.mem_append, List.mem_cons, List.not_mem_nil, or_false] at ht
    rcases ht with ht | rfl
    · exact absurd hs (hedges t ht)
    · exact ⟨rfl, rfl⟩

/-- The body of an iteration. -/
theorem starBody (h : Embedding all b.star k) : Nonempty (Embedding all b k) := by
  obtain ⟨entry, he⟩ : ∃ s, s = k + b.exitOffset + 1 := ⟨_, rfl⟩
  have hsub : ∀ s, b.Spans k s → b.star.Spans k s := fun _ => Spans.starBody
  have hnext : ∀ s ∈ h.next, ¬ b.Spans k s := fun s hs hb => h.next_outside s hs (hsub s hb)
  have hentry : ¬ b.Spans k (k + b.star.entryOffset) :=
    not_spans_behind (by simp only [entryOffset]; lia)
  have hexit : ¬ b.Spans k (entry + 1) := not_spans_behind (by lia)
  refine ⟨h.narrow []
    ([⟨entry, none, k + b.entryOffset⟩, ⟨entry, none, entry + 1⟩] ++
      h.next.map (⟨k + b.star.exitOffset, none, ·⟩))
    [entry, entry + 1] (by simp [edges, he]) hsub (absurd · hentry) (by simp) ?_ (by simp) ?_ ?_ ?_⟩
  · intro t ht
    simp only [List.mem_append, List.mem_cons, List.mem_map, List.not_mem_nil, or_false] at ht
    rcases ht with (rfl | rfl) | ⟨s, _, rfl⟩
    · lia
    · lia
    · simp only [exitOffset]
      lia
  · intro s hs
    simp only [List.mem_cons, List.not_mem_nil, or_false] at hs
    rcases hs with rfl | rfl
    · exact not_spans_behind (by lia)
    · exact hexit
  · have hnone : b.entries k [⟨entry, none, entry + 1⟩] = 0 := entries_cons_of_outside hexit
    have hone := b.entries_cons_le k ⟨entry, none, k + b.entryOffset⟩ [⟨entry, none, entry + 1⟩]
    rw [hnone] at hone
    rw [if_neg hentry, List.nil_append, entries_append, entries_map_eq_zero hnext]
    omega
  · intro t ht hs
    simp only [List.nil_append, List.mem_append, List.mem_cons, List.mem_map, List.not_mem_nil,
      or_false] at ht
    rcases ht with (rfl | rfl) | ⟨s, hmem, rfl⟩
    · exact ⟨rfl, rfl⟩
    · exact absurd hs hexit
    · exact absurd hs (hnext s hmem)

/-- **Every occurrence in an embedded expression is embedded.** -/
theorem occurrence (h : Embedding all e k) (o : Occurrence x e) :
    Nonempty (Embedding all x (k + o.offset)) := by
  induction o generalizing k with
  | here => exact ⟨h⟩
  | unionLeft o r ih =>
      obtain ⟨hleft⟩ := h.unionLeft
      exact ih hleft
  | unionRight l o ih =>
      obtain ⟨hright⟩ := h.unionRight
      rw [add_offset_unionRight]
      exact ih hright
  | concatLeft o r ih =>
      obtain ⟨hleft⟩ := h.concatLeft
      exact ih hleft
  | concatRight l o ih =>
      obtain ⟨hright⟩ := h.concatRight
      rw [add_offset_concatRight]
      exact ih hright
  | starBody o ih =>
      obtain ⟨hbody⟩ := h.starBody
      exact ih hbody

/-- The edges of an embedded block are among the transitions. -/
theorem mem_of_mem_edges (h : Embedding all x k) {t : Transition} (ht : t ∈ x.edges k) :
    t ∈ all := by
  rw [h.all_eq]
  exact List.mem_append_right _ (List.mem_append_left _ ht)

/-! ## 4. Embedded blocks are blocks of the automaton -/

/-- What the exit of the block has as transitions. -/
def leaving (h : Embedding all x k) : List Transition :=
  h.next.map (⟨k + x.exitOffset, none, ·⟩)

theorem mem_leaving (h : Embedding all x k) {t : Transition} (ht : t ∈ h.leaving) :
    t.source = k + x.exitOffset ∧ t.label = none ∧ t.target ∈ h.next := by
  obtain ⟨s, hs, rfl⟩ := List.mem_map.mp ht
  exact ⟨rfl, rfl, hs⟩

/-- A selection of transitions, part by part. -/
theorem filter_all (h : Embedding all x k) (p : Transition → Bool) :
    all.filter p = h.before.filter p ++
      ((x.edges k).filter p ++ (h.leaving.filter p ++ h.after.filter p)) := by
  refine (congrArg (List.filter p) h.all_eq).trans ?_
  simp only [List.filter_append]
  rfl

theorem filter_source_eq_nil {ts : List Transition} {s : State} (h : ∀ t ∈ ts, t.source ≠ s) :
    ts.filter (·.source = s) = [] :=
  List.filter_eq_nil_iff.mpr fun t ht => by simpa using h t ht

/-- A state of the block other than the exit has the edges of the block. -/
theorem filter_inner (h : Embedding all x k) {i : Nat} (hi : i < x.exitOffset) :
    all.filter (·.source = k + i) = ((x.edges 0).filter (·.source = i)).map (·.shift k) := by
  have hbefore : h.before.filter (·.source = k + i) = [] := filter_source_eq_nil fun t ht => by
    have := h.before_lt t ht
    lia
  have hafter : h.after.filter (·.source = k + i) = [] := filter_source_eq_nil fun t ht => by
    have := h.lt_after t ht
    lia
  have hexit : h.leaving.filter (·.source = k + i) = [] := filter_source_eq_nil fun t ht => by
    have := (h.mem_leaving ht).1
    lia
  have hedges := x.edges_shift k 0
  rw [Nat.add_zero] at hedges
  rw [h.filter_all, hbefore, hafter, hexit, List.nil_append, List.append_nil, List.append_nil,
    hedges, List.filter_map]
  congr 1
  refine List.filter_congr fun t _ => ?_
  simp [Transition.shift]

/-- The exit of the block has the transitions that the surroundings gave it. -/
theorem filter_exit (h : Embedding all x k) :
    all.filter (·.source = k + x.exitOffset) = h.leaving := by
  have hbefore : h.before.filter (·.source = k + x.exitOffset) = [] :=
    filter_source_eq_nil fun t ht => by
      have := h.before_lt t ht
      lia
  have hafter : h.after.filter (·.source = k + x.exitOffset) = [] :=
    filter_source_eq_nil fun t ht => by
      have := h.lt_after t ht
      lia
  have hinner : (x.edges k).filter (·.source = k + x.exitOffset) = [] :=
    filter_source_eq_nil fun t ht => Nat.ne_of_lt (edges_inside ht).2.1
  rw [h.filter_all, hbefore, hafter, hinner, List.nil_append, List.nil_append, List.append_nil,
    List.filter_eq_self]
  exact fun t ht => decide_eq_true (h.mem_leaving ht).1

/-- What enters the block from outside belongs to the surroundings. -/
theorem filter_entering (h : Embedding all x k) :
    all.filter (fun t => ¬ x.Spans k t.source ∧ x.Spans k t.target) =
      (h.before ++ h.after).filter fun t => x.Spans k t.target := by
  have hinner : (x.edges k).filter (fun t => ¬ x.Spans k t.source ∧ x.Spans k t.target) = [] :=
    List.filter_eq_nil_iff.mpr fun t ht => by
      obtain ⟨hge, hlt, _, _⟩ := edges_inside ht
      have hin : x.Spans k t.source := ⟨hge, Nat.le_of_lt hlt⟩
      simp [hin]
  have hexit : h.leaving.filter (fun t => ¬ x.Spans k t.source ∧ x.Spans k t.target) = [] :=
    List.filter_eq_nil_iff.mpr fun t ht => by
      have hout := h.next_outside _ (h.mem_leaving ht).2.2
      simp [hout]
  rw [h.filter_all, hinner, hexit, List.nil_append, List.nil_append, ← List.filter_append]
  refine List.filter_congr fun t ht => ?_
  have hout : ¬ x.Spans k t.source := by
    rcases List.mem_append.mp ht with ht | ht
    · exact not_spans_before (h.before_lt t ht)
    · exact not_spans_behind (h.lt_after t ht)
  simp [hout]

end Embedding

/-- The edges of an occurrence are edges of the expression. -/
theorem mem_edges_of_occurrence {x e : Regex} (o : Occurrence x e) {t : Transition}
    (ht : t ∈ x.edges o.offset) : t ∈ e.edges 0 := by
  obtain ⟨h⟩ := (Embedding.root e).occurrence o
  rw [Nat.zero_add] at h
  exact h.mem_of_mem_edges ht

/-- The block of an occurrence ends inside the block of the expression. -/
theorem offset_add_exitOffset_le {x e : Regex} (o : Occurrence x e) :
    o.offset + x.exitOffset ≤ e.exitOffset := by
  induction o with
  | here => exact Nat.le_of_eq (Nat.zero_add _)
  | unionLeft o r ih => simp only [Occurrence.offset, exitOffset]; omega
  | unionRight l o ih => simp only [Occurrence.offset, exitOffset, stateCount_compile]; omega
  | concatLeft o r ih => simp only [Occurrence.offset, exitOffset]; omega
  | concatRight l o ih => simp only [Occurrence.offset, exitOffset, stateCount_compile]; omega
  | starBody o ih => simp only [Occurrence.offset, exitOffset]; omega

/-- An expression is no larger than one it stands in. -/
theorem exitOffset_le_of_occurrence {x e : Regex} (o : Occurrence x e) :
    x.exitOffset ≤ e.exitOffset := by
  have := offset_add_exitOffset_le o
  lia

/-- An expression does not stand inside one of its operands. -/
theorem eq_here {x : Regex} (o : Occurrence x x) : o = .here := by
  cases o with
  | here => rfl
  | unionLeft o _ => exact absurd (exitOffset_le_of_occurrence o) (by simp only [exitOffset]; lia)
  | unionRight _ o => exact absurd (exitOffset_le_of_occurrence o) (by simp only [exitOffset]; lia)
  | concatLeft o _ => exact absurd (exitOffset_le_of_occurrence o) (by simp only [exitOffset]; lia)
  | concatRight _ o => exact absurd (exitOffset_le_of_occurrence o) (by simp only [exitOffset]; lia)
  | starBody o => exact absurd (exitOffset_le_of_occurrence o) (by simp only [exitOffset]; lia)

/-- What stands in a left operand is laid out before what stands in the right one. -/
theorem offset_left_lt_right {x y l r : Regex} (o : Occurrence x l) (p : Occurrence y r) :
    o.offset < l.compile.stateCount + p.offset := by
  have := offset_add_exitOffset_le o
  rw [stateCount_compile]
  lia

/-- **An expression stands at most once at each state number.** -/
theorem eq_of_offset_eq {x e : Regex} {o p : Occurrence x e} (h : o.offset = p.offset) : o = p := by
  induction o with
  | here => exact (eq_here p).symm
  | unionLeft o r ih =>
      cases p with
      | here => exact eq_here _
      | unionLeft p => exact congrArg (Occurrence.unionLeft · r) (ih h)
      | unionRight l p => exact absurd h (Nat.ne_of_lt (offset_left_lt_right o p))
  | unionRight l o ih =>
      cases p with
      | here => exact eq_here _
      | unionLeft p => exact absurd h (Nat.ne_of_gt (offset_left_lt_right p o))
      | unionRight _ p => exact congrArg (Occurrence.unionRight l) (ih (Nat.add_left_cancel h))
  | concatLeft o r ih =>
      cases p with
      | here => exact eq_here _
      | concatLeft p => exact congrArg (Occurrence.concatLeft · r) (ih h)
      | concatRight l p => exact absurd h (Nat.ne_of_lt (offset_left_lt_right o p))
  | concatRight l o ih =>
      cases p with
      | here => exact eq_here _
      | concatLeft p => exact absurd h (Nat.ne_of_gt (offset_left_lt_right p o))
      | concatRight _ p => exact congrArg (Occurrence.concatRight l) (ih (Nat.add_left_cancel h))
  | starBody o ih =>
      cases p with
      | here => exact eq_here _
      | starBody p => exact congrArg Occurrence.starBody (ih h)

theorem inBlock_compile (x : Regex) (k s : State) :
    Automaton.InBlock k x.compile.stateCount s ↔ x.Spans k s := by
  rw [Automaton.InBlock, Spans, stateCount_compile]
  lia

/-- An embedded block of the edges is a block of the automaton. -/
theorem Embedding.hasBlock {e x : Regex} {k : State} (h : Embedding (e.edges 0) x k)
    (hfits : k + x.exitOffset ≤ e.exitOffset) : e.compile.HasBlock x.compile k where
  fits := by
    rw [stateCount_compile, stateCount_compile]
    lia
  start_lt := by
    have := x.entryOffset_lt_exitOffset
    rw [compile_start, stateCount_compile]
    lia
  accept_lt := by
    rw [compile_accept, stateCount_compile]
    lia
  copies i hi hne := by
    rw [stateCount_compile] at hi
    rw [compile_accept] at hne
    rw [outgoing_compile, outgoing_compile]
    exact h.filter_inner (by lia)
  exit_le := by
    rw [outgoing_compile, compile_accept, h.filter_exit, leaving, List.length_map]
    exact h.next_le
  exit_leaves t ht := by
    rw [outgoing_compile, compile_accept, h.filter_exit] at ht
    obtain ⟨_, hsilent, hnext⟩ := h.mem_leaving ht
    rw [inBlock_compile, Transition.isSilent, hsilent]
    exact ⟨rfl, h.next_outside _ hnext⟩
  entering_le := by
    simp only [Automaton.entering, transitions_compile, inBlock_compile]
    rw [h.filter_entering, ← List.countP_eq_length_filter]
    exact h.entries_le
  entering_start t ht := by
    simp only [Automaton.entering, transitions_compile, inBlock_compile] at ht
    rw [h.filter_entering, List.mem_filter, decide_eq_true_eq] at ht
    obtain ⟨hsilent, htarget⟩ := h.entry t ht.1 ht.2
    rw [compile_start]
    exact ⟨by rw [Transition.isSilent, hsilent]; rfl, htarget⟩

/-- **Every subexpression has a block of its own, wherever it stands**: the block begins where
    `Occurrence.offset` says, repeats the automaton of the subexpression state by state, is entered
    by at most one transition and left by at most two. The whole expression begins at state zero,
    and nothing leaves its accepting state. -/
theorem compile_hasBlock (e : Regex) :
    (∀ (x : Regex) (o : Occurrence x e), e.compile.HasBlock x.compile o.offset) ∧
    (Occurrence.here : Occurrence e e).offset = 0 ∧
    e.compile.outgoing e.compile.accept = [] := by
  refine ⟨fun x o => ?_, rfl, ?_⟩
  · obtain ⟨h⟩ := (Embedding.root e).occurrence o
    rw [Nat.zero_add] at h
    exact h.hasBlock (offset_add_exitOffset_le o)
  · have h := (Embedding.root e).filter_exit
    rw [Nat.zero_add] at h
    rw [outgoing_compile, compile_accept, h]
    rfl

end Regex

end EpsilonAutomata
