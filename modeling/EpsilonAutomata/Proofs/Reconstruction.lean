import EpsilonAutomata.Proofs.Reassociation

/-!
# An expression can be read off its automaton

The edges of a block determine the factors of the expression. The last factor comes first: the
state before the exit is its entry, and what leaves that state tells the kind of the factor
(`sameNode_of_fromEntry_eq`). Where the block of the factor begins is told by the one edge that
leads to the entry from outside (`border_le`), and for a union the border between the operands by
the edges that lead to the exit. What is left on either side of a border is the block of a smaller
expression.
-/

namespace EpsilonAutomata

namespace Regex

/-! ## 1. The last factor -/

/-- The expression is no concatenation. -/
def IsFactor : Regex → Prop
  | concat _ _ => False
  | _ => True

/-- An expression with another in front of it, if there is one. -/
def behind : Option Regex → Regex → Regex
  | none, x => x
  | some pre, x => concat pre x

/-- Where the block of an expression begins behind another. -/
def border (k : State) : Option Regex → State
  | none => k
  | some pre => k + pre.exitOffset + 1

/-- The edges up to the border, of which the last leads across to the entry at `entry`. -/
def front (k entry : State) : Option Regex → List Transition
  | none => []
  | some pre => pre.edges k ++ [⟨k + pre.exitOffset, none, entry⟩]

/-- Every expression ends with a factor that is no concatenation, once the brackets are moved. -/
theorem exists_last (e : Regex) : ∃ pre x, IsFactor x ∧ e.Reassociates (behind pre x) := by
  induction e with
  | epsilon => exact ⟨none, .epsilon, trivial, .refl _⟩
  | symbol c => exact ⟨none, .symbol c, trivial, .refl _⟩
  | union l r _ _ => exact ⟨none, .union l r, trivial, .refl _⟩
  | concat l r _ ihr =>
      obtain ⟨pre, x, hx, hr⟩ := ihr
      cases pre with
      | none => exact ⟨some l, x, hx, .concat (.refl l) hr⟩
      | some pre =>
          exact ⟨some (l.concat pre), x, hx,
            (Reassociates.concat (.refl l) hr).trans (.symm (.rotate l pre x))⟩
  | star b _ => exact ⟨none, .star b, trivial, .refl _⟩

section Last

variable {pre pre' : Option Regex} {x y : Regex} {k m m' : State} {t : Transition}

theorem exitOffset_behind (pre : Option Regex) (x : Regex) (k : State) :
    k + (behind pre x).exitOffset = border k pre + x.exitOffset := by
  cases pre with
  | none => rfl
  | some pre =>
      simp only [behind, border, exitOffset]
      lia

theorem edges_behind (pre : Option Regex) (x : Regex) (k : State) :
    (behind pre x).edges k =
      front k (border k pre + x.entryOffset) pre ++ x.edges (border k pre) := by
  cases pre with
  | none => rfl
  | some pre => simp [behind, border, front, edges]

theorem factors_behind (pre : Option Regex) (x : Regex) :
    (behind pre x).factors = (pre.map factors).getD [] ++ x.factors := by
  cases pre <;> rfl

theorem le_border (k : State) (pre : Option Regex) : k ≤ border k pre := by
  cases pre with
  | none => exact Nat.le_refl k
  | some pre =>
      rw [border, Nat.add_assoc]
      exact Nat.le_add_right k _

/-- An edge up to the border stays before it, but for the one that leads across. -/
theorem mem_front {entry : State} (ht : t ∈ front k entry pre) :
    t.source < border k pre ∧ (t.target < border k pre ∨ t.source + 1 = border k pre) := by
  cases pre with
  | none => exact absurd ht List.not_mem_nil
  | some pre =>
      simp only [front, List.mem_append, List.mem_singleton] at ht
      simp only [border]
      rcases ht with ht | rfl
      · obtain ⟨_, h2, _, h4⟩ := edges_inside ht
        lia
      · lia

/-- Behind a border, something leads across it. -/
theorem border_entered (entry : State) (h : k < border k pre) :
    ∃ t ∈ front k entry pre, t.source + 1 = border k pre ∧ t.target = entry := by
  cases pre with
  | none => exact absurd h (Nat.lt_irrefl k)
  | some pre =>
      refine ⟨⟨k + pre.exitOffset, none, entry⟩, ?_, rfl, rfl⟩
      exact List.mem_append_right _ (List.mem_singleton_self _)

/-- The entry of a factor is the state before its exit. -/
theorem IsFactor.exitOffset_eq (hx : IsFactor x) : x.exitOffset = x.entryOffset + 1 := by
  cases x with
  | concat l r => exact absurd hx id
  | _ => rfl

/-- Within its own block, a factor is entered from the state before at most. -/
theorem IsFactor.source_of_target (hx : IsFactor x) (ht : t ∈ x.edges m)
    (htarget : t.target = m + x.entryOffset) : t.source + 1 = m + x.entryOffset := by
  cases x with
  | epsilon =>
      obtain rfl := List.mem_singleton.mp ht
      simp only [entryOffset] at htarget
      lia
  | symbol c =>
      obtain rfl := List.mem_singleton.mp ht
      simp only [entryOffset] at htarget
      lia
  | union l r =>
      have hl := l.entryOffset_lt_exitOffset
      have hr := r.entryOffset_lt_exitOffset
      simp only [entryOffset] at htarget ⊢
      rcases mem_edges_union.mp ht with ht | rfl | ht | rfl | rfl | rfl
      · obtain ⟨_, _, _, h⟩ := edges_inside ht
        lia
      · lia
      · obtain ⟨_, _, _, h⟩ := edges_inside ht
        lia
      · lia
      · lia
      · lia
  | concat l r => exact absurd hx id
  | star b =>
      have hb := b.entryOffset_lt_exitOffset
      simp only [entryOffset] at htarget ⊢
      rcases mem_edges_star.mp ht with ht | rfl | rfl | rfl | rfl
      · obtain ⟨_, _, _, h⟩ := edges_inside ht
        lia
      · lia
      · lia
      · lia
      · lia

/-! ## 2. The kind of the last factor -/

/-- What leaves the entry of a factor. -/
def fromEntry : Regex → State → List Transition
  | epsilon, m => [⟨m, none, m + 1⟩]
  | symbol c, m => [⟨m, some c, m + 1⟩]
  | union l r, m =>
    let entry := m + l.exitOffset + 1 + r.exitOffset + 1
    [⟨entry, none, m + l.entryOffset⟩, ⟨entry, none, m + l.exitOffset + 1 + r.entryOffset⟩]
  | concat _ _, _ => []
  | star b, m =>
    let entry := m + b.exitOffset + 1
    [⟨entry, none, m + b.entryOffset⟩, ⟨entry, none, entry + 1⟩]

/-- The edges of a factor are those before its entry and those from it. -/
theorem IsFactor.edges_eq (hx : IsFactor x) (m : State) : ∃ inner,
    x.edges m = inner ++ fromEntry x m ∧ (∀ t ∈ inner, t.source < m + x.entryOffset) ∧
      ∀ t ∈ fromEntry x m, t.source = m + x.entryOffset := by
  cases x with
  | epsilon => exact ⟨[], rfl, by simp, by simp [fromEntry, entryOffset]⟩
  | symbol c => exact ⟨[], rfl, by simp, by simp [fromEntry, entryOffset]⟩
  | union l r =>
      refine ⟨l.edges m ++ ⟨m + l.exitOffset, none, m + l.exitOffset + 1 + r.exitOffset + 2⟩ ::
        (r.edges (m + l.exitOffset + 1) ++ [⟨m + l.exitOffset + 1 + r.exitOffset, none,
          m + l.exitOffset + 1 + r.exitOffset + 2⟩]), by simp [edges, fromEntry], ?_, ?_⟩
      · intro t ht
        simp only [List.mem_append, List.mem_cons, List.not_mem_nil, or_false] at ht
        simp only [entryOffset]
        rcases ht with ht | rfl | ht | rfl
        · obtain ⟨_, h, _, _⟩ := edges_inside ht
          lia
        · lia
        · obtain ⟨_, h, _, _⟩ := edges_inside ht
          lia
        · lia
      · intro t ht
        simp only [fromEntry, List.mem_cons, List.not_mem_nil, or_false] at ht
        simp only [entryOffset]
        rcases ht with rfl | rfl
        · lia
        · lia
  | concat l r => exact absurd hx id
  | star b =>
      refine ⟨b.edges m ++ [⟨m + b.exitOffset, none, m + b.exitOffset + 1⟩,
        ⟨m + b.exitOffset, none, m + b.exitOffset + 2⟩], by simp [edges, fromEntry], ?_, ?_⟩
      · intro t ht
        simp only [List.mem_append, List.mem_cons, List.not_mem_nil, or_false] at ht
        simp only [entryOffset]
        rcases ht with ht | rfl | rfl
        · obtain ⟨_, h, _, _⟩ := edges_inside ht
          lia
        · lia
        · lia
      · intro t ht
        simp only [fromEntry, List.mem_cons, List.not_mem_nil, or_false] at ht
        simp only [entryOffset]
        rcases ht with rfl | rfl
        · lia
        · lia

/-- A list of transitions falls apart in one way at a border between their sources. -/
theorem append_inj_of_source {n : State} {ts us ts' us' : List Transition}
    (h : ts ++ us = ts' ++ us') (hts : ∀ t ∈ ts, t.source < n) (hts' : ∀ t ∈ ts', t.source < n)
    (hus : ∀ t ∈ us, n ≤ t.source) (hus' : ∀ t ∈ us', n ≤ t.source) : ts = ts' ∧ us = us' := by
  have hfilter : ∀ {vs ws : List Transition}, (∀ t ∈ vs, t.source < n) →
      (∀ t ∈ ws, n ≤ t.source) → (vs ++ ws).filter (·.source < n) = vs := fun hvs hws => by
    rw [List.filter_append, List.filter_eq_self.mpr fun t ht => decide_eq_true (hvs t ht),
      List.filter_eq_nil_iff.mpr fun t ht => by simpa using hws t ht, List.append_nil]
  have heq : ts = ts' := by
    rw [← hfilter hts hus, ← hfilter hts' hus', h]
  subst heq
  exact ⟨rfl, List.append_cancel_left h⟩

/-- Two nodes of one kind, and of one character if they are symbols. -/
inductive SameNode : Regex → Regex → Prop where
  | epsilon : SameNode epsilon epsilon
  | symbol (c : Char) : SameNode (symbol c) (symbol c)
  | union (l r l' r' : Regex) : SameNode (union l r) (union l' r')
  | star (b b' : Regex) : SameNode (star b) (star b')

theorem SameNode.symm (h : SameNode x y) : SameNode y x := by
  cases h with
  | epsilon => exact .epsilon
  | symbol c => exact .symbol c
  | union l r l' r' => exact .union l' r' l r
  | star b b' => exact .star b' b

/-- **What leaves the entry of a factor tells its kind**: a leaf has one transition, and of the two
    of the others the second leads on in an iteration and back in a union. -/
theorem sameNode_of_fromEntry_eq (hx : IsFactor x) (hy : IsFactor y)
    (h : fromEntry x m = fromEntry y m') : SameNode x y := by
  have hback : ∀ {l r b : Regex} {k k' : State}, fromEntry (union l r) k ≠ fromEntry (star b) k' :=
    fun {l r b k k'} h => by
      have hr := r.entryOffset_lt_exitOffset
      simp only [fromEntry, List.cons.injEq, Transition.mk.injEq] at h
      obtain ⟨⟨hsource, _, _⟩, ⟨_, _, htarget⟩, _⟩ := h
      lia
  cases x with
  | epsilon =>
      cases y with
      | epsilon => exact .epsilon
      | symbol c => simp [fromEntry] at h
      | union l r => simp [fromEntry] at h
      | concat l r => exact absurd hy id
      | star b => simp [fromEntry] at h
  | symbol c =>
      cases y with
      | epsilon => simp [fromEntry] at h
      | symbol d =>
          simp only [fromEntry, List.cons.injEq, Transition.mk.injEq, Option.some.injEq] at h
          obtain rfl := h.1.2.1
          exact .symbol c
      | union l r => simp [fromEntry] at h
      | concat l r => exact absurd hy id
      | star b => simp [fromEntry] at h
  | union l r =>
      cases y with
      | epsilon => simp [fromEntry] at h
      | symbol c => simp [fromEntry] at h
      | union l' r' => exact .union l r l' r'
      | concat l r => exact absurd hy id
      | star b => exact absurd h hback
  | concat l r => exact absurd hx id
  | star b =>
      cases y with
      | epsilon => simp [fromEntry] at h
      | symbol c => simp [fromEntry] at h
      | union l r => exact absurd h.symm hback
      | concat l r => exact absurd hy id
      | star b' => exact .star b b'

/-- With the same edges, the last factors are of one kind. -/
theorem sameNode_of_edges_eq (hx : IsFactor x) (hy : IsFactor y)
    (hentry : border k pre + x.entryOffset = border k pre' + y.entryOffset)
    (h : (behind pre x).edges k = (behind pre' y).edges k) : SameNode x y := by
  obtain ⟨inner, heq, hlt, hge⟩ := hx.edges_eq (border k pre)
  obtain ⟨inner', heq', hlt', hge'⟩ := hy.edges_eq (border k pre')
  rw [edges_behind, edges_behind, heq, heq', ← List.append_assoc, ← List.append_assoc] at h
  refine sameNode_of_fromEntry_eq hx hy
    (append_inj_of_source (n := border k pre + x.entryOffset) h ?_ ?_ ?_ ?_).2
  · intro t ht
    rcases List.mem_append.mp ht with ht | ht
    · exact Nat.lt_of_lt_of_le (mem_front ht).1 (Nat.le_add_right _ _)
    · exact hlt t ht
  · intro t ht
    rw [hentry]
    rcases List.mem_append.mp ht with ht | ht
    · exact Nat.lt_of_lt_of_le (mem_front ht).1 (Nat.le_add_right _ _)
    · exact hlt' t ht
  · exact fun t ht => Nat.le_of_eq (hge t ht).symm
  · exact fun t ht => Nat.le_of_eq (hentry.trans (hge' t ht).symm)

/-! ## 3. The borders -/

/-- With the same edges, the last factor of one does not begin before that of the other: the edge
    across the later border would lie inside the block of the earlier factor. -/
theorem border_le (hx : IsFactor x) (hnode : SameNode x y)
    (hentry : border k pre + x.entryOffset = border k pre' + y.entryOffset)
    (h : (behind pre x).edges k = (behind pre' y).edges k) : border k pre' ≤ border k pre := by
  refine Nat.le_of_not_lt fun hlt => ?_
  have hk := le_border k pre
  obtain ⟨t, ht, hsource, htarget⟩ :=
    border_entered (border k pre' + y.entryOffset) (Nat.lt_of_le_of_lt hk hlt)
  have hmem : t ∈ (behind pre x).edges k := by
    rw [h, edges_behind]
    exact List.mem_append_left _ ht
  rw [edges_behind, List.mem_append] at hmem
  rcases hmem with hmem | hmem
  · have := (mem_front hmem).1
    lia
  · have := hx.source_of_target hmem (htarget.trans hentry.symm)
    cases hnode <;> simp only [entryOffset] at * <;> lia

/-- The blocks of the operands are told apart by the state from which the left one leads to the
    exit. -/
theorem union_edges_inj {l r l' r' : Regex}
    (hexit : (union l r).exitOffset = (union l' r').exitOffset)
    (h : (union l r).edges m = (union l' r').edges m) :
    l.edges m = l'.edges m ∧
      ∃ m', r.edges m' = r'.edges m' := by
  have hr := r.entryOffset_lt_exitOffset
  have hr' := r'.entryOffset_lt_exitOffset
  have hmem : (⟨m + l.exitOffset, none, m + l.exitOffset + 1 + r.exitOffset + 2⟩ : Transition) ∈
      (union l' r').edges m := by
    rw [← h]
    simp [edges]
  have hl : l.exitOffset = l'.exitOffset := by
    have hl' := l'.entryOffset_lt_exitOffset
    simp only [exitOffset] at hexit
    rcases mem_edges_union.mp hmem with ht | ht | ht | ht | ht | ht
    · obtain ⟨_, _, _, htarget⟩ := edges_inside ht
      lia
    · simp only [Transition.mk.injEq] at ht
      lia
    · obtain ⟨_, _, _, htarget⟩ := edges_inside ht
      lia
    all_goals
      simp only [Transition.mk.injEq] at ht
      lia
  have hr : r.exitOffset = r'.exitOffset := by
    simp only [exitOffset] at hexit
    lia
  simp only [edges, hl, hr] at h
  have hbehind : ∀ (x : Regex) (s₁ s₂ s₃ s₄ : State), ∀ t ∈ (⟨m + l'.exitOffset, none, s₁⟩ ::
      (x.edges (m + l'.exitOffset + 1) ++ [⟨m + l'.exitOffset + 1 + r'.exitOffset, none, s₂⟩,
        ⟨m + l'.exitOffset + 1 + r'.exitOffset + 1, none, s₃⟩,
        ⟨m + l'.exitOffset + 1 + r'.exitOffset + 1, none, s₄⟩]) : List Transition),
      m + l'.exitOffset ≤ t.source := by
    intro x s₁ s₂ s₃ s₄ t ht
    simp only [List.mem_append, List.mem_cons, List.not_mem_nil, or_false] at ht
    rcases ht with rfl | ht | rfl | rfl | rfl
    · exact Nat.le_refl _
    · have hsource := (edges_inside ht).1
      lia
    all_goals lia
  obtain ⟨hleft, hrest⟩ := append_inj_of_source (n := m + l'.exitOffset) h
    (fun t ht => hl ▸ (edges_inside ht).2.1) (fun t ht => (edges_inside ht).2.1)
    (hbehind r _ _ _ _) (hbehind r' _ _ _ _)
  exact ⟨hleft, _, (List.append_inj' (List.cons.inj hrest).2 rfl).1⟩

/-- Behind one border, the parts on either side agree. -/
theorem edges_inj_of_border (hborder : border k pre = border k pre')
    (h : (behind pre x).edges k = (behind pre' y).edges k) :
    front k (border k pre + x.entryOffset) pre = front k (border k pre' + y.entryOffset) pre' ∧
      x.edges (border k pre) = y.edges (border k pre') := by
  rw [edges_behind, edges_behind] at h
  refine append_inj_of_source (n := border k pre) h (fun t ht => (mem_front ht).1) ?_
    (fun t ht => (edges_inside ht).1) ?_
  · exact fun t ht => hborder ▸ (mem_front ht).1
  · exact fun t ht => hborder ▸ (edges_inside ht).1

end Last

/-! ## 4. The whole expression -/

/-- Something leaves the state before the exit. -/
theorem exit_entered (e : Regex) (k : State) :
    ∃ t ∈ e.edges k, t.source + 1 = k + e.exitOffset := by
  induction e generalizing k with
  | epsilon => exact ⟨⟨k, none, k + 1⟩, List.mem_singleton_self _, rfl⟩
  | symbol c => exact ⟨⟨k, some c, k + 1⟩, List.mem_singleton_self _, rfl⟩
  | union l r _ _ =>
      refine ⟨⟨k + l.exitOffset + 1 + r.exitOffset + 1, none, k + l.entryOffset⟩, ?_, ?_⟩
      · simp [edges]
      · simp only [exitOffset]
        lia
  | concat l r _ ihr =>
      obtain ⟨t, ht, hsource⟩ := ihr (k + l.exitOffset + 1)
      refine ⟨t, ?_, ?_⟩
      · simp [edges, ht]
      · simp only [exitOffset]
        lia
  | star b _ =>
      refine ⟨⟨k + b.exitOffset + 1, none, k + b.entryOffset⟩, ?_, ?_⟩
      · simp [edges]
      · simp only [exitOffset]
        lia

theorem exitOffset_le_of_edges_eq {e f : Regex} {k : State} (h : e.edges k = f.edges k) :
    e.exitOffset ≤ f.exitOffset := by
  obtain ⟨t, ht, hsource⟩ := e.exit_entered k
  rw [h] at ht
  have := (edges_inside ht).2.1
  lia

/-- Blocks that end before `n` states tell the factors of their expressions. -/
def TellFactors (n : Nat) : Prop :=
  ∀ (e f : Regex) (k : State), e.exitOffset < n → e.edges k = f.edges k → e.factors = f.factors

section Step

variable {n : Nat} {pre pre' : Option Regex} {x y : Regex} {k m m' : State}

/-- What stands in front of the last factor. -/
theorem factors_front_eq (ih : TellFactors n) (hlt : border k pre ≤ k + n)
    (hborder : border k pre = border k pre') (h : front k m pre = front k m' pre') :
    (pre.map factors).getD [] = (pre'.map factors).getD [] := by
  cases pre with
  | none =>
      cases pre' with
      | none => rfl
      | some pre' => simp only [border] at hborder; lia
  | some pre =>
      cases pre' with
      | none => simp only [border] at hborder; lia
      | some pre' =>
          have hpre := (List.append_inj' h rfl).1
          simp only [border] at hlt
          exact ih pre pre' k (by lia) hpre

/-- The last factor itself. -/
theorem factors_last_eq (ih : TellFactors n) (hnode : SameNode x y) (hlt : x.exitOffset ≤ n)
    (hexit : x.exitOffset = y.exitOffset) (h : x.edges m = y.edges m) :
    x.factors = y.factors := by
  cases hnode with
  | epsilon => rfl
  | symbol c => rfl
  | union l r l' r' =>
      obtain ⟨hl, m', hr⟩ := union_edges_inj hexit h
      simp only [exitOffset] at hlt
      rw [factors, factors, ih l l' m (by lia) hl, ih r r' m' (by lia) hr]
  | star b b' =>
      have hb := (List.append_inj' h rfl).1
      simp only [exitOffset] at hlt
      rw [factors, factors, ih b b' m (by lia) hb]

end Step

/-- **Blocks with the same edges belong to expressions with the same factors.** -/
theorem factors_eq_of_edges_eq {e f : Regex} {k : State} (h : e.edges k = f.edges k) :
    e.factors = f.factors := by
  have hall : ∀ n, TellFactors n := fun n => by
    induction n with
    | zero => exact fun e f k hlt _ => absurd hlt (Nat.not_lt_zero _)
    | succ n ih =>
        intro e f k hn h
        obtain ⟨pre, x, hx, he⟩ := e.exists_last
        obtain ⟨pre', y, hy, hf⟩ := f.exists_last
        have hexit :=
          Nat.le_antisymm (exitOffset_le_of_edges_eq h) (exitOffset_le_of_edges_eq h.symm)
        have hex := exitOffset_behind pre x k
        have hey := exitOffset_behind pre' y k
        rw [← he.exitOffset_eq, hx.exitOffset_eq] at hex
        rw [← hf.exitOffset_eq, hy.exitOffset_eq] at hey
        rw [he.edges_eq, hf.edges_eq] at h
        rw [he.factors_eq, hf.factors_eq, factors_behind, factors_behind]
        have hentry : border k pre + x.entryOffset = border k pre' + y.entryOffset := by lia
        -- the kind of the last factor, and the border before it
        have hnode := sameNode_of_edges_eq hx hy hentry h
        have hborder : border k pre = border k pre' :=
          Nat.le_antisymm (border_le hy hnode.symm hentry.symm h.symm) (border_le hx hnode hentry h)
        obtain ⟨hfront, hlast⟩ := edges_inj_of_border hborder h
        rw [← hborder] at hlast
        have hk := le_border k pre
        have hxy : x.exitOffset = y.exitOffset := by
          rw [hx.exitOffset_eq, hy.exitOffset_eq]
          lia
        have hlt : x.exitOffset ≤ n := by
          rw [hx.exitOffset_eq]
          lia
        rw [factors_front_eq ih (by lia) hborder hfront, factors_last_eq ih hnode hlt hxy hlast]
  exact hall (e.exitOffset + 1) e f k (Nat.lt_succ_self _) h

/-- **The start state and the ordered list of transitions of an automaton tell its expression, up to
    the brackets of concatenations**, and those brackets show nowhere: not in the numbering, nor in
    the accepting state, nor in the kinds of node the states were allocated for. -/
theorem transitions_compile_eq_iff (e f : Regex) :
    ((e.compile.start = f.compile.start ∧ e.compile.transitions = f.compile.transitions) ↔
      e.factors = f.factors) ∧
    (e.factors = f.factors ↔
      e.compile.start = f.compile.start ∧ e.compile.transitions = f.compile.transitions ∧
      e.compile.accept = f.compile.accept ∧ e.compile.stateCount = f.compile.stateCount ∧
      e.compile.originKinds = f.compile.originKinds) := by
  have hread : e.compile.transitions = f.compile.transitions → e.factors = f.factors := fun h => by
    rw [transitions_compile, transitions_compile] at h
    exact factors_eq_of_edges_eq h
  have hkeep : e.factors = f.factors →
      e.compile.start = f.compile.start ∧ e.compile.transitions = f.compile.transitions ∧
      e.compile.accept = f.compile.accept ∧ e.compile.stateCount = f.compile.stateCount ∧
      e.compile.originKinds = f.compile.originKinds := fun h => by
    have hr := reassociates_iff.mpr h
    simp only [compile_start, compile_accept, stateCount_compile, transitions_compile,
      originKinds_compile, hr.entryOffset_eq, hr.exitOffset_eq, hr.edges_eq, hr.kinds_eq, and_self]
  exact ⟨⟨fun h => hread h.2, fun h => ⟨(hkeep h).1, (hkeep h).2.1⟩⟩,
    ⟨hkeep, fun h => hread h.2.1⟩⟩

end Regex

end EpsilonAutomata
