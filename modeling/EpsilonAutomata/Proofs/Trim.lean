import EpsilonAutomata.Proofs.Viability

/-!
# Compiled expressions are trim

A state that no path from the start leads to, or from which no path leads to the accepting state,
would change no answer of the simulation. A compiled expression has no such state: each of them lies
on the path of some word of the language.

That the accepting state is reached from everywhere is known already, since no tail is empty. What
is new here is the other half, `leads_of_entry`: the entry of a block leads to every state of it, by
induction on the expression. The entry of a union or of an iteration is allocated after the states
of its operands, so the path to them begins at a higher number.

* `leads_of_entry` -- the entry of a block leads to all its states;
* `compile_trim` -- every state lies on an accepting path, and only the accepting state has no
  outgoing transition.
-/

namespace EpsilonAutomata

/-! ## 1. Some path -/

namespace Automaton

/-- Some path of the automaton leads from `s` to `t`, whatever it reads. -/
def Leads (a : Automaton) (s t : State) : Prop := ∃ w, a.Reads s w t

variable {a : Automaton} {s t u : State} {w : List Char}

theorem Leads.refl (a : Automaton) (s : State) : a.Leads s s := ⟨[], .refl a s⟩

theorem Leads.trans (h₁ : a.Leads s t) (h₂ : a.Leads t u) : a.Leads s u := by
  obtain ⟨v, hv⟩ := h₁
  obtain ⟨w, hw⟩ := h₂
  exact ⟨v ++ w, hv.trans hw⟩

/-- A path from a state that nothing leaves ends where it begins. -/
theorem Reads.eq_of_outgoing_eq_nil (h : a.Reads s w t) (hs : a.outgoing s = []) : s = t := by
  obtain ⟨labels, _, hp⟩ := h
  cases hp with
  | nil => rfl
  | cons u _ _ _ _ hstep _ =>
      obtain ⟨tr, htr, _⟩ := hstep
      rw [hs] at htr
      exact absurd htr List.not_mem_nil

end Automaton

namespace Regex

/-! ## 2. From the entry to every state -/

section Entry

variable {a : Automaton} {l r b e : Regex} {k s t : State}

/-- An edge is a path. -/
theorem HasEdges.leads {label : Option Char} (ha : HasEdges a e k)
    (ht : ⟨s, label, t⟩ ∈ e.edges k) : a.Leads s t :=
  ⟨_, .head (ha _ ht) (.refl a t)⟩

/-- The entry of the block at `k` leads to every state of the block. -/
def EntryLeads (a : Automaton) (e : Regex) (k : State) : Prop :=
  ∀ s, k ≤ s → s ≤ k + e.exitOffset → a.Leads (k + e.entryOffset) s

/-- A block of two states with one edge between them. -/
theorem entryLeads_leaf (hentry : e.entryOffset = 0) (hexit : e.exitOffset = 1)
    (hedge : a.Leads k (k + 1)) : EntryLeads a e k := by
  intro s hk hs
  rw [hexit] at hs
  rw [hentry]
  rcases Nat.lt_or_eq_of_le hs with h | rfl
  · obtain rfl : s = k := by lia
    exact .refl a s
  · exact hedge

theorem EntryLeads.union (hl : EntryLeads a l k) (hr : EntryLeads a r (k + l.exitOffset + 1))
    (ha : HasEdges a (l.union r) k) : EntryLeads a (l.union r) k := by
  intro s hk hs
  have hentry : k + (l.union r).entryOffset = k + l.exitOffset + 1 + r.exitOffset + 1 := by
    rw [entryOffset]
    lia
  rw [exitOffset] at hs
  rw [hentry]
  have hinl : a.Leads (k + l.exitOffset + 1 + r.exitOffset + 1) (k + l.entryOffset) :=
    ⟨[], ha.reads (by simp [edges])⟩
  have hinr : a.Leads (k + l.exitOffset + 1 + r.exitOffset + 1)
      (k + l.exitOffset + 1 + r.entryOffset) := ⟨[], ha.reads (by simp [edges])⟩
  by_cases h1 : s ≤ k + l.exitOffset
  · exact hinl.trans (hl s hk h1)
  by_cases h2 : s ≤ k + l.exitOffset + 1 + r.exitOffset
  · exact hinr.trans (hr s (by lia) h2)
  by_cases h3 : s = k + l.exitOffset + 1 + r.exitOffset + 1
  · rw [h3]
    exact .refl a _
  · obtain rfl : s = k + l.exitOffset + 1 + r.exitOffset + 1 + 1 := by lia
    have hout : a.Leads (k + l.exitOffset) (k + l.exitOffset + 1 + r.exitOffset + 1 + 1) :=
      ⟨[], ha.reads (by simp [edges])⟩
    exact hinl.trans ((hl _ (Nat.le_add_right k _) (Nat.le_refl _)).trans hout)

theorem EntryLeads.concat (hl : EntryLeads a l k) (hr : EntryLeads a r (k + l.exitOffset + 1))
    (ha : HasEdges a (l.concat r) k) : EntryLeads a (l.concat r) k := by
  intro s hk hs
  rw [exitOffset] at hs
  show a.Leads (k + l.entryOffset) s
  by_cases h1 : s ≤ k + l.exitOffset
  · exact hl s hk h1
  · have hlink : a.Leads (k + l.exitOffset) (k + l.exitOffset + 1 + r.entryOffset) :=
      ⟨[], ha.reads (by simp [edges])⟩
    have hthrough := (hl _ (Nat.le_add_right k _) (Nat.le_refl _)).trans hlink
    exact hthrough.trans (hr s (by lia) (by lia))

theorem EntryLeads.star (hb : EntryLeads a b k) (ha : HasEdges a b.star k) :
    EntryLeads a b.star k := by
  intro s hk hs
  rw [exitOffset] at hs
  show a.Leads (k + b.exitOffset + 1) s
  by_cases h1 : s ≤ k + b.exitOffset
  · have hin : a.Leads (k + b.exitOffset + 1) (k + b.entryOffset) :=
      ⟨[], ha.reads (by simp [edges])⟩
    exact hin.trans (hb s hk h1)
  by_cases h2 : s = k + b.exitOffset + 1
  · rw [h2]
    exact .refl a _
  · obtain rfl : s = k + b.exitOffset + 1 + 1 := by lia
    exact ⟨[], ha.reads (by simp [edges])⟩

/-- **The entry of a block leads to every state of the block.** -/
theorem leads_of_entry (ha : HasEdges a e k) : EntryLeads a e k := by
  induction e generalizing k with
  | epsilon => exact entryLeads_leaf rfl rfl (ha.leads List.mem_cons_self)
  | symbol c => exact entryLeads_leaf rfl rfl (ha.leads List.mem_cons_self)
  | union l r ihl ihr => exact (ihl ha.unionLeft).union (ihr ha.unionRight) ha
  | concat l r ihl ihr => exact (ihl ha.concatLeft).concat (ihr ha.concatRight) ha
  | star b ih => exact (ih ha.starBody).star ha

end Entry

/-! ## 3. Compiled expressions -/

variable {e : Regex} {q : State}

/-- Nothing leaves the exit of a compiled expression. -/
theorem outgoing_exit (e : Regex) : e.compile.outgoing e.exitOffset = [] := by
  refine List.eq_nil_iff_forall_not_mem.mpr fun t ht => ?_
  obtain ⟨hedge, hsource⟩ := mem_outgoing_compile.mp ht
  have hlt := (edges_inside hedge).2.1
  lia

/-- Something leaves every other state of a compiled expression. -/
theorem outgoing_ne_nil (hq : q < e.exitOffset) : e.compile.outgoing q ≠ [] := by
  obtain ⟨v, hv⟩ := e.exists_mem_tail 0 q
  have hto : e.compile.Reads q v e.exitOffset := (reads_exit_iff (Nat.le_of_lt hq)).mpr hv
  exact fun h => Nat.ne_of_lt hq (hto.eq_of_outgoing_eq_nil h)

/-- **Every state of a compiled expression lies on the path of a word of its language**, so it is
    reached from the start state and leads to the accepting state, and the accepting state is the
    only one without an outgoing transition. -/
theorem compile_trim (hq : q < e.compile.stateCount) :
    (∃ u v, e.compile.Reads e.compile.start u q ∧ e.compile.Reads q v e.compile.accept ∧
      u ++ v ∈ e.language) ∧
    (e.compile.outgoing q = [] ↔ q = e.compile.accept) := by
  rw [stateCount_compile] at hq
  have hle : q ≤ e.exitOffset := Nat.le_of_lt_succ hq
  have hfrom : e.compile.Leads e.compile.start q := by
    have := leads_of_entry e.hasEdges_compile q (Nat.zero_le q) (by lia)
    rwa [Nat.zero_add, ← compile_start] at this
  obtain ⟨u, hu⟩ := hfrom
  obtain ⟨v, hv⟩ := e.exists_mem_tail 0 q
  have hto : e.compile.Reads q v e.compile.accept := by
    rw [compile_accept]
    exact (reads_exit_iff hle).mpr hv
  refine ⟨⟨u, v, hu, hto, reads_compile_iff.mp (hu.trans hto)⟩, hto.eq_of_outgoing_eq_nil, ?_⟩
  rintro rfl
  rw [compile_accept]
  exact e.outgoing_exit

/-- The exit of an iterated symbol: the path to it begins at a higher number and reads the
    symbol. -/
theorem compile_trim_star :
    1 < (star (symbol 'a')).compile.stateCount ∧
    (∃ u v, (star (symbol 'a')).compile.Reads (star (symbol 'a')).compile.start u 1 ∧
      (star (symbol 'a')).compile.Reads 1 v (star (symbol 'a')).compile.accept ∧
      u ++ v ∈ (star (symbol 'a')).language) ∧
    ((star (symbol 'a')).compile.outgoing 1 = [] ↔ 1 = (star (symbol 'a')).compile.accept) := by
  have hq : 1 < (star (symbol 'a')).compile.stateCount := by
    rw [stateCount_compile]
    decide
  exact ⟨hq, compile_trim hq⟩

end Regex

end EpsilonAutomata
