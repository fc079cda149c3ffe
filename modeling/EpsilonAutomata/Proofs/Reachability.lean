import EpsilonAutomata.Automaton.Closure
import Mathlib.Logic.Relation

/-!
# What the silent closure reaches

The search for the silent closure keeps a set of seen states, an array of found states and a list of
pending ones. Its invariant, `Explored`, is that of every depth-first search: what a found state
leads to silently is found or pending. At the end nothing is pending, so the found states are closed
under silent steps; and since only pending states are ever added, every found state is reached from
a seed.

* `discover_sound` -- a found state was found before or is reached from a pending one;
* `discover_complete` -- found and pending states and all they lead to are found in the end;
* `mem_closure_iff` -- the closure of a list of states holds what silent steps reach from it.
-/

namespace EpsilonAutomata.Automaton

/-- A silent step of the automaton leads from `s` to `t`. -/
def SilentStep (a : Automaton) (s t : State) : Prop := t ∈ a.silentTargets s

/-- A chain of silent steps, possibly none, leads from `s` to `t`. -/
def SilentlyReaches (a : Automaton) : State → State → Prop := Relation.ReflTransGen a.SilentStep

variable {a : Automaton} {seen : Std.HashSet State} {found : Array State} {s x : State}
  {pending : List State}

/-! ## 1. Nothing else is found -/

theorem discover_sound (a : Automaton) (seen : Std.HashSet State) (found : Array State)
    (pending : List State) :
    ∀ x ∈ a.discover seen found pending, x ∈ found ∨ ∃ p ∈ pending, a.SilentlyReaches p x := by
  fun_induction discover a seen found pending with
  | case1 seen found => exact fun x hx => Or.inl hx
  | case2 seen found s pending _ ih =>
      intro x hx
      refine (ih x hx).imp_right fun ⟨p, hp, hr⟩ => ⟨p, List.mem_cons_of_mem _ hp, hr⟩
  | case3 seen found s pending _ seen' ih =>
      intro x hx
      rcases ih x hx with hf | ⟨p, hp, hr⟩
      · rcases Array.mem_push.mp hf with hf | rfl
        · exact Or.inl hf
        · exact Or.inr ⟨x, List.mem_cons_self, Relation.ReflTransGen.refl⟩
      · rcases List.mem_append.mp hp with hp | hp
        · exact Or.inr ⟨s, List.mem_cons_self,
            Relation.ReflTransGen.head (List.mem_filter.mp hp).1 hr⟩
        · exact Or.inr ⟨p, List.mem_cons_of_mem _ hp, hr⟩

/-! ## 2. Everything reached is found -/

/-- **The invariant of the search.** -/
structure Explored (a : Automaton) (seen : Std.HashSet State) (found : Array State)
    (pending : List State) : Prop where
  seen_iff : ∀ s, seen.contains s = true ↔ s ∈ found
  closed : ∀ s ∈ found, ∀ t, a.SilentStep s t → t ∈ found ∨ t ∈ pending

/-- In front of the search. -/
theorem Explored.start (a : Automaton) (pending : List State) : Explored a ∅ #[] pending where
  seen_iff s := by simp
  closed s hs := absurd hs (by simp)

/-- A pending state that was seen may be dropped. -/
theorem Explored.skip (h : Explored a seen found (s :: pending)) (hs : seen.contains s = true) :
    Explored a seen found pending where
  seen_iff := h.seen_iff
  closed x hx t ht := by
    rcases h.closed x hx t ht with hf | hp
    · exact Or.inl hf
    · rcases List.mem_cons.mp hp with rfl | hp
      · exact Or.inl ((h.seen_iff t).mp hs)
      · exact Or.inr hp

/-- The seen states remain the found ones when a state is added to both. -/
theorem contains_insert_iff (h : ∀ s, seen.contains s = true ↔ s ∈ found) (s : State) :
    ∀ x, (seen.insert s).contains x = true ↔ x ∈ found.push s := by
  intro x
  rw [Std.HashSet.contains_insert, Array.mem_push, Bool.or_eq_true, h, beq_iff_eq, or_comm,
    eq_comm]

/-- A new state is found, and its unseen silent targets become pending. -/
theorem Explored.visit (h : Explored a seen found (s :: pending)) :
    Explored a (seen.insert s) (found.push s)
      ((a.silentTargets s).filter (fun t => !(seen.insert s).contains t) ++ pending) := by
  have seen_iff := contains_insert_iff h.seen_iff s
  refine ⟨seen_iff, fun x hx t ht => ?_⟩
  by_cases htf : t ∈ found.push s
  · exact Or.inl htf
  · have hunseen : (!(seen.insert s).contains t) = true := by
      rw [Bool.not_eq_true', ← Bool.not_eq_true, seen_iff]
      exact htf
    right
    rcases Array.mem_push.mp hx with hx | rfl
    · rcases h.closed x hx t ht with hf | hp
      · exact absurd (Array.mem_push_of_mem s hf) htf
      · rcases List.mem_cons.mp hp with rfl | hp
        · exact absurd Array.mem_push_self htf
        · exact List.mem_append_right _ hp
    · exact List.mem_append_left _ (List.mem_filter.mpr ⟨ht, hunseen⟩)

/-- **What the search finds holds the found and the pending states and is closed under silent
    steps.** -/
theorem discover_complete (h : Explored a seen found pending) :
    (∀ x ∈ found, x ∈ a.discover seen found pending) ∧
    (∀ x ∈ pending, x ∈ a.discover seen found pending) ∧
    ∀ x ∈ a.discover seen found pending, ∀ t, a.SilentStep x t →
      t ∈ a.discover seen found pending := by
  fun_induction discover a seen found pending with
  | case1 seen found =>
      refine ⟨fun x hx => hx, fun x hx => absurd hx List.not_mem_nil, fun x hx t ht => ?_⟩
      exact (h.closed x hx t ht).resolve_right List.not_mem_nil
  | case2 seen found s pending hs ih =>
      obtain ⟨hfound, hpending, hclosed⟩ := ih (h.skip hs)
      refine ⟨hfound, fun x hx => ?_, hclosed⟩
      rcases List.mem_cons.mp hx with rfl | hx
      · exact hfound x ((h.seen_iff x).mp hs)
      · exact hpending x hx
  | case3 seen found s pending _ seen' ih =>
      obtain ⟨hfound, hpending, hclosed⟩ := ih h.visit
      refine ⟨fun x hx => hfound x (Array.mem_push_of_mem s hx), fun x hx => ?_, hclosed⟩
      rcases List.mem_cons.mp hx with rfl | hx
      · exact hfound x Array.mem_push_self
      · exact hpending x (List.mem_append_right _ hx)

/-! ## 3. The closure -/

/-- **The closure of a list of states holds what silent steps reach from it**, and nothing else. -/
theorem mem_closure_iff {states : List State} :
    x ∈ a.closure states ↔ ∃ s ∈ states, a.SilentlyReaches s x := by
  unfold closure
  rw [Array.mem_toList_iff]
  constructor
  · intro hx
    exact (discover_sound a ∅ #[] states x hx).resolve_left (by simp)
  · rintro ⟨s, hs, hr⟩
    obtain ⟨-, hpending, hclosed⟩ := discover_complete (Explored.start a states)
    induction hr with
    | refl => exact hpending s hs
    | tail _ hstep ih => exact hclosed _ ih _ hstep

/-- The closure holds the given states and those that one or more silent steps lead to. -/
theorem mem_closure_iff_transGen {states : List State} :
    x ∈ a.closure states ↔ x ∈ states ∨ ∃ s ∈ states, Relation.TransGen a.SilentStep s x := by
  rw [mem_closure_iff]
  constructor
  · rintro ⟨s, hs, hr⟩
    rcases Relation.reflTransGen_iff_eq_or_transGen.mp hr with rfl | hr
    · exact Or.inl hs
    · exact Or.inr ⟨s, hs, hr⟩
  · rintro (hx | ⟨s, hs, hr⟩)
    · exact ⟨x, hx, .refl⟩
    · exact ⟨s, hs, hr.to_reflTransGen⟩

/-- Nothing is reached from nowhere. -/
theorem closure_nil (a : Automaton) : a.closure [] = [] :=
  List.eq_nil_iff_forall_not_mem.mpr fun _ hx => by
    obtain ⟨s, hs, _⟩ := mem_closure_iff.mp hx
    exact List.not_mem_nil hs

end EpsilonAutomata.Automaton
