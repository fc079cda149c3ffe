import EpsilonAutomata.Automaton.Basic
import Std.Data.HashSet

/-!
# Silent closure

The states that can be reached from given states without consuming a character, in the order a
depth-first search discovers them: seeds in their given order, and from each new state its silent
transitions in the order they were added.

The search keeps a list of pending states, so the depth of the graph costs no stack space. It ends
because every round either discovers a state of the automaton or only shortens the list.
-/

namespace EpsilonAutomata.Automaton

/-- The states of `a` that are not in `seen`. -/
def unseenCount (a : Automaton) (seen : Std.HashSet State) : Nat :=
  (List.range a.stateCount).countP fun s => !seen.contains s

/-- A counter that holds at fewer members, and at one member no longer, is smaller. -/
theorem countP_lt_of_mem {p q : State → Bool} {s : State} :
    ∀ {l : List State}, (∀ x, p x = true → q x = true) → s ∈ l → q s = true → p s = false →
      l.countP p < l.countP q
  | x :: l, hpq, hs, hq, hp => by
    rcases List.mem_cons.1 hs with rfl | hs
    · have := List.countP_mono_left (l := l) fun x _ => hpq x
      simp only [List.countP_cons, hq, hp]
      simp
      omega
    · have := countP_lt_of_mem hpq hs hq hp
      simp only [List.countP_cons]
      by_cases hx : p x = true
      · simp [hx, hpq x hx, this]
      · simp [hx]
        omega

theorem unseenCount_insert_le (a : Automaton) (seen : Std.HashSet State) (s : State) :
    a.unseenCount (seen.insert s) ≤ a.unseenCount seen := by
  refine List.countP_mono_left fun x _ => ?_
  simp

/-- Discovering a state of the automaton leaves fewer to discover. -/
theorem unseenCount_insert_lt {a : Automaton} {seen : Std.HashSet State} {s : State}
    (hs : s < a.stateCount) (hnew : seen.contains s = false) :
    a.unseenCount (seen.insert s) < a.unseenCount seen := by
  refine countP_lt_of_mem (s := s) (fun x => ?_) (List.mem_range.2 hs) ?_ ?_
  · simp
  · simp [hnew]
  · simp

/-- The search: `seen` and `found` hold the discovered states, `found` in order. A pending state
    that was discovered in the meantime is skipped. -/
def discover (a : Automaton) (seen : Std.HashSet State) (found : Array State) :
    List State → Array State
  | [] => found
  | s :: pending =>
    if _h : seen.contains s then discover a seen found pending
    else
      let seen' := seen.insert s
      discover a seen' (found.push s)
        ((a.silentTargets s).filter (fun t => !seen'.contains t) ++ pending)
termination_by pending => (a.unseenCount seen, pending.length)
decreasing_by
  · exact Prod.Lex.right _ (by simp)
  · have hnew : seen.contains s = false := by simpa using _h
    by_cases hs : s < a.stateCount
    · exact Prod.Lex.left _ _ (unseenCount_insert_lt hs hnew)
    · have hnil := silentTargets_eq_nil (a := a) (s := s) (Nat.le_of_not_lt hs)
      simp only [hnil, List.filter_nil, List.nil_append]
      rcases Nat.lt_or_eq_of_le (unseenCount_insert_le a seen s) with hlt | heq
      · exact Prod.Lex.left _ _ hlt
      · rw [heq]
        exact Prod.Lex.right _ (by simp)

/-- **The silent closure of `states`, in order of discovery.** -/
def closure (a : Automaton) (states : List State) : List State :=
  (a.discover ∅ #[] states).toList

end EpsilonAutomata.Automaton
