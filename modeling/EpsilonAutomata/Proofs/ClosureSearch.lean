import EpsilonAutomata.Proofs.Discovery
import EpsilonAutomata.Proofs.Edges
import Mathlib.Algebra.BigOperators.Fin
import Mathlib.Algebra.Order.BigOperators.Group.Finset

/-!
# The search for the silent closure

What the search answers on a compiled expression, and how long it takes. `Search.round` is one round
of its loop. A round takes a state from the pending ones and may put others there, so their number
alone does not bound the rounds; but the targets of a state are put there once, when it is
discovered, so the pending states together with the silent transitions of the undiscovered ones
(`Search.work`) get fewer with every round. It may start from states the automaton does not have:
such a state is listed and leads nowhere.

* `Search.exists_rounds` -- the loop ends after at most `Search.work` rounds, with the closure;
* `known_preorder`, `unknown_preorder` -- states beyond the automaton are listed and change nothing
  else;
* `mem_closure_compile_iff` -- termination, contents and unknown states for compiled expressions.
-/

namespace EpsilonAutomata

namespace Automaton

variable {a : Automaton} {s : State}

/-! ## 1. The rounds of the loop -/

/-- The search between two rounds of its loop. -/
structure Search where
  seen : Std.HashSet State
  found : Array State
  pending : List State

namespace Search

variable {c : Search}

/-- The search before the first round. -/
def start (states : List State) : Search := ⟨∅, #[], states⟩

/-- **One round**: the next pending state is discovered, or dropped if it was seen in the
    meantime. With nothing pending the loop is over. -/
def round (a : Automaton) (c : Search) : Search :=
  match c.pending with
  | [] => c
  | s :: rest =>
    if c.seen.contains s then ⟨c.seen, c.found, rest⟩
    else
      let seen' := c.seen.insert s
      ⟨seen', c.found.push s, (a.silentTargets s).filter (fun t => !seen'.contains t) ++ rest⟩

/-- What the loop finds from here on. -/
def result (a : Automaton) (c : Search) : Array State := a.discover c.seen c.found c.pending

/-- A round changes nothing about what is found in the end. -/
theorem result_round (a : Automaton) (c : Search) : (c.round a).result a = c.result a := by
  obtain ⟨seen, found, pending⟩ := c
  cases pending with
  | nil => rfl
  | cons s rest =>
      simp only [round, result]
      rw [discover.eq_def a seen found (s :: rest)]
      by_cases h : seen.contains s = true
      · simp only [h, if_true, dite_true]
      · simp only [h, if_false, dite_false, Bool.false_eq_true]

/-- The number of silent transitions of the states that have not been seen. -/
def unseenTargets (a : Automaton) (seen : Std.HashSet State) : Nat :=
  ∑ s ∈ Finset.range a.stateCount with seen.contains s = false, (a.silentTargets s).length

/-- **The work left**: the pending states, and the transitions that may still make states pending. -/
def work (a : Automaton) (c : Search) : Nat := c.pending.length + unseenTargets a c.seen

/-- A state that is discovered takes its silent transitions with it. -/
theorem unseenTargets_insert {seen : Std.HashSet State} (h : seen.contains s = false) :
    unseenTargets a (seen.insert s) + (a.silentTargets s).length = unseenTargets a seen := by
  have herase : (Finset.range a.stateCount).filter (fun x => (seen.insert s).contains x = false) =
      ((Finset.range a.stateCount).filter (fun x => seen.contains x = false)).erase s := by
    ext x
    simp only [Finset.mem_filter, Finset.mem_erase, Std.HashSet.contains_insert,
      Bool.or_eq_false_iff, beq_eq_false_iff_ne, ne_comm (a := s)]
    exact and_left_comm
  unfold unseenTargets
  rw [herase]
  by_cases hs : s < a.stateCount
  · exact Finset.sum_erase_add _ _ (Finset.mem_filter.mpr ⟨Finset.mem_range.mpr hs, h⟩)
  · have hnil : (a.silentTargets s).length = 0 := by
      rw [silentTargets_eq_nil (Nat.le_of_not_lt hs), List.length_nil]
    rw [hnil, Nat.add_zero]
    exact Finset.sum_erase _ hnil

/-- **Every round leaves less work.** -/
theorem work_round_lt (h : c.pending ≠ []) : (c.round a).work a < c.work a := by
  obtain ⟨seen, found, pending⟩ := c
  cases pending with
  | nil => exact absurd rfl h
  | cons s rest =>
      by_cases hs : seen.contains s = true
      · simp only [round, work, hs, if_true, List.length_cons]
        omega
      · rw [Bool.not_eq_true] at hs
        have hinsert := unseenTargets_insert (a := a) hs
        have hfilter := List.length_filter_le (fun t => !(seen.insert s).contains t)
          (a.silentTargets s)
        simp only [round, work, hs, Bool.false_eq_true, if_false, List.length_append,
          List.length_cons]
        omega

/-- **The loop ends, and there is no more than one round for each piece of work.** -/
theorem exists_rounds (a : Automaton) (c : Search) : ∃ n ≤ c.work a,
    ((round a)^[n] c).pending = [] ∧ ((round a)^[n] c).found = c.result a := by
  induction hw : c.work a using Nat.strong_induction_on generalizing c with
  | _ w ih =>
      subst hw
      by_cases h : c.pending = []
      · refine ⟨0, Nat.zero_le _, h, ?_⟩
        rw [result, h, discover]
        rfl
      · have hlt := work_round_lt (a := a) h
        obtain ⟨n, hn, hend, hfound⟩ := ih _ hlt (c.round a) rfl
        exact ⟨n + 1, by omega, hend, hfound.trans (c.result_round a)⟩

end Search

theorem total_eq_sum (ns : List Nat) : total ns = ns.sum := by
  induction ns with
  | nil => rfl
  | cons n ns ih => rw [total_cons, List.sum_cons, ih]

/-- The number of transitions, state by state. -/
theorem transitionCount_eq_sum (a : Automaton) :
    a.transitionCount = ∑ s ∈ Finset.range a.stateCount, (a.outgoing s).length := by
  rw [transitionCount, total_eq_sum, ← Fin.sum_univ_fun_getElem, Finset.sum_range]
  refine Finset.sum_congr rfl fun s _ => ?_
  have hs : (s : Nat) < a.nodes.size := s.isLt
  simp [outgoing, hs]

/-- In the beginning there are the seeds, and no more transitions than the automaton has. -/
theorem work_start_le (a : Automaton) (states : List State) :
    (Search.start states).work a ≤ states.length + a.transitionCount := by
  rw [transitionCount_eq_sum]
  refine Nat.add_le_add_left (Nat.le_trans (Finset.sum_le_sum fun s _ => ?_)
    (Finset.sum_le_sum_of_subset (Finset.filter_subset _ _))) _
  exact List.length_filterMap_le _ _

/-- **The search ends with the closure**, after at most as many rounds as there are seeds and
    transitions. -/
theorem exists_rounds_closure (a : Automaton) (states : List State) :
    ∃ n ≤ states.length + a.transitionCount,
      ((Search.round a)^[n] (.start states)).pending = [] ∧
      ((Search.round a)^[n] (.start states)).found.toList = a.closure states := by
  obtain ⟨n, hn, hend, hfound⟩ := Search.exists_rounds a (.start states)
  exact ⟨n, Nat.le_trans hn (a.work_start_le states), hend, congrArg Array.toList hfound⟩

/-! ## 2. States beyond the automaton -/

/-- Those of the states that the automaton has. -/
def known (a : Automaton) (states : List State) : List State := states.filter (· < a.stateCount)

/-- Those of the states that the automaton does not have. -/
def unknown (a : Automaton) (states : List State) : List State := states.filter (a.stateCount ≤ ·)

section Known

variable {visited seeds l : List State}

theorem known_nil (a : Automaton) : a.known [] = [] := rfl

theorem known_append (a : Automaton) (l l' : List State) :
    a.known (l ++ l') = a.known l ++ a.known l' := List.filter_append l l'

theorem unknown_append (a : Automaton) (l l' : List State) :
    a.unknown (l ++ l') = a.unknown l ++ a.unknown l' := List.filter_append l l'

theorem known_cons_of_lt (h : s < a.stateCount) (l : List State) :
    a.known (s :: l) = s :: a.known l := List.filter_cons_of_pos (decide_eq_true h)

theorem known_cons_of_le (h : a.stateCount ≤ s) (l : List State) :
    a.known (s :: l) = a.known l :=
  List.filter_cons_of_neg (by simpa using h)

theorem unknown_cons_of_le (h : a.stateCount ≤ s) (l : List State) :
    a.unknown (s :: l) = s :: a.unknown l := List.filter_cons_of_pos (decide_eq_true h)

theorem unknown_cons_of_lt (h : s < a.stateCount) (l : List State) :
    a.unknown (s :: l) = a.unknown l :=
  List.filter_cons_of_neg (by simpa using h)

theorem known_eq_self (h : ∀ s ∈ l, s < a.stateCount) : a.known l = l :=
  List.filter_eq_self.mpr fun s hs => decide_eq_true (h s hs)

theorem unknown_eq_nil (h : ∀ s ∈ l, s < a.stateCount) : a.unknown l = [] :=
  List.filter_eq_nil_iff.mpr fun s hs => by simpa using h s hs

/-- Nothing is below a state that the automaton does not have. -/
theorem preorder_next_of_le (h : a.stateCount ≤ s) (visited : List State) :
    a.preorder visited (((a.outgoing s).filter (·.isSilent)).map (·.target)) = [] := by
  rw [← silentTargets_eq, silentTargets_eq_nil h, preorder_nil]

/-- **States beyond the automaton change nothing about the others**: these are listed as if the
    seeds and the visited states held no others. -/
theorem known_preorder (h : a.SilentlyClosed (· < a.stateCount)) :
    a.known (a.preorder visited seeds) = a.preorder (a.known visited) (a.known seeds) := by
  fun_induction preorder a visited seeds with
  | case1 visited => exact (preorder_nil a _).symm
  | case2 visited s rest hs ih =>
      rcases Nat.lt_or_ge s a.stateCount with hk | hk
      · have hmem : s ∈ a.known visited := List.mem_filter.mpr ⟨hs, decide_eq_true hk⟩
        rw [known_cons_of_lt hk, preorder_cons_of_mem a hmem, ih]
      · rw [known_cons_of_le hk, ih]
  | case3 visited s rest hs below ihb ih =>
      rcases Nat.lt_or_ge s a.stateCount with hk | hk
      · have hnew : s ∉ a.known visited := fun hmem => hs (List.mem_filter.mp hmem).1
        have hbelow : a.known below = a.preorder (a.known visited ++ [s])
            (((a.outgoing s).filter (·.isSilent)).map (·.target)) := by
          rw [known_eq_self (h.next hk), known_append, known_cons_of_lt hk] at ihb
          exact ihb
        rw [known_append, known_cons_of_lt hk, hbelow] at ih
        rw [known_cons_of_lt hk, known_cons_of_lt hk, preorder_cons_of_notMem a hnew, known_append,
          hbelow, ih]
      · have hbelow : below = [] := preorder_next_of_le hk _
        rw [hbelow, known_append, known_cons_of_le hk, known_nil, List.append_nil] at ih
        rw [hbelow, known_cons_of_le hk, known_cons_of_le hk, List.nil_append, ih]

/-- **States beyond the automaton are listed once each, in the order of the seeds.** -/
theorem unknown_preorder (h : a.SilentlyClosed (· < a.stateCount)) :
    a.unknown (a.preorder visited seeds) =
      ((a.unknown seeds).filter (· ∉ visited)).eraseDups := by
  fun_induction preorder a visited seeds with
  | case1 visited => rfl
  | case2 visited s rest hs ih =>
      rcases Nat.lt_or_ge s a.stateCount with hk | hk
      · rw [unknown_cons_of_lt hk, ih]
      · rw [unknown_cons_of_le hk, List.filter_cons_of_neg (by simpa using hs), ih]
  | case3 visited s rest hs below _ ih =>
      rcases Nat.lt_or_ge s a.stateCount with hk | hk
      · have hbelow : ∀ x ∈ below, x < a.stateCount := preorder_of_closed h (h.next hk)
        have hknown : ∀ x ∈ s :: below, x < a.stateCount := List.forall_mem_cons.mpr ⟨hk, hbelow⟩
        rw [← List.cons_append, unknown_append, unknown_eq_nil hknown, List.nil_append, ih,
          unknown_cons_of_lt hk]
        congr 1
        refine List.filter_congr fun x hx => decide_eq_decide.mpr ?_
        have hle := of_decide_eq_true (List.mem_filter.mp hx).2
        rw [List.mem_append, not_or]
        exact and_iff_left fun hmem => Nat.not_lt_of_le hle (hknown x hmem)
      · have hbelow : below = [] := preorder_next_of_le hk _
        have hnew : ((a.unknown (s :: rest)).filter (· ∉ visited)) =
            s :: (a.unknown rest).filter (· ∉ visited) := by
          rw [unknown_cons_of_le hk, List.filter_cons_of_pos (p := (· ∉ visited)) (by simpa using hs)]
        rw [hbelow] at ih
        rw [hbelow, List.nil_append, unknown_cons_of_le hk, ih, hnew, List.eraseDups_cons,
          List.filter_filter]
        congr 2
        refine List.filter_congr fun x _ => ?_
        rw [Bool.eq_iff_iff]
        simp only [List.mem_append, List.mem_singleton, decide_eq_true_eq, Bool.and_eq_true,
          Bool.not_eq_true', beq_eq_false_iff_ne]
        rw [not_or, and_comm]

theorem known_closure (h : a.SilentlyClosed (· < a.stateCount)) :
    a.known (a.closure seeds) = a.closure (a.known seeds) := by
  unfold closure
  rw [toList_discover_empty, toList_discover_empty, known_preorder h, known_nil]

theorem unknown_closure (h : a.SilentlyClosed (· < a.stateCount)) :
    a.unknown (a.closure seeds) = (a.unknown seeds).eraseDups := by
  unfold closure
  rw [toList_discover_empty, unknown_preorder h]
  simp only [List.not_mem_nil, not_false_eq_true, decide_true, List.filter_true]

end Known

end Automaton

/-! ## 3. Compiled expressions -/

namespace Regex

variable {e : Regex} {s t : State}

/-- The silent steps of a compiled expression are its silent transitions. -/
theorem silentStep_compile_iff :
    e.compile.SilentStep s t ↔ ⟨s, none, t⟩ ∈ e.compile.transitions := by
  unfold Automaton.SilentStep Automaton.silentTargets
  rw [List.mem_filterMap, transitions_compile]
  constructor
  · rintro ⟨⟨source, label, target⟩, htr, hsilent⟩
    obtain ⟨hmem, rfl⟩ := mem_outgoing_compile.mp htr
    cases label with
    | none =>
        obtain rfl : target = t := by simpa [Transition.isSilent] using hsilent
        exact hmem
    | some c => simp [Transition.isSilent] at hsilent
  · intro h
    exact ⟨⟨s, none, t⟩, mem_outgoing_compile.mpr ⟨h, rfl⟩, rfl⟩

/-- No silent step leads out of a compiled expression. -/
theorem silentlyClosed_known (e : Regex) :
    e.compile.SilentlyClosed (· < e.compile.stateCount) := by
  intro s _ t ht
  have hmem : ⟨s, none, t⟩ ∈ e.compile.transitions := silentStep_compile_iff.mp ht
  rw [transitions_compile] at hmem
  have hle := (edges_inside hmem).2.2.2
  rw [Nat.zero_add] at hle
  rw [stateCount_compile]
  exact Nat.lt_succ_of_le hle

/-- **The silent closure on a compiled expression.** For any list of states, also with repetitions
    and with states that the automaton does not have,

    * the search ends, after at most as many rounds as there are seeds and transitions, and what it
      has found by then is the closure;
    * the closure holds no state twice;
    * it holds the given states and those that one or more silent transitions lead to from them;
    * the states beyond the automaton in it are the given ones, each once and in their order, and
      the others are listed as if these had not been given. -/
theorem mem_closure_compile_iff (e : Regex) (states : List State) :
    (∃ n ≤ states.length + e.compile.transitionCount,
      ((Automaton.Search.round e.compile)^[n] (.start states)).pending = [] ∧
      ((Automaton.Search.round e.compile)^[n] (.start states)).found.toList =
        e.compile.closure states) ∧
    (e.compile.closure states).Nodup ∧
    (∀ x, x ∈ e.compile.closure states ↔ x ∈ states ∨ ∃ s ∈ states,
      Relation.TransGen (fun p q => ⟨p, none, q⟩ ∈ e.compile.transitions) s x) ∧
    e.compile.unknown (e.compile.closure states) = (e.compile.unknown states).eraseDups ∧
    e.compile.known (e.compile.closure states) = e.compile.closure (e.compile.known states) := by
  have hstep : (fun p q => ⟨p, none, q⟩ ∈ e.compile.transitions) = e.compile.SilentStep :=
    funext fun p => funext fun q => propext silentStep_compile_iff.symm
  rw [hstep]
  exact ⟨e.compile.exists_rounds_closure states, e.compile.nodup_closure states,
    fun x => Automaton.mem_closure_iff_transGen, Automaton.unknown_closure e.silentlyClosed_known,
    Automaton.known_closure e.silentlyClosed_known⟩

end Regex

end EpsilonAutomata
