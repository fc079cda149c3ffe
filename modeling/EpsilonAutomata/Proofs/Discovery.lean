import EpsilonAutomata.Proofs.Reachability

/-!
# Discovery by recursion

The search for the silent closure keeps a list of pending states, where the textbook has a
recursion: a new state is listed, then everything below it, before its neighbours have their turn.
`preorder` is that recursion. The two find the same states in the same order, although the list of
pending states may hold a state many times over, and although a state is left out of it only if it
was seen when its source was.

What makes them agree is that the recursion does not care how its seeds are cut up
(`preorder_append`), nor whether seeds it would skip are given to it at all (`preorder_filter`). From
the recursion the laws of the closure are read off: a visited set that is closed under silent steps
only hides its own members (`preorder_append_closed`), and what has been listed is listed again in
the same order (`preorder_preorder`).

* `closure_eq_preorder` -- the closure is the preorder of the recursive search;
* `closure_laws` -- the closure of two lists in a row, and of a closure.
-/

namespace EpsilonAutomata.Automaton

variable {a : Automaton} {seen : Std.HashSet State} {found : Array State} {s : State}
  {visited seeds pending closed : List State}

/-! ## 1. The recursive search -/

/-- The states of `a` that are not in `visited`. -/
def unvisitedCount (a : Automaton) (visited : List State) : Nat :=
  (List.range a.stateCount).countP fun s => s ∉ visited

theorem unvisitedCount_append_le (a : Automaton) (visited more : List State) :
    a.unvisitedCount (visited ++ more) ≤ a.unvisitedCount visited := by
  refine List.countP_mono_left fun x _ hx => ?_
  rw [decide_eq_true_eq] at hx ⊢
  exact fun h => hx (List.mem_append_left _ h)

theorem unvisitedCount_snoc_lt (hs : s < a.stateCount) (hnew : s ∉ visited) :
    a.unvisitedCount (visited ++ [s]) < a.unvisitedCount visited := by
  refine countP_lt_of_mem (s := s) (fun x hx => ?_) (List.mem_range.mpr hs) ?_ ?_
  · rw [decide_eq_true_eq] at hx ⊢
    exact fun h => hx (List.mem_append_left _ h)
  · exact decide_eq_true hnew
  · simp

/-- The targets of silent transitions in the order in which these leave the state. -/
theorem silentTargets_eq (a : Automaton) (s : State) :
    a.silentTargets s = ((a.outgoing s).filter (·.isSilent)).map (·.target) := by
  rw [← List.filterMap_eq_map, List.filterMap_filter]
  rfl

/-- **The plain depth-first search**: what it discovers from the seeds, in preorder, when the states
    in `visited` have been visited before. Below a state are the targets of its silent transitions,
    in the order in which these were added. -/
def preorder (a : Automaton) (visited : List State) : List State → List State
  | [] => []
  | s :: rest =>
    if _h : s ∈ visited then a.preorder visited rest
    else
      let below := a.preorder (visited ++ [s])
        (((a.outgoing s).filter (·.isSilent)).map (·.target))
      s :: (below ++ a.preorder (visited ++ s :: below) rest)
termination_by seeds => (a.unvisitedCount visited, seeds.length)
decreasing_by
  · exact Prod.Lex.right _ (Nat.lt_succ_self _)
  · by_cases hs : s < a.stateCount
    · exact Prod.Lex.left _ _ (unvisitedCount_snoc_lt hs _h)
    · -- a state beyond the automaton is not counted, but it leads nowhere
      rw [← silentTargets_eq, silentTargets_eq_nil (Nat.le_of_not_lt hs)]
      exact Prod.Lex.right' _ (a.unvisitedCount_append_le _ _) (Nat.zero_lt_succ _)
  · exact Prod.Lex.right' _ (a.unvisitedCount_append_le _ _) (Nat.lt_succ_self _)

@[simp] theorem preorder_nil (a : Automaton) (visited : List State) :
    a.preorder visited [] = [] := by rw [preorder]

theorem preorder_cons_of_mem (a : Automaton) (h : s ∈ visited) (rest : List State) :
    a.preorder visited (s :: rest) = a.preorder visited rest := by rw [preorder, dif_pos h]

/-- A new state is listed before what is below it, and that before the other seeds. -/
theorem preorder_cons_of_notMem (a : Automaton) (h : s ∉ visited) (rest : List State) :
    a.preorder visited (s :: rest) =
      s :: (a.preorder (visited ++ [s]) (((a.outgoing s).filter (·.isSilent)).map (·.target)) ++
        a.preorder (visited ++ s :: a.preorder (visited ++ [s])
          (((a.outgoing s).filter (·.isSilent)).map (·.target))) rest) := by
  rw [preorder, dif_neg h]

/-! ## 2. Seeds and visited states -/

/-- The seeds may be searched in two goes. -/
theorem preorder_append (a : Automaton) (visited seeds more : List State) :
    a.preorder visited (seeds ++ more) =
      a.preorder visited seeds ++ a.preorder (visited ++ a.preorder visited seeds) more := by
  fun_induction preorder a visited seeds with
  | case1 visited => simp
  | case2 visited s rest h ih => rw [List.cons_append, preorder_cons_of_mem a h, ih]
  | case3 visited s rest h below _ ih =>
      rw [List.cons_append, preorder_cons_of_notMem a h]
      change s :: (below ++ a.preorder (visited ++ s :: below) (rest ++ more)) = _
      rw [ih]
      simp only [List.append_assoc, List.cons_append]

/-- Only which states have been visited matters, not in which order. -/
theorem preorder_congr : ∀ {visited' : List State}, (∀ x, x ∈ visited ↔ x ∈ visited') →
    a.preorder visited seeds = a.preorder visited' seeds := by
  have happ : ∀ {v v' : List State} (more : List State), (∀ x, x ∈ v ↔ x ∈ v') →
      ∀ x, x ∈ v ++ more ↔ x ∈ v' ++ more := fun more h x => by
    rw [List.mem_append, List.mem_append, h]
  fun_induction preorder a visited seeds with
  | case1 visited => exact fun _ => (preorder_nil a _).symm
  | case2 visited s rest hs ih =>
      intro visited' h
      rw [preorder_cons_of_mem a ((h s).mp hs), ih h]
  | case3 visited s rest hs below ihb =>
      rename_i ih
      intro visited' h
      rw [preorder_cons_of_notMem a (mt (h s).mpr hs), ← ihb (happ [s] h),
        ih (happ (s :: below) h)]

/-- Seeds that have been visited may be left out. -/
theorem preorder_filter {p : State → Bool} (h : ∀ x, p x = false → x ∈ visited) :
    a.preorder visited (seeds.filter p) = a.preorder visited seeds := by
  fun_induction preorder a visited seeds with
  | case1 visited => rw [List.filter_nil, preorder_nil]
  | case2 visited s rest hs ih =>
      by_cases hp : p s = true
      · rw [List.filter_cons_of_pos hp, preorder_cons_of_mem a hs, ih h]
      · rw [List.filter_cons_of_neg hp, ih h]
  | case3 visited s rest hs below _ ih =>
      have hp : p s = true := by
        rw [← Bool.not_eq_false]
        exact fun hp => hs (h s hp)
      rw [List.filter_cons_of_pos hp, preorder_cons_of_notMem a hs]
      change s :: (below ++ a.preorder (visited ++ s :: below) (rest.filter p)) = _
      rw [ih fun x hx => List.mem_append_left _ (h x hx)]

/-- Nothing is listed for seeds that have been visited. -/
theorem preorder_eq_nil (h : ∀ x ∈ seeds, x ∈ visited) : a.preorder visited seeds = [] := by
  induction seeds with
  | nil => exact preorder_nil a visited
  | cons s rest ih =>
      rw [preorder_cons_of_mem a (h s List.mem_cons_self)]
      exact ih fun x hx => h x (List.mem_cons_of_mem _ hx)

/-- **Each state is listed at most once, and none that has been visited before.** -/
theorem nodup_preorder (a : Automaton) (visited seeds : List State) :
    (a.preorder visited seeds).Nodup ∧ ∀ x ∈ a.preorder visited seeds, x ∉ visited := by
  fun_induction preorder a visited seeds with
  | case1 visited => exact ⟨List.nodup_nil, fun x hx => absurd hx List.not_mem_nil⟩
  | case2 visited s rest h ih => exact ih
  | case3 visited s rest h below ihb ih =>
      obtain ⟨hbelow, hnew⟩ := ihb
      obtain ⟨hrest, hother⟩ := ih
      have hs : s ∉ below ++ a.preorder (visited ++ s :: below) rest := fun hs => by
        rcases List.mem_append.mp hs with hs | hs
        · exact hnew s hs (List.mem_append_right _ (List.mem_singleton_self s))
        · exact hother s hs (List.mem_append_right _ List.mem_cons_self)
      have hdisjoint : ∀ x ∈ below, ∀ y ∈ a.preorder (visited ++ s :: below) rest, x ≠ y := by
        rintro x hb _ hr rfl
        exact hother x hr (List.mem_append_right _ (List.mem_cons_of_mem _ hb))
      refine ⟨List.nodup_cons.mpr ⟨hs, List.nodup_append.mpr ⟨hbelow, hrest, hdisjoint⟩⟩,
        fun x hx hv => ?_⟩
      rcases List.mem_cons.mp hx with rfl | hx
      · exact h hv
      · rcases List.mem_append.mp hx with hx | hx
        · exact hnew x hx (List.mem_append_left _ hv)
        · exact hother x hx (List.mem_append_left _ hv)

/-! ## 3. The search with a list of pending states -/

/-- **What the search finds besides is the preorder of its pending states.** The induction is on the
    rounds of the search. A round pushes the unseen targets of a new state in front of the other
    pending states; in the recursion they are the seeds below the new state. -/
theorem toList_discover (h : ∀ s, seen.contains s = true ↔ s ∈ found) :
    (a.discover seen found pending).toList =
      found.toList ++ a.preorder found.toList pending := by
  fun_induction discover a seen found pending with
  | case1 seen found => rw [preorder_nil, List.append_nil]
  | case2 seen found s pending hs ih =>
      rw [ih h, preorder_cons_of_mem a (Array.mem_toList_iff.mpr ((h s).mp hs))]
  | case3 seen found s pending hs seen' ih =>
      have hnew : s ∉ found.toList := fun hmem => hs ((h s).mpr (Array.mem_toList_iff.mp hmem))
      have hseen := contains_insert_iff h s
      have hskip : ∀ x, (!seen'.contains x) = false → x ∈ found.toList ++ [s] := fun x hx => by
        rw [← Array.toList_push, Array.mem_toList_iff, ← hseen]
        exact (Bool.not_eq_false' _).mp hx
      rw [ih hseen, Array.toList_push, preorder_append, preorder_filter hskip, silentTargets_eq,
        preorder_cons_of_notMem a hnew, List.append_assoc, List.append_assoc]
      rfl

/-- The search from the beginning. -/
theorem toList_discover_empty (a : Automaton) (states : List State) :
    (a.discover ∅ #[] states).toList = a.preorder [] states :=
  toList_discover fun s => by simp

/-- **The silent closure lists its states in the order of the plain depth-first search.** -/
theorem closure_eq_preorder (a : Automaton) (states : List State) :
    a.closure states = a.preorder [] states := a.toList_discover_empty states

/-! ## 4. Closed sets of states -/

/-- No silent step leads out of the states with the property. -/
def SilentlyClosed (a : Automaton) (p : State → Prop) : Prop :=
  ∀ s, p s → ∀ t ∈ a.silentTargets s, p t

theorem SilentlyClosed.next {p : State → Prop} (hp : a.SilentlyClosed p) (hs : p s) :
    ∀ t ∈ ((a.outgoing s).filter (·.isSilent)).map (·.target), p t := by
  rw [← silentTargets_eq]
  exact hp s hs

/-- The search does not leave a closed set. -/
theorem preorder_of_closed {p : State → Prop} (hp : a.SilentlyClosed p) (h : ∀ s ∈ seeds, p s) :
    ∀ x ∈ a.preorder visited seeds, p x := by
  fun_induction preorder a visited seeds with
  | case1 visited => exact fun x hx => absurd hx List.not_mem_nil
  | case2 visited s rest _ ih => exact ih fun x hx => h x (List.mem_cons_of_mem _ hx)
  | case3 visited s rest _ below ihb ih =>
      intro x hx
      rcases List.mem_cons.mp hx with rfl | hx
      · exact h x List.mem_cons_self
      · rcases List.mem_append.mp hx with hx | hx
        · exact ihb (hp.next (h s List.mem_cons_self)) x hx
        · exact ih (fun y hy => h y (List.mem_cons_of_mem _ hy)) x hx

/-- **States that are closed under silent steps hide only themselves from the search**: with them
    visited, it lists what it would list anyway, without them. -/
theorem preorder_append_closed (hclosed : a.SilentlyClosed (· ∈ closed)) :
    a.preorder (closed ++ visited) seeds = (a.preorder visited seeds).filter (· ∉ closed) := by
  fun_induction preorder a visited seeds with
  | case1 visited => rw [preorder_nil, List.filter_nil]
  | case2 visited s rest h ih => rw [preorder_cons_of_mem a (List.mem_append_right _ h), ih]
  | case3 visited s rest h below ihb ih =>
      by_cases hs : s ∈ closed
      · -- everything below the hidden state is hidden with it
        have hbelow : ∀ x ∈ below, x ∈ closed := preorder_of_closed hclosed (hclosed.next hs)
        have hhidden : ∀ x ∈ s :: below, x ∈ closed := List.forall_mem_cons.mpr ⟨hs, hbelow⟩
        have hnone : (s :: below).filter (· ∉ closed) = [] :=
          List.filter_eq_nil_iff.mpr fun x hx => by simpa using hhidden x hx
        rw [preorder_cons_of_mem a (List.mem_append_left _ hs), ← List.cons_append,
          List.filter_append, hnone, List.nil_append, ← ih]
        refine preorder_congr fun x => ?_
        simp only [List.mem_append]
        exact ⟨Or.imp_right Or.inl, fun hx => hx.elim Or.inl fun hx => hx.elim Or.inr
          fun hx => Or.inl (hhidden x hx)⟩
      · have hnew : s ∉ closed ++ visited := fun hx => (List.mem_append.mp hx).elim hs h
        rw [preorder_cons_of_notMem a hnew, List.append_assoc, ihb,
          List.filter_cons_of_pos (p := (· ∉ closed)) (decide_eq_true hs), List.filter_append, ← ih]
        -- the hidden states below are visited in the one search and closed in the other
        congr 2
        refine preorder_congr fun x => ?_
        simp only [List.mem_append, List.mem_cons, List.mem_filter, decide_eq_true_eq]
        by_cases hx : x ∈ closed
        · simp only [hx, true_or]
        · simp only [hx, false_or, not_false_eq_true, and_true]
          rfl

/-- What has been listed is listed again in the same order. -/
theorem preorder_preorder (a : Automaton) (visited seeds : List State) :
    a.preorder visited (a.preorder visited seeds) = a.preorder visited seeds := by
  fun_induction preorder a visited seeds with
  | case1 visited => exact preorder_nil a visited
  | case2 visited s rest h ih => exact ih
  | case3 visited s rest h below _ ih =>
      -- what is below the first state has been visited when its turn comes
      have hbelow : a.preorder (visited ++ s :: below) below = [] :=
        preorder_eq_nil fun x hx => List.mem_append_right _ (List.mem_cons_of_mem _ hx)
      rw [preorder_cons_of_notMem a h]
      change s :: (below ++ a.preorder (visited ++ s :: below)
        (below ++ a.preorder (visited ++ s :: below) rest)) = _
      rw [preorder_append, hbelow, List.nil_append, List.append_nil, ih]

/-! ## 5. Laws of the closure -/

/-- No state is in a closure twice. -/
theorem nodup_closure (a : Automaton) (states : List State) : (a.closure states).Nodup := by
  unfold closure
  rw [toList_discover_empty]
  exact (a.nodup_preorder [] states).1

/-- No silent step leads out of a closure. -/
theorem silentlyClosed_closure (a : Automaton) (states : List State) :
    a.SilentlyClosed (· ∈ a.closure states) := by
  intro s hs t ht
  obtain ⟨p, hp, hr⟩ := mem_closure_iff.mp hs
  exact mem_closure_iff.mpr ⟨p, hp, hr.tail ht⟩

/-- Further seeds add what they reach that is not there yet. -/
theorem closure_append (a : Automaton) (states more : List State) :
    a.closure (states ++ more) =
      a.closure states ++ (a.closure more).filter (· ∉ a.closure states) := by
  have hclosed := a.silentlyClosed_closure states
  unfold closure at hclosed ⊢
  simp only [toList_discover_empty] at hclosed ⊢
  rw [preorder_append, ← preorder_append_closed hclosed, List.nil_append, List.append_nil]

/-- A closure is its own closure. -/
theorem closure_closure (a : Automaton) (states : List State) :
    a.closure (a.closure states) = a.closure states := by
  unfold closure
  simp only [toList_discover_empty, preorder_preorder]

/-- **The closure of two lists in a row is the closure of the first, followed by what only that of
    the second holds, in its order; and the closure of a closure is the closure itself.** -/
theorem closure_laws (a : Automaton) (states more : List State) :
    a.closure (states ++ more) =
        a.closure states ++ (a.closure more).filter (· ∉ a.closure states) ∧
      a.closure (a.closure states) = a.closure states :=
  ⟨a.closure_append states more, a.closure_closure states⟩

end EpsilonAutomata.Automaton
