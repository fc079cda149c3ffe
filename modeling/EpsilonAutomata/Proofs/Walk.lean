import EpsilonAutomata.Proofs.Edges
import Mathlib.Data.List.Nodup
import Mathlib.Data.List.Pairwise
import Mathlib.Logic.Relation

/-!
# Every moment of the walk

A task that does not find what it needs stops the construction, so it matters what the states and
the fragments look like between two tasks, and not only at the end. What the proof carries from one
round to the next speaks of expressions: at every moment some subexpressions are finished, the
states are their blocks one behind the other, the fragments are theirs, and the tasks still to be
done make the whole expression of them (`Yields`). That a task has its own operands on top of the
stack is then a constructor of `Yields`, and everything about states is read off the blocks.

* `divided_finished` -- finished expressions have the states divided among them;
* `exists_perform_finished` -- a round succeeds and keeps what the tasks yield;
* `Walk.Reaches.makes` -- so it is kept at every moment;
* `Walk.walk_divided` -- at every moment the fragments have the states divided among them, no task
  ever fails, and one fragment is left.
-/

namespace EpsilonAutomata

/-! ## 1. Rounds -/

/-- A moment of the walk: the tasks still to be done and what has been built. -/
structure Walk where
  tasks : List Task
  built : Construction

namespace Walk

/-- The walk over an expression before its first round. -/
def start (e : Regex) : Walk := ⟨[.visit e], .empty⟩

/-- **One round**: the first task is performed, and what it leaves behind comes before the others. -/
inductive Round : Walk → Walk → Prop where
  | perform {t : Task} {rest more : List Task} {c c' : Construction}
      (h : Construction.perform t c = some (more, c')) :
      Round ⟨t :: rest, c⟩ ⟨more ++ rest, c'⟩

/-- Any number of rounds lead from one moment to another. -/
abbrev Reaches : Walk → Walk → Prop := Relation.ReflTransGen Round

variable {w w' : Walk}

/-- A round leaves what the walk comes to as it is. -/
theorem Round.run_eq (h : Round w w') : w'.built.run w'.tasks = w.built.run w.tasks := by
  cases h with
  | perform h =>
      rw [Construction.run_cons, h]
      rfl

theorem Reaches.run_eq (h : Reaches w w') : w'.built.run w'.tasks = w.built.run w.tasks := by
  induction h with
  | refl => rfl
  | tail _ hround ih => rw [hround.run_eq, ih]

/-- **The rounds are those of `Construction.run`**, and the walk ends where they end. -/
theorem reaches_iff_run {tasks : List Task} {b c : Construction} :
    Reaches ⟨tasks, b⟩ ⟨[], c⟩ ↔ b.run tasks = some c := by
  constructor
  · intro h
    rw [← h.run_eq, Construction.run_nil]
  · fun_induction Construction.run b tasks with
    | case1 b =>
        intro h
        obtain rfl := Option.some.inj h
        exact .refl
    | case2 b t rest hnone => exact nofun
    | case3 b t rest more b' hsome ih => exact fun h => .head (.perform hsome) (ih h)

end Walk

/-! ## 2. Stretches of states -/

/-- A stretch of consecutive states. -/
structure Stretch where
  first : State
  length : Nat

/-- The states of a stretch, in order. -/
def Stretch.states (b : Stretch) : List State := List.range' b.first b.length

/-- The state `s` keeps the transition. -/
def Construction.Keeps (c : Construction) (s : State) (t : Transition) : Prop :=
  ∃ node, c.nodes[s]? = some node ∧ t ∈ node.outgoing

/-- The fragment owns the stretch: its entry and its exit lie in it, and nothing leaves the exit. -/
structure Construction.Owns (c : Construction) (f : Fragment) (b : Stretch) : Prop where
  entry_mem : f.entry ∈ b.states
  exit_mem : f.exit ∈ b.states
  exit_keeps_nothing : ∀ t, ¬ c.Keeps f.exit t

/-- **The fragments of a construction have its states divided among them.** -/
structure Construction.Divided (c : Construction) (bs : List Stretch) : Prop where
  /-- Every fragment owns one stretch. -/
  owned : List.Forall₂ c.Owns c.fragments bs
  /-- No state belongs to two of them. -/
  disjoint : bs.Pairwise fun b b' => b.states.Disjoint b'.states
  /-- One behind the other, that of the earliest fragment first, they are all states. -/
  states_eq : bs.reverse.flatMap Stretch.states = List.range c.nodes.size
  /-- A transition is kept at its source, -/
  source_eq : ∀ s t, c.Keeps s t → t.source = s
  /-- leads to a state that is there, -/
  target_lt : ∀ s t, c.Keeps s t → t.target < c.nodes.size
  /-- and stays inside one stretch. -/
  inside : ∀ s t, c.Keeps s t → ∃ b ∈ bs, t.source ∈ b.states ∧ t.target ∈ b.states

/-! ## 3. Finished expressions -/

/-- A finished expression and the first of its states. -/
structure Finished where
  expr : Regex
  first : State

namespace Finished

/-- Its states. -/
def nodes (x : Finished) : List Node := x.expr.block x.first []

/-- Its fragment. -/
def fragment (x : Finished) : Fragment := Construction.blockFragment x.expr x.first

/-- Its stretch of states. -/
def stretch (x : Finished) : Stretch := ⟨x.first, x.expr.exitOffset + 1⟩

theorem mem_states_stretch {x : Finished} {s : State} :
    s ∈ x.stretch.states ↔ x.first ≤ s ∧ s ≤ x.first + x.expr.exitOffset := by
  rw [Stretch.states, stretch, List.mem_range'_1, ← Nat.add_assoc, Nat.lt_succ_iff]

theorem entry_mem_stretch (x : Finished) : x.fragment.entry ∈ x.stretch.states := by
  have hlt := x.expr.entryOffset_lt_exitOffset
  refine mem_states_stretch.mpr ?_
  simp only [fragment, Construction.blockFragment]
  lia

theorem exit_mem_stretch (x : Finished) : x.fragment.exit ∈ x.stretch.states :=
  mem_states_stretch.mpr ⟨Nat.le_add_right _ _, Nat.le_refl _⟩

end Finished

namespace Construction

/-- The number of states of expressions. -/
def width (es : List Regex) : Nat := total (es.map fun e => e.exitOffset + 1)

/-- Expressions with their first states, if they are laid out one behind the other and the latest
    is the first of the list. -/
def located : List Regex → List Finished
  | [] => []
  | e :: es => ⟨e, width es⟩ :: located es

/-- Their states. -/
def locatedNodes (es : List Regex) : List Node := (located es).reverse.flatMap Finished.nodes

/-- **A construction in which these expressions are finished** and nothing else has been built. -/
def finished (es : List Regex) : Construction :=
  holding (locatedNodes es) ((located es).map Finished.fragment)

variable {e : Regex} {es : List Regex} {s : State} {t : Transition} {x y : Finished}

@[simp] theorem width_cons (e : Regex) (es : List Regex) :
    width (e :: es) = e.exitOffset + 1 + width es := rfl

theorem locatedNodes_cons (e : Regex) (es : List Regex) :
    locatedNodes (e :: es) = locatedNodes es ++ e.block (width es) [] := by
  rw [locatedNodes, located, List.reverse_cons, List.flatMap_append, List.flatMap_singleton]
  rfl

@[simp] theorem length_locatedNodes (es : List Regex) : (locatedNodes es).length = width es := by
  induction es with
  | nil => rfl
  | cons e es ih =>
      rw [locatedNodes_cons, List.length_append, ih, Regex.length_block, width_cons, Nat.add_comm]

theorem size_finished (es : List Regex) : (finished es).nodes.size = width es := by
  rw [finished, holding, List.size_toArray, length_locatedNodes]

/-- The stretches of finished expressions are all states. -/
theorem states_finished (es : List Regex) :
    ((located es).map Finished.stretch).reverse.flatMap Stretch.states =
      List.range (width es) := by
  induction es with
  | nil => rfl
  | cons e es ih =>
      have hlast : Finished.stretch ⟨e, width es⟩ = ⟨0 + width es, e.exitOffset + 1⟩ := by
        rw [Nat.zero_add]
        rfl
      rw [located, List.map_cons, List.reverse_cons, List.flatMap_append, ih,
        List.flatMap_singleton, hlast, List.range_eq_range', List.range_eq_range', Stretch.states,
        List.range'_append_1, width_cons, Nat.add_comm]

/-- They are disjoint. -/
theorem disjoint_finished (es : List Regex) :
    ((located es).map Finished.stretch).Pairwise fun b b' => b.states.Disjoint b'.states := by
  have hnodup : (((located es).map Finished.stretch).reverse.flatMap Stretch.states).Nodup := by
    rw [states_finished]
    exact List.nodup_range
  exact (List.pairwise_reverse.mp (List.nodup_flatMap.mp hnodup).2).imp List.disjoint_symm

/-- A state lies in the stretch of one finished expression only. -/
theorem eq_of_mem_states (hx : x ∈ located es) (hy : y ∈ located es) (hsx : s ∈ x.stretch.states)
    (hsy : s ∈ y.stretch.states) : x = y := by
  have hdisjoint := disjoint_finished es
  rw [List.pairwise_map] at hdisjoint
  have : Std.Symm fun x y : Finished => x.stretch.states.Disjoint y.stretch.states :=
    ⟨fun _ _ h => List.disjoint_symm h⟩
  by_contra hne
  exact hdisjoint.forall hx hy hne hsx hsy

theorem lt_width_of_mem_states (hx : x ∈ located es) (hs : s ∈ x.stretch.states) :
    s < width es := by
  rw [← List.mem_range, ← states_finished, List.mem_flatMap]
  exact ⟨x.stretch, List.mem_reverse.mpr (List.mem_map_of_mem hx), hs⟩

theorem numbered_locatedNodes (es : List Regex) : Numbered 0 (locatedNodes es) := by
  induction es with
  | nil => exact nofun
  | cons e es ih =>
      rw [locatedNodes_cons]
      refine ih.append ?_
      rw [length_locatedNodes, Nat.zero_add]
      exact e.numbered_block (width es) []

/-- **A state keeps the edges of finished expressions that begin at it**, and no others. -/
theorem keeps_finished_iff :
    (finished es).Keeps s t ↔ t.source = s ∧ ∃ x ∈ located es, t ∈ x.expr.edges x.first := by
  have hkeeps : (finished es).Keeps s t ↔
      t ∈ (((locatedNodes es)[s]?).map (·.outgoing)).getD [] := by
    rw [Keeps, finished, holding, List.getElem?_toArray]
    cases (locatedNodes es)[s]? <;> simp
  have hedges : ∀ x : Finished, x.nodes.flatMap (·.outgoing) = x.expr.edges x.first := fun x => by
    rw [Finished.nodes, Regex.flatMap_outgoing_block, List.map_nil, List.append_nil]
  rw [hkeeps, (numbered_locatedNodes es).outgoing_eq, List.mem_filter, locatedNodes, List.flatMap_assoc]
  simp only [hedges, List.mem_flatMap, List.mem_reverse, Nat.zero_add, decide_eq_true_eq, and_comm]

/-- An edge of a finished expression stays in its stretch. -/
theorem mem_states_of_mem_edges (ht : t ∈ x.expr.edges x.first) :
    t.source ∈ x.stretch.states ∧ t.target ∈ x.stretch.states := by
  obtain ⟨hs, hs', ht, ht'⟩ := Regex.edges_inside ht
  exact ⟨Finished.mem_states_stretch.mpr ⟨hs, Nat.le_of_lt hs'⟩,
    Finished.mem_states_stretch.mpr ⟨ht, ht'⟩⟩

/-- A finished expression owns its stretch. -/
theorem owns_finished (hx : x ∈ located es) : (finished es).Owns x.fragment x.stretch where
  entry_mem := x.entry_mem_stretch
  exit_mem := x.exit_mem_stretch
  exit_keeps_nothing := by
    intro t hkeeps
    obtain ⟨hsource, y, hy, ht⟩ := keeps_finished_iff.mp hkeeps
    -- an edge that begins in the stretch of `x` is an edge of `x`, and none begins at its exit
    have hexit : t.source ∈ x.stretch.states := hsource ▸ x.exit_mem_stretch
    obtain rfl := eq_of_mem_states hy hx (mem_states_of_mem_edges ht).1 hexit
    exact absurd hsource (Nat.ne_of_lt (Regex.edges_inside ht).2.1)

/-- **Finished expressions have the states divided among them.** -/
theorem divided_finished (es : List Regex) :
    (finished es).Divided ((located es).map Finished.stretch) where
  owned := by
    rw [finished, holding, List.forall₂_map_left_iff, List.forall₂_map_right_iff,
      List.forall₂_same]
    exact fun x hx => owns_finished hx
  disjoint := disjoint_finished es
  states_eq := by rw [states_finished, size_finished]
  source_eq := fun s t hkeeps => (keeps_finished_iff.mp hkeeps).1
  target_lt := fun s t hkeeps => by
    obtain ⟨_, x, hx, ht⟩ := keeps_finished_iff.mp hkeeps
    rw [size_finished]
    exact lt_width_of_mem_states hx (mem_states_of_mem_edges ht).2
  inside := fun s t hkeeps => by
    obtain ⟨_, x, hx, ht⟩ := keeps_finished_iff.mp hkeeps
    exact ⟨x.stretch, List.mem_map_of_mem hx, mem_states_of_mem_edges ht⟩

end Construction

/-! ## 4. What a round does -/

/-- **The tasks make `goal` of the finished expressions**, the latest of which is the first of the
    list: visiting an expression finishes it, and a node is finished out of its operands. -/
inductive Yields (goal : Regex) : List Task → List Regex → Prop where
  | done : Yields goal [] [goal]
  | visit {e : Regex} {rest : List Task} {es : List Regex} (h : Yields goal rest (e :: es)) :
      Yields goal (.visit e :: rest) es
  | combine {e : Regex} {rest : List Task} {es : List Regex} (hnode : e.operands ≠ [])
      (h : Yields goal rest (e :: es)) :
      Yields goal (.combine e :: rest) (e.operands.reverse ++ es)

namespace Construction

theorem finished_cons (e : Regex) (es : List Regex) :
    finished (e :: es) = holding (locatedNodes es ++ e.block (width es) [])
      (blockFragment e (width es) :: (located es).map Finished.fragment) := by
  rw [finished, locatedNodes_cons]
  rfl

/-- The two expressions finished last. -/
theorem finished_pair (l r : Regex) (es : List Regex) :
    finished (r :: l :: es) = holding
      (locatedNodes es ++ (l.block (width es) [] ++ r.block (width es + l.exitOffset + 1) []))
      (blockFragment r (width es + l.exitOffset + 1) :: blockFragment l (width es) ::
        (located es).map Finished.fragment) := by
  have hwidth : width (l :: es) = width es + l.exitOffset + 1 := by
    rw [width_cons]
    omega
  rw [finished_cons, locatedNodes_cons, hwidth, List.append_assoc]
  rfl

/-- **A node is finished out of its operands.** -/
theorem combine_finished {e : Regex} (es : List Regex) (hnode : e.operands ≠ []) :
    combine e (finished (e.operands.reverse ++ es)) = some (finished (e :: es)) := by
  have hlen := length_locatedNodes es
  rw [finished_cons]
  cases e with
  | epsilon => exact absurd rfl hnode
  | symbol c => exact absurd rfl hnode
  | union l r =>
      show combine (.union l r) (finished (r :: l :: es)) = _
      rw [finished_pair, combine_union l r hlen rfl rfl]
  | concat l r =>
      show combine (.concat l r) (finished (r :: l :: es)) = _
      rw [finished_pair, combine_concat l r hlen rfl]
  | star b =>
      show combine (.star b) (finished (b :: es)) = _
      rw [finished_cons, combine_star b hlen rfl]

/-- **The first task succeeds**, and the tasks then make the same expression as before. -/
theorem exists_perform_finished {goal : Regex} {t : Task} {rest : List Task} {es : List Regex}
    (h : Yields goal (t :: rest) es) :
    ∃ more es', perform t (finished es) = some (more, finished es') ∧
      Yields goal (more ++ rest) es' := by
  cases h with
  | combine hnode h =>
      refine ⟨[], _, ?_, h⟩
      rw [perform, combine_finished _ hnode, Option.map_some]
  | @visit e _ _ h =>
      cases e with
      | epsilon =>
          refine ⟨[], .epsilon :: es, ?_, h⟩
          rw [perform, finished, leaf_holding, length_locatedNodes, finished_cons]
          rfl
      | symbol c =>
          refine ⟨[], .symbol c :: es, ?_, h⟩
          rw [perform, finished, leaf_holding, length_locatedNodes, finished_cons]
          rfl
      | union l r =>
          have hcombine : Yields goal (.combine (.union l r) :: rest) (r :: l :: es) :=
            .combine (List.cons_ne_nil l [r]) h
          exact ⟨_, es, rfl, .visit (.visit hcombine)⟩
      | concat l r =>
          have hcombine : Yields goal (.combine (.concat l r) :: rest) (r :: l :: es) :=
            .combine (List.cons_ne_nil l [r]) h
          exact ⟨_, es, rfl, .visit (.visit hcombine)⟩
      | star b =>
          have hcombine : Yields goal (.combine (.star b) :: rest) (b :: es) :=
            .combine (List.cons_ne_nil b []) h
          exact ⟨_, es, rfl, .visit hcombine⟩

end Construction

/-! ## 5. Every moment -/

namespace Walk

open Construction (finished exists_perform_finished divided_finished located)

/-- **What every moment has**: some expressions are finished, and the tasks make `goal` of them. -/
def Makes (goal : Regex) (w : Walk) : Prop :=
  ∃ es, w.built = finished es ∧ Yields goal w.tasks es

variable {e goal : Regex} {w w' : Walk} {c : Construction}

theorem makes_start (e : Regex) : Makes e (start e) := ⟨[], rfl, .visit .done⟩

/-- Whatever is to be done next succeeds. -/
theorem Makes.perform_ne_none {t : Task} {rest : List Task} (h : Makes goal ⟨t :: rest, c⟩) :
    Construction.perform t c ≠ none := by
  obtain ⟨es, hbuilt, hyields⟩ := h
  obtain rfl : c = finished es := hbuilt
  obtain ⟨more, es', hperform, _⟩ := exists_perform_finished hyields
  rw [hperform]
  exact Option.some_ne_none _

/-- **A round keeps what the walk makes.** -/
theorem Makes.round (h : Makes goal w) (hround : Round w w') : Makes goal w' := by
  obtain ⟨es, hbuilt, hyields⟩ := h
  cases hround with
  | @perform t rest more c c' hperform =>
      obtain rfl : c = finished es := hbuilt
      obtain ⟨more', es', hperform', hyields'⟩ := exists_perform_finished hyields
      obtain ⟨rfl, rfl⟩ := Prod.mk.inj (Option.some.inj (hperform.symm.trans hperform'))
      exact ⟨es', rfl, hyields'⟩

/-- Every moment of the walk over an expression makes this expression. -/
theorem Reaches.makes (h : Reaches (start e) w) : Makes e w := by
  induction h with
  | refl => exact makes_start e
  | tail _ hround ih => exact ih.round hround

/-- A walk without tasks has made it. -/
theorem Makes.eq_finished (h : Makes goal ⟨[], c⟩) : c = finished [goal] := by
  obtain ⟨es, hbuilt, hyields⟩ := h
  cases hyields with
  | done => exact hbuilt

/-- **The rounds come to an end, and the expression is then finished.** -/
theorem Makes.run_eq {tasks : List Task} (h : Makes goal ⟨tasks, c⟩) :
    c.run tasks = some (finished [goal]) := by
  fun_induction Construction.run c tasks with
  | case1 c => rw [h.eq_finished]
  | case2 c t rest hnone => exact absurd hnone h.perform_ne_none
  | case3 c t rest more c' hsome ih => exact ih (h.round (.perform hsome))

theorem Reaches.divided (h : Reaches (start e) w) : ∃ bs, w.built.Divided bs := by
  obtain ⟨es, hbuilt, _⟩ := h.makes
  rw [hbuilt]
  exact ⟨_, divided_finished es⟩

/-- **At every moment of the walk over an expression the fragments have the states divided among
    them.** No task ever fails: none lacks an operand, none combines a leaf, and none connects a
    state that is not there. The loop ends, whichever moment it is entered at, and it leaves one
    fragment, whose entry and exit are the start and the accepting state of the compiled
    expression. -/
theorem walk_divided (e : Regex) :
    (∀ w, Reaches (start e) w → ∃ bs, w.built.Divided bs) ∧
    (∀ t rest c, Reaches (start e) ⟨t :: rest, c⟩ → Construction.perform t c ≠ none) ∧
    ∃ c f, (∀ w, Reaches (start e) w → w.built.run w.tasks = some c ∧ Reaches w ⟨[], c⟩) ∧
      c.fragments = [f] ∧ e.compile = ⟨f.entry, f.exit, c.nodes⟩ := by
  have hend : ∀ w, Reaches (start e) w →
      w.built.run w.tasks = some (finished [e]) ∧ Reaches w ⟨[], finished [e]⟩ := fun w h =>
    ⟨h.makes.run_eq, reaches_iff_run.mpr h.makes.run_eq⟩
  have hcompile : e.compile = ⟨0 + e.entryOffset, 0 + e.exitOffset, (finished [e]).nodes⟩ := by
    have hrun : Construction.empty.run [.visit e] = some (finished [e]) := (hend _ .refl).1
    rw [Regex.compile, hrun]
    rfl
  exact ⟨fun w h => h.divided, fun t rest c h => h.makes.perform_ne_none, finished [e],
    Construction.blockFragment e 0, hend, rfl, hcompile⟩

end Walk

end EpsilonAutomata
