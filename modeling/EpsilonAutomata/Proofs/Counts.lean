import EpsilonAutomata.Proofs.Edges
import EpsilonAutomata.Proofs.Ownership

/-!
# How large a compiled expression is

Every node of an expression contributes to the size of its automaton what its kind says, wherever it
stands: two states unless it is a concatenation, and one transition if it is a leaf or a
concatenation, four if it is a union or an iteration. Nothing depends on how the tree is shaped. So a
sum over all nodes (`Regex.contributions`) depends on the numbers of nodes of each kind only
(`Regex.nodesOf`), and the sizes are such sums.

* `contributions_eq` -- a sum over all nodes in the numbers of nodes of each kind;
* `size_eq_contributions`, `exitOffset_eq_contributions`, `length_edges` -- nodes, states and
  transitions as such sums;
* `compile_counts` -- the size law.
-/

namespace EpsilonAutomata

namespace Regex

/-! ## 1. Sums over all nodes -/

/-- **How many nodes of a kind an expression has**, counted at every place. -/
def nodesOf (k : Kind) (e : Regex) : Nat := e.postorder.countP (·.kind = k)

/-- How many leaves an expression has. -/
def leafCount (e : Regex) : Nat := e.nodesOf .empty + e.nodesOf .symbol

/-- What all nodes of an expression contribute together, if `w` says what a node of each kind does. -/
def contributions (w : Kind → Nat) (e : Regex) : Nat := total (e.postorder.map fun x => w x.kind)

section Contributions

variable (w : Kind → Nat)

theorem total_map_kind (es : List Regex) : total (es.map fun x => w x.kind) =
    w .empty * es.countP (·.kind = .empty) + w .symbol * es.countP (·.kind = .symbol) +
      w .union * es.countP (·.kind = .union) +
      w .concatenation * es.countP (·.kind = .concatenation) +
      w .iteration * es.countP (·.kind = .iteration) := by
  induction es with
  | nil => rfl
  | cons e es ih =>
      rw [List.map_cons, total_cons, ih]
      simp only [List.countP_cons]
      cases e.kind <;> simp [Nat.mul_add] <;> omega

/-- **A sum over all nodes depends on the numbers of nodes of each kind only.** -/
theorem contributions_eq (e : Regex) : e.contributions w =
    w .empty * e.nodesOf .empty + w .symbol * e.nodesOf .symbol + w .union * e.nodesOf .union +
      w .concatenation * e.nodesOf .concatenation + w .iteration * e.nodesOf .iteration :=
  total_map_kind w e.postorder

@[simp] theorem contributions_union (l r : Regex) :
    (union l r).contributions w = l.contributions w + r.contributions w + w .union := by
  simp [contributions, postorder, kind, Nat.add_assoc]

@[simp] theorem contributions_concat (l r : Regex) :
    (concat l r).contributions w = l.contributions w + r.contributions w + w .concatenation := by
  simp [contributions, postorder, kind, Nat.add_assoc]

@[simp] theorem contributions_star (b : Regex) :
    b.star.contributions w = b.contributions w + w .iteration := by
  simp [contributions, postorder, kind]

end Contributions

end Regex

/-! ## 2. What a node contributes -/

/-- How many states are allocated for a node. -/
def Kind.states : Kind → Nat
  | .empty | .symbol | .union | .iteration => 2
  | .concatenation => 0

/-- How many transitions are added for a node. -/
def Kind.transitions : Kind → Nat
  | .empty | .symbol | .concatenation => 1
  | .union | .iteration => 4

theorem Automaton.transitionCount_eq_length (a : Automaton) :
    a.transitionCount = a.transitions.length := by
  unfold transitionCount transitions
  induction a.nodes.toList with
  | nil => rfl
  | cons node rest ih =>
      rw [List.map_cons, total_cons, ih, List.flatMap_cons, List.length_append]

namespace Regex

theorem size_eq_contributions (e : Regex) : e.size = e.contributions fun _ => 1 := by
  induction e with
  | epsilon => rfl
  | symbol c => rfl
  | union l r ihl ihr => rw [size, ihl, ihr, contributions_union]
  | concat l r ihl ihr => rw [size, ihl, ihr, contributions_concat]
  | star b ih => rw [size, ih, contributions_star]

/-- **The block of an expression has the states of its nodes.** -/
theorem exitOffset_eq_contributions (e : Regex) :
    e.exitOffset + 1 = e.contributions Kind.states := by
  induction e with
  | epsilon => rfl
  | symbol c => rfl
  | union l r ihl ihr =>
      rw [contributions_union, ← ihl, ← ihr, exitOffset, Kind.states]
      omega
  | concat l r ihl ihr =>
      rw [contributions_concat, ← ihl, ← ihr, exitOffset, Kind.states]
      omega
  | star b ih => rw [contributions_star, ← ih, exitOffset, Kind.states]

/-- **The block of an expression has the transitions of its nodes.** -/
theorem length_edges (e : Regex) (k : State) :
    (e.edges k).length = e.contributions Kind.transitions := by
  induction e generalizing k with
  | epsilon => rfl
  | symbol c => rfl
  | union l r ihl ihr =>
      simp only [edges, List.length_append, List.length_cons, List.length_nil, ihl, ihr,
        contributions_union, Kind.transitions]
      omega
  | concat l r ihl ihr =>
      simp only [edges, List.length_append, List.length_cons, ihl, ihr, contributions_concat,
        Kind.transitions]
      omega
  | star b ih =>
      simp only [edges, List.length_append, List.length_cons, List.length_nil, ih,
        contributions_star, Kind.transitions]

/-! ## 3. Compiled expressions -/

theorem stateCount_eq_contributions (e : Regex) :
    e.compile.stateCount = e.contributions Kind.states := by
  rw [stateCount_compile, exitOffset_eq_contributions]

theorem transitionCount_eq_contributions (e : Regex) :
    e.compile.transitionCount = e.contributions Kind.transitions := by
  rw [Automaton.transitionCount_eq_length, transitions_compile, length_edges]

theorem nodeCount_eq (e : Regex) : e.nodeCount =
    e.leafCount + e.nodesOf .union + e.nodesOf .concatenation + e.nodesOf .iteration := by
  rw [nodeCount_eq_size, size_eq_contributions, contributions_eq, leafCount]
  omega

theorem stateCount_eq (e : Regex) :
    e.compile.stateCount = 2 * (e.leafCount + e.nodesOf .union + e.nodesOf .iteration) := by
  rw [stateCount_eq_contributions, contributions_eq, leafCount]
  simp only [Kind.states]
  omega

theorem transitionCount_eq (e : Regex) : e.compile.transitionCount =
    e.leafCount + 4 * e.nodesOf .union + e.nodesOf .concatenation + 4 * e.nodesOf .iteration := by
  rw [transitionCount_eq_contributions, contributions_eq, leafCount]
  simp only [Kind.transitions]
  omega

/-- An expression has no concatenation if none of its nodes is one. -/
theorem nodesOf_concatenation_eq_zero_iff {e : Regex} :
    e.nodesOf .concatenation = 0 ↔ ∀ x ∈ e.postorder, x.kind ≠ .concatenation := by
  rw [nodesOf, List.countP_eq_zero]
  simp only [decide_eq_true_eq]

/-- **The size law.** The nodes counted with a list of pending subtrees are the leaves, unions,
    concatenations and iterations. The compiled expression has two states for each of them but the
    concatenations, one transition for each leaf and each concatenation and four for each union and
    each iteration. So twice the number of nodes is never exceeded, and reached exactly by the
    expressions without a concatenation; a concatenation has the states and the transitions of its
    operands, and one transition more. -/
theorem compile_counts :
    (∀ e : Regex,
      e.nodeCount =
        e.leafCount + e.nodesOf .union + e.nodesOf .concatenation + e.nodesOf .iteration ∧
      e.compile.stateCount = 2 * (e.leafCount + e.nodesOf .union + e.nodesOf .iteration) ∧
      e.compile.transitionCount = e.leafCount + 4 * e.nodesOf .union +
        e.nodesOf .concatenation + 4 * e.nodesOf .iteration ∧
      e.compile.stateCount ≤ 2 * e.nodeCount ∧
      (e.compile.stateCount = 2 * e.nodeCount ↔
        ∀ x ∈ e.postorder, x.kind ≠ .concatenation)) ∧
    ∀ l r : Regex,
      (concat l r).compile.stateCount = l.compile.stateCount + r.compile.stateCount ∧
      (concat l r).compile.transitionCount =
        l.compile.transitionCount + r.compile.transitionCount + 1 := by
  refine ⟨fun e => ?_, fun l r => ⟨?_, ?_⟩⟩
  · have hnodes := e.nodeCount_eq
    have hstates := e.stateCount_eq
    refine ⟨hnodes, hstates, e.transitionCount_eq, by omega, ?_⟩
    rw [← nodesOf_concatenation_eq_zero_iff]
    omega
  · simp only [stateCount_eq_contributions, contributions_concat]
    rfl
  · simp only [transitionCount_eq_contributions, contributions_concat]
    rfl

end Regex

end EpsilonAutomata
