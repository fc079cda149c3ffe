import EpsilonAutomata.Proofs.Layout

/-!
# Which node owns which states

The numbering of a compiled expression in closed form. Every node but a concatenation owns two
states, and the nodes come in post-order: the operands from left to right, then the node itself. So
the states with the numbers `2 * j` and `2 * j + 1` belong to the `j`-th owner. A concatenation owns
nothing; it is entered where its left operand is entered and left where its right one is left, which
makes the start state the entry of the factor furthest to the left.

* `map_origin_block` -- the origins of a block are its owners, each twice;
* `compile_states_owned` -- number of states, origins, start and accepting state from the tree alone.
-/

namespace EpsilonAutomata.Regex

/-! ## 1. Nodes in post-order -/

/-- **All nodes of an expression in post-order**, one entry for every place a subexpression stands
    at. -/
def postorder : Regex → List Regex
  | epsilon => [epsilon]
  | symbol c => [symbol c]
  | union l r => l.postorder ++ (r.postorder ++ [union l r])
  | concat l r => l.postorder ++ (r.postorder ++ [concat l r])
  | star b => b.postorder ++ [star b]

/-- The nodes in post-order without the concatenations: those that own states. -/
def owners (e : Regex) : List Regex := e.postorder.filter (·.kind ≠ .concatenation)

/-- The factor furthest to the left: from the root to the left as long as there is a
    concatenation. -/
def leftmostFactor : Regex → Regex
  | concat l _ => l.leftmostFactor
  | epsilon => epsilon
  | symbol c => symbol c
  | union l r => union l r
  | star b => star b

@[simp] theorem owners_epsilon : owners epsilon = [epsilon] := rfl

@[simp] theorem owners_symbol (c : Char) : owners (symbol c) = [symbol c] := rfl

@[simp] theorem owners_union (l r : Regex) :
    owners (union l r) = l.owners ++ (r.owners ++ [union l r]) := by
  unfold owners
  rw [postorder, List.filter_append, List.filter_append]
  rfl

@[simp] theorem owners_concat (l r : Regex) : owners (concat l r) = l.owners ++ r.owners := by
  unfold owners
  rw [postorder, List.filter_append, List.filter_append]
  exact congrArg (l.owners ++ ·) (List.append_nil r.owners)

@[simp] theorem owners_star (b : Regex) : owners (star b) = b.owners ++ [star b] := by
  unfold owners
  rw [postorder, List.filter_append]
  rfl

/-! ## 2. Owners of the states of a block -/

/-- Every entry twice. -/
def doubled (es : List Regex) : List Regex := es.flatMap fun e => [e, e]

theorem doubled_append (es fs : List Regex) : doubled (es ++ fs) = doubled es ++ doubled fs :=
  List.flatMap_append

theorem length_doubled (es : List Regex) : (doubled es).length = 2 * es.length := by
  induction es with
  | nil => rfl
  | cons e es ih =>
      show (doubled es).length + 1 + 1 = 2 * (es.length + 1)
      rw [ih]
      rfl

theorem getElem?_doubled (es : List Regex) (i : Nat) : (doubled es)[i]? = es[i / 2]? := by
  induction es generalizing i with
  | nil => rfl
  | cons e es ih =>
      match i with
      | 0 => rfl
      | 1 => rfl
      | i + 2 =>
          rw [Nat.add_div_right i Nat.two_pos]
          exact ih i

/-- **The origins of the states of a block are the owners of its expression, each twice.** -/
theorem map_origin_block (e : Regex) (k : State) (next : List State) :
    (e.block k next).map (·.origin) = doubled e.owners := by
  induction e generalizing k next with
  | epsilon => rfl
  | symbol c => rfl
  | union l r ihl ihr =>
      rw [block, List.map_append, List.map_append, ihl, ihr, owners_union, doubled_append,
        doubled_append]
      rfl
  | concat l r ihl ihr => rw [block, List.map_append, ihl, ihr, owners_concat, doubled_append]
  | star b ih =>
      rw [block, List.map_append, ih, owners_star, doubled_append]
      rfl

/-- A block has two states for each owner. -/
theorem exitOffset_succ_eq (e : Regex) : e.exitOffset + 1 = 2 * e.owners.length := by
  rw [← length_doubled, ← map_origin_block e 0 [], List.length_map, length_block]

/-- The entry is the first state of the root of the leftmost factor, the last of its owners. -/
theorem entryOffset_add_two_eq (e : Regex) :
    e.entryOffset + 2 = 2 * e.leftmostFactor.owners.length := by
  induction e with
  | epsilon => rfl
  | symbol c => rfl
  | union l r _ _ => exact (union l r).exitOffset_succ_eq
  | concat l r ihl _ => exact ihl
  | star b _ => exact (star b).exitOffset_succ_eq

/-! ## 3. Compiled expressions -/

theorem origin?_compile (e : Regex) (s : State) : e.compile.origin? s = e.owners[s / 2]? := by
  rw [← getElem?_doubled, ← map_origin_block e 0 [], List.getElem?_map, compile_eq,
    Automaton.origin?, List.getElem?_toArray]

/-- **A compiled expression has two states for each of its owners.** The states `2 * j` and
    `2 * j + 1` come from the `j`-th owner in post-order, states from `2 * e.owners.length` on from
    none; the accepting state is the last one, and the start state the last but one of those that
    the owners in the leftmost factor have. -/
theorem compile_states_owned (e : Regex) :
    e.compile.stateCount = 2 * e.owners.length ∧
    (∀ j, e.compile.origin? (2 * j) = e.owners[j]? ∧
      e.compile.origin? (2 * j + 1) = e.owners[j]?) ∧
    (∀ s, e.compile.origin? s = none ↔ 2 * e.owners.length ≤ s) ∧
    e.compile.accept + 1 = 2 * e.owners.length ∧
    e.compile.start + 2 = 2 * e.leftmostFactor.owners.length := by
  refine ⟨?_, fun j => ⟨?_, ?_⟩, fun s => ?_, ?_, ?_⟩
  · rw [stateCount_compile, exitOffset_succ_eq]
  · rw [origin?_compile, Nat.mul_div_cancel_left j Nat.two_pos]
  · rw [origin?_compile, Nat.mul_add_div Nat.two_pos]
    rfl
  · rw [origin?_compile, List.getElem?_eq_none_iff]
    omega
  · rw [compile_accept, exitOffset_succ_eq]
  · rw [compile_start, entryOffset_add_two_eq]

end EpsilonAutomata.Regex
