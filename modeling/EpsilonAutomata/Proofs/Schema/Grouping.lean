import EpsilonAutomata.Proofs.Schema.Loading

/-!
# Grouping operands

Operands are joined from the left, so the first of them may be put in a node of their own without a
change: the same expression is loaded, and where an operand is at fault the same error is the answer.
This holds of any values, and however many operands are grouped as long as there are two inside and
one outside.

* `loadMore_append` -- further operands can be joined in two parts;
* `loadItems_group` -- the first operands in a node of their own, among a list of operands;
* `loadNode_group` -- the same of a whole node.
-/

namespace EpsilonAutomata.Schema

open Yaml (Value)

variable {join : Regex → Regex → Regex} {front rest : List Value}

/-- Of three steps the last two may be taken together. -/
theorem bind_bind {α β γ : Type} (x : Except LoadError α) (f : α → Except LoadError β)
    (g : β → Except LoadError γ) : (x.bind f).bind g = x.bind fun a => (f a).bind g := by
  cases x <;> rfl

/-- **Further operands can be joined in two parts.** -/
theorem loadMore_append (joined : Regex) (front rest : List Value) :
    loadMore join joined (front ++ rest) =
      (loadMore join joined front).bind fun e => loadMore join e rest := by
  induction front generalizing joined with
  | nil => rfl
  | cons v front ih => simp only [List.cons_append, loadMore, ih, bind_bind]

theorem loadItems_append (h : 2 ≤ front.length) :
    loadItems join (front ++ rest) =
      (loadItems join front).bind fun e => loadMore join e rest := by
  match front with
  | [] | [_] => exact absurd h (by simp)
  | first :: second :: more =>
      simp only [List.cons_append, loadItems]
      rw [← List.cons_append]
      simp only [loadMore_append, bind_bind]

/-- **The first operands in a node of their own.** -/
theorem loadItems_group (op : Operator) (h : 2 ≤ front.length) (hrest : rest ≠ []) :
    loadItems op.join (node op.kind (.sequence front) :: rest) =
      loadItems op.join (front ++ rest) := by
  match rest with
  | [] => exact absurd rfl hrest
  | next :: more =>
      rw [loadItems_append h, loadItems, loadNode_operator]
      rfl

theorem loadNode_sequence (op : Operator) (items : List Value) :
    loadNode (node op.kind (.sequence items)) = loadItems op.join items :=
  loadNode_operator op (.sequence items)

/-- **Leading groups make no difference.** A union or a concatenation whose first operands are put
    in a node of the same kind loads as the same expression or fails with the same error, if the
    group has two operands or more and is not all there is. -/
theorem loadNode_group (op : Operator) (items : List Value) (k : Nat) (hk : 2 ≤ k)
    (hlt : k < items.length) :
    loadNode (node op.kind (.sequence items)) =
      loadNode (node op.kind
        (.sequence (node op.kind (.sequence (items.take k)) :: items.drop k))) := by
  have htake : 2 ≤ (items.take k).length := by
    rw [List.length_take]
    omega
  have hdrop : items.drop k ≠ [] := List.ne_nil_of_length_pos (by
    rw [List.length_drop]
    omega)
  rw [loadNode_sequence, loadNode_sequence, loadItems_group op htake hdrop, List.take_append_drop]

/-- Three of four operands in a group, of which the third and the last are at fault. -/
theorem loadNode_group_three :
    let a := node "symbol" (.string "a")
    let items := [a, .string "empty", node "symbol" (.string "bc"), .null]
    let grouped := node "union" (.sequence
      [node "union" (.sequence [a, .string "empty", node "symbol" (.string "bc")]), .null])
    2 ≤ 3 ∧ 3 < items.length ∧
      loadNode (node "union" (.sequence items)) = loadNode grouped ∧
      loadNode grouped = .error (.invalidSymbol "bc") :=
  ⟨by decide, by decide, loadNode_group .union _ 3 (by decide) (by decide), rfl⟩

end EpsilonAutomata.Schema
