import EpsilonAutomata.Schema.Load
import Mathlib.Data.List.Forall2

/-!
# What a node loads as

The loader checks the shape of a node and then loads the nodes below it. Here its successes are
turned around: if a value loads, which shape it has, and what has been loaded below it.

* `loadNode_eq_ok_iff` -- the shapes of a node that loads;
* `loadItems_eq_ok_iff` -- operands are loaded one by one and joined from the left;
* `loaded_induction` -- what every shape hands on from the nodes below holds of all that loads.
-/

namespace EpsilonAutomata.Schema

open Yaml (Value)

/-- A node of this kind: the mapping with one entry. -/
def node (kind : String) (operand : Value) : Value := .mapping [(.string kind, operand)]

/-- The kinds of node that have any number of operands. -/
inductive Operator where
  | union
  | concat

/-- The key of an operator. -/
def Operator.kind : Operator → String
  | union => "union"
  | concat => "concat"

/-- What an operator makes of two expressions. -/
def Operator.join : Operator → Regex → Regex → Regex
  | union => .union
  | concat => .concat

variable {v : Value} {e : Regex} {join : Regex → Regex → Regex} {items : List Value}

/-! ## 1. Operands -/

/-- Two steps succeed if the first does, and the second with what it gave. -/
theorem bind_eq_ok_iff {α β : Type} {x : Except LoadError α} {f : α → Except LoadError β} {b : β} :
    x.bind f = .ok b ↔ ∃ a, x = .ok a ∧ f a = .ok b := by
  cases x with
  | error _ =>
      constructor
      · intro h
        cases h
      · rintro ⟨a, ha, _⟩
        cases ha
  | ok a =>
      constructor
      · intro h
        exact ⟨a, rfl, h⟩
      · rintro ⟨a', ha, h⟩
        cases ha
        exact h

/-- A list has partners one by one if each of its members has one. -/
theorem exists_forall₂_iff {α β : Type} {R : α → β → Prop} {xs : List α} :
    (∃ ys, List.Forall₂ R xs ys) ↔ ∀ x ∈ xs, ∃ y, R x y := by
  induction xs with
  | nil => exact ⟨fun _ => nofun, fun _ => ⟨[], .nil⟩⟩
  | cons x xs ih =>
      rw [List.forall_mem_cons, ← ih]
      constructor
      · rintro ⟨ys, h⟩
        cases h with
        | cons hx hrest => exact ⟨⟨_, hx⟩, _, hrest⟩
      · rintro ⟨⟨y, hx⟩, ys, hrest⟩
        exact ⟨y :: ys, .cons hx hrest⟩

/-- The values load as the expressions, one by one. -/
def LoadAll (items : List Value) (es : List Regex) : Prop :=
  List.Forall₂ (fun v e => loadNode v = .ok e) items es

theorem loadMore_eq_ok_iff {joined : Regex} : loadMore join joined items = .ok e ↔
    ∃ es, LoadAll items es ∧ e = es.foldl join joined := by
  induction items generalizing joined with
  | nil =>
      rw [loadMore]
      constructor
      · intro h
        cases h
        exact ⟨[], .nil, rfl⟩
      · rintro ⟨es, hes, rfl⟩
        cases hes
        rfl
  | cons v rest ih =>
      rw [loadMore, bind_eq_ok_iff]
      constructor
      · rintro ⟨f, hv, h⟩
        obtain ⟨es, hes, rfl⟩ := ih.mp h
        exact ⟨f :: es, .cons hv hes, rfl⟩
      · rintro ⟨es, hes, rfl⟩
        cases hes with
        | cons hv hrest => exact ⟨_, hv, ih.mpr ⟨_, hrest, rfl⟩⟩

/-- **At least two operands are loaded one by one and joined from the left.** -/
theorem loadItems_eq_ok_iff : loadItems join items = .ok e ↔
    ∃ first second rest, LoadAll items (first :: second :: rest) ∧
      e = (second :: rest).foldl join first := by
  constructor
  · intro h
    match items with
    | [] | [_] => cases h
    | v :: w :: more =>
        rw [loadItems, bind_eq_ok_iff] at h
        obtain ⟨first, hv, h⟩ := h
        obtain ⟨es, hes, rfl⟩ := loadMore_eq_ok_iff.mp h
        cases hes with
        | cons hw hrest => exact ⟨first, _, _, .cons hv (.cons hw hrest), rfl⟩
  · rintro ⟨first, second, rest, hes, rfl⟩
    cases hes with
    | cons hv htail =>
        cases htail with
        | cons hw hrest =>
            rw [loadItems, bind_eq_ok_iff]
            exact ⟨first, hv, loadMore_eq_ok_iff.mpr ⟨_, .cons hw hrest, rfl⟩⟩

/-! ## 2. Nodes -/

/-- A text is a symbol if it is one character. -/
theorem symbolOf_eq_ok_iff {text : String} :
    symbolOf text = .ok e ↔ ∃ c, text = String.singleton c ∧ e = .symbol c := by
  unfold symbolOf
  split
  · rename_i c htext
    have htext : text = String.singleton c := String.toList_inj.mp (by
      rw [htext, String.toList_singleton])
    constructor
    · intro h
      cases h
      exact ⟨c, htext, rfl⟩
    · rintro ⟨d, hd, rfl⟩
      rw [htext] at hd
      have : [c] = [d] := by
        rw [← String.toList_singleton c, hd, String.toList_singleton]
      cases this
      rfl
  · rename_i hother
    constructor
    · intro h
      cases h
    · rintro ⟨c, rfl, _⟩
      exact absurd (String.toList_singleton c) (hother c)

/-- The operands of a union or a concatenation are a sequence. -/
theorem loadOperands_eq_ok_iff : loadOperands join v = .ok e ↔
    ∃ items, v = .sequence items ∧ loadItems join items = .ok e := by
  constructor
  · intro h
    match v with
    | .sequence items => exact ⟨items, rfl, h⟩
    | .null | .bool _ | .number _ | .string _ | .mapping _ | .tagged _ _ => cases h
  · rintro ⟨items, rfl, h⟩
    exact h

theorem loadNode_node (kind : String) (operand : Value) :
    loadNode (node kind operand) = loadEntry (.string kind, operand) := rfl

theorem loadNode_symbol (text : String) :
    loadNode (node "symbol" (.string text)) = symbolOf text := by
  rw [loadNode_node]
  unfold loadEntry
  rfl

/-- An iteration succeeds if its body does, and is the iteration of that body. -/
theorem map_star_eq_ok_iff {x : Except LoadError Regex} :
    x.map Regex.star = .ok e ↔ ∃ b, x = .ok b ∧ e = .star b := by
  cases x with
  | error _ => simp [Except.map]
  | ok b => simp [Except.map, eq_comm]

theorem loadNode_iterate (w : Value) : loadNode (node "iterate" w) = (loadNode w).map .star := by
  rw [loadNode_node]
  unfold loadEntry
  rfl

theorem loadNode_operator (op : Operator) (v : Value) :
    loadNode (node op.kind v) = loadOperands op.join v := by
  rw [loadNode_node]
  unfold loadEntry
  cases op with
  | union => rfl
  | concat => rfl

/-- The shapes of a node that is written as a mapping. -/
theorem eq_of_loadEntry {kind : String} {operand : Value}
    (h : loadEntry (.string kind, operand) = .ok e) :
    (∃ c, kind = "symbol" ∧ operand = .string (String.singleton c) ∧ e = .symbol c) ∨
    (∃ b, kind = "iterate" ∧ loadNode operand = .ok b ∧ e = .star b) ∨
    ∃ (op : Operator) (items : List Value), kind = op.kind ∧ operand = .sequence items ∧
      loadItems op.join items = .ok e := by
  unfold loadEntry at h
  split at h
  · rename_i hkind
    split at h
    · obtain ⟨c, rfl, rfl⟩ := symbolOf_eq_ok_iff.mp h
      exact .inl ⟨c, hkind, rfl, rfl⟩
    · cases h
  split at h
  · rename_i hkind
    obtain ⟨b, hb, rfl⟩ := map_star_eq_ok_iff.mp h
    exact .inr (.inl ⟨b, hkind, hb, rfl⟩)
  split at h
  · rename_i hkind
    obtain ⟨items, rfl, hitems⟩ := loadOperands_eq_ok_iff.mp h
    exact .inr (.inr ⟨.union, items, hkind, rfl, hitems⟩)
  split at h
  · rename_i hkind
    obtain ⟨items, rfl, hitems⟩ := loadOperands_eq_ok_iff.mp h
    exact .inr (.inr ⟨.concat, items, hkind, rfl, hitems⟩)
  · cases h

/-- **The shapes of a node that loads**, each with its expression. -/
theorem loadNode_eq_ok_iff : loadNode v = .ok e ↔
    (v = .string "empty" ∧ e = .epsilon) ∨
    (∃ c, v = node "symbol" (.string (String.singleton c)) ∧ e = .symbol c) ∨
    (∃ w b, v = node "iterate" w ∧ loadNode w = .ok b ∧ e = .star b) ∨
    ∃ (op : Operator) (items : List Value), v = node op.kind (.sequence items) ∧
      loadItems op.join items = .ok e := by
  constructor
  · intro h
    match v with
    | .string kind =>
        rw [loadNode] at h
        split at h
        · rename_i hkind
          cases h
          exact .inl ⟨by rw [hkind], rfl⟩
        · cases h
    | .mapping [(.string kind, operand)] =>
        rcases eq_of_loadEntry h with ⟨c, rfl, rfl, rfl⟩ | ⟨b, rfl, hb, rfl⟩ |
          ⟨op, items, rfl, rfl, hitems⟩
        · exact .inr (.inl ⟨c, rfl, rfl⟩)
        · exact .inr (.inr (.inl ⟨operand, b, rfl, hb, rfl⟩))
        · exact .inr (.inr (.inr ⟨op, items, rfl, hitems⟩))
    | .mapping [] | .mapping (_ :: _ :: _) => cases h
    | .mapping [(.null, _)] | .mapping [(.bool _, _)] | .mapping [(.number _, _)]
    | .mapping [(.sequence _, _)] | .mapping [(.mapping _, _)] | .mapping [(.tagged _ _, _)] =>
        cases h
    | .null | .bool _ | .number _ | .sequence _ | .tagged _ _ => cases h
  · rintro (⟨rfl, rfl⟩ | ⟨c, rfl, rfl⟩ | ⟨w, b, rfl, hb, rfl⟩ | ⟨op, items, rfl, hitems⟩)
    · rfl
    · rw [loadNode_symbol]
      exact symbolOf_eq_ok_iff.mpr ⟨c, rfl, rfl⟩
    · rw [loadNode_iterate]
      exact map_star_eq_ok_iff.mpr ⟨b, hb, rfl⟩
    · rw [loadNode_operator]
      exact hitems

/-! ## 3. Induction -/

theorem LoadAll.mono {P : Value → Regex → Prop} {es : List Regex} (h : LoadAll items es)
    (hP : ∀ v ∈ items, ∀ e, loadNode v = .ok e → P v e) : List.Forall₂ P items es := by
  induction h with
  | nil => exact .nil
  | cons hv _ ih =>
      exact .cons (hP _ List.mem_cons_self _ hv) (ih fun w hw => hP w (List.mem_cons_of_mem _ hw))

theorem sizeOf_operand_lt (kind : String) (w : Value) : sizeOf w < sizeOf (node kind w) := by
  simp only [node, Value.mapping.sizeOf_spec, List.cons.sizeOf_spec, Prod.mk.sizeOf_spec]
  omega

theorem sizeOf_item_lt {w : Value} (kind : String) (hw : w ∈ items) :
    sizeOf w < sizeOf (node kind (.sequence items)) := by
  have h : sizeOf w < sizeOf (Value.sequence items) := by
    have := List.sizeOf_lt_of_mem hw
    rw [Value.sequence.sizeOf_spec]
    omega
  exact Nat.lt_trans h (sizeOf_operand_lt kind _)

/-- **Induction over what loads**: a property of values and their expressions that holds of the
    leaves, and of every other shape if it holds of the nodes below, holds of all values that
    load. -/
theorem loaded_induction {P : Value → Regex → Prop}
    (empty : P (.string "empty") .epsilon)
    (symbol : ∀ c, P (node "symbol" (.string (String.singleton c))) (.symbol c))
    (iterate : ∀ w b, P w b → P (node "iterate" w) (.star b))
    (operator : ∀ (op : Operator) (items : List Value) (first second : Regex) (rest : List Regex),
      List.Forall₂ P items (first :: second :: rest) →
      P (node op.kind (.sequence items)) ((second :: rest).foldl op.join first))
    (v : Value) (e : Regex) (h : loadNode v = .ok e) : P v e := by
  rcases loadNode_eq_ok_iff.mp h with ⟨hv, he⟩ | ⟨c, hv, he⟩ | ⟨w, b, hv, hb, he⟩ |
    ⟨op, items, hv, hitems⟩
  · rw [hv, he]
    exact empty
  · rw [hv, he]
    exact symbol c
  · rw [hv, he]
    exact iterate w b (loaded_induction empty symbol iterate operator w b hb)
  · obtain ⟨first, second, rest, hes, he⟩ := loadItems_eq_ok_iff.mp hitems
    rw [hv, he]
    exact operator op items _ _ _ (hes.mono fun w hw f hf =>
      loaded_induction empty symbol iterate operator w f hf)
termination_by sizeOf v
decreasing_by
  · rw [hv]
    exact sizeOf_operand_lt "iterate" w
  · rw [hv]
    exact sizeOf_item_lt op.kind hw

end EpsilonAutomata.Schema
