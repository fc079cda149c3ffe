import EpsilonAutomata.Proofs.Schema.Loading

/-!
# The grammar of nodes

What a node of a schema is (`IsNode`) and which expression it is written for (`Represents`), without
a loader: a node is `empty`, a symbol of one character, the iteration of a node, or a union or a
concatenation of at least two nodes, joined from the left. The loader accepts exactly the nodes and
builds exactly these expressions; so a value of any other shape, at any depth, keeps the whole from
being loaded.

* `loadNode_eq_ok_iff_represents` -- the expression that is loaded;
* `exists_loadNode_iff` -- the values that load;
* `loadNode_grammar` -- both, and the shapes that never load.
-/

namespace EpsilonAutomata.Schema

open Yaml (Value)

/-! ## 1. The grammar -/

/-- **The values that are nodes.** -/
inductive IsNode : Value → Prop where
  | empty : IsNode (.string "empty")
  | symbol (c : Char) : IsNode (node "symbol" (.string (String.singleton c)))
  | iterate {w : Value} (h : IsNode w) : IsNode (node "iterate" w)
  | operator (op : Operator) {items : List Value} (hlen : 2 ≤ items.length)
      (h : ∀ w ∈ items, IsNode w) : IsNode (node op.kind (.sequence items))

/-- **The expression that a node is written for.** -/
inductive Represents : Value → Regex → Prop where
  | empty : Represents (.string "empty") .epsilon
  | symbol (c : Char) : Represents (node "symbol" (.string (String.singleton c))) (.symbol c)
  | iterate {w : Value} {b : Regex} (h : Represents w b) : Represents (node "iterate" w) (.star b)
  /-- The operands are joined from the left. -/
  | operator (op : Operator) {items : List Value} {first second : Regex} {rest : List Regex}
      (h : List.Forall₂ Represents items (first :: second :: rest)) :
      Represents (node op.kind (.sequence items)) ((second :: rest).foldl op.join first)

variable {v : Value} {e : Regex} {items : List Value}

/-! ## 2. What is loaded -/

/-- A node that represents an expression loads as that expression. -/
theorem Represents.loads (h : Represents v e) : loadNode v = .ok e := by
  refine @Represents.rec (fun v e _ => loadNode v = .ok e) (fun items es _ => LoadAll items es)
    ?empty ?symbol ?iterate ?operator ?nil ?cons v e h
  case empty => exact rfl
  case symbol => exact fun c => loadNode_eq_ok_iff.mpr (.inr (.inl ⟨c, rfl, rfl⟩))
  case iterate =>
    exact fun _ hw => loadNode_eq_ok_iff.mpr (.inr (.inr (.inl ⟨_, _, rfl, hw, rfl⟩)))
  case operator =>
    intro op items first second rest _ hitems
    exact loadNode_eq_ok_iff.mpr
      (.inr (.inr (.inr ⟨op, items, rfl, loadItems_eq_ok_iff.mpr ⟨_, _, _, hitems, rfl⟩⟩)))
  case nil => exact .nil
  case cons => exact fun _ _ hv hrest => .cons hv hrest

/-- **The loader builds the expression that a node represents**, and nothing else. -/
theorem loadNode_eq_ok_iff_represents : loadNode v = .ok e ↔ Represents v e :=
  ⟨loaded_induction (P := Represents) .empty .symbol (fun _ _ => .iterate)
    (fun op _ _ _ _ => .operator op) v e, Represents.loads⟩

/-! ## 3. What loads -/

theorem IsNode.loads (h : IsNode v) : ∃ e, loadNode v = .ok e := by
  induction h with
  | empty => exact ⟨_, Represents.empty.loads⟩
  | symbol c => exact ⟨_, (Represents.symbol c).loads⟩
  | iterate _ ih =>
      obtain ⟨b, hb⟩ := ih
      exact ⟨_, (loadNode_eq_ok_iff_represents.mp hb).iterate.loads⟩
  | operator op hlen _ ih =>
      obtain ⟨es, hes⟩ : ∃ es, LoadAll _ es := exists_forall₂_iff.mpr ih
      rw [hes.length_eq] at hlen
      match es with
      | [] | [_] => exact absurd hlen (by simp)
      | _ :: _ :: _ =>
          have hitems := hes.imp fun _ _ => loadNode_eq_ok_iff_represents.mp
          exact ⟨_, (Represents.operator op hitems).loads⟩

/-- **The values that load are the nodes.** -/
theorem exists_loadNode_iff : (∃ e, loadNode v = .ok e) ↔ IsNode v := by
  constructor
  · rintro ⟨e, he⟩
    refine loaded_induction (P := fun v _ => IsNode v) .empty .symbol (fun _ _ => .iterate) ?_ v e he
    intro op items first second rest hitems
    have hlen : items.length = rest.length + 2 := hitems.length_eq
    have hboth := hitems.imp (S := fun w _ => IsNode w ∧ True) fun _ _ hw => ⟨hw, trivial⟩
    exact .operator op (by omega) ((List.forall₂_and_left items _).mp hboth).1
  · exact IsNode.loads

instance : DecidablePred IsNode := fun v =>
  match h : loadNode v with
  | .ok e => isTrue (exists_loadNode_iff.mp ⟨e, h⟩)
  | .error _ => isFalse fun hnode => by
      obtain ⟨e, he⟩ := exists_loadNode_iff.mpr hnode
      rw [he] at h
      cases h

/-- **The loader accepts exactly the grammar and builds exactly its expressions.** A value loads if
    and only if it is a node, and as an expression if and only if it represents it. So nulls,
    booleans, numbers, sequences outside of operands, tagged values and mappings with any other
    number of entries than one never load. -/
theorem loadNode_grammar (v : Value) :
    ((∃ e, loadNode v = .ok e) ↔ IsNode v) ∧
    (∀ e, loadNode v = .ok e ↔ Represents v e) ∧
    (∀ e, loadNode .null ≠ .ok e) ∧
    (∀ b e, loadNode (.bool b) ≠ .ok e) ∧
    (∀ n e, loadNode (.number n) ≠ .ok e) ∧
    (∀ items e, loadNode (.sequence items) ≠ .ok e) ∧
    (∀ tag w e, loadNode (.tagged tag w) ≠ .ok e) ∧
    ∀ entries e, entries.length = 1 ∨ loadNode (.mapping entries) ≠ .ok e := by
  refine ⟨exists_loadNode_iff, fun e => loadNode_eq_ok_iff_represents, nofun, nofun, nofun, nofun,
    nofun, fun entries e => ?_⟩
  match entries with
  | [_] => exact .inl rfl
  | [] | _ :: _ :: _ => exact .inr nofun

/-- A union of one operand is no node, also below other nodes. -/
example : ¬ IsNode (node "iterate" (node "union" (.sequence [.string "empty"]))) := by decide

end EpsilonAutomata.Schema
