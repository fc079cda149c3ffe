import EpsilonAutomata.Proofs.Schema.Loading

/-!
# What the loader looks at

A document is checked place by place. What one check looks at is a face (`Face`): the kind of a node,
whether its operand has the right shape, its text if it is a symbol, but nothing of the nodes below.
This file lists the faces of a document without loading anything (`faces`): first that of the whole,
then for each entry that of its name and those of its nodes, each node in front of the nodes below it
and these from left to right.

* `Face.fault?` -- what is wrong with a face;
* `nodes_eq` -- the order of the nodes of a value;
* `loadNode_otherKey` -- a node under a key that no node has.
-/

namespace EpsilonAutomata.Schema

open Yaml (Value Document)

/-! ## 1. Faces -/

/-- **The keys of nodes.** -/
def keys : List String := ["symbol", "iterate", "union", "concat"]

theorem mem_keys_iff {kind : String} :
    kind ∈ keys ↔ kind = "symbol" ∨ kind = "iterate" ∨ ∃ op : Operator, kind = op.kind := by
  constructor
  · intro h
    simp only [keys, List.mem_cons, List.not_mem_nil, or_false] at h
    obtain h | h | h | h := h
    · exact .inl h
    · exact .inr (.inl h)
    · exact .inr (.inr ⟨.union, h⟩)
    · exact .inr (.inr ⟨.concat, h⟩)
  · rintro (rfl | rfl | ⟨op, rfl⟩)
    · decide
    · decide
    · cases op <;> decide

theorem notMem_keys_iff {kind : String} : kind ∉ keys ↔
    kind ≠ "symbol" ∧ kind ≠ "iterate" ∧ kind ≠ "union" ∧ kind ≠ "concat" := by
  simp [keys]

deriving instance DecidableEq for Operator

/-- What is looked at of the operands of a union or a concatenation. -/
inductive Operands where
  | notSequence
  | tooFew
  /-- A sequence of at least two. -/
  | enough
deriving DecidableEq

/-- **What one check of the loader looks at.** -/
inductive Face where
  /-- Nothing stands under the key of the expressions. -/
  | missing
  /-- What stands under the key of the expressions. -/
  | expressions (isMapping : Bool)
  /-- The name of an expression. -/
  | name (isString : Bool)
  /-- A node that is a string. -/
  | word (text : String)
  /-- A node that is a mapping and has not exactly one entry. -/
  | notOneEntry
  /-- A node whose only key is no string. -/
  | keyNotString
  /-- A symbol, and its text if it is a string. -/
  | symbol (text : Option String)
  | iterate
  | operator (op : Operator) (operands : Operands)
  /-- A node under any other key. -/
  | otherKey (kind : String) (other : kind ∉ keys)
  /-- A node that is neither a string nor a mapping. -/
  | otherNode
deriving DecidableEq

/-- **What is wrong with a face by itself.** -/
def Face.fault? : Face → Option LoadError
  | missing => some (.missingKey expressionsKey)
  | expressions isMapping => if isMapping then none else some (.invalidSchema .notMapping)
  | name isString => if isString then none else some (.invalidSchema .nameNotString)
  | word text => if text = "empty" then none else some (.unsupportedExpression text)
  | notOneEntry => some (.invalidSchema .notOneKind)
  | keyNotString => some (.invalidSchema .kindNotString)
  | symbol none => some (.invalidSchema .symbolNotString)
  | symbol (some text) => if text.length = 1 then none else some (.invalidSymbol text)
  | iterate => none
  | operator _ .notSequence => some (.invalidSchema .operandsNotSequence)
  | operator _ .tooFew => some (.invalidSchema .tooFewOperands)
  | operator _ .enough => none
  | otherKey kind _ => some (.unsupportedExpression kind)
  | otherNode => some (.invalidSchema .notNode)

/-! ## 2. Nodes -/

/-- The text of a value that is a string. -/
def textOf? : Value → Option String
  | .string text => some text
  | _ => none

/-- The items of a value that is a sequence. -/
def itemsOf : Value → List Value
  | .sequence items => items
  | _ => []

/-- A value in the place of operands. -/
def operandsOf : Value → Operands
  | .sequence (_ :: _ :: _) => .enough
  | .sequence _ => .tooFew
  | _ => .notSequence

/-- The face of a mapping with one entry. -/
def entryFace (kind : String) (operand : Value) : Face :=
  if hsymbol : kind = "symbol" then .symbol (textOf? operand)
  else if hiterate : kind = "iterate" then .iterate
  else if hunion : kind = "union" then .operator .union (operandsOf operand)
  else if hconcat : kind = "concat" then .operator .concat (operandsOf operand)
  else .otherKey kind (notMem_keys_iff.mpr ⟨hsymbol, hiterate, hunion, hconcat⟩)

/-- **The face of a node.** -/
def face : Value → Face
  | .string text => .word text
  | .mapping [(.string kind, operand)] => entryFace kind operand
  | .mapping [_] => .keyNotString
  | .mapping _ => .notOneEntry
  | _ => .otherNode

/-- The nodes right below a node, from left to right. -/
def below : Value → List Value
  | .mapping [(.string kind, operand)] =>
    if kind = "iterate" then [operand]
    else if kind = "union" ∨ kind = "concat" then itemsOf operand
    else []
  | _ => []

variable {v w : Value} {kind : String}

theorem sizeOf_itemsOf_lt (hw : w ∈ itemsOf v) : sizeOf w < sizeOf v := by
  match v with
  | .sequence items =>
      have : sizeOf w < sizeOf items := List.sizeOf_lt_of_mem hw
      rw [Value.sequence.sizeOf_spec]
      omega
  | .null | .bool _ | .number _ | .string _ | .mapping _ | .tagged _ _ => cases hw

theorem sizeOf_below_lt (hw : w ∈ below v) : sizeOf w < sizeOf v := by
  unfold below at hw
  split at hw
  · rename_i kind operand
    have hnode : sizeOf operand < sizeOf (Value.mapping [(.string kind, operand)]) :=
      sizeOf_operand_lt kind operand
    split at hw
    · obtain rfl := List.mem_singleton.mp hw
      exact hnode
    split at hw
    · exact Nat.lt_trans (sizeOf_itemsOf_lt hw) hnode
    · cases hw
  · cases hw

/-- **The nodes of a value**: each in front of those below it, and these from left to right. -/
def nodes (v : Value) : List Value :=
  v :: (below v).attach.flatMap fun w => nodes w.1
termination_by sizeOf v
decreasing_by exact sizeOf_below_lt w.2

/-- A node, and after it the nodes below it. -/
theorem nodes_eq (v : Value) : nodes v = v :: (below v).flatMap nodes := by
  rw [nodes, List.flatMap_subtype (g := nodes) (fun _ _ => rfl), List.unattach_attach]

/-! ## 3. Documents -/

/-- The faces of an entry: its name, and after it its nodes. -/
def facesOfEntry (entry : Value × Value) : List Face :=
  .name (textOf? entry.1).isSome :: (nodes entry.2).map face

/-- **The faces of a document**, in the order in which they stand in it. Only what is under the key
    of the expressions has faces. -/
def faces (d : Document) : List Face :=
  match d.get? expressionsKey with
  | none => [.missing]
  | some (.mapping entries) => .expressions true :: entries.flatMap facesOfEntry
  | some _ => [.expressions false]

/-! ## 4. Nodes by their keys -/

theorem face_symbol (w : Value) : face (node "symbol" w) = .symbol (textOf? w) := rfl

theorem face_iterate (w : Value) : face (node "iterate" w) = .iterate := rfl

theorem face_operator (op : Operator) (w : Value) :
    face (node op.kind w) = .operator op (operandsOf w) := by
  cases op with
  | union => rfl
  | concat => rfl

theorem below_symbol (w : Value) : below (node "symbol" w) = [] := rfl

theorem below_iterate (w : Value) : below (node "iterate" w) = [w] := rfl

theorem below_operator (op : Operator) (w : Value) : below (node op.kind w) = itemsOf w := by
  cases op with
  | union => rfl
  | concat => rfl

theorem face_otherKey (h : kind ∉ keys) (w : Value) : face (node kind w) = .otherKey kind h := by
  obtain ⟨hsymbol, hiterate, hunion, hconcat⟩ := notMem_keys_iff.mp h
  rw [node, face, entryFace, dif_neg hsymbol, dif_neg hiterate, dif_neg hunion, dif_neg hconcat]

theorem below_otherKey (h : kind ∉ keys) (w : Value) : below (node kind w) = [] := by
  obtain ⟨-, hiterate, hunion, hconcat⟩ := notMem_keys_iff.mp h
  rw [node, below, if_neg hiterate, if_neg (not_or.mpr ⟨hunion, hconcat⟩)]

theorem loadNode_otherKey (h : kind ∉ keys) (w : Value) :
    loadNode (node kind w) = .error (.unsupportedExpression kind) := by
  obtain ⟨hsymbol, hiterate, hunion, hconcat⟩ := notMem_keys_iff.mp h
  rw [loadNode_node]
  unfold loadEntry
  rw [if_neg hsymbol, if_neg hiterate, if_neg hunion, if_neg hconcat]

end EpsilonAutomata.Schema
