import EpsilonAutomata.Yaml.Node.Document
import EpsilonAutomata.Yaml.Value.Scalar

/-!
# Reading a document

A document is a mapping whose keys are taken as text. To read it, aliases are replaced by the nodes
they name and scalars get their types. A document is refused as a whole if any part of it is at
fault: a collection nested too deep, a mapping with two equal keys, or so many aliases that reading
it would never end.
-/

namespace EpsilonAutomata.Yaml

/-! ## 1. Anchored nodes -/

namespace Node

/-- The properties of a node. -/
def properties : Node → Properties
  | aliasOf _ => .none
  | scalar p _ _ => p
  | sequence p _ => p
  | mapping p _ => p

/-- A node under the number of its anchor. -/
def anchorEntry (n : Node) : List (Nat × Node) :=
  match n.properties.anchor with
  | some number => [(number, n)]
  | none => []

mutual

/-- Puts the nodes with anchors in front of `found`, so that the last of the document is first. -/
def anchoredOnto (found : List (Nat × Node)) : Node → List (Nat × Node)
  | aliasOf _ => found
  | scalar p style text => anchorEntry (.scalar p style text) ++ found
  | sequence p items => anchoredItemsOnto (anchorEntry (.sequence p items) ++ found) items
  | mapping p entries => anchoredEntriesOnto (anchorEntry (.mapping p entries) ++ found) entries

/-- The same for the items of a sequence. -/
def anchoredItemsOnto (found : List (Nat × Node)) : List Node → List (Nat × Node)
  | [] => found
  | n :: rest => anchoredItemsOnto (anchoredOnto found n) rest

/-- The same for the entries of a mapping. -/
def anchoredEntriesOnto (found : List (Nat × Node)) : List (Node × Node) → List (Nat × Node)
  | [] => found
  | (k, v) :: rest => anchoredEntriesOnto (anchoredOnto (anchoredOnto found k) v) rest

end

mutual

/-- Adds to `counted` the signs a node consists of: one for a scalar or an alias, two for the bounds
    of a collection. -/
def countSigns (counted : Nat) : Node → Nat
  | aliasOf _ => counted + 1
  | scalar _ _ _ => counted + 1
  | sequence _ items => countItems (counted + 2) items
  | mapping _ entries => countEntries (counted + 2) entries

/-- The same for the items of a sequence. -/
def countItems (counted : Nat) : List Node → Nat
  | [] => counted
  | n :: rest => countItems (countSigns counted n) rest

/-- The same for the entries of a mapping. -/
def countEntries (counted : Nat) : List (Node × Node) → Nat
  | [] => counted
  | (k, v) :: rest => countEntries (countSigns (countSigns counted k) v) rest

end

end Node

/-! ## 2. Following aliases -/

/-- What aliases mean in a document, and how many may be followed while it is read. -/
structure Aliases where
  /-- The node of each anchor number; of several the last in the document. -/
  targets : List (Nat × Node)
  limit : Nat

/-- The aliases of a document. -/
def Aliases.of (root : Node) : Aliases := ⟨root.anchoredOnto [], 100 * root.countSigns 0⟩

/-- A reading that counts the aliases it followed, and may be refused. -/
abbrev Reading := StateT Nat Option

/-- The node itself, or the one an alias stands for. -/
def Aliases.follow (a : Aliases) (n : Node) : Reading Node := do
  match n with
  | .aliasOf number =>
    let followed := (← get) + 1
    set followed
    if followed ≤ a.limit then StateT.lift (a.targets.lookup number) else failure
  | n => pure n

/-- The value of a node, which may hold at most `depth` collections inside one another. -/
def Aliases.value (a : Aliases) : (depth : Nat) → Node → Reading Value
  | 0, n => do
    match ← a.follow n with
    | .scalar p style text => StateT.lift (scalarValue? p.tag style text)
    | _ => failure
  | depth + 1, n => do
    match ← a.follow n with
    | .aliasOf _ => failure
    | .scalar p style text => StateT.lift (scalarValue? p.tag style text)
    | .sequence p items =>
      let values ← items.mapM (a.value depth)
      return collectionValue p.tag (.sequence values)
    | .mapping p entries =>
      let values ← entries.mapM fun (k, v) => do
        let key ← a.value depth k
        let value ← a.value depth v
        return (key, value)
      if Value.distinctKeys values then return collectionValue p.tag (.mapping values)
      else failure

/-- The text of a key at the root of a document. -/
def Aliases.rootKey (a : Aliases) (n : Node) : Reading String := do
  match ← a.follow n with
  | .scalar _ _ text => return text
  | _ => failure

/-! ## 3. Documents -/

/-- A document: its entries in the order they were written. A key may occur twice. -/
structure Document where
  entries : List (String × Value)

namespace Document

/-- The value under a key; the last one counts. -/
def get? (key : String) (d : Document) : Option Value := d.entries.reverse.lookup key

/-- The document with this root. Nothing but a mapping or an absent root will do. -/
def ofNode? : Option Node → Option Document
  | none => some ⟨[]⟩
  | some (.scalar _ style text) => if style = .plain && text.isEmpty then some ⟨[]⟩ else none
  | some (.mapping p entries) =>
    let aliases := Aliases.of (.mapping p entries)
    let read := entries.mapM fun (k, v) => do
      let key ← aliases.rootKey k
      let value ← aliases.value (Frame.depthLimit - 1) v
      return (key, value)
    (read.run' 0).map Document.mk
  | some _ => none

/-- **Reads a document**; `none` if the text is not YAML or its root is no mapping. -/
def read? (text : String) : Option Document :=
  ((tokens? text.toList).bind document?).bind ofNode?

end Document

end EpsilonAutomata.Yaml
