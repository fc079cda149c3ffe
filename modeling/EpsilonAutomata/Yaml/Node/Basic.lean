import EpsilonAutomata.Yaml.Token.Basic

/-!
# Nodes

The structure of a document before its scalars get a type and its aliases a meaning.
-/

namespace EpsilonAutomata.Yaml

/-- What may stand in front of a node: the number of its anchor and its full tag. -/
structure Properties where
  anchor : Option Nat
  tag : Option (List Octet)

/-- No anchor and no tag. -/
def Properties.none : Properties := ⟨.none, .none⟩

/-- A node of a document. -/
inductive Node where
  | aliasOf (anchor : Nat)
  | scalar (properties : Properties) (style : ScalarStyle) (text : String)
  | sequence (properties : Properties) (items : List Node)
  | mapping (properties : Properties) (entries : List (Node × Node))

/-- The node where none is written: a plain scalar without text. -/
def Node.absent (p : Properties) : Node := .scalar p .plain ""

end EpsilonAutomata.Yaml
