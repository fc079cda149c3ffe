import EpsilonAutomata.Regex.Basic
import EpsilonAutomata.Text.Escape

/-!
# The term text of an expression

The tree spelled out by constructors: the name of each kind, then its arguments in brackets. The
symbol of a leaf is quoted and escaped, so a bracket or a comma outside quotes always belongs to
the tree.
-/

namespace EpsilonAutomata.Regex

/-- The term text of an expression, such as `Concatenation(Symbol('a'), Empty)`. -/
def termText : Regex → String
  | epsilon => "Empty"
  | symbol c => "Symbol(" ++ Text.quotedChar c ++ ")"
  | union l r => "Union(" ++ l.termText ++ ", " ++ r.termText ++ ")"
  | concat l r => "Concatenation(" ++ l.termText ++ ", " ++ r.termText ++ ")"
  | star e => "Iteration(" ++ e.termText ++ ")"

end EpsilonAutomata.Regex
