import EpsilonAutomata.Regex.Basic

/-!
# The pattern text of an expression

The usual way of writing regular expressions, such as `a(b|c)*`. Union binds loosest, then
juxtaposition, then the star; the two binary operators lean to the left. Brackets stand exactly
where an operand binds looser than its place asks for, and the six characters that have a meaning
of their own are written after a backslash.
-/

namespace EpsilonAutomata.Regex

/-- How tightly the root node binds. -/
def precedence : Regex → Nat
  | union _ _ => 0
  | concat _ _ => 1
  | star _ => 2
  | epsilon => 3
  | symbol _ => 3

/-- The characters a pattern gives a meaning to. -/
def isReserved (c : Char) : Bool :=
  c = '|' || c = '*' || c = '(' || c = ')' || c = '\\' || c = 'ε'

/-- A symbol in a pattern: reserved characters follow a backslash. -/
def symbolText (c : Char) : String :=
  if isReserved c then "\\" ++ c.toString else c.toString

/-- Puts `text`, the pattern of `e`, in brackets if `e` binds looser than `least`. -/
def bracketed (least : Nat) (e : Regex) (text : String) : String :=
  if e.precedence < least then "(" ++ text ++ ")" else text

/-- The pattern text of an expression. -/
def patternText : Regex → String
  | epsilon => "ε"
  | symbol c => symbolText c
  | union l r => bracketed 0 l l.patternText ++ "|" ++ bracketed 1 r r.patternText
  | concat l r => bracketed 1 l l.patternText ++ bracketed 2 r r.patternText
  | star e => bracketed 3 e e.patternText ++ "*"

end EpsilonAutomata.Regex
