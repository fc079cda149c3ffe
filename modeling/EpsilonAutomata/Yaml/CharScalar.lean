/-!
# One character as a scalar

How a string of one character is written as a YAML scalar. The style is chosen so that the reader
of this library takes the scalar for that string again: plain only if the character would not read
as a number, a null or an indicator, in single quotes if quoting is enough, and escaped in double
quotes if the character may not stand in a document. The line break takes a literal block.
-/

namespace EpsilonAutomata.Yaml

/-- The way a one-character string is written. -/
inductive CharStyle where
  | plain
  | singleQuoted
  /-- In double quotes, by the given escape. -/
  | escaped (sequence : String)
  /-- A literal block with one empty line. -/
  | literal
  /-- In single quotes with a fold: the character itself breaks the line. -/
  | foldedBreak
deriving DecidableEq

/-- Two upper-case hexadecimal digits. -/
def hexPair (n : Nat) : String :=
  String.ofList [(Nat.digitChar (n / 16)).toUpper, (Nat.digitChar (n % 16)).toUpper]

/-- The ASCII characters that would not read back plain, but do in single quotes. -/
def needsQuotes (c : Char) : Bool :=
  c.isDigit || " !\x22#%&\x27*,->:?@[]\x7b\x7d|~\x60".toList.contains c

/-- The style of a character. -/
def charStyle (c : Char) : CharStyle :=
  if c = '\n' then .literal
  else if c = '\u2028' || c = '\u2029' then .foldedBreak
  else if c = '\x00' then .escaped "\\0"
  else if c = '\x07' then .escaped "\\a"
  else if c = '\x08' then .escaped "\\b"
  else if c = '\t' then .escaped "\\t"
  else if c = '\x0b' then .escaped "\\v"
  else if c = '\x0c' then .escaped "\\f"
  else if c = '\r' then .escaped "\\r"
  else if c = '\x1b' then .escaped "\\e"
  else if c = '\u0085' then .escaped "\\N"
  else if c.toNat < 0x20 || (0x7f ≤ c.toNat && c.toNat < 0xa0) then
    .escaped ("\\x" ++ hexPair c.toNat)
  else if c = '\ufeff' then .escaped "\\uFEFF"
  else if c = '\ufffe' then .escaped "\\uFFFE"
  else if c = '\uffff' then .escaped "\\uFFFF"
  else if needsQuotes c then .singleQuoted
  else .plain

/-- The scalar, without the line break that ends its line. -/
def charScalar (c : Char) : String :=
  match charStyle c with
  | .plain => c.toString
  | .singleQuoted => if c = '\x27' then "\x27\x27\x27\x27" else "\x27" ++ c.toString ++ "\x27"
  | .escaped sequence => "\x22" ++ sequence ++ "\x22"
  | .literal => "|2+\n"
  | .foldedBreak => "\x27" ++ c.toString ++ "      \x27"

end EpsilonAutomata.Yaml
