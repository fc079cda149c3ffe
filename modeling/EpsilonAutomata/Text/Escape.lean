import EpsilonAutomata.Text.GraphemeExtend
import EpsilonAutomata.Text.Unprintable

/-!
# Quoted characters and strings

A quoted text stays on one line and can be read back: the quote itself, the backslash and the usual
control characters have short escapes, and every other character that would not stand visibly for
itself is written by its code point, `\u{hex}`.
-/

namespace EpsilonAutomata.Text

/-- A code point in lower-case hexadecimal, without leading zeros. -/
def hexText (n : Nat) : String := String.ofList (Nat.toDigits 16 n)

/-- A character written by its code point. -/
def codePointEscape (c : Char) : String := "\\u\x7b" ++ hexText c.toNat ++ "\x7d"

/-- The Hangul fillers: letters that are drawn as nothing. -/
def isFiller (c : Char) : Bool := c = '\u115f' || c = '\u1160' || c = '\u3164' || c = '\uffa0'

/-- The halfwidth voicing marks: they extend the character before them, but in a cell of their
    own. -/
def isSpacingMark (c : Char) : Bool := c = '\uff9e' || c = '\uff9f'

/-- The character has a shape that can be seen without another character. -/
def standsVisibly (c : Char) : Bool :=
  !isUnprintable c && !isFiller c && (isSpacingMark c || !isGraphemeExtend c)

/-- One character inside quotes; `quote` is the quote that surrounds it. -/
def escapeChar (quote c : Char) : String :=
  if c = '\x00' then "\\0"
  else if c = '\t' then "\\t"
  else if c = '\r' then "\\r"
  else if c = '\n' then "\\n"
  else if c = '\\' then "\\\\"
  else if c = quote then "\\" ++ c.toString
  else if standsVisibly c then c.toString
  else codePointEscape c

/-- A character in single quotes. -/
def quotedChar (c : Char) : String := "\x27" ++ escapeChar '\x27' c ++ "\x27"

/-- A string in double quotes. -/
def quotedString (s : String) : String :=
  "\x22" ++ String.join (s.toList.map (escapeChar '\x22')) ++ "\x22"

end EpsilonAutomata.Text
