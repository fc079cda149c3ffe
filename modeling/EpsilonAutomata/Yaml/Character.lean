/-!
# Characters of a YAML text

The classes of characters the reader distinguishes, and the line breaks. A text may break its lines
in six ways; `normalizeBreaks` reduces them to three characters, so that the rest of the reader sees
one character for each break.
-/

namespace EpsilonAutomata.Yaml

/-! ## 1. Classes -/

/-- The character may stand in a YAML text. -/
def isAllowed (c : Char) : Bool :=
  let n := c.toNat
  c = '\t' || c = '\n' || c = '\r' || (0x20 ≤ n && n ≤ 0x7e) || n = 0x85 ||
    (0xa0 ≤ n && n ≤ 0xfffd) || 0x10000 ≤ n

/-- The byte-order mark. -/
def byteOrderMark : Char := '\ufeff'

/-- Space or tab. -/
def isBlank (c : Char) : Bool := c = ' ' || c = '\t'

/-- A line break, in a text with normalized breaks. -/
def isBreak (c : Char) : Bool := c = '\n' || c = '\u2028' || c = '\u2029'

/-- Letters, digits, `_` and `-`: the characters of anchors, tag handles and directive names. -/
def isWordChar (c : Char) : Bool := c.isAlphanum || c = '_' || c = '-'

/-- The brackets of flow collections and the comma between their entries. -/
def isFlowIndicator (c : Char) : Bool :=
  c = ',' || c = '[' || c = ']' || c = '\x7b' || c = '\x7d'

/-- The value of a hexadecimal digit. -/
def hexDigit? (c : Char) : Option Nat :=
  if c.isDigit then some (c.toNat - '0'.toNat)
  else if 'a' ≤ c && c ≤ 'f' then some (c.toNat - 'a'.toNat + 10)
  else if 'A' ≤ c && c ≤ 'F' then some (c.toNat - 'A'.toNat + 10)
  else none

/-! ## 2. What follows -/

/-- A blank, a line break or the end of the text follows. -/
def endsWord : List Char → Bool
  | [] => true
  | c :: _ => isBlank c || isBreak c

/-- Three times `mark`, and then the end of a word. -/
def isTripled (mark : Char) : List Char → Bool
  | a :: b :: c :: rest => a = mark && b = mark && c = mark && endsWord rest
  | _ => false

/-- A document marker, `---` or `...`, follows. -/
def isDocumentMarker (text : List Char) : Bool := isTripled '-' text || isTripled '.' text

/-! ## 3. Line breaks -/

/-- Puts the text behind `read`, which is kept latest character first, with normalized breaks. -/
def normalizeOnto (read : List Char) : List Char → List Char
  | [] => read.reverse
  | '\r' :: '\n' :: rest => normalizeOnto ('\n' :: read) rest
  | c :: rest => normalizeOnto ((if c = '\r' || c = '\u0085' then '\n' else c) :: read) rest

/-- Writes CR LF, CR and NEL as LF. The line and paragraph separators keep their identity, because
    folding keeps them. -/
def normalizeBreaks (text : List Char) : List Char := normalizeOnto [] text

/-- What is left of consecutive line breaks between two words: a single line feed becomes a space,
    further breaks after a line feed stay, and a separator stays together with what follows. -/
def foldBreaks : List Char → List Char
  | [] => []
  | ['\n'] => [' ']
  | '\n' :: more => more
  | breaks => breaks

/-! ## 4. Position -/

/-- The text still to be read, and where in the document it begins. -/
structure Cursor where
  rest : List Char
  line : Nat
  column : Nat

namespace Cursor

/-- Passes over `n` characters of the current line. -/
def advance (c : Cursor) (n : Nat) : Cursor := ⟨c.rest.drop n, c.line, c.column + n⟩

/-- Passes over the characters of the current line for which `p` holds. -/
def skipWhile (p : Char → Bool) (c : Cursor) : Cursor := c.advance (c.rest.takeWhile p).length

/-- The length in UTF-8 of what stands between two places of one line. -/
def bytesTo (start stop : Cursor) : Nat :=
  (start.rest.take (stop.column - start.column)).foldl (· + ·.utf8Size) 0

end Cursor

end EpsilonAutomata.Yaml
