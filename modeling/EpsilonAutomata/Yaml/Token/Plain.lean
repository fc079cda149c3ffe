import EpsilonAutomata.Yaml.Token.Gap

/-!
# Plain scalars

A plain scalar ends before `: ` and before a comment, in a flow collection also before a bracket or
a comma, and in a block collection where a line is indented no further than the collection. The
blanks and line breaks behind its last word belong to no token, but have been read.
-/

namespace EpsilonAutomata.Yaml

/-- A plain scalar can begin here. -/
def startsPlain (inFlow : Bool) : List Char → Bool
  | [] => false
  | c :: rest =>
    if isBlank c || isBreak c then false
    else if c = '-' then !(rest.head?.any isBlank)
    else if c = '?' || c = ':' then !inFlow && !endsWord rest
    else !("#&*!|>\x27\x22%@\x60".toList.contains c || isFlowIndicator c)

/-- What a plain scalar was read as: its text, whether a line break follows its last word, and the
    place behind that gap. -/
structure PlainScalar where
  text : List Char
  brokeLine : Bool
  next : Cursor

/-- The scalar ends before `c :: rest`, at the first character of a word or inside one. -/
def endsPlain (inFlow : Bool) (c : Char) (rest : List Char) : Bool :=
  (c = ':' && endsWord rest) || (inFlow && isFlowIndicator c)

/-- The scalar ends before the word `word`, which follows a gap. -/
def endsPlainAfterGap (inFlow : Bool) (least column : Nat) (word : List Char) : Bool :=
  (!inFlow && column < least) || (column = 0 && isDocumentMarker word) || word.head? = some '#'

/-- The scalar with the text `read`, kept latest character first, and the gap behind it. -/
def PlainScalar.upTo (read : List Char) (gap : Gap) (next : Cursor) : PlainScalar :=
  ⟨read.reverse, gap.hasBreak, next⟩

/-- Reads a plain scalar. Words of a block collection stand at column `least` or further right.
    `read` is the text so far, latest character first, and `gap` what follows its last word. -/
def readPlain (inFlow : Bool) (least line column : Nat) (read : List Char) (gap : Gap) :
    List Char → Option PlainScalar
  | [] => some (.upTo read gap ⟨[], line, column⟩)
  | c :: rest =>
    if isBreak c then readPlain inFlow least (line + 1) 0 read (gap.add c) rest
    else if isBlank c then
      if c = '\t' && gap.hasBreak && column < least then none
      else readPlain inFlow least line (column + 1) read (gap.add c) rest
    else if gap ≠ .none && endsPlainAfterGap inFlow least column (c :: rest) then
      some (.upTo read gap ⟨c :: rest, line, column⟩)
    else if inFlow && c = ':' && rest.head?.any (fun d => d = '?' || isFlowIndicator d) then none
    else if endsPlain inFlow c rest then some (.upTo read gap ⟨c :: rest, line, column⟩)
    else readPlain inFlow least line (column + 1) (c :: gap.onto read) .none rest

end EpsilonAutomata.Yaml
