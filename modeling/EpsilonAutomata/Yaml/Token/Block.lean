import EpsilonAutomata.Yaml.Character

/-!
# Block scalars

A block scalar is a header line and the lines indented at least as far as its first line that is not
empty. Literal scalars keep their line breaks; folded ones join neighbouring lines with a space,
unless one of the two begins with a blank. What happens to the line breaks at the end is the
header's choice.
-/

namespace EpsilonAutomata.Yaml

/-! ## 1. The header -/

/-- Which line breaks at the end belong to the text: none, the first, or all. -/
inductive Chomping where
  | strip
  | clip
  | keep
deriving DecidableEq

/-- A header: the chomping and the number of columns of indentation, if they are given. -/
structure BlockHeader where
  chomping : Chomping
  indentation : Option Nat

/-- The indicator for a chomping. -/
def chomping? : Char → Option Chomping
  | '-' => some .strip
  | '+' => some .keep
  | _ => none

/-- Reads the indicators of a header, in either order. The digit zero is a fault. -/
def readIndicators : List Char → Option (BlockHeader × List Char)
  | c :: d :: rest =>
    match chomping? c, chomping? d with
    | some chomping, _ =>
      if d = '0' then none
      else if d.isDigit then some (⟨chomping, some (d.toNat - '0'.toNat)⟩, rest)
      else some (⟨chomping, none⟩, d :: rest)
    | none, after =>
      if c = '0' then none
      else if c.isDigit then
        match after with
        | some chomping => some (⟨chomping, some (c.toNat - '0'.toNat)⟩, rest)
        | none => some (⟨.clip, some (c.toNat - '0'.toNat)⟩, d :: rest)
      else some (⟨.clip, none⟩, c :: d :: rest)
  | [c] =>
    match chomping? c with
    | some chomping => some (⟨chomping, none⟩, [])
    | none =>
      if c = '0' then none
      else if c.isDigit then some (⟨.clip, some (c.toNat - '0'.toNat)⟩, [])
      else some (⟨.clip, none⟩, [c])
  | [] => some (⟨.clip, none⟩, [])

/-- The rest of a line that may only hold blanks and a comment; `none` if it holds more. The line
    break stays. -/
def dropComment (text : List Char) : Option (List Char) :=
  let text := text.dropWhile isBlank
  let text := if text.head? = some '#' then text.dropWhile (!isBreak ·) else text
  match text with
  | [] => some []
  | c :: _ => if isBreak c then some text else none

/-! ## 2. The lines -/

/-- What has been read of a block scalar; characters are kept latest first. -/
structure BlockText where
  /-- The column its lines begin at, once it is known. -/
  indentation : Option Nat
  /-- The widest indentation of an empty line so far. -/
  widest : Nat
  text : List Char
  /-- The line break of the last line that is not empty. -/
  lineBreak : List Char
  /-- The line breaks of the empty lines after it. -/
  emptyLines : List Char
  /-- The last line that is not empty begins with a blank. -/
  afterBlank : Bool

namespace BlockText

/-- Nothing read yet. -/
def start (indentation : Option Nat) : BlockText := ⟨indentation, 0, [], [], [], false⟩

/-- A line that is not empty begins with `c`: settles the line breaks before it. -/
def beginLine (folded : Bool) (c : Char) (b : BlockText) : BlockText :=
  let joins := folded && b.lineBreak = ['\n'] && !b.afterBlank && !isBlank c
  let text :=
    if joins then (if b.emptyLines.isEmpty then ' ' :: b.text else b.text)
    else b.lineBreak ++ b.text
  { b with
    text := c :: (b.emptyLines ++ text)
    lineBreak := []
    emptyLines := []
    afterBlank := isBlank c }

/-- The text with the line breaks at its end that the chomping keeps. -/
def finish (chomping : Chomping) (b : BlockText) : List Char :=
  match chomping with
  | .strip => b.text.reverse
  | .clip => (b.lineBreak ++ b.text).reverse
  | .keep => (b.emptyLines ++ b.lineBreak ++ b.text).reverse

end BlockText

/-- Reads the lines of a block scalar. `least` is the smallest indentation its first line may have,
    and `inLine` says whether the indentation of the current line has been passed. -/
def readBlockLines (folded : Bool) (least line column : Nat) (b : BlockText) (inLine : Bool) :
    List Char → Option (BlockText × Cursor)
  | [] => some (b, ⟨[], line, column⟩)
  | c :: rest =>
    if inLine then
      if isBreak c then
        readBlockLines folded least (line + 1) 0 { b with lineBreak := [c] } false rest
      else readBlockLines folded least line (column + 1) { b with text := c :: b.text } true rest
    else
      let indenting := b.indentation.all (column < ·)
      if c = ' ' && indenting then
        readBlockLines folded least line (column + 1) { b with widest := max b.widest (column + 1) }
          false rest
      else if c = '\t' && indenting then none
      else if isBreak c then
        readBlockLines folded least (line + 1) 0 { b with emptyLines := c :: b.emptyLines } false
          rest
      else
        let indentation := b.indentation.getD (max b.widest least)
        if column = indentation then
          readBlockLines folded least line (column + 1)
            ({ b with indentation := some indentation }.beginLine folded c) true rest
        else some (b, ⟨c :: rest, line, column⟩)

/-- Reads a block scalar behind its indicator `|` or `>`, inside a collection indented by `parent`
    columns, or inside none. -/
def readBlock (folded : Bool) (parent : Option Nat) (c : Cursor) :
    Option (List Char × Cursor) := do
  let (header, text) ← readIndicators c.rest
  let text ← dropComment text
  let given := header.indentation.map (· + parent.getD 0)
  let least := match parent with
    | some column => column + 1
    | none => 1
  let (b, next) ← readBlockLines folded least (c.line + 1) 0 (.start given) false (text.drop 1)
  return (b.finish header.chomping, next)

end EpsilonAutomata.Yaml
