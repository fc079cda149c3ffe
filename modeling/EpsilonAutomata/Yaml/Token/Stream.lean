import EpsilonAutomata.Yaml.Token.Block
import EpsilonAutomata.Yaml.Token.Plain
import EpsilonAutomata.Yaml.Token.Property
import EpsilonAutomata.Yaml.Token.Quoted
import EpsilonAutomata.Yaml.Token.Trivia

/-!
# From text to tokens

Tokens are read one after the other from the left. Two things need memory:

* indentation: the columns of the open block collections, innermost first. A token further right
  than the innermost may open a collection, a token further left closes those it left;
* keys: whether a node was the key of a mapping shows at the `:` behind it. Each flow level
  remembers the place of the latest node that could be one, and a `:` puts the key sign in front of
  that node. Such a key lies on one line and spans at most 1024 bytes of it.

A fault anywhere makes the whole text a fault.
-/

namespace EpsilonAutomata.Yaml

/-! ## 1. State -/

/-- A node that may turn out to be a key. -/
structure KeyCandidate where
  /-- How many tokens precede it. -/
  position : Nat
  /-- It stands where a block mapping needs a key, so it must turn out to be one. -/
  required : Bool
  /-- Where it begins. -/
  start : Cursor

/-- The most bytes of its line that a key may span, up to its `:`. -/
def keyLimit : Nat := 1024

/-- What has been read of a text. -/
structure Lexer where
  cursor : Cursor
  /-- The tokens so far, latest first, and their number. -/
  tokens : List Token
  count : Nat
  /-- The columns of the open block collections, innermost first. -/
  columns : List Nat
  /-- A key may begin at the cursor. -/
  keyAllowed : Bool
  /-- The candidate of the current flow level, and those of the levels around it. -/
  candidate : Option KeyCandidate
  outer : List (Option KeyCandidate)

namespace Lexer

/-- Nothing read yet. -/
def start (text : List Char) : Lexer := ⟨⟨text, 0, 0⟩, [], 0, [], true, none, []⟩

/-- The cursor stands inside a flow collection. -/
def inFlow (l : Lexer) : Bool := !l.outer.isEmpty

/-- Adds a token. -/
def emit (t : Token) (l : Lexer) : Lexer :=
  { l with tokens := t :: l.tokens, count := l.count + 1 }

/-- Puts tokens in front of the token with number `position`. -/
def insert (position : Nat) (ts : List Token) (l : Lexer) : Lexer :=
  let behind := l.count - position
  { l with
    tokens := l.tokens.take behind ++ ts.reverse ++ l.tokens.drop behind
    count := l.count + ts.length }

/-- Moves the cursor and says whether a key may begin there. -/
def moveTo (c : Cursor) (keyAllowed : Bool) (l : Lexer) : Lexer :=
  { l with cursor := c, keyAllowed }

/-- Passes over `n` characters and says whether a key may begin behind them. -/
def pass (n : Nat) (keyAllowed : Bool) (l : Lexer) : Lexer :=
  l.moveTo (l.cursor.advance n) keyAllowed

/-! ## 2. Indentation -/

/-- A block collection at this column would be a new one. -/
def opensAt (column : Nat) (l : Lexer) : Bool :=
  !l.inFlow && l.columns.head?.all (· < column)

/-- Closes the block collections for which `closed` holds of their column. Inside flow collections
    indentation means nothing. -/
def closeBlocks (closed : Nat → Bool) (l : Lexer) : Lexer :=
  if l.inFlow then l
  else
    let n := (l.columns.takeWhile closed).length
    { l with
      tokens := List.replicate n .blockEnd ++ l.tokens
      count := l.count + n
      columns := l.columns.drop n }

/-- Opens a block collection at the cursor unless one is open at this column. -/
def openBlock (t : Token) (l : Lexer) : Lexer :=
  if l.opensAt l.cursor.column then
    { l.emit t with columns := l.cursor.column :: l.columns }
  else l

/-! ## 3. Keys -/

/-- Gives up the candidate of the current level; a fault if it had to be a key. -/
def dropCandidate (l : Lexer) : Option Lexer :=
  if l.candidate.any (·.required) then none else some { l with candidate := none }

/-- Makes the node at the cursor the candidate of the current level, if a key may begin here. -/
def noteCandidate (l : Lexer) : Option Lexer :=
  if l.keyAllowed then do
    let l ← l.dropCandidate
    let required := !l.inFlow && l.columns.head? = some l.cursor.column
    return { l with candidate := some ⟨l.count, required, l.cursor⟩ }
  else some l

/-- The key that a `:` at the cursor belongs to, if the candidate is near enough. A candidate that
    had to be a key and is too far away is a fault. -/
def key? (l : Lexer) : Option (Option KeyCandidate) :=
  match l.candidate with
  | none => some none
  | some k =>
    if k.start.line = l.cursor.line && k.start.bytesTo l.cursor ≤ keyLimit then some (some k)
    else if k.required then none
    else some none

/-! ## 4. Tokens -/

/-- Ends all block collections, as the bounds of a document do. -/
def endBlocks (l : Lexer) : Option Lexer :=
  ((l.closeBlocks fun _ => true).dropCandidate).map fun l => { l with keyAllowed := false }

/-- A directive, at the cursor. -/
def directive (l : Lexer) : Option Lexer := do
  let l ← l.endBlocks
  let (t, c) ← readDirective (l.cursor.advance 1)
  return (l.emit t).moveTo c false

/-- A document marker. -/
def documentMarker (t : Token) (l : Lexer) : Option Lexer := do
  let l ← l.endBlocks
  return (l.emit t).pass 3 false

/-- The opening bracket of a flow collection, which may itself be a key. -/
def openFlow (t : Token) (l : Lexer) : Option Lexer := do
  let l ← l.noteCandidate
  return { (l.emit t).pass 1 true with candidate := none, outer := l.candidate :: l.outer }

/-- The closing bracket of a flow collection. -/
def closeFlow (t : Token) (l : Lexer) : Option Lexer := do
  let l ← l.dropCandidate
  let l := (l.emit t).pass 1 false
  match l.outer with
  | [] => return l
  | candidate :: outer => return { l with candidate, outer }

/-- The comma of a flow collection. -/
def flowEntry (l : Lexer) : Option Lexer := do
  let l ← l.dropCandidate
  return (l.emit .flowEntry).pass 1 true

/-- The dash of a block sequence. -/
def blockEntry (l : Lexer) : Option Lexer := do
  if !l.inFlow && !l.keyAllowed then none
  else
    let l ← (l.openBlock .blockSequence).dropCandidate
    return (l.emit .blockEntry).pass 1 true

/-- The question mark in front of a key. -/
def explicitKey (l : Lexer) : Option Lexer := do
  if !l.inFlow && !l.keyAllowed then none
  else
    let l ← (l.openBlock .blockMapping).dropCandidate
    return (l.emit .key).pass 1 !l.inFlow

/-- The colon in front of a value. -/
def value (l : Lexer) : Option Lexer := do
  match ← l.key? with
  | some k =>
    let l :=
      if l.opensAt k.start.column then
        { l.insert k.position [.blockMapping, .key] with columns := k.start.column :: l.columns }
      else l.insert k.position [.key]
    return { (l.emit .value).pass 1 false with candidate := none }
  | none =>
    if !l.inFlow && !l.keyAllowed then none
    else
      let l := l.openBlock .blockMapping
      return (l.emit .value).pass 1 !l.inFlow

/-- An anchor or an alias, at its indicator. -/
def named (t : String → Token) (l : Lexer) : Option Lexer := do
  let l ← l.noteCandidate
  let (name, c) ← readName (l.cursor.advance 1)
  return (l.emit (t name)).moveTo c false

/-- A tag, at its indicator. -/
def tag (l : Lexer) : Option Lexer := do
  let l ← l.noteCandidate
  let (t, c) ← readTag l.inFlow (l.cursor.advance 1)
  return (l.emit t).moveTo c false

/-- A block scalar, at its indicator. -/
def blockScalar (folded : Bool) (l : Lexer) : Option Lexer := do
  let l ← l.dropCandidate
  let (text, c) ← readBlock folded l.columns.head? (l.cursor.advance 1)
  return (l.emit (.scalar .block (String.ofList text))).moveTo c true

/-- A quoted scalar, at its quote. -/
def quotedScalar (double : Bool) (l : Lexer) : Option Lexer := do
  let l ← l.noteCandidate
  let ⟨rest, line, column⟩ := l.cursor.advance 1
  let (text, c) ←
    if double then readDoubleQuoted line column [] (.text .none) rest
    else readSingleQuoted line column [] .none rest
  return (l.emit (.scalar .quoted (String.ofList text))).moveTo c false

/-- A plain scalar, at its first character. -/
def plainScalar (l : Lexer) : Option Lexer := do
  let l ← l.noteCandidate
  let least := match l.columns.head? with
    | some column => column + 1
    | none => 0
  let s ← readPlain l.inFlow least l.cursor.line l.cursor.column [] .none l.cursor.rest
  return (l.emit (.scalar .plain (String.ofList s.text))).moveTo s.next s.brokeLine

/-! ## 5. The whole text -/

/-- Passes over what separates tokens, and closes the block collections the next token has left. -/
def approach (l : Lexer) : Lexer :=
  let (keyAllowed, c) :=
    skipTrivia l.inFlow l.keyAllowed false l.cursor.line l.cursor.column l.cursor.rest
  (l.moveTo c keyAllowed).closeBlocks (c.column < ·)

/-- Reads the token that begins with `c`, with `rest` behind it. -/
def readToken (c : Char) (rest : List Char) (l : Lexer) : Option Lexer :=
  let opensLine := l.cursor.column = 0
  if opensLine && c = '%' then l.directive
  else if opensLine && isTripled '-' (c :: rest) then l.documentMarker .documentStart
  else if opensLine && isTripled '.' (c :: rest) then l.documentMarker .documentEnd
  else if c = '[' then l.openFlow .flowSequence
  else if c = '\x7b' then l.openFlow .flowMapping
  else if c = ']' then l.closeFlow .flowSequenceEnd
  else if c = '\x7d' then l.closeFlow .flowMappingEnd
  else if c = ',' then l.flowEntry
  else if c = '-' && endsWord rest then l.blockEntry
  else if c = '?' && (l.inFlow || endsWord rest) then l.explicitKey
  else if c = ':' && (l.inFlow || endsWord rest) then l.value
  else if c = '*' then l.named .aliasOf
  else if c = '&' then l.named .anchor
  else if c = '!' then l.tag
  else if c = '|' && !l.inFlow then l.blockScalar false
  else if c = '>' && !l.inFlow then l.blockScalar true
  else if c = '\x27' then l.quotedScalar false
  else if c = '\x22' then l.quotedScalar true
  else if startsPlain l.inFlow (c :: rest) then l.plainScalar
  else none

/-- Reads at most `fuel` tokens, which must bring it to the end of the text. -/
def readAll : Nat → Lexer → Option (List Token)
  | 0, _ => none
  | fuel + 1, l =>
    let l := l.approach
    match l.cursor.rest with
    | [] => l.endBlocks.map fun l => (l.emit .streamEnd).tokens.reverse
    | c :: rest => (l.readToken c rest).bind (readAll fuel)

end Lexer

/-- **The tokens of a text**, or `none` if it is not YAML. Every token takes at least one character,
    so there are at most as many as characters, and the end of the text. -/
def tokens? (text : List Char) : Option (List Token) :=
  if text.all isAllowed then
    let text := normalizeBreaks text
    Lexer.readAll (text.length + 1) (.start text)
  else none

end EpsilonAutomata.Yaml
