import EpsilonAutomata.Yaml.Token.Basic

/-!
# Anchors, tags and directives

The small lexemes around nodes: names behind `&` and `*`, tags behind `!`, and the directives
`%YAML` and `%TAG` in front of a document. A tag is a row of bytes, because its characters can be
written as escaped bytes; a zero byte ends it.
-/

namespace EpsilonAutomata.Yaml

/-! ## 1. Anchors -/

/-- Reads the name of an anchor or alias. It must be followed by the end of a word or by an
    indicator that can end it. -/
def readName (c : Cursor) : Option (String × Cursor) :=
  let name := c.rest.takeWhile isWordChar
  let next := c.advance name.length
  let ended := endsWord next.rest || next.rest.head?.any "?:,]\x7d%@\x60".toList.contains
  if name.isEmpty || !ended then none else some (String.ofList name, next)

/-! ## 2. Tags -/

/-- The bytes of a text. -/
def octets (text : List Char) : List Octet := (String.ofList text).toUTF8.toList

/-- The character can stand in a tag; `verbatim` admits those that end a tag in a flow
    collection. -/
def isTagChar (verbatim : Bool) (c : Char) : Bool :=
  isWordChar c || ";/?:@&=+$.!~*\x27()".toList.contains c ||
    (verbatim && (c = ',' || c = '[' || c = ']'))

/-- How many bytes a UTF-8 sequence with this first byte has. -/
def sequenceLength? (octet : Nat) : Option Nat :=
  if octet < 0x80 then some 1
  else if octet < 0xc0 then none
  else if octet < 0xe0 then some 2
  else if octet < 0xf0 then some 3
  else if octet < 0xf8 then some 4
  else none

/-- Reads the characters of a tag. `pending` is the number of escaped bytes that must still follow,
    and `read` holds the bytes so far, latest first. -/
def readTagChars (verbatim : Bool) (line column pending : Nat) (read : List Octet) :
    List Char → Option (List Octet × Cursor)
  | '%' :: a :: b :: rest =>
    match hexDigit? a, hexDigit? b with
    | some high, some low =>
      let octet := 16 * high + low
      let more := octet.toUInt8 :: read
      if pending = 0 then
        match sequenceLength? octet with
        | none => none
        | some n => readTagChars verbatim line (column + 3) (n - 1) more rest
      else if 0x80 ≤ octet && octet < 0xc0 then
        readTagChars verbatim line (column + 3) (pending - 1) more rest
      else none
    | _, _ => none
  | c :: rest =>
    if pending ≠ 0 || c = '%' then none
    else if isTagChar verbatim c then
      readTagChars verbatim line (column + 1) 0 (c.toNat.toUInt8 :: read) rest
    else some (read.reverse, ⟨c :: rest, line, column⟩)
  | [] => if pending ≠ 0 then none else some (read.reverse, ⟨[], line, column⟩)

/-- Reads the characters of a tag from a cursor; there must be at least one. -/
def readTagText (verbatim : Bool) (c : Cursor) : Option (List Octet × Cursor) :=
  match readTagChars verbatim c.line c.column 0 [] c.rest with
  | some ([], _) => none
  | other => other

/-- The bytes before the first zero byte. -/
def untilZero (bytes : List Octet) : List Octet := bytes.takeWhile (· ≠ 0)

/-- Reads a handle: `!`, a name, and a second `!` if there is one. Behind the opening `!`. -/
def readHandle (c : Cursor) : List Char × Cursor :=
  let name := c.rest.takeWhile isWordChar
  let next := c.advance name.length
  if next.rest.head? = some '!' then ('!' :: name ++ ['!'], next.advance 1) else ('!' :: name, next)

/-- A tag may end here. -/
def endsTag (inFlow : Bool) (text : List Char) : Bool :=
  endsWord text || (inFlow && text.head? = some ',')

/-- Reads a tag behind its `!`. A tag without a handle of its own has the handle `!`; the tag `!`
    alone and verbatim tags have none. -/
def readTag (inFlow : Bool) (c : Cursor) : Option (Token × Cursor) := do
  let (token, next) ←
    if c.rest.head? = some '<' then do
      let (text, next) ← readTagText true (c.advance 1)
      if next.rest.head? = some '>' then
        pure (Token.tag "" (untilZero text), next.advance 1)
      else none
    else
      let (handle, next) := readHandle c
      if 2 ≤ handle.length && handle.getLast? = some '!' then do
        let (text, next) ← readTagText false next
        pure (Token.tag (String.ofList handle) (untilZero text), next)
      else do
        let (text, next) ← readTagChars false next.line next.column 0 [] next.rest
        let suffix := untilZero (octets (handle.drop 1) ++ text)
        pure (if suffix.isEmpty then Token.tag "" (octets ['!']) else Token.tag "!" suffix, next)
  if endsTag inFlow next.rest then return (token, next) else none

/-! ## 3. Directives -/

/-- Reads a number of at most nine digits. -/
def readNumber (c : Cursor) : Option (Nat × Cursor) :=
  let digits := c.rest.takeWhile Char.isDigit
  if digits.isEmpty || 9 < digits.length then none
  else some (digits.foldl (fun n d => 10 * n + (d.toNat - '0'.toNat)) 0, c.advance digits.length)

/-- Reads the version of a `%YAML` directive. -/
def readVersion (c : Cursor) : Option (Token × Cursor) := do
  let (major, c) ← readNumber c
  if c.rest.head? = some '.' then
    let (minor, c) ← readNumber (c.advance 1)
    return (.version major minor, c)
  else none

/-- Reads the handle and the text it is short for in a `%TAG` directive. -/
def readShorthand (c : Cursor) : Option (Token × Cursor) := do
  if c.rest.head? = some '!' then
    let (handle, c) := readHandle (c.advance 1)
    if handle.getLast? ≠ some '!' || !(c.rest.head?.any isBlank) then none
    else
      let (lead, c) ← readTagText true (c.skipWhile isBlank)
      if endsWord c.rest then return (.tagShorthand (String.ofList handle) (untilZero lead), c)
      else none
  else none

/-- Passes over the rest of a line that may only hold blanks and a comment, and over its break. -/
def skipLineEnd (c : Cursor) : Option Cursor :=
  let c := c.skipWhile isBlank
  let c := if c.rest.head? = some '#' then c.skipWhile (!isBreak ·) else c
  match c.rest with
  | [] => some c
  | b :: rest => if isBreak b then some ⟨rest, c.line + 1, 0⟩ else none

/-- Reads a directive behind its `%`. -/
def readDirective (c : Cursor) : Option (Token × Cursor) := do
  let name := c.rest.takeWhile isWordChar
  let c := c.advance name.length
  if name.isEmpty || !endsWord c.rest then none
  else
    let c := c.skipWhile isBlank
    let (token, c) ←
      if name = "YAML".toList then readVersion c
      else if name = "TAG".toList then readShorthand c
      else none
    let c ← skipLineEnd c
    return (token, c)

end EpsilonAutomata.Yaml
