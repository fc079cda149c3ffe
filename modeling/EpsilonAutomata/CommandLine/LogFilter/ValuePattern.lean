import EpsilonAutomata.Text.Alphanumeric
import EpsilonAutomata.Yaml.Character
import EpsilonAutomata.Yaml.Value.Number

/-!
# Patterns for the value of a field

A filter may ask for the value of a field, by a number or by a pattern. Filters here see no values,
so all that matters of a pattern is whether it is one. It is read from left to right:

* `( )` group, `|` separates alternatives, and `*`, `+`, `?` need something to repeat, which one
  further `?` may follow;
* a group may begin with `?`, flags and `:`, or with `?<name>` or `?P<name>`; flags without a colon
  count for the rest of the group around them;
* `[ ]` hold a class: characters, ranges, escapes and further classes;
* braces repeat as well, but the text of a field ends before the closing one, so that outside of
  classes an opening one is a fault.

Letters are compared by their code points alone: a flag or an escape that needs a table of letters
is a fault unless the flag `u` is off, which restricts the pattern to ASCII.
-/

namespace EpsilonAutomata.CommandLine.ValuePattern

open Yaml (hexDigit?)

/-! ## 1. Escapes -/

/-- What stands behind a backslash. -/
inductive Escape where
  | literal (c : Char)
  /-- The digits, blanks or word characters, or all others. -/
  | wordClass (negated : Bool)
  /-- The edge of a word. -/
  | wordEdge
  /-- The beginning or the end of the text. -/
  | textEdge

/-- The character that a letter behind a backslash stands for. -/
def control? : Char → Option Char
  | 'a' => some '\x07'
  | 'f' => some '\x0c'
  | 'n' => some '\n'
  | 'r' => some '\r'
  | 't' => some '\t'
  | 'v' => some '\x0b'
  | _ => none

/-- How many hexadecimal digits follow a letter behind a backslash. -/
def hexLength? : Char → Option Nat
  | 'x' => some 2
  | 'u' => some 4
  | 'U' => some 8
  | _ => none

/-- The character whose code point these digits write. -/
def charOfHex? (digits : List Char) : Option Char := do
  let n ← digits.foldlM (fun n c => (hexDigit? c).map (16 * n + ·)) 0
  if n.isValidChar then some (Char.ofNat n) else none

/-- Signs of ASCII that are no letters or digits stand for themselves behind a backslash. -/
def isSign (c : Char) : Bool := c.toNat < 0x80 && !c.isAlphanum && c ≠ '<' && c ≠ '>'

/-- Reads what stands behind a backslash. -/
def readEscape? : List Char → Option (Escape × List Char)
  | [] => none
  | c :: rest =>
    match hexLength? c, control? c with
    | some n, _ =>
      if rest.length < n then none
      else (charOfHex? (rest.take n)).map fun x => (.literal x, rest.drop n)
    | none, some x => some (.literal x, rest)
    | none, none =>
      if isSign c then some (.literal c, rest)
      else if c = 'd' || c = 's' || c = 'w' then some (.wordClass false, rest)
      else if c = 'D' || c = 'S' || c = 'W' then some (.wordClass true, rest)
      else if c = 'b' || c = 'B' || c = '<' || c = '>' then some (.wordEdge, rest)
      else if c = 'A' || c = 'z' then some (.textEdge, rest)
      else none

/-! ## 2. Flags -/

/-- The flags that decide what a pattern may hold. -/
structure Flags where
  ignoreCase : Bool
  /-- The pattern is about all characters and not only about ASCII. -/
  allScripts : Bool

namespace Flags

/-- A character may stand for itself. -/
def allowsLiteral (f : Flags) (c : Char) : Bool :=
  if f.allScripts then !f.ignoreCase else c.toNat < 0x80

/-- An escape may be used. -/
def allows (f : Flags) : Escape → Bool
  | .literal c => f.allowsLiteral c
  | .wordClass negated => !f.allScripts && !negated
  | .wordEdge => !f.allScripts
  | .textEdge => true

/-- A flag after `on` has been switched on and `off` has been switched off. -/
def switch (old : Bool) (on off : List Char) (flag : Char) : Bool :=
  on.contains flag || (old && !off.contains flag)

/-- The flags after the letters of a group: those behind `-` are switched off. No sign may occur
    twice, and the last is a letter. -/
def change? (letters : List Char) (f : Flags) : Option Flags :=
  let on := letters.takeWhile (· ≠ '-')
  let off := letters.dropWhile (· ≠ '-')
  if letters.all "imsUuRx-".toList.contains && letters.Nodup && letters.getLast? ≠ some '-' then
    some ⟨switch f.ignoreCase on off 'i', switch f.allScripts on off 'u'⟩
  else none

end Flags

/-! ## 3. Classes -/

/-- What follows the opening bracket of a class: an optional `^`, and dashes or a closing bracket
    that stand for themselves. -/
def openClass (text : List Char) : List Char :=
  let text := if text.head? = some '^' then text.drop 1 else text
  let inner := text.dropWhile (· = '-')
  if text.head? = some ']' then text.drop 1 else inner

/-- Reads one end of a range, or a member of a class that is no range. -/
def readMember? (f : Flags) : List Char → Option (Escape × List Char)
  | [] => none
  | '\\' :: rest => (readEscape? rest).filter fun (e, _) => f.allows e
  | c :: rest => if f.allowsLiteral c then some (.literal c, rest) else none

/-- Two members are the ends of a range. -/
def isRange : Escape → Escape → Bool
  | .literal a, .literal b => a ≤ b
  | _, _ => false

/-- A member may stand in a class without being the end of a range. -/
def isMember : Escape → Bool
  | .literal _ => true
  | .wordClass _ => true
  | _ => false

/-- Reads the rest of a class that stands inside `around` others, and answers what follows the
    outermost. Doubled signs combine two classes. -/
def readClass? (f : Flags) : (fuel around : Nat) → List Char → Option (List Char)
  | 0, _, _ => none
  | _, _, [] => none
  | fuel + 1, around, '[' :: rest => readClass? f fuel (around + 1) (openClass rest)
  | fuel + 1, around, ']' :: rest =>
    match around with
    | 0 => some rest
    | around + 1 => readClass? f fuel around rest
  | fuel + 1, around, '&' :: '&' :: rest => readClass? f fuel around rest
  | fuel + 1, around, '-' :: '-' :: rest => readClass? f fuel around rest
  | fuel + 1, around, '~' :: '~' :: rest => readClass? f fuel around rest
  | fuel + 1, around, text => do
    let (first, rest) ← readMember? f text
    let continues := match rest with
      | '-' :: next :: _ => next ≠ ']' && next ≠ '-'
      | _ => false
    if continues then
      let (last, rest) ← readMember? f (rest.drop 1)
      if isRange first last then readClass? f fuel around rest else none
    else if isMember first then readClass? f fuel around rest
    else none

/-! ## 4. Groups -/

/-- The opening of a group: flags for the rest of the group around it, or a new group. -/
inductive Opening where
  | flags (f : Flags)
  | group (f : Flags) (name : Option (List Char))

/-- The name of a group. -/
def isGroupName : List Char → Bool
  | [] => false
  | c :: rest =>
    (c = '_' || (Text.isAlphanumeric c && !c.isDigit)) &&
      rest.all fun d => Text.isAlphanumeric d || "_.[]".toList.contains d

/-- Reads the name of a group and the `>` behind it. -/
def readName? (f : Flags) (text : List Char) : Option (Opening × List Char) :=
  let name := text.takeWhile (· ≠ '>')
  match text.dropWhile (· ≠ '>') with
  | _ :: rest => if isGroupName name then some (.group f (some name), rest) else none
  | [] => none

/-- Reads the flags of a group and the colon or the bracket behind them. A bracket needs flags in
    front of it. -/
def readFlags? (f : Flags) (text : List Char) : Option (Opening × List Char) := do
  let letters := text.takeWhile fun c => c ≠ ':' && c ≠ ')'
  let changed ← f.change? letters
  match text.drop letters.length with
  | ':' :: rest => some (.group changed none, rest)
  | ')' :: rest => if letters.isEmpty then none else some (.flags changed, rest)
  | _ => none

/-- Reads what follows the opening bracket of a group. Looking around is not possible. -/
def readOpening? (f : Flags) : List Char → Option (Opening × List Char)
  | '?' :: '<' :: '=' :: _ => none
  | '?' :: '<' :: '!' :: _ => none
  | '?' :: 'P' :: '<' :: rest => readName? f rest
  | '?' :: '<' :: rest => readName? f rest
  | '?' :: rest => readFlags? f rest
  | rest => some (.group f none, rest)

/-! ## 5. Patterns -/

/-- How far a pattern has been read. -/
structure Reading where
  flags : Flags
  /-- The flags of the groups around the current one, innermost first. -/
  outer : List Flags
  /-- The names of groups so far; none may occur twice. -/
  names : List (List Char)
  /-- Something that can be repeated stands in front. -/
  repeatable : Bool

namespace Reading

/-- Something that can be repeated has been read. -/
def item (r : Reading) : Reading := { r with repeatable := true }

/-- A group or flags have been opened; `none` if the name of the group is taken. -/
def opening? (r : Reading) : Opening → Option Reading
  | .flags f => some { r with flags := f, repeatable := false }
  | .group f name =>
    let names := name.toList ++ r.names
    if names.Nodup then some ⟨f, r.flags :: r.outer, names, false⟩ else none

/-- Reads a sign that stands for no character, or a character, with `rest` behind it. -/
def step? (r : Reading) (c : Char) (rest : List Char) : Option (Reading × List Char) :=
  if c = '(' then do
    let (o, rest) ← readOpening? r.flags rest
    return (← r.opening? o, rest)
  else if c = ')' then
    match r.outer with
    | [] => none
    | f :: outer => some (⟨f, outer, r.names, true⟩, rest)
  else if c = '|' then some ({ r with repeatable := false }, rest)
  else if c = '*' || c = '+' || c = '?' then
    if r.repeatable then some (r, if rest.head? = some '?' then rest.drop 1 else rest) else none
  else if c = '\x7b' then none
  else if c = '[' then
    (readClass? r.flags (rest.length + 1) 0 (openClass rest)).map fun rest => (r.item, rest)
  else if c = '\\' then
    match readEscape? rest with
    | some (e, rest) => if r.flags.allows e then some (r.item, rest) else none
    | none => none
  else if c = '.' then if r.flags.allScripts then some (r.item, rest) else none
  else if c = '^' || c = '$' then some (r.item, rest)
  else if r.flags.allowsLiteral c then some (r.item, rest)
  else none

/-- The rest of a text completes the pattern. Every step takes a character, so `fuel` may be the
    length of the text. -/
def completes : (fuel : Nat) → Reading → List Char → Bool
  | _, r, [] => r.outer.isEmpty
  | 0, _, _ :: _ => false
  | fuel + 1, r, c :: rest =>
    match r.step? c rest with
    | some (r, rest) => completes fuel r rest
    | none => false

end Reading

/-- The text is a pattern. -/
def isPattern (text : List Char) : Bool :=
  Reading.completes text.length ⟨⟨false, true⟩, [], [], false⟩ text

/-! ## 6. Values -/

/-- The text is a number with a plus sign, which as a pattern would have nothing to repeat. -/
def isPositiveNumber (text : List Char) : Bool :=
  text.head? = some '+' &&
    (["inf", "infinity", "nan"].contains (String.ofList (text.drop 1)).toLower ||
      (Yaml.decimal? (text.drop 1)).isSome)

/-- A filter may ask for a value by this text. -/
def isValue (text : List Char) : Bool := isPositiveNumber text || isPattern text

end EpsilonAutomata.CommandLine.ValuePattern
