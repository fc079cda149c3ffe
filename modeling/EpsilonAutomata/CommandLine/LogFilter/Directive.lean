import EpsilonAutomata.CommandLine.LogFilter.Level
import EpsilonAutomata.CommandLine.LogFilter.ValuePattern

/-!
# Directives of a log filter

A directive is a level, or says in this order what it is about and which level it admits, each part
being optional:

* the beginning of the targets it is about;
* in brackets, the name of a span, a field in braces, or both: `[name{field}]`; behind a `=` the
  field may have a value;
* `=` and the level.

A directive without a level admits everything. White space around a directive is no part of its
shape, but its parts are cut from the text as it stands, at the places they have in the shape.
-/

namespace EpsilonAutomata.CommandLine

/-- A directive of a filter. -/
structure Directive where
  /-- The targets it is about begin like this; without it, it is about all. -/
  target : Option (List Char)
  /-- It is about messages inside certain spans only. -/
  inSpan : Bool
  /-- The field that a message must have. -/
  field : Option (List Char)
  /-- Messages up to this level are admitted. -/
  level : LogLevel

/-- White space. -/
def isWhite (c : Char) : Bool :=
  let n := c.toNat
  (0x9 ≤ n && n ≤ 0xd) || n = 0x20 || n = 0x85 || n = 0xa0 || n = 0x1680 ||
    (0x2000 ≤ n && n ≤ 0x200a) || n = 0x2028 || n = 0x2029 || n = 0x202f || n = 0x205f || n = 0x3000

/-- The text without the white space around it. -/
def trimWhite (text : List Char) : List Char :=
  ((text.dropWhile isWhite).reverse.dropWhile isWhite).reverse

/-- What a directive may begin with, unless it begins with a bracket. -/
def beginsWord (c : Char) : Bool := c = '-' || c = ':' || c = '_' || Text.isAlphanumeric c

namespace Directive

/-- A directive that is one word: a level, or the target of messages that are all admitted. -/
def ofWord (word : List Char) : Directive :=
  match LogLevel.ofText? word with
  | some level => ⟨none, false, none, level⟩
  | none => ⟨some word, false, none, .trace⟩

/-- What brackets hold. -/
structure Brackets where
  /-- A span is named, if only by an empty name. -/
  named : Bool
  /-- Where the field begins, and its length. -/
  field : Option (Nat × Nat)
  /-- Where the brackets end. -/
  stop : Nat

/-- Reads brackets, of which `text` follows the opening one and stands at `start`. -/
def readBrackets? (start : Nat) (text : List Char) : Option Brackets :=
  let name := (text.takeWhile fun c => c ≠ ']' && c ≠ '\x7b').length
  match text.drop name with
  | ']' :: _ => some ⟨true, none, start + name + 1⟩
  | '\x7b' :: text =>
    let field := (text.takeWhile (· ≠ '\x7d')).length
    match text.drop field with
    | '\x7d' :: ']' :: _ =>
      if field = 0 then none
      else some ⟨name ≠ 0, some (start + name + 1, field), start + name + field + 3⟩
    | _ => none
  | _ => none

/-- Reads a field: its name, and whether a value is asked for, which must be readable. Behind a
    second `=` nothing counts. -/
def readField? (text : List Char) : Option (List Char × Bool) :=
  let name := text.takeWhile (· ≠ '=')
  match text.dropWhile (· ≠ '=') with
  | [] => some (name, false)
  | _ :: value =>
    if ValuePattern.isValue (value.takeWhile (· ≠ '=')) then some (name, true) else none

/-- Reads the level of a directive with this text, whose shape has `rest` from `start` on. Behind
    `=` there may be none. -/
def readLevel? (text : List Char) (start : Nat) (rest : List Char) : Option LogLevel :=
  match rest with
  | [] => some .trace
  | '=' :: _ =>
    let level := text.drop (start + 1)
    if level.isEmpty then some .trace else LogLevel.ofText? level
  | _ => none

/-- Reads a directive. -/
def ofText? (text : List Char) : Option Directive := do
  let shape := trimWhite text
  let first ← shape.head?
  if first ≠ '[' && !beginsWord first then none
  let stop := (shape.takeWhile fun c => c ≠ '=' && c ≠ '[').length
  let target := if stop = 0 then none else some (text.take stop)
  match shape.drop stop with
  | [] => return ofWord text
  | '[' :: rest =>
    let b ← readBrackets? (stop + 1) rest
    let level ← readLevel? text b.stop (shape.drop b.stop)
    match b.field with
    | none => return ⟨target, b.named, none, level⟩
    | some (start, length) =>
      let (name, hasValue) ← readField? ((text.drop start).take length)
      return ⟨target, b.named || hasValue, some name, level⟩
  | rest => return ⟨target, false, none, ← readLevel? text stop rest⟩

end Directive

/-- The directives of a filter, which commas separate. -/
def directives? (filter : String) : Option (List Directive) :=
  ((filter.splitOn ",").filter (!·.isEmpty)).mapM fun text => Directive.ofText? text.toList

end EpsilonAutomata.CommandLine
