/-!
# Levels of log messages

Levels are ordered by how much they show and have the numbers from 0 to 5. In a filter a level is
written as its number or its name.
-/

namespace EpsilonAutomata.CommandLine

/-- How much is shown. -/
inductive LogLevel where
  | off
  | error
  | warn
  | info
  | debug
  | trace
deriving DecidableEq

namespace LogLevel

/-- The number of a level. -/
def toNat : LogLevel → Nat
  | off => 0
  | error => 1
  | warn => 2
  | info => 3
  | debug => 4
  | trace => 5

/-- The level with a number. -/
def ofNat? : Nat → Option LogLevel
  | 0 => some off
  | 1 => some error
  | 2 => some warn
  | 3 => some info
  | 4 => some debug
  | 5 => some trace
  | _ => none

/-- The level with a name. -/
def ofName? (name : String) : Option LogLevel :=
  match name.toLower with
  | "off" => some off
  | "error" => some error
  | "warn" => some warn
  | "info" => some info
  | "debug" => some debug
  | "trace" => some trace
  | _ => none

/-- The number that digits write, behind an optional plus sign. -/
def number? (text : List Char) : Option Nat :=
  let digits := if text.head? = some '+' then text.tail else text
  if !digits.isEmpty && digits.all Char.isDigit then
    some (digits.foldl (fun n c => 10 * n + (c.toNat - '0'.toNat)) 0)
  else none

/-- The level a text means: a number or a name in letters of either case. -/
def ofText? (text : List Char) : Option LogLevel :=
  match number? text with
  | some n => ofNat? n
  | none => ofName? (String.ofList text)

end LogLevel

end EpsilonAutomata.CommandLine
