/-!
# Arguments of the command line

`nfa-dump` takes the path of a schema and the options `--name` and `--format`. Arguments are read
from left to right; the first fault decides, unless `--version` or `--help` came before it.
-/

namespace EpsilonAutomata.CommandLine

/-- The form an automaton is printed in. -/
inductive Format where
  | dump
  | listing
deriving DecidableEq

/-- The format an option value names. -/
def Format.ofName? : String → Option Format
  | "yaml" => some .dump
  | "debug" => some .listing
  | _ => none

/-- What the program is asked to print: the expressions of a schema, or only those with a name. -/
structure Arguments where
  path : String
  name : Option String
  format : Format
deriving DecidableEq

/-- What the arguments ask for. -/
inductive Intent where
  | print (a : Arguments)
  | version
  | help
  | misuse
deriving DecidableEq

/-- The arguments read so far. -/
structure Given where
  path : Option String
  name : Option String
  format : Option Format

/-- An argument without an option. -/
def Given.addPath (path : String) (g : Given) : Option Given :=
  if g.path.isSome then none else some { g with path := some path }

/-- The option `--name`. -/
def Given.addName (name : String) (g : Given) : Option Given :=
  if g.name.isSome then none else some { g with name := some name }

/-- The option `--format`. -/
def Given.addFormat (format : String) (g : Given) : Option Given :=
  match g.format, Format.ofName? format with
  | none, some format => some { g with format := some format }
  | _, _ => none

/-- What the arguments ask for once all have been read. -/
def Given.intent (g : Given) : Intent :=
  match g.path with
  | none => .misuse
  | some path => .print ⟨path, g.name, g.format.getD .dump⟩

/-- The name and the value of a long option, without its dashes. -/
def splitOption (text : List Char) : String × Option String :=
  let name := String.ofList (text.takeWhile (· ≠ '='))
  match text.dropWhile (· ≠ '=') with
  | [] => (name, none)
  | _ :: value => (name, some (String.ofList value))

/-- The argument is an option and no value; a single dash is a value. -/
def isOption (arg : String) : Bool := arg ≠ "-" && arg.startsWith "-"

/-- Reads arguments without options. -/
def readPaths (g : Given) : List String → Intent
  | [] => g.intent
  | arg :: rest =>
    match g.addPath arg with
    | some g => readPaths g rest
    | none => .misuse

/-- Reads arguments. -/
def readArguments (g : Given) : List String → Intent
  | [] => g.intent
  | arg :: rest =>
    match arg.toList with
    | ['-', '-'] => readPaths g rest
    | '-' :: '-' :: text =>
      let (name, value) := splitOption text
      let add := if name = "name" then some Given.addName
        else if name = "format" then some Given.addFormat
        else none
      match add, value with
      | some add, some value =>
        match add value g with
        | some g => readArguments g rest
        | none => .misuse
      | some add, none =>
        match rest with
        | value :: rest =>
          if isOption value then .misuse
          else match add value g with
            | some g => readArguments g rest
            | none => .misuse
        | [] => .misuse
      | none, some _ => .misuse
      | none, none =>
        if name = "version" then .version else if name = "help" then .help else .misuse
    | '-' :: letter :: _ =>
      if letter = 'V' then .version else if letter = 'h' then .help else .misuse
    | _ =>
      match g.addPath arg with
      | some g => readArguments g rest
      | none => .misuse

/-- What the arguments ask for. -/
def intent (args : List String) : Intent := readArguments ⟨none, none, none⟩ args

end EpsilonAutomata.CommandLine
