import EpsilonAutomata.Automaton.Construction
import EpsilonAutomata.Automaton.Dump
import EpsilonAutomata.Automaton.Listing
import EpsilonAutomata.CommandLine.Arguments
import EpsilonAutomata.CommandLine.LogFilter
import EpsilonAutomata.Regex.Pattern
import EpsilonAutomata.Schema.Load

/-!
# Running the command line

The program prints one block for each selected expression, in the order of the schema: a comment
line with the name and the pattern, and the automaton. The schema is loaded completely before
anything is printed.
-/

namespace EpsilonAutomata.CommandLine

open Schema (FileFault LoadError)

/-- What a run leaves behind. -/
structure Outcome where
  code : Nat
  output : String
  /-- The line that reports an error. -/
  complaint : Option String
  /-- A warning was logged. -/
  warned : Bool

/-- The version of the program. -/
def version : String := "0.0.1"

/-- The name of the program. -/
def programName : String := "nfa-dump"

/-- The automaton in a block. -/
def body (format : Format) (a : Automaton) : String :=
  match format with
  | .dump => "---\n" ++ a.dump
  | .listing => a.listing ++ "\n"

/-- The block of an expression. -/
def block (format : Format) (entry : String × Regex) : String :=
  "# " ++ entry.1 ++ ": " ++ entry.2.patternText ++ "\n" ++ body format entry.2.compile

/-- The entries of a schema with a name, or all. -/
def select (name : Option String) (s : Schema) : List (String × Regex) :=
  match name with
  | none => s.entries
  | some name => s.entries.filter (·.1 = name)

/-- What is printed of a schema, and whether nothing was selected. -/
def print (a : Arguments) (s : Schema) : String × Bool :=
  let selected := select a.name s
  (String.join (selected.map (block a.format)), selected.isEmpty)

/-- The warning that no expression was selected. -/
def nothingSelected : Message :=
  ⟨"nfa_dump".toList, ["message".toList, "schema".toList], .warn⟩

/-- The outcome of printing what a file holds. -/
def outcome (a : Arguments) (filter : Option String) (contents : Except FileFault ByteArray) :
    Outcome :=
  match Schema.ofFile contents with
  | .error e => ⟨1, "", some ("Error: " ++ e.term), false⟩
  | .ok s =>
    let (output, nothing) := print a s
    ⟨0, output, none, nothing && shows filter nothingSelected⟩

/-- The outcome of a run with these arguments, under a log filter, where `read` gives the contents
    of files. The texts that the parser of the arguments writes are left out: for `--help` the output
    is empty here, where the program prints its help, and a misuse has no complaint. -/
def run (args : List String) (filter : Option String)
    (read : String → Except FileFault ByteArray) : Outcome :=
  match intent args with
  | .print a => outcome a filter (read a.path)
  | .version => ⟨0, programName ++ " " ++ version ++ "\n", none, false⟩
  | .help => ⟨0, "", none, false⟩
  | .misuse => ⟨2, "", none, false⟩

end EpsilonAutomata.CommandLine
