import EpsilonAutomata.Automaton.Basic
import EpsilonAutomata.Text.Escape

/-!
# The listing of an automaton

A text for people: one line for each transition under a line for its source state. States without
transitions are left out; symbols are quoted and escaped, so none of them can end a line.
-/

namespace EpsilonAutomata

/-- A state in a listing. -/
def stateText (s : State) : String := "State(" ++ toString s ++ ")"

/-- The label of a transition in a listing. -/
def labelText : Option Char → String
  | none => "epsilon"
  | some c => Text.quotedChar c

/-- A transition in a listing. -/
def Transition.listing (t : Transition) : String :=
  stateText t.source ++ " -> " ++ stateText t.target ++ ", symbol: " ++ labelText t.label

namespace Automaton

/-- The lines for the state `s`: none if it has no transitions. -/
def nodeListing (s : State) (node : Node) : String :=
  if node.outgoing.isEmpty then ""
  else "\t" ++ stateText s ++ " (" ++ node.origin.kind.name ++ "):\n" ++
    String.join (node.outgoing.map fun t => "\t\t" ++ t.listing ++ "\n")

/-- The listing of an automaton. -/
def listing (a : Automaton) : String :=
  "NFA( start: " ++ stateText a.start ++ ", accept: " ++ stateText a.accept ++
    ", num_states: " ++ toString a.stateCount ++ ", transitions: \x7b\n" ++
    String.join (a.nodes.toList.zipIdx.map fun (node, s) => nodeListing s node) ++ "\x7d )"

end Automaton

end EpsilonAutomata
