import EpsilonAutomata.Automaton.Basic
import EpsilonAutomata.Yaml.CharScalar

/-!
# The YAML dump of an automaton

The whole graph as one YAML mapping in block style: the start state, the accepting state, and for
each state its number, the kind of node it was allocated for and its outgoing transitions in order.
A silent transition has the symbol `null`; every character is written so that it reads back as a
one-character string.
-/

namespace EpsilonAutomata.Automaton

/-- The symbol of a transition as a scalar. -/
def symbolScalar : Option Char → String
  | none => "null"
  | some c => Yaml.charScalar c

/-- The lines of one transition. -/
def transitionDump (t : Transition) : String :=
  "  - symbol: " ++ symbolScalar t.label ++ "\n    to: " ++ toString t.target ++ "\n"

/-- The lines of one state. -/
def nodeDump (s : State) (node : Node) : String :=
  "- id: " ++ toString s ++ "\n  source: " ++ node.origin.kind.name ++ "\n  transitions:" ++
    (if node.outgoing.isEmpty then " []\n"
     else "\n" ++ String.join (node.outgoing.map transitionDump))

/-- The lines of all states; an automaton without states has an empty sequence. -/
def nodesDump (a : Automaton) : String :=
  if a.nodes.isEmpty then " []\n"
  else "\n" ++ String.join (a.nodes.toList.zipIdx.map fun (node, s) => nodeDump s node)

/-- The YAML dump of an automaton. -/
def dump (a : Automaton) : String :=
  "start: " ++ toString a.start ++ "\naccept: " ++ toString a.accept ++ "\nstates:" ++ nodesDump a

end EpsilonAutomata.Automaton
