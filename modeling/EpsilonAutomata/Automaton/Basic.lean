import EpsilonAutomata.Regex.Basic

/-!
# Automata with silent transitions

States are numbered from zero in the order they are allocated, and each state keeps its outgoing
transitions in the order they were added, so everything an automaton answers has a fixed order. A
transition without a label is silent: it consumes no character.

A state number beyond the automaton is no fault: such a state has no transitions and no origin.
-/

namespace EpsilonAutomata

/-! ## 1. States and transitions -/

/-- A state is known by its number. -/
abbrev State := Nat

/-- One step of an automaton; `label = none` is a silent step. -/
structure Transition where
  source : State
  label : Option Char
  target : State
deriving DecidableEq

/-- The step consumes no character. -/
def Transition.isSilent (t : Transition) : Bool := t.label.isNone

/-- What an automaton keeps for one state: the node of the expression it was allocated for, and its
    outgoing transitions in the order they were added. -/
structure Node where
  origin : Regex
  outgoing : List Transition

/-- An automaton with one start state and one accepting state. -/
structure Automaton where
  start : State
  accept : State
  nodes : Array Node

namespace Automaton

/-! ## 2. Questions about the graph -/

/-- The number of states. -/
def stateCount (a : Automaton) : Nat := a.nodes.size

/-- The outgoing transitions of a state, in the order they were added. -/
def outgoing (a : Automaton) (s : State) : List Transition :=
  match a.nodes[s]? with
  | some node => node.outgoing
  | none => []

/-- The node of the expression a state was allocated for. -/
def origin? (a : Automaton) (s : State) : Option Regex :=
  a.nodes[s]?.map (·.origin)

/-- All transitions, by source state in state order. -/
def transitions (a : Automaton) : List Transition :=
  a.nodes.toList.flatMap (·.outgoing)

/-- The number of transitions. -/
def transitionCount (a : Automaton) : Nat :=
  total (a.nodes.toList.map (·.outgoing.length))

/-- The characters on transitions, each once, in the order they are first met. -/
def alphabet (a : Automaton) : List Char :=
  (a.transitions.filterMap (·.label)).eraseDups

/-- The kind of node each state was allocated for, in state order. -/
def originKinds (a : Automaton) : List Kind :=
  a.nodes.toList.map (·.origin.kind)

/-- The targets of the silent transitions of a state, in order. -/
def silentTargets (a : Automaton) (s : State) : List State :=
  (a.outgoing s).filterMap fun t => if t.isSilent then some t.target else none

/-- The targets of the transitions of a state that consume `c`, in order. -/
def targetsOn (a : Automaton) (c : Char) (s : State) : List State :=
  (a.outgoing s).filterMap fun t => if t.label = some c then some t.target else none

/-- A state beyond the automaton leads nowhere. -/
theorem silentTargets_eq_nil {a : Automaton} {s : State} (h : a.stateCount ≤ s) :
    a.silentTargets s = [] := by
  have : a.nodes[s]? = none := Array.getElem?_eq_none h
  simp [silentTargets, outgoing, this]

end Automaton

end EpsilonAutomata
