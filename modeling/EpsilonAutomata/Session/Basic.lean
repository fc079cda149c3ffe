import EpsilonAutomata.Automaton.Construction
import EpsilonAutomata.Automaton.Dump
import EpsilonAutomata.Automaton.Listing
import EpsilonAutomata.Automaton.Simulation
import EpsilonAutomata.Regex.Pattern
import EpsilonAutomata.Regex.Term
import EpsilonAutomata.Schema.Load

/-!
# Sessions

A session builds expressions on a stack and asks questions about them. Edits change the stack,
questions about a tree look at its top, and questions about a graph look at the automaton compiled
last. A step that fails changes nothing.
-/

namespace EpsilonAutomata.Session

/-! ## 1. Steps -/

/-- A step that builds expressions on the stack. -/
inductive Edit where
  | symbol (text : String)
  | empty
  | iterate
  | union
  | concat
  | duplicate
  | swap
  | drop
  /-- Copies the expression this far below the top to the top. -/
  | pick (depth : Nat)
  /-- Replaces the top by its operands; a leaf stays. -/
  | split
  /-- Pushes the expressions of a schema, in order. -/
  | load (text : String)

/-- A question about the expression on top of the stack. -/
inductive TreeQuestion where
  | kind
  | nodeCount
  | pattern
  | term
  /-- The term of the expression in its builder. -/
  | builder

/-- A question about the automaton compiled last. -/
inductive GraphQuestion where
  | transitions
  | originKinds
  | origin (s : State)
  | alphabet
  | state (s : State)
  | closure (states : List State)
  | dump
  | listing
  | accepts (word : String)

/-- A step of a session. -/
inductive Command where
  | edit (e : Edit)
  | tree (q : TreeQuestion)
  | graph (q : GraphQuestion)
  /-- Compiles the top of the stack. -/
  | compile
  /-- Compares all expressions on the stack with one another. -/
  | compare
  /-- Takes the steps this many times. -/
  | times (count : Nat) (steps : List Command)

/-! ## 2. Replies -/

/-- Why a step failed. -/
inductive Failure where
  /-- There are too few expressions on the stack. -/
  | underflow
  /-- Nothing has been compiled. -/
  | noAutomaton
  | load (e : Schema.LoadError)

/-- What a step answers. -/
inductive Reply where
  /-- The number of expressions on the stack. -/
  | height (n : Nat)
  | kind (k : Kind)
  | count (n : Nat)
  | text (s : String)
  | noText
  | verdict (b : Bool)
  | compiled (a : Automaton)
  /-- Whether two expressions are equal, by rows from the bottom of the stack. -/
  | equalities (rows : List (List Bool))
  | transitions (ts : List Transition)
  | kinds (ks : List Kind)
  | characters (cs : List Char)
  | states (ss : List State)
  | state (s : State) (origin : Option Kind) (outgoing : List Transition)
  | failure (f : Failure)

end EpsilonAutomata.Session
