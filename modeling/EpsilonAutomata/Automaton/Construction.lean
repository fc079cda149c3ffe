import EpsilonAutomata.Automaton.Basic

/-!
# Compiling an expression

Every expression becomes a fragment: a stretch of fresh states with one entry and one exit, where
nothing leaves the exit yet. The operands of a node are laid out left to right, before the states of
the node itself; a concatenation has no states of its own.

The tree is walked with a list of tasks and a stack of finished fragments, so its depth costs no
stack space. A task that finds no operand fragments, or a transition between states that are not
there, stops the construction with `none`; the walk never brings that about, and `Regex.compile`
gives the empty automaton for it.
-/

namespace EpsilonAutomata

/-! ## 1. Construction in progress -/

/-- The entry and the exit of a finished sub-automaton. -/
structure Fragment where
  entry : State
  exit : State
deriving DecidableEq

/-- What is still to be done: lay out an expression, or join the fragments of its operands. -/
inductive Task where
  | visit (e : Regex)
  | combine (e : Regex)

/-- How many tasks a task stands for: a node is visited once and combined at most once. -/
def Task.weight : Task → Nat
  | .visit e => 2 * e.size
  | .combine _ => 1

/-- The states allocated so far and the fragments not yet joined, the latest first. -/
structure Construction where
  nodes : Array Node
  fragments : List Fragment

namespace Construction

/-- Nothing allocated. -/
def empty : Construction := ⟨#[], []⟩

/-- Adds a transition after those its source already has. Both states must have been allocated. -/
def connect (source : State) (label : Option Char) (target : State) (nodes : Array Node) :
    Option (Array Node) :=
  if source < nodes.size ∧ target < nodes.size then
    some (nodes.modify source fun node =>
      { node with outgoing := node.outgoing ++ [⟨source, label, target⟩] })
  else none

/-- Adds silent transitions one after the other. -/
def connectSilently : List (State × State) → Array Node → Option (Array Node)
  | [], nodes => some nodes
  | (source, target) :: more, nodes =>
    (connect source none target nodes).bind (connectSilently more)

/-- Two fresh states for the node `e`. -/
def allocate (e : Regex) (nodes : Array Node) : Array Node :=
  (nodes.push ⟨e, []⟩).push ⟨e, []⟩

/-- A leaf: two fresh states and the transition between them. -/
def leaf (e : Regex) (label : Option Char) (c : Construction) : Option Construction :=
  let entry := c.nodes.size
  let exit := c.nodes.size + 1
  (connect entry label exit (allocate e c.nodes)).map fun nodes =>
    ⟨nodes, ⟨entry, exit⟩ :: c.fragments⟩

/-- Joins the latest fragments as the node `e` asks for. -/
def combine (e : Regex) (c : Construction) : Option Construction :=
  match e, c with
  | .union _ _, ⟨nodes, r :: l :: rest⟩ =>
    let entry := nodes.size
    let exit := nodes.size + 1
    (connectSilently [(entry, l.entry), (entry, r.entry), (l.exit, exit), (r.exit, exit)]
      (allocate e nodes)).map fun nodes => ⟨nodes, ⟨entry, exit⟩ :: rest⟩
  | .concat _ _, ⟨nodes, r :: l :: rest⟩ =>
    (connectSilently [(l.exit, r.entry)] nodes).map fun nodes =>
      ⟨nodes, ⟨l.entry, r.exit⟩ :: rest⟩
  | .star _, ⟨nodes, b :: rest⟩ =>
    let entry := nodes.size
    let exit := nodes.size + 1
    (connectSilently [(entry, b.entry), (entry, exit), (b.exit, entry), (b.exit, exit)]
      (allocate e nodes)).map fun nodes => ⟨nodes, ⟨entry, exit⟩ :: rest⟩
  | _, _ => none

/-- The tasks that a task leaves behind, and the construction after it. -/
def perform : Task → Construction → Option (List Task × Construction)
  | .visit .epsilon, c => (c.leaf .epsilon none).map fun c => ([], c)
  | .visit (.symbol x), c => (c.leaf (.symbol x) (some x)).map fun c => ([], c)
  | .visit (.union l r), c => some ([.visit l, .visit r, .combine (.union l r)], c)
  | .visit (.concat l r), c => some ([.visit l, .visit r, .combine (.concat l r)], c)
  | .visit (.star b), c => some ([.visit b, .combine (.star b)], c)
  | .combine e, c => (c.combine e).map fun c => ([], c)

/-! ## 2. Running the tasks -/

/-- The tasks a task leaves behind weigh less than the task. -/
theorem weight_perform {t : Task} {c c' : Construction} {ts : List Task}
    (h : perform t c = some (ts, c')) : total (ts.map Task.weight) < t.weight := by
  cases t with
  | combine e =>
    obtain ⟨_, _, heq⟩ := Option.map_eq_some_iff.1 h
    cases heq
    simp [Task.weight]
  | visit e =>
    cases e with
    | epsilon =>
      obtain ⟨_, _, heq⟩ := Option.map_eq_some_iff.1 h
      cases heq
      simp [Task.weight, Regex.size]
    | symbol x =>
      obtain ⟨_, _, heq⟩ := Option.map_eq_some_iff.1 h
      cases heq
      simp [Task.weight, Regex.size]
    | union l r =>
      cases h
      simp [Task.weight, Regex.size]
      omega
    | concat l r =>
      cases h
      simp [Task.weight, Regex.size]
      omega
    | star b =>
      cases h
      simp [Task.weight, Regex.size]
      omega

/-- Performs the tasks in order; those a task leaves behind come before the others. -/
def run (c : Construction) : List Task → Option Construction
  | [] => some c
  | t :: rest =>
    match _h : perform t c with
    | none => none
    | some (more, c) => run c (more ++ rest)
termination_by tasks => total (tasks.map Task.weight)
decreasing_by
  have := weight_perform _h
  simp only [List.map_append, total_append, List.map_cons, total_cons]
  omega

/-- The automaton whose only fragment is the finished one. -/
def finish (c : Construction) : Option Automaton :=
  match c.fragments with
  | [f] => some ⟨f.entry, f.exit, c.nodes⟩
  | _ => none

end Construction

/-- **The automaton of an expression.** -/
def Regex.compile (e : Regex) : Automaton :=
  ((Construction.empty.run [.visit e]).bind Construction.finish).getD ⟨0, 0, #[]⟩

end EpsilonAutomata
