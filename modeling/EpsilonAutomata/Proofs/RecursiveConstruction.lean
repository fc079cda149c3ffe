import EpsilonAutomata.Proofs.Layout

/-!
# The construction by recursion on the expression

Thompson's construction is usually written as a recursion: build the operands, left before right,
allocate an entry and an exit for the node itself, then add its silent transitions. `Thompson.make`
is that recursion, as a program that adds to the states there are. It keeps no list of tasks and no
stack of fragments: what has been built for an operand is what the recursive call returns.

The walk with tasks builds the same automaton, down to the numbers of the states and the order of
the transitions. The induction on the expression has to say more than that, because a subexpression
is visited in the middle of other work: `run_visit_make` holds for all states already there, all
fragments not yet joined and all tasks still to be done.

* `run_visit_make` -- visiting an expression does what the recursion does, then the other tasks;
* `compile_eq_automaton` -- a compiled expression is the automaton that the recursion makes.
-/

namespace EpsilonAutomata.Thompson

/-! ## 1. The recursion -/

/-- A part of the construction. It may add states, and transitions to the states there are. -/
abbrev Making := StateM (Array Node)

/-- Allocates a state for the node `e`. -/
def newState (e : Regex) : Making State :=
  modifyGet fun nodes => (nodes.size, nodes.push ⟨e, []⟩)

/-- The states with one more transition, behind those its source has already. -/
def added (t : Transition) (nodes : Array Node) : Array Node :=
  nodes.modify t.source fun node => { node with outgoing := node.outgoing ++ [t] }

/-- Adds a transition on a character. -/
def addSymbol (source : State) (c : Char) (target : State) : Making Unit :=
  modify (added ⟨source, some c, target⟩)

/-- Adds a silent transition. -/
def addSilent (source target : State) : Making Unit := modify (added ⟨source, none, target⟩)

/-- **Thompson's construction**: builds an expression and returns its fragment. -/
def make : Regex → Making Fragment
  | .epsilon => do
    let entry ← newState .epsilon
    let exit ← newState .epsilon
    addSilent entry exit
    return ⟨entry, exit⟩
  | .symbol c => do
    let entry ← newState (.symbol c)
    let exit ← newState (.symbol c)
    addSymbol entry c exit
    return ⟨entry, exit⟩
  | .union l r => do
    let left ← make l
    let right ← make r
    let entry ← newState (.union l r)
    let exit ← newState (.union l r)
    addSilent entry left.entry
    addSilent entry right.entry
    addSilent left.exit exit
    addSilent right.exit exit
    return ⟨entry, exit⟩
  | .concat l r => do
    let left ← make l
    let right ← make r
    addSilent left.exit right.entry
    return ⟨left.entry, right.exit⟩
  | .star b => do
    let body ← make b
    let entry ← newState (.star b)
    let exit ← newState (.star b)
    addSilent entry body.entry
    addSilent entry exit
    addSilent body.exit entry
    addSilent body.exit exit
    return ⟨entry, exit⟩

/-- The automaton that the recursion makes, beginning without states. -/
def automaton (e : Regex) : Automaton :=
  let (fragment, nodes) := (make e).run #[]
  ⟨fragment.entry, fragment.exit, nodes⟩

/-! ## 2. What a call does -/

section Run

variable {e : Regex} {nodes : Array Node}

/-- One part of the construction after another. -/
theorem run_bind {α β : Type} (x : Making α) (k : α → Making β) (nodes : Array Node) :
    (x >>= k).run nodes = (k (x.run nodes).1).run (x.run nodes).2 := rfl

theorem run_pure {α : Type} (a : α) (nodes : Array Node) :
    (pure a : Making α).run nodes = (a, nodes) := rfl

theorem run_newState (e : Regex) (nodes : Array Node) :
    (newState e).run nodes = (nodes.size, nodes.push ⟨e, []⟩) := rfl

theorem run_addSymbol (s : State) (c : Char) (t : State) (nodes : Array Node) :
    (addSymbol s c t).run nodes = ((), added ⟨s, some c, t⟩ nodes) := rfl

theorem run_addSilent (s t : State) (nodes : Array Node) :
    (addSilent s t).run nodes = ((), added ⟨s, none, t⟩ nodes) := rfl

theorem size_added (t : Transition) (nodes : Array Node) :
    (added t nodes).size = nodes.size := Array.size_modify

theorem size_allocate (e : Regex) (nodes : Array Node) :
    (Construction.allocate e nodes).size = nodes.size + 2 := by
  unfold Construction.allocate
  rw [Array.size_push, Array.size_push]

theorem run_make_epsilon (nodes : Array Node) :
    (make .epsilon).run nodes = (⟨nodes.size, nodes.size + 1⟩,
      added ⟨nodes.size, none, nodes.size + 1⟩ (Construction.allocate .epsilon nodes)) := by
  rw [make]
  simp only [run_bind, run_pure, run_newState, run_addSilent, Array.size_push]
  rfl

theorem run_make_symbol (c : Char) (nodes : Array Node) :
    (make (.symbol c)).run nodes = (⟨nodes.size, nodes.size + 1⟩,
      added ⟨nodes.size, some c, nodes.size + 1⟩ (Construction.allocate (.symbol c) nodes)) := by
  rw [make]
  simp only [run_bind, run_pure, run_newState, run_addSymbol, Array.size_push]
  rfl

theorem run_make_union (l r : Regex) (nodes : Array Node) :
    let left := (make l).run nodes
    let right := (make r).run left.2
    (make (.union l r)).run nodes = (⟨right.2.size, right.2.size + 1⟩,
      added ⟨right.1.exit, none, right.2.size + 1⟩ (added ⟨left.1.exit, none, right.2.size + 1⟩
        (added ⟨right.2.size, none, right.1.entry⟩ (added ⟨right.2.size, none, left.1.entry⟩
          (Construction.allocate (.union l r) right.2))))) := by
  rw [make]
  simp only [run_bind, run_pure, run_newState, run_addSilent, Array.size_push]
  rfl

theorem run_make_concat (l r : Regex) (nodes : Array Node) :
    let left := (make l).run nodes
    let right := (make r).run left.2
    (make (.concat l r)).run nodes = (⟨left.1.entry, right.1.exit⟩,
      added ⟨left.1.exit, none, right.1.entry⟩ right.2) := by
  rw [make]
  simp only [run_bind, run_pure, run_addSilent]

theorem run_make_star (b : Regex) (nodes : Array Node) :
    let body := (make b).run nodes
    (make (.star b)).run nodes = (⟨body.2.size, body.2.size + 1⟩,
      added ⟨body.1.exit, none, body.2.size + 1⟩ (added ⟨body.1.exit, none, body.2.size⟩
        (added ⟨body.2.size, none, body.2.size + 1⟩ (added ⟨body.2.size, none, body.1.entry⟩
          (Construction.allocate (.star b) body.2))))) := by
  rw [make]
  simp only [run_bind, run_pure, run_newState, run_addSilent, Array.size_push]
  rfl

/-- Both ends of a fragment are allocated. -/
def Allocated (f : Fragment) (nodes : Array Node) : Prop :=
  f.entry < nodes.size ∧ f.exit < nodes.size

theorem Allocated.mono {f : Fragment} {ns ns' : Array Node} (h : Allocated f ns)
    (hle : ns.size ≤ ns'.size) : Allocated f ns' :=
  ⟨Nat.lt_of_lt_of_le h.1 hle, Nat.lt_of_lt_of_le h.2 hle⟩

/-- **Building an expression keeps the states there are and returns a fragment of allocated
    states.** -/
theorem run_make_allocated (e : Regex) (nodes : Array Node) :
    nodes.size ≤ ((make e).run nodes).2.size ∧
      Allocated ((make e).run nodes).1 ((make e).run nodes).2 := by
  induction e generalizing nodes with
  | epsilon =>
      rw [run_make_epsilon]
      simp only [Allocated, size_added, size_allocate]
      lia
  | symbol c =>
      rw [run_make_symbol]
      simp only [Allocated, size_added, size_allocate]
      lia
  | union l r ihl ihr =>
      obtain ⟨hl, _⟩ := ihl nodes
      obtain ⟨hr, _⟩ := ihr ((make l).run nodes).2
      rw [run_make_union]
      simp only [Allocated, size_added, size_allocate]
      lia
  | concat l r ihl ihr =>
      obtain ⟨hl, hleft⟩ := ihl nodes
      obtain ⟨hr, hright⟩ := ihr ((make l).run nodes).2
      have hleft' := hleft.mono hr
      rw [run_make_concat]
      simp only [Allocated, size_added]
      exact ⟨Nat.le_trans hl hr, hleft'.1, hright.2⟩
  | star b ih =>
      obtain ⟨hb, _⟩ := ih nodes
      rw [run_make_star]
      simp only [Allocated, size_added, size_allocate]
      lia

end Run

/-! ## 3. The walk with tasks does the same -/

section Walk

variable {nodes : Array Node} {fs : List Fragment} {left right body : Fragment}

/-- Between allocated states the walk adds the transition that the recursion adds. -/
theorem connect_eq_added {s t : State} {label : Option Char} (hs : s < nodes.size)
    (ht : t < nodes.size) :
    Construction.connect s label t nodes = some (added ⟨s, label, t⟩ nodes) := if_pos ⟨hs, ht⟩

theorem leaf_eq_added (e : Regex) (label : Option Char) :
    Construction.leaf e label ⟨nodes, fs⟩ =
      some ⟨added ⟨nodes.size, label, nodes.size + 1⟩ (Construction.allocate e nodes),
        ⟨nodes.size, nodes.size + 1⟩ :: fs⟩ := by
  have h : Construction.connect nodes.size label (nodes.size + 1)
      (Construction.allocate e nodes) = _ :=
    connect_eq_added (by rw [size_allocate]; lia) (by rw [size_allocate]; lia)
  simp only [Construction.leaf, h, Option.map_some]

theorem combine_union_eq_added (l r : Regex) (hl : Allocated left nodes)
    (hr : Allocated right nodes) :
    Construction.combine (.union l r) ⟨nodes, right :: left :: fs⟩ =
      some ⟨added ⟨right.exit, none, nodes.size + 1⟩ (added ⟨left.exit, none, nodes.size + 1⟩
        (added ⟨nodes.size, none, right.entry⟩ (added ⟨nodes.size, none, left.entry⟩
          (Construction.allocate (.union l r) nodes)))), ⟨nodes.size, nodes.size + 1⟩ :: fs⟩ := by
  obtain ⟨hle, hlx⟩ := hl
  obtain ⟨hre, hrx⟩ := hr
  simp (disch := simp only [size_added, size_allocate]; lia) only [Construction.combine,
    Construction.connectSilently, connect_eq_added, Option.bind_some, Option.map_some]

theorem combine_concat_eq_added (l r : Regex) (hl : Allocated left nodes)
    (hr : Allocated right nodes) :
    Construction.combine (.concat l r) ⟨nodes, right :: left :: fs⟩ =
      some ⟨added ⟨left.exit, none, right.entry⟩ nodes, ⟨left.entry, right.exit⟩ :: fs⟩ := by
  simp only [Construction.combine, Construction.connectSilently, connect_eq_added hl.2 hr.1,
    Option.bind_some, Option.map_some]

theorem combine_star_eq_added (b : Regex) (hb : Allocated body nodes) :
    Construction.combine (.star b) ⟨nodes, body :: fs⟩ =
      some ⟨added ⟨body.exit, none, nodes.size + 1⟩ (added ⟨body.exit, none, nodes.size⟩
        (added ⟨nodes.size, none, nodes.size + 1⟩ (added ⟨nodes.size, none, body.entry⟩
          (Construction.allocate (.star b) nodes)))), ⟨nodes.size, nodes.size + 1⟩ :: fs⟩ := by
  obtain ⟨hbe, hbx⟩ := hb
  simp (disch := simp only [size_added, size_allocate]; lia) only [Construction.combine,
    Construction.connectSilently, connect_eq_added, Option.bind_some, Option.map_some]

end Walk

/-- **Visiting an expression does what the recursion does**, whatever has been built before,
    whichever fragments wait to be joined and whatever is still to be done. -/
theorem run_visit_make (e : Regex) (nodes : Array Node) (fs : List Fragment) (rest : List Task) :
    Construction.run ⟨nodes, fs⟩ (.visit e :: rest) =
      Construction.run ⟨((make e).run nodes).2, ((make e).run nodes).1 :: fs⟩ rest := by
  induction e generalizing nodes fs rest with
  | epsilon =>
      rw [Construction.run_cons, Construction.perform, leaf_eq_added, run_make_epsilon]
      rfl
  | symbol c =>
      rw [Construction.run_cons, Construction.perform, leaf_eq_added, run_make_symbol]
      rfl
  | union l r ihl ihr =>
      obtain ⟨_, hleft⟩ := run_make_allocated l nodes
      obtain ⟨hle, hright⟩ := run_make_allocated r ((make l).run nodes).2
      rw [Construction.run_cons]
      show Construction.run _ (.visit l :: .visit r :: .combine (.union l r) :: rest) = _
      rw [ihl, ihr, Construction.run_cons, Construction.perform,
        combine_union_eq_added l r (hleft.mono hle) hright, run_make_union]
      simp only [Option.map_some, Option.bind_some, List.nil_append]
  | concat l r ihl ihr =>
      obtain ⟨_, hleft⟩ := run_make_allocated l nodes
      obtain ⟨hle, hright⟩ := run_make_allocated r ((make l).run nodes).2
      rw [Construction.run_cons]
      show Construction.run _ (.visit l :: .visit r :: .combine (.concat l r) :: rest) = _
      rw [ihl, ihr, Construction.run_cons, Construction.perform,
        combine_concat_eq_added l r (hleft.mono hle) hright, run_make_concat]
      simp only [Option.map_some, Option.bind_some, List.nil_append]
  | star b ih =>
      obtain ⟨_, hbody⟩ := run_make_allocated b nodes
      rw [Construction.run_cons]
      show Construction.run _ (.visit b :: .combine (.star b) :: rest) = _
      rw [ih, Construction.run_cons, Construction.perform, combine_star_eq_added b hbody,
        run_make_star]
      simp only [Option.map_some, Option.bind_some, List.nil_append]

/-- **A compiled expression is the automaton that the recursion makes**: the same start and
    accepting state, and the same states in the same order, each with the same origin and the same
    transitions in the same order. -/
theorem compile_eq_automaton (e : Regex) : e.compile = automaton e := by
  have h : Construction.empty.run [.visit e] =
      some ⟨((make e).run #[]).2, [((make e).run #[]).1]⟩ := by
    rw [Construction.empty, run_visit_make, Construction.run_nil]
  rw [Regex.compile, h]
  rfl

end EpsilonAutomata.Thompson
