import EpsilonAutomata.Proofs.Listing
import EpsilonAutomata.Proofs.Ownership
import EpsilonAutomata.Proofs.Trim
import EpsilonAutomata.Proofs.Yaml.DumpDocument

/-!
# The two texts of an automaton

A dump has an entry for every state, but leaves out where a transition starts; a listing has whole
transitions, but leaves out the states without any. What each of them tells is said for all automata
first. On compiled expressions both tell the same, the graph (`Automaton.SameGraph`): a transition is
kept at the state it starts at, and the only state that a listing leaves out, the accepting one, was
allocated together with the state before it, for the same node of the expression.

* `Automaton.dump_eq_iff` -- what a dump tells;
* `Automaton.mem_innerLines_state`, `Automaton.filterMap_innerLines` -- what a listing tells;
* `Regex.listing_eq_iff_dump_eq` -- on compiled expressions that is the same, the graph.
-/

namespace EpsilonAutomata

/-! ## 1. Graphs -/

/-- **Two automata are the same graph**: they agree in their start and accepting states, in the
    number of states, and state by state in the name of the kind it was allocated for and in its
    transitions, in order. -/
structure Automaton.SameGraph (a b : Automaton) : Prop where
  start : a.start = b.start
  accept : a.accept = b.accept
  stateCount : a.stateCount = b.stateCount
  kindNames : ∀ s, (a.origin? s).map (·.kind.name) = (b.origin? s).map (·.kind.name)
  outgoing : ∀ s, a.outgoing s = b.outgoing s

/-- What is left of equal views of two lists under a coarser view. -/
theorem map_eq_map_of_imp {α β γ : Type} {f : α → β} {g : α → γ}
    (h : ∀ x y, f x = f y → g x = g y) {xs ys : List α} (heq : xs.map f = ys.map f) :
    xs.map g = ys.map g := by
  rw [← List.forall₂_eq_eq_eq, List.forall₂_map_left_iff, List.forall₂_map_right_iff] at heq ⊢
  exact heq.imp h

/-- What the graph holds of a state: the kind of node it was allocated for, and its transitions. -/
def Node.shown (n : Node) : Kind × List Transition := (n.origin.kind, n.outgoing)

/-- What a dump writes of a state: the kind of node it was allocated for, and its transitions without
    the states they start at. -/
def Node.dumped (n : Node) : Kind × List (Option Char × State) :=
  (n.origin.kind, n.outgoing.map fun t => (t.label, t.target))

namespace Automaton

open Yaml (Field plainNode)

variable {a b : Automaton}

theorem stateCount_eq (a : Automaton) : a.stateCount = (a.nodes.toList.map Node.shown).length := by
  rw [List.length_map, Array.length_toList, stateCount]

theorem kindName_origin? (a : Automaton) (s : State) :
    (a.origin? s).map (·.kind.name) = (a.nodes.toList.map Node.shown)[s]?.map (·.1.name) := by
  rw [List.getElem?_map, Array.getElem?_toList, origin?, Option.map_map, Option.map_map]
  rfl

theorem outgoing_eq (a : Automaton) (s : State) :
    a.outgoing s = ((a.nodes.toList.map Node.shown)[s]?.map (·.2)).getD [] := by
  rw [List.getElem?_map, Array.getElem?_toList, outgoing]
  cases a.nodes[s]? <;> rfl

/-- The graph, state by state in one list. -/
theorem sameGraph_iff : a.SameGraph b ↔
    a.start = b.start ∧ a.accept = b.accept ∧
      a.nodes.toList.map Node.shown = b.nodes.toList.map Node.shown := by
  constructor
  · rintro ⟨hstart, haccept, hcount, hkinds, houtgoing⟩
    rw [stateCount_eq, stateCount_eq] at hcount
    refine ⟨hstart, haccept, List.ext_getElem hcount fun s ha hb => ?_⟩
    have hkind := hkinds s
    have hout := houtgoing s
    rw [kindName_origin?, kindName_origin?, List.getElem?_eq_getElem ha,
      List.getElem?_eq_getElem hb] at hkind
    rw [outgoing_eq, outgoing_eq, List.getElem?_eq_getElem ha, List.getElem?_eq_getElem hb] at hout
    exact Prod.ext (selfDelimiting_kindName.eq_iff.mp (Option.some.inj hkind)) hout
  · rintro ⟨hstart, haccept, hshown⟩
    refine ⟨hstart, haccept, ?_, fun s => ?_, fun s => ?_⟩
    · rw [stateCount_eq, stateCount_eq, hshown]
    · rw [kindName_origin?, kindName_origin?, hshown]
    · rw [outgoing_eq, outgoing_eq, hshown]

/-! ## 2. What a dump tells -/

theorem plainNode_inj {s t : String} (h : plainNode s = plainNode t) : s = t :=
  (Yaml.Node.scalar.inj h).2.2

theorem symbolNode_inj {c d : Option Char} (h : symbolNode c = symbolNode d) : c = d := by
  -- a character is one character long, unlike `null`
  have hnull : ∀ c : Char, symbolNode none ≠ symbolNode (some c) := fun c h => by
    have hchars := congrArg String.toList (Yaml.Node.scalar.inj h).2.2
    simp at hchars
  cases c with
  | none =>
      cases d with
      | none => rfl
      | some d => exact absurd h (hnull d)
  | some c =>
      cases d with
      | none => exact absurd h.symm (hnull c)
      | some d =>
          have hchars := congrArg String.toList (Yaml.Node.scalar.inj h).2.2
          simpa using hchars

theorem transitionNode_inj {t u : Transition} (h : transitionNode t = transitionNode u) :
    (t.label, t.target) = (u.label, u.target) := by
  have hfields := (Yaml.Node.mapping.inj h).2
  simp only [transitionFields, numberField, Field.nodes, List.map_cons, List.map_nil,
    List.cons.injEq, Prod.mk.injEq, true_and, and_true] at hfields
  exact Prod.ext (symbolNode_inj hfields.1) (Nat.repr_inj.mp (plainNode_inj hfields.2))

/-- The node of a state tells what the dump writes of it. -/
theorem stateNode_inj {m n : Node × State} (h : stateNode m = stateNode n) :
    Prod.map Node.dumped id m = Prod.map Node.dumped id n := by
  have hfields := (Yaml.Node.mapping.inj h).2
  simp only [nodeFields, numberField, Field.nodes, List.map_cons, List.map_nil, List.cons.injEq,
    Prod.mk.injEq, true_and, and_true] at hfields
  obtain ⟨hid, hkind, htransitions⟩ := hfields
  exact Prod.ext (Prod.ext (selfDelimiting_kindName.eq_iff.mp (plainNode_inj hkind))
    (map_eq_map_of_imp (fun _ _ => transitionNode_inj) (Yaml.Node.sequence.inj htransitions).2))
    (Nat.repr_inj.mp (plainNode_inj hid))

theorem transitionDump_congr {t u : Transition} (h : (t.label, t.target) = (u.label, u.target)) :
    transitionDump t = transitionDump u := by
  obtain ⟨hlabel, htarget⟩ := Prod.mk.inj h
  delta transitionDump
  rw [hlabel, htarget]

theorem nodeDump_congr {m n : Node × State}
    (h : Prod.map Node.dumped id m = Prod.map Node.dumped id n) :
    nodeDump m.2 m.1 = nodeDump n.2 n.1 := by
  obtain ⟨hdumped, hindex⟩ := Prod.mk.inj h
  obtain ⟨hkind, hpairs⟩ := Prod.mk.inj hdumped
  have hempty : m.1.outgoing.isEmpty = n.1.outgoing.isEmpty := by
    simpa using congrArg List.isEmpty hpairs
  replace hindex : m.2 = n.2 := hindex
  delta nodeDump
  rw [hindex, hkind, hempty, map_eq_map_of_imp (fun _ _ => transitionDump_congr) hpairs]

theorem nodesDump_eq (a : Automaton) : a.nodesDump = if a.nodes.isEmpty then " []\n"
    else "\n" ++ String.join (a.nodes.toList.zipIdx.map fun n => nodeDump n.2 n.1) := rfl

/-- **What the dump of an automaton tells about it**: its start and accepting state, and for each
    state the kind it was allocated for and the labels and targets of its transitions. -/
theorem dump_eq_iff : a.dump = b.dump ↔
    a.start = b.start ∧ a.accept = b.accept ∧
      a.nodes.toList.map Node.dumped = b.nodes.toList.map Node.dumped := by
  constructor
  · intro h
    have hdocument := (document?_dumpTokens a).symm
    rw [Option.some.inj ((tokens?_dump a).symm.trans (h ▸ tokens?_dump b)), document?_dumpTokens b]
      at hdocument
    have hfields := (Yaml.Node.mapping.inj (Option.some.inj (Option.some.inj hdocument))).2
    simp only [dumpFields, numberField, Field.nodes, List.map_cons, List.map_nil, List.cons.injEq,
      Prod.mk.injEq, true_and, and_true] at hfields
    obtain ⟨hstart, haccept, hstates⟩ := hfields
    refine ⟨Nat.repr_inj.mp (plainNode_inj hstart), Nat.repr_inj.mp (plainNode_inj haccept), ?_⟩
    have hpairs := map_eq_map_of_imp (fun _ _ => stateNode_inj) (Yaml.Node.sequence.inj hstates).2
    rw [← List.zipIdx_map, ← List.zipIdx_map] at hpairs
    rw [← List.zipIdx_map_fst 0 (a.nodes.toList.map _), hpairs, List.zipIdx_map_fst]
  · rintro ⟨hstart, haccept, hdumped⟩
    have hempty : a.nodes.isEmpty = b.nodes.isEmpty := by
      simpa using congrArg List.isEmpty hdumped
    have hpairs := congrArg List.zipIdx hdumped
    rw [List.zipIdx_map, List.zipIdx_map] at hpairs
    have hstates : a.nodesDump = b.nodesDump := by
      rw [nodesDump_eq, nodesDump_eq, hempty, map_eq_map_of_imp (fun _ _ => nodeDump_congr) hpairs]
    delta dump
    rw [hstart, haccept, hstates]

theorem SameGraph.dump_eq (h : a.SameGraph b) : a.dump = b.dump := by
  obtain ⟨hstart, haccept, hshown⟩ := sameGraph_iff.mp h
  refine dump_eq_iff.mpr ⟨hstart, haccept, map_eq_map_of_imp (fun m n hmn => ?_) hshown⟩
  obtain ⟨hkind, hout⟩ := Prod.mk.inj hmn
  rw [Node.dumped, Node.dumped, hkind, hout]

/-- Numbered states tell where their transitions start. -/
theorem map_shown_eq {k : State} {ns : List Node} (h : Numbered k ns) :
    ns.map Node.shown = ((ns.map Node.dumped).zipIdx k).map fun d =>
      (d.1.1, d.1.2.map fun t => ⟨d.2, t.1, t.2⟩) := by
  induction ns generalizing k with
  | nil => rfl
  | cons node rest ih =>
      have hout : node.outgoing =
          (node.outgoing.map fun t => (t.label, t.target)).map fun t => ⟨k, t.1, t.2⟩ := by
        have hid : ∀ t ∈ node.outgoing, (⟨k, t.label, t.target⟩ : Transition) = t := fun t ht => by
          rw [← h.head t ht]
        rw [List.map_map]
        exact ((List.map_congr_left hid).trans (List.map_id' _)).symm
      rw [List.map_cons, List.map_cons, List.zipIdx_cons, List.map_cons, ih h.tail]
      exact congrArg (· :: _) (Prod.ext rfl hout)

/-- The dump of an automaton with numbered states leaves nothing of the graph out. -/
theorem sameGraph_of_dump_eq (ha : Numbered 0 a.nodes.toList) (hb : Numbered 0 b.nodes.toList)
    (h : a.dump = b.dump) : a.SameGraph b := by
  obtain ⟨hstart, haccept, hdumped⟩ := dump_eq_iff.mp h
  exact sameGraph_iff.mpr ⟨hstart, haccept, by rw [map_shown_eq ha, hdumped, map_shown_eq hb]⟩

/-! ## 3. What a listing tells -/

/-- The transition a line of a listing is about. -/
def transitionOfLine? : ListingLine → Option Transition
  | .state _ _ => none
  | .transition t => some t

theorem filterMap_nodeLines (n : Node × State) :
    (nodeLines n).filterMap transitionOfLine? = n.1.outgoing := by
  unfold nodeLines
  split
  next hempty => exact (List.isEmpty_iff.mp hempty).symm
  next =>
    rw [List.filterMap_cons_none rfl, List.filterMap_map]
    exact List.filterMap_some

/-- **A listing tells the transitions**, in order. -/
theorem filterMap_innerLines (a : Automaton) :
    a.innerLines.filterMap transitionOfLine? = a.transitions := by
  have hfst := List.flatMap_map (f := Prod.fst) (g := Node.outgoing) (l := a.nodes.toList.zipIdx)
  rw [List.zipIdx_map_fst] at hfst
  rw [innerLines, List.filterMap_flatMap, transitions, hfst]
  exact congrArg (List.flatMap · _) (funext filterMap_nodeLines)

/-- **A listing tells the states that have transitions**, and the kinds they were allocated for. -/
theorem mem_innerLines_state {s : State} {k : Kind} :
    .state s k ∈ a.innerLines ↔ a.outgoing s ≠ [] ∧ (a.origin? s).map (·.kind) = some k := by
  have hline : ∀ n : Node × State, .state s k ∈ nodeLines n ↔
      n.1.outgoing ≠ [] ∧ n.2 = s ∧ n.1.origin.kind = k := fun n => by
    unfold nodeLines
    split
    next hempty => simp [List.isEmpty_iff.mp hempty]
    next hne =>
      rw [List.isEmpty_iff] at hne
      simp [hne, eq_comm]
  simp only [innerLines, List.mem_flatMap, hline]
  constructor
  · rintro ⟨⟨node, s⟩, hnode, hout, rfl, rfl⟩
    have hget := List.mem_zipIdx_iff_getElem?.mp hnode
    rw [Array.getElem?_toList] at hget
    exact ⟨by rwa [outgoing, hget], by rw [origin?, hget]; rfl⟩
  · rintro ⟨hout, hkind⟩
    obtain ⟨origin, horigin, rfl⟩ := Option.map_eq_some_iff.mp hkind
    obtain ⟨node, hnode, rfl⟩ := Option.map_eq_some_iff.mp horigin
    rw [outgoing, hnode] at hout
    rw [← Array.getElem?_toList] at hnode
    exact ⟨(node, s), List.mem_zipIdx_iff_getElem?.mpr hnode, hout, rfl, rfl⟩

/-- The lines of a listing, from what the graph holds of each state. -/
theorem innerLines_congr (h : a.nodes.toList.map Node.shown = b.nodes.toList.map Node.shown) :
    a.innerLines = b.innerLines := by
  have hlines : ∀ m n : Node × State, Prod.map Node.shown id m = Prod.map Node.shown id n →
      nodeLines m = nodeLines n := fun m n heq => by
    obtain ⟨hshown, hindex⟩ := Prod.mk.inj heq
    obtain ⟨hkind, hout⟩ := Prod.mk.inj hshown
    replace hindex : m.2 = n.2 := hindex
    rw [nodeLines, nodeLines, hindex, hkind, hout]
  have hpairs := congrArg List.zipIdx h
  rw [List.zipIdx_map, List.zipIdx_map] at hpairs
  rw [innerLines, innerLines, List.flatMap_def, List.flatMap_def, map_eq_map_of_imp hlines hpairs]

theorem SameGraph.listing_eq (h : a.SameGraph b) : a.listing = b.listing := by
  obtain ⟨hstart, haccept, hshown⟩ := sameGraph_iff.mp h
  exact listing_eq_iff.mpr ⟨hstart, haccept, h.stateCount, innerLines_congr hshown⟩

end Automaton

namespace Regex

variable {e f : Regex}

/-! ## 4. Compiled expressions -/

theorem numbered_compile (e : Regex) : Numbered 0 e.compile.nodes.toList := by
  rw [compile_eq]
  exact e.numbered_block 0 []

/-- The accepting state was allocated with the state before it. -/
theorem origin?_exit (e : Regex) :
    e.compile.origin? e.exitOffset = e.compile.origin? (e.exitOffset - 1) := by
  have hcount := e.exitOffset_succ_eq
  have hhalf : e.exitOffset / 2 = (e.exitOffset - 1) / 2 := by omega
  rw [origin?_compile, origin?_compile, hhalf]

/-- **A listing tells the kind of every state**: of those that have transitions in their lines, and
    of the accepting one, which it leaves out, in the line of the state before it. -/
theorem map_kind_origin?_eq (h : e.compile.innerLines = f.compile.innerLines)
    (hexit : e.exitOffset = f.exitOffset) (s : State) :
    (e.compile.origin? s).map (·.kind) = (f.compile.origin? s).map (·.kind) := by
  have hbefore : ∀ s, s < e.exitOffset →
      (e.compile.origin? s).map (·.kind) = (f.compile.origin? s).map (·.kind) := fun s hs => by
    have howner : s / 2 < e.owners.length := by
      have := e.exitOffset_succ_eq
      omega
    have horigin : (e.compile.origin? s).map (·.kind) = some e.owners[s / 2].kind := by
      rw [origin?_compile, List.getElem?_eq_getElem howner, Option.map_some]
    have hline := Automaton.mem_innerLines_state.mpr ⟨outgoing_ne_nil hs, horigin⟩
    rw [h] at hline
    exact horigin.trans (Automaton.mem_innerLines_state.mp hline).2.symm
  rcases Nat.lt_trichotomy s e.exitOffset with hlt | rfl | hgt
  · exact hbefore s hlt
  · have hpos : 0 < e.exitOffset := Nat.zero_lt_of_lt e.entryOffset_lt_exitOffset
    rw [origin?_exit, hexit, origin?_exit, ← hexit]
    exact hbefore _ (Nat.sub_lt hpos Nat.one_pos)
  · have hnone : ∀ g : Regex, g.exitOffset < s → g.compile.origin? s = none := fun g hg => by
      have := g.exitOffset_succ_eq
      rw [origin?_compile, List.getElem?_eq_none_iff]
      omega
    rw [hnone e hgt, hnone f (hexit ▸ hgt)]

theorem sameGraph_of_listing_eq (h : e.compile.listing = f.compile.listing) :
    e.compile.SameGraph f.compile := by
  obtain ⟨hstart, haccept, hcount, hlines⟩ := Automaton.listing_eq_iff.mp h
  have htransitions : e.edges 0 = f.edges 0 := by
    rw [← transitions_compile, ← transitions_compile, ← Automaton.filterMap_innerLines, hlines,
      Automaton.filterMap_innerLines]
  refine ⟨hstart, haccept, hcount, fun s => ?_, fun s => ?_⟩
  · rw [compile_accept, compile_accept] at haccept
    have hkind := congrArg (Option.map Kind.name) (map_kind_origin?_eq hlines haccept s)
    rwa [Option.map_map, Option.map_map] at hkind
  · rw [outgoing_compile, outgoing_compile, htransitions]

theorem sameGraph_of_dump_eq (h : e.compile.dump = f.compile.dump) :
    e.compile.SameGraph f.compile :=
  Automaton.sameGraph_of_dump_eq e.numbered_compile f.numbered_compile h

/-- **The listing and the dump of a compiled expression tell the same**: two compiled expressions
    have the same listing exactly if they have the same dump, and both exactly if they are the same
    graph. The listing has one line for each transition, one for each state that has transitions, and
    two more, whatever the symbols are. -/
theorem listing_eq_iff_dump_eq (e f : Regex) :
    (e.compile.listing = f.compile.listing ↔ e.compile.dump = f.compile.dump) ∧
    (e.compile.listing = f.compile.listing ↔ e.compile.SameGraph f.compile) ∧
    (Text.lines e.compile.listing).length =
      e.compile.transitionCount + e.compile.activeCount + 2 :=
  ⟨⟨fun h => (sameGraph_of_listing_eq h).dump_eq, fun h => (sameGraph_of_dump_eq h).listing_eq⟩,
    ⟨sameGraph_of_listing_eq, fun h => h.listing_eq⟩, e.compile.length_lines_listing⟩

end Regex

end EpsilonAutomata
