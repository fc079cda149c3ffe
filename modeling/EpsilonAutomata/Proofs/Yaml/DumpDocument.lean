import EpsilonAutomata.Proofs.Edges
import EpsilonAutomata.Proofs.Yaml.DumpTokens
import EpsilonAutomata.Proofs.Yaml.PlainDocument

/-!
# A dump says what the automaton is

The document a dump is to be read as (`graphDocument`), and when it is: a dump loses nothing exactly
if the numbers of its states are machine words (`read?_dump_iff`).
-/

namespace EpsilonAutomata

namespace Automaton

open Yaml (Value Document Field Assembles Frame charStyle plainNode plainToken charToken
  plainValue? plainValue?_repr_iff plainValue?_word reservedWords document?_of_assembles
  untaggedValue?_charScalar)

/-! ## 1. What a dump is to say -/

/-- The symbol of a transition: null, or the string of one character. -/
def symbolValue : Option Char → Value
  | none => .null
  | some c => .string c.toString

/-- The number of a state. -/
def stateValue (s : State) : Value := .number (.integer s)

/-- A transition. -/
def transitionValue (t : Transition) : Value :=
  .mapping [(.string "symbol", symbolValue t.label), (.string "to", stateValue t.target)]

/-- A state: its number, the kind of node it was allocated for, and its transitions in order. -/
def nodeValue (n : Node × State) : Value :=
  .mapping [(.string "id", stateValue n.2), (.string "source", .string n.1.origin.kind.name),
    (.string "transitions", .sequence (n.1.outgoing.map transitionValue))]

/-- **The automaton as a document.** -/
def graphDocument (a : Automaton) : Document :=
  ⟨[("start", stateValue a.start), ("accept", stateValue a.accept),
    ("states", .sequence (a.nodes.toList.zipIdx.map nodeValue))]⟩

/-- The numbers of all states are machine words. -/
structure HasWordStates (a : Automaton) : Prop where
  start : a.start < 2 ^ 64
  accept : a.accept < 2 ^ 64
  count : a.stateCount ≤ 2 ^ 64
  targets : ∀ t ∈ a.transitions, t.target < 2 ^ 64

/-! ## 2. Nodes -/

/-- The node of the symbol of a transition. -/
def symbolNode : Option Char → Yaml.Node
  | none => plainNode "null"
  | some c => .scalar .none (charStyle c).read c.toString

/-- The entry of a number of a state. -/
def numberField (name : String) (s : State) : Field :=
  ⟨name, plainNode s.repr, stateValue s, s < 2 ^ 64⟩

/-- The entries of a transition. -/
def transitionFields (t : Transition) : List Field :=
  [⟨"symbol", symbolNode t.label, symbolValue t.label, True⟩, numberField "to" t.target]

/-- The node of a transition. -/
def transitionNode (t : Transition) : Yaml.Node :=
  .mapping .none ((transitionFields t).map (·.nodes))

/-- The entries of a state. -/
def nodeFields (n : Node × State) : List Field :=
  [numberField "id" n.2,
    ⟨"source", plainNode n.1.origin.kind.name, .string n.1.origin.kind.name, True⟩,
    ⟨"transitions", .sequence .none (n.1.outgoing.map transitionNode),
      .sequence (n.1.outgoing.map transitionValue),
      ∀ t ∈ n.1.outgoing, ∀ f ∈ transitionFields t, f.condition⟩]

/-- The node of a state. -/
def stateNode (n : Node × State) : Yaml.Node := .mapping .none ((nodeFields n).map (·.nodes))

/-- The entries of a dump. -/
def dumpFields (a : Automaton) : List Field :=
  [numberField "start" a.start, numberField "accept" a.accept,
    ⟨"states", .sequence .none (a.nodes.toList.zipIdx.map stateNode),
      .sequence (a.nodes.toList.zipIdx.map nodeValue),
      ∀ n ∈ a.nodes.toList.zipIdx, ∀ f ∈ nodeFields n, f.condition⟩]

theorem assembles_transition (t : Transition) (items : List Yaml.Node) {below : List Frame}
    (hdepth : below.length < Frame.depthLimit) :
    Assembles (.looseItem .none items, below) (transitionTokens t)
      (.looseItems .none (transitionNode t :: items), below) := by
  obtain ⟨source, label, target⟩ := t
  cases label with
  | none =>
      exact .openMapping hdepth (.entry "symbol" _ _ (.entry "to" _ _ (.endMapping rfl (.nil _))))
  | some c =>
      exact .openMapping hdepth (.entry "symbol" _ _ (.entry "to" _ _ (.endMapping rfl (.nil _))))

theorem assembles_node (n : Node × State) (items : List Yaml.Node) {below : List Frame}
    (hdepth : below.length + 2 < Frame.depthLimit) :
    Assembles (.looseItem .none items, below) (nodeTokens n)
      (.looseItems .none (stateNode n :: items), below) := by
  refine .openMapping (by omega) (.entry "id" _ _ (.entry "source" _ _ (.key "transitions" ?_)))
  exact .endSequence (fun t items => assembles_transition t items hdepth) n.1.outgoing (by omega)
    rfl (.nil _)

/-- **The node of a dump.** -/
theorem document?_dumpTokens (a : Automaton) :
    Yaml.document? (dumpTokens a) =
      some (some (.mapping .none ((dumpFields a).map (·.nodes)))) := by
  refine document?_of_assembles (.take nofun rfl (fun _ => rfl) ?_)
  refine .entry "start" _ _ (.entry "accept" _ _ (.key "states" ?_))
  refine .endSequence (fun n items => assembles_node n items ?_) a.nodes.toList.zipIdx (by decide)
    rfl ?_
  · show 2 + 2 < Frame.depthLimit
    decide
  exact .take nofun rfl (fun _ => rfl) (.nil _)

/-! ## 3. Values -/

theorem plainValue?_kind (k : Kind) : plainValue? k.name = some (.string k.name) := by
  cases k <;> exact plainValue?_word (by decide) (by decide)

theorem reads_symbol (label : Option Char) (depth : Nat) :
    (symbolNode label).ReadsIff depth (symbolValue label) True := by
  cases label with
  | none => exact .scalar (iff_true_intro rfl)
  | some c => exact .scalar (iff_true_intro (untaggedValue?_charScalar c))

theorem numberField_reads (name : String) (s : State) (depth : Nat) :
    (numberField name s).node.ReadsIff depth (numberField name s).value
      (numberField name s).condition :=
  .scalar (plainValue?_repr_iff s)

theorem reads_transition (t : Transition) (depth : Nat) :
    (transitionNode t).ReadsIff (depth + 1) (transitionValue t)
      (∀ f ∈ transitionFields t, f.condition) := by
  refine .mapping (fun f hf => ?_) (by simp [transitionFields, numberField])
  simp only [transitionFields, List.mem_cons, List.not_mem_nil, or_false] at hf
  rcases hf with rfl | rfl
  · exact ⟨plainValue?_word (s := "symbol") (by decide) (by decide), reads_symbol t.label depth⟩
  · exact ⟨plainValue?_word (s := "to") (by decide) (by decide), numberField_reads _ _ depth⟩

theorem reads_node (n : Node × State) (depth : Nat) :
    (stateNode n).ReadsIff (depth + 3) (nodeValue n) (∀ f ∈ nodeFields n, f.condition) := by
  refine .mapping (fun f hf => ?_) (by simp [nodeFields, numberField])
  simp only [nodeFields, List.mem_cons, List.not_mem_nil, or_false] at hf
  rcases hf with rfl | rfl | rfl
  · exact ⟨plainValue?_word (s := "id") (by decide) (by decide), numberField_reads _ _ _⟩
  · exact ⟨plainValue?_word (s := "source") (by decide) (by decide),
      .scalar (iff_true_intro (plainValue?_kind n.1.origin.kind))⟩
  · exact ⟨plainValue?_word (s := "transitions") (by decide) (by decide),
      .sequence fun t _ => reads_transition t depth⟩

/-- The entries of a dump are read as they should be if the numbers in them are machine words. -/
theorem conditions_iff (a : Automaton) : (∀ f ∈ dumpFields a, f.condition) ↔ a.HasWordStates := by
  have htransition : ∀ t, (∀ f ∈ transitionFields t, f.condition) ↔ t.target < 2 ^ 64 := fun t => by
    simp [transitionFields, numberField]
  have hnode : ∀ n, (∀ f ∈ nodeFields n, f.condition) ↔
      n.2 < 2 ^ 64 ∧ ∀ t ∈ n.1.outgoing, t.target < 2 ^ 64 := fun n => by
    simp [nodeFields, numberField, htransition]
  have hdump : (∀ f ∈ dumpFields a, f.condition) ↔ a.start < 2 ^ 64 ∧ a.accept < 2 ^ 64 ∧
      ∀ n ∈ a.nodes.toList.zipIdx, n.2 < 2 ^ 64 ∧ ∀ t ∈ n.1.outgoing, t.target < 2 ^ 64 := by
    simp only [dumpFields, numberField, hnode, List.forall_mem_cons, List.not_mem_nil,
      false_implies, implies_true, and_true]
  rw [hdump]
  constructor
  · rintro ⟨hstart, haccept, hnodes⟩
    refine ⟨hstart, haccept, Nat.le_of_not_lt fun hcount => ?_, fun t ht => ?_⟩
    · have hlt : 2 ^ 64 < a.nodes.toList.length := hcount
      have hlast : (a.nodes.toList[2 ^ 64], 2 ^ 64) ∈ a.nodes.toList.zipIdx :=
        List.mem_zipIdx_iff_getElem?.mpr (List.getElem?_eq_getElem hlt)
      exact Nat.lt_irrefl _ (hnodes _ hlast).1
    · obtain ⟨node, hnode, ht⟩ := List.mem_flatMap.mp ht
      obtain ⟨s, hs⟩ := List.mem_iff_getElem?.mp hnode
      exact (hnodes (node, s) (List.mem_zipIdx_iff_getElem?.mpr hs)).2 t ht
  · rintro ⟨hstart, haccept, hcount, htargets⟩
    refine ⟨hstart, haccept, fun n hn => ⟨?_, fun t ht => ?_⟩⟩
    · have hindex := List.mem_zipIdx_iff_getElem?.mp hn
      exact Nat.lt_of_lt_of_le (List.getElem?_eq_some_iff.mp hindex).1 hcount
    · have hindex := List.mem_zipIdx_iff_getElem?.mp hn
      exact htargets t (List.mem_flatMap.mpr ⟨n.1, List.mem_of_getElem? hindex, ht⟩)

/-- **A dump loses nothing exactly if the numbers of its states are machine words.** -/
theorem read?_dump_iff (a : Automaton) :
    Document.read? a.dump = some (graphDocument a) ↔ a.HasWordStates := by
  have hnode : Document.read? a.dump =
      Document.ofNode? (some (.mapping .none ((dumpFields a).map (·.nodes)))) := by
    rw [Document.read?, tokens?_dump, Option.bind_some, document?_dumpTokens, Option.bind_some]
  have hreads : ∀ f ∈ dumpFields a, f.node.ReadsIff (Frame.depthLimit - 1) f.value f.condition := by
    intro f hf
    simp only [dumpFields, List.mem_cons, List.not_mem_nil, or_false] at hf
    rcases hf with rfl | rfl | rfl
    · exact numberField_reads _ _ _
    · exact numberField_reads _ _ _
    · exact .sequence fun n _ => reads_node n (Frame.depthLimit - 5)
  have hiff := Document.ofNode?_iff hreads
  rw [← hnode] at hiff
  exact hiff.trans (conditions_iff a)

end Automaton

/-- **The dump of a compiled expression loses nothing**: it reads back as the automaton exactly if a
    machine word can number the states, as it can for every automaton that fits in memory. -/
theorem Regex.read?_dump_compile_iff (e : Regex) :
    Yaml.Document.read? e.compile.dump = some e.compile.graphDocument ↔
      e.compile.stateCount ≤ 2 ^ 64 := by
  rw [Automaton.read?_dump_iff]
  refine ⟨fun h => h.count, fun hcount => ⟨?_, ?_, hcount, fun t ht => ?_⟩⟩
  all_goals rw [stateCount_compile] at hcount
  · rw [compile_start]
    exact Nat.lt_trans e.entryOffset_lt_exitOffset hcount
  · rw [compile_accept]
    exact hcount
  · rw [transitions_compile] at ht
    obtain ⟨_, _, _, htarget⟩ := edges_inside ht
    rw [Nat.zero_add] at htarget
    exact Nat.lt_of_le_of_lt htarget hcount

end EpsilonAutomata
