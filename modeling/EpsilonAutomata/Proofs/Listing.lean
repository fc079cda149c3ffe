import EpsilonAutomata.Automaton.Listing
import EpsilonAutomata.Proofs.TermText
import EpsilonAutomata.Proofs.Text.Quoted

/-!
# Reading a listing

A listing is its first line, a line for each state that has transitions and for each of its
transitions, and its last line. Every line tells where it ends, so equal listings are listings of the
same lines; and no line contains a line break, so there are as many lines as one would count.

* `listing_eq` -- the lines of a listing;
* `listing_eq_iff` -- what the listing of an automaton tells about it;
* `length_lines_listing` -- how many lines it has.
-/

namespace EpsilonAutomata

open Text (SelfDelimiting OneLine lines numeral_inj selfDelimiting_quotedChar oneLine_quotedChar)

/-! ## 1. Parts of a line -/

theorem toList_stateText (s : State) :
    (stateText s).toList = "State(".toList ++ (s.repr.toList ++ [')']) := by
  simp [stateText]

theorem selfDelimiting_stateText : SelfDelimiting stateText := by
  intro m n s t h
  simp only [toList_stateText, List.append_assoc, List.singleton_append] at h
  exact numeral_inj rfl (List.append_cancel_left h)

theorem selfDelimiting_kindName : SelfDelimiting Kind.name :=
  .of_head (fun k => by cases k <;> decide) fun _ _ => Kind.eq_of_head_name

theorem selfDelimiting_labelText : SelfDelimiting labelText := by
  intro label label' s t h
  cases label with
  | none =>
      cases label' with
      | none => exact ⟨rfl, List.append_cancel_left h⟩
      | some d => simp [labelText, Text.quotedChar] at h
  | some c =>
      cases label' with
      | none => simp [labelText, Text.quotedChar] at h
      | some d =>
          obtain ⟨rfl, hend⟩ := selfDelimiting_quotedChar c h
          exact ⟨rfl, hend⟩

/-- **The text of a transition tells the transition**, and where it ends. -/
theorem selfDelimiting_transition : SelfDelimiting Transition.listing := by
  rintro ⟨source, label, target⟩ ⟨source', label', target'⟩ s t h
  simp only [Transition.listing, String.toList_append, List.append_assoc] at h
  obtain ⟨rfl, htarget⟩ := selfDelimiting_stateText source h
  obtain ⟨rfl, hlabel⟩ := selfDelimiting_stateText target (List.append_cancel_left htarget)
  obtain ⟨rfl, hend⟩ := selfDelimiting_labelText label (List.append_cancel_left hlabel)
  exact ⟨rfl, hend⟩

theorem oneLine_stateText (s : State) : OneLine (stateText s) :=
  .append (.append (by decide) (.numeral s)) (by decide)

theorem oneLine_transition (t : Transition) : OneLine t.listing := by
  have hlabel : OneLine (labelText t.label) := by
    cases t.label with
    | none =>
        show OneLine "epsilon"
        decide
    | some c => exact oneLine_quotedChar c
  exact .append (.append (.append (.append (oneLine_stateText t.source) (by decide))
    (oneLine_stateText t.target)) (by decide)) hlabel

/-! ## 2. Lines -/

/-- What a line between the first and the last of a listing is about. -/
inductive ListingLine where
  /-- A state that has transitions, and the kind of node it was allocated for. -/
  | state (s : State) (kind : Kind)
  | transition (t : Transition)

/-- The line, without the line feed that ends it. -/
def ListingLine.text : ListingLine → String
  | state s kind => "\t" ++ stateText s ++ " (" ++ kind.name ++ "):"
  | transition t => "\t\t" ++ t.listing

theorem selfDelimiting_line : SelfDelimiting ListingLine.text := by
  intro x y s t h
  cases x with
  | state n k =>
      cases y with
      | state m l =>
          simp only [ListingLine.text, String.toList_append, List.append_assoc] at h
          obtain ⟨rfl, hkind⟩ := selfDelimiting_stateText n (List.append_cancel_left h)
          obtain ⟨rfl, hend⟩ := selfDelimiting_kindName k (List.append_cancel_left hkind)
          exact ⟨rfl, List.append_cancel_left hend⟩
      | transition u => simp [ListingLine.text, stateText] at h
  | transition u =>
      cases y with
      | state m l => simp [ListingLine.text, stateText] at h
      | transition v =>
          obtain ⟨rfl, hend⟩ := selfDelimiting_transition.const_append "\t\t" u h
          exact ⟨rfl, hend⟩

/-- Every line but the first and the last is indented. -/
theorem ListingLine.text_ne (x : ListingLine) (rest : List Char) :
    (x.text ++ "\n").toList ++ rest ≠ "\x7d )".toList := by
  cases x <;> simp [ListingLine.text]

/-- **No line contains a line break.** -/
theorem ListingLine.oneLine (x : ListingLine) : OneLine x.text := by
  cases x with
  | state s k =>
      have hkind : OneLine k.name := by
        cases k <;> decide
      exact .append (.append (.append (.append (by decide) (oneLine_stateText s)) (by decide)) hkind)
        (by decide)
  | transition t => exact .append (by decide) (oneLine_transition t)

namespace Automaton

/-- The lines for one state. -/
def nodeLines (n : Node × State) : List ListingLine :=
  if n.1.outgoing.isEmpty then []
  else .state n.2 n.1.origin.kind :: n.1.outgoing.map .transition

/-- **The lines between the first and the last of a listing.** -/
def innerLines (a : Automaton) : List ListingLine := a.nodes.toList.zipIdx.flatMap nodeLines

/-- The first line of a listing. -/
def firstLine (start accept : State) (count : Nat) : String :=
  "NFA( start: " ++ stateText start ++ ", accept: " ++ stateText accept ++
    ", num_states: " ++ count.repr ++ ", transitions: \x7b"

theorem nodeListing_eq (n : Node × State) :
    nodeListing n.2 n.1 = String.join ((nodeLines n).map fun x => x.text ++ "\n") := by
  have hend : ("):\n" : String) = "):" ++ "\n" := rfl
  unfold nodeListing nodeLines
  split
  · rfl
  · rw [List.map_cons, String.join_cons, List.map_map, hend]
    simp only [ListingLine.text, String.append_assoc, Function.comp_def]

theorem join_nodeListing (a : Automaton) :
    String.join (a.nodes.toList.zipIdx.map fun n => nodeListing n.2 n.1) =
      String.join ((a.innerLines.map ListingLine.text).map (· ++ "\n")) := by
  refine String.toList_inj.mp ?_
  simp only [nodeListing_eq, innerLines, String.toList_join, List.flatMap_map, List.map_flatMap,
    List.flatMap_assoc]

/-- **A listing, line by line.** -/
theorem listing_eq (a : Automaton) :
    a.listing = firstLine a.start a.accept a.stateCount ++ "\n" ++
      (String.join ((a.innerLines.map ListingLine.text).map (· ++ "\n")) ++ "\x7d )") := by
  have hfirst : "NFA( start: " ++ stateText a.start ++ ", accept: " ++ stateText a.accept ++
      ", num_states: " ++ toString a.stateCount ++ ", transitions: \x7b\n" =
      firstLine a.start a.accept a.stateCount ++ "\n" := by
    have hend : (", transitions: \x7b\n" : String) = ", transitions: \x7b" ++ "\n" := rfl
    rw [hend, ← String.append_assoc]
    rfl
  rw [← hfirst, ← join_nodeListing, ← String.append_assoc]
  rfl

/-! ## 3. What a listing tells -/

variable {a b : Automaton}

/-- The first line tells the two states and the number of states it names. -/
theorem firstLine_inj {m n m' n' : State} {k k' : Nat} {s t : List Char}
    (h : (firstLine m n k).toList ++ s = (firstLine m' n' k').toList ++ t) :
    m = m' ∧ n = n' ∧ k = k' ∧ s = t := by
  have htext : ∀ (m n : State) (k : Nat) (s : List Char), (firstLine m n k).toList ++ s =
      "NFA( start: ".toList ++ ((stateText m).toList ++ (", accept: ".toList ++
        ((stateText n).toList ++ (", num_states: ".toList ++ (k.repr.toList ++
          ',' :: (" transitions: \x7b".toList ++ s)))))) := fun m n k s => by
    delta firstLine
    simp only [String.toList_append, List.append_assoc]
    rfl
  rw [htext, htext] at h
  obtain ⟨rfl, haccept⟩ := selfDelimiting_stateText m (List.append_cancel_left h)
  obtain ⟨rfl, hcount⟩ := selfDelimiting_stateText n (List.append_cancel_left haccept)
  obtain ⟨rfl, hend⟩ := numeral_inj rfl (List.append_cancel_left hcount)
  exact ⟨rfl, rfl, rfl, List.append_cancel_left hend⟩

theorem toList_listing (a : Automaton) :
    a.listing.toList = (firstLine a.start a.accept a.stateCount).toList ++
      '\n' :: ((String.join (a.innerLines.map fun x => x.text ++ "\n")).toList ++
        "\x7d )".toList) := by
  rw [listing_eq, List.map_map]
  simp only [String.toList_append, List.append_assoc]
  rfl

/-- **What the listing of an automaton tells about it**: its start and accepting state, how many
    states it has, and its lines. -/
theorem listing_eq_iff : a.listing = b.listing ↔
    a.start = b.start ∧ a.accept = b.accept ∧ a.stateCount = b.stateCount ∧
      a.innerLines = b.innerLines := by
  constructor
  · intro h
    have hlists := congrArg String.toList h
    rw [toList_listing, toList_listing] at hlists
    obtain ⟨hstart, haccept, hcount, hrest⟩ := firstLine_inj hlists
    exact ⟨hstart, haccept, hcount, ((selfDelimiting_line.append_const "\n").join_inj
      ListingLine.text_ne ListingLine.text_ne (List.cons.inj hrest).2).1⟩
  · rintro ⟨hstart, haccept, hcount, hlines⟩
    rw [listing_eq, listing_eq, hstart, haccept, hcount, hlines]

/-! ## 4. Counting lines -/

/-- **The lines of a listing.** -/
theorem lines_listing (a : Automaton) : lines a.listing =
    firstLine a.start a.accept a.stateCount :: (a.innerLines.map ListingLine.text ++ ["\x7d )"]) := by
  have hfirst : OneLine (firstLine a.start a.accept a.stateCount) :=
    .append (.append (.append (.append (.append (.append (by decide) (oneLine_stateText a.start))
      (by decide)) (oneLine_stateText a.accept)) (by decide)) (.numeral a.stateCount)) (by decide)
  have hlast : OneLine "\x7d )" := by decide
  have hinner : ∀ s ∈ a.innerLines.map ListingLine.text, OneLine s := fun s hs => by
    obtain ⟨x, _, rfl⟩ := List.mem_map.mp hs
    exact x.oneLine
  rw [listing_eq, hfirst.lines_append, OneLine.lines_join hinner, hlast.lines_eq]

/-- How many states have transitions. -/
def activeCount (a : Automaton) : Nat := a.nodes.toList.countP fun node => !node.outgoing.isEmpty

theorem length_innerLines (a : Automaton) :
    a.innerLines.length = a.transitionCount + a.activeCount := by
  unfold innerLines transitionCount activeCount
  generalize a.nodes.toList = ns
  -- the numbers of the states do not matter
  suffices h : ∀ k, ((ns.zipIdx k).flatMap nodeLines).length =
      total (ns.map (·.outgoing.length)) + ns.countP fun node => !node.outgoing.isEmpty from h 0
  induction ns with
  | nil => exact fun _ => rfl
  | cons node ns ih =>
      intro k
      rw [List.zipIdx_cons, List.flatMap_cons, List.length_append, ih, List.map_cons, total_cons,
        List.countP_cons, nodeLines]
      cases hout : node.outgoing with
      | nil => simp
      | cons t ts => simp; omega

/-- **A listing has one line for each transition, one for each state that has transitions, and two
    more.** -/
theorem length_lines_listing (a : Automaton) :
    (lines a.listing).length = a.transitionCount + a.activeCount + 2 := by
  rw [lines_listing, List.length_cons, List.length_append, List.length_map, length_innerLines]
  rfl

end Automaton

end EpsilonAutomata
