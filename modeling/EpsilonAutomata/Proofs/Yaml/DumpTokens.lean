import EpsilonAutomata.Automaton.Dump
import EpsilonAutomata.Proofs.Yaml.BlockText
import EpsilonAutomata.Proofs.Yaml.SymbolScalar

/-!
# The tokens of a dump

What the reader of tokens makes of the dump of any automaton, from its last line to its first
(`lexes_dump`), and that a dump has only characters a YAML text may have (`cleanText_dump`).
-/

namespace EpsilonAutomata

/-! ## 1. The words of a dump -/

namespace Yaml

theorem beginsWord_digit {c : Char} (hc : c.isDigit = true) : beginsWord c = true := by
  have hne : ∀ d : Char, d.isDigit = false → c ≠ d := fun d => digit_ne hc
  simp [beginsWord, inWord, isBreak, isBlank, byteOrderMark, hne]

theorem isWord_numeral (n : Nat) : isWord n.repr.toList = true := by
  rw [Nat.toList_repr]
  have hin : (Nat.toDigits 10 n).all inWord = true := List.all_eq_true.mpr fun c hc => by
    have hbegin := beginsWord_digit (isDigit_of_mem_numeral hc)
    simp only [beginsWord, Bool.and_eq_true] at hbegin
    exact hbegin.1.1
  obtain ⟨c, rest, h, hc⟩ := numeral_cons n
  rw [isWord, hin, h, Bool.and_true]
  exact beginsWord_digit hc

theorem isWord_kind (k : Kind) : isWord k.name.toList = true := by
  cases k <;> decide

end Yaml

/-! ## 2. Tokens, part by part -/

namespace Automaton

open Yaml (Token Lexes plainToken charToken sequenceTokens sequenceText Indented isWord_numeral
  isWord_kind CleanText cleanText_charScalar tokens? tokens?_of_lexes)

/-- The token of the symbol of a transition. -/
def symbolToken : Option Char → Token
  | none => plainToken "null"
  | some c => charToken c

/-- The tokens of one transition, behind its dash. -/
def transitionTokens (t : Transition) : List Token :=
  [.blockMapping, .key, plainToken "symbol", .value, symbolToken t.label,
    .key, plainToken "to", .value, plainToken t.target.repr, .blockEnd]

/-- The tokens of one state, behind its dash. -/
def nodeTokens (n : Node × State) : List Token :=
  [.blockMapping, .key, plainToken "id", .value, plainToken n.2.repr,
    .key, plainToken "source", .value, plainToken n.1.origin.kind.name,
    .key, plainToken "transitions", .value] ++
    (sequenceTokens transitionTokens n.1.outgoing ++ [.blockEnd])

/-- The tokens of a dump. -/
def dumpTokens (a : Automaton) : List Token :=
  [.blockMapping, .key, plainToken "start", .value, plainToken a.start.repr,
    .key, plainToken "accept", .value, plainToken a.accept.repr,
    .key, plainToken "states", .value] ++
    (sequenceTokens nodeTokens a.nodes.toList.zipIdx ++ [.blockEnd, .streamEnd])

variable {rest : List Char} {ts : List Token}

/-- The symbol of a transition, up to the end of its line. -/
theorem lexes_symbol {columns : List Nat} {parent : Nat} (label : Option Char) (column : Nat)
    (h : Lexes (parent :: columns) true 0 rest ts) (hcolumn : parent ≤ column)
    (hrest : Indented parent rest) :
    Lexes (parent :: columns) false column (' ' :: ((symbolScalar label).toList ++ '\n' :: rest))
      (symbolToken label :: ts) := by
  cases label with
  | none => exact h.word (by decide) hcolumn hrest
  | some c => exact h.charScalar hcolumn hrest

/-- **The lines of one transition.** -/
theorem lexes_transition (t : Transition) (rest : List Char) (ts : List Token)
    (h : Lexes [2, 0] true 0 rest ts) (hrest : Indented 2 rest) :
    Lexes [2, 0] true 0 ((transitionDump t).toList ++ rest)
      (.blockEntry :: (transitionTokens t ++ ts)) ∧
      Indented 2 ((transitionDump t).toList ++ rest) := by
  have hend : Lexes [4, 2, 0] true 0 rest (.blockEnd :: ts) := h.blockEnd hrest (by decide)
  have hto := hend.entryWord "to" (by decide) (isWord_numeral t.target) (hrest.mono (by decide))
  have hsymbol := lexes_symbol t.label (4 + "symbol".toList.length + 1) (hto.spaces 4) (by decide)
    ⟨4, _, Nat.le_refl 4, rfl, rfl⟩
  have hdash := (hsymbol.opening "symbol" (by decide) (by decide) rfl).dash rfl
  have htext : (transitionDump t).toList ++ rest =
      List.replicate 2 ' ' ++ '-' :: ' ' :: ("symbol".toList ++ ':' :: ' ' ::
        ((symbolScalar t.label).toList ++ '\n' :: (List.replicate 4 ' ' ++
          ("to".toList ++ ':' :: ' ' :: (t.target.repr.toList ++ '\n' :: rest))))) := by
    simp [transitionDump, List.replicate]
  rw [htext]
  exact ⟨hdash.spaces 2, 2, _, Nat.le_refl 2, rfl, rfl⟩

/-- **The lines of one state.** -/
theorem lexes_node (n : Node × State) (rest : List Char) (ts : List Token)
    (h : Lexes [0] true 0 rest ts) (hrest : Indented 0 rest) :
    Lexes [0] true 0 ((nodeDump n.2 n.1).toList ++ rest)
      (.blockEntry :: (nodeTokens n ++ ts)) ∧
      Indented 0 ((nodeDump n.2 n.1).toList ++ rest) := by
  obtain ⟨node, s⟩ := n
  have hend : Lexes [2, 0] true 0 rest (.blockEnd :: ts) := h.blockEnd hrest (by decide)
  obtain ⟨houtgoing, hends⟩ := Lexes.sequence (2 + "transitions".toList.length + 1) lexes_transition
    node.outgoing hend (hrest.mono (by decide)) (by decide)
  have htransitions := houtgoing.entry "transitions" (by decide) hends
  have hsource := (htransitions.spaces 2).entryWord "source" (by decide)
    (isWord_kind node.origin.kind) ⟨2, _, Nat.le_refl 2, rfl, rfl⟩
  have hid := (hsource.spaces 2).openingWord "id" (by decide) (isWord_numeral s) (by decide)
    ⟨2, _, Nat.le_refl 2, rfl, rfl⟩
  have htext : (nodeDump s node).toList ++ rest =
      '-' :: ' ' :: ("id".toList ++ ':' :: ' ' :: (s.repr.toList ++ '\n' ::
        (List.replicate 2 ' ' ++ ("source".toList ++ ':' :: ' ' ::
          (node.origin.kind.name.toList ++ '\n' :: (List.replicate 2 ' ' ++
            ("transitions".toList ++ ':' ::
              (sequenceText (fun t => (transitionDump t).toList) node.outgoing ++ rest)))))))) := by
    cases hout : node.outgoing with
    | nil => simp [nodeDump, sequenceText, hout, List.replicate]
    | cons t us => simp [nodeDump, sequenceText, hout, List.replicate, List.flatMap_map]
  have htokens : .blockEntry :: (nodeTokens (node, s) ++ ts) =
      [.blockEntry, .blockMapping, .key, plainToken "id", .value, plainToken s.repr,
        .key, plainToken "source", .value, plainToken node.origin.kind.name,
        .key, plainToken "transitions", .value] ++
        (sequenceTokens transitionTokens node.outgoing ++ (.blockEnd :: ts)) := by
    rw [nodeTokens, List.append_assoc, List.append_assoc]
    rfl
  rw [htext, htokens]
  exact ⟨hid.dash rfl, 0, _, Nat.le_refl 0, rfl, rfl⟩

/-- A dump, line by line. -/
theorem toList_dump (a : Automaton) : a.dump.toList =
    "start".toList ++ ':' :: ' ' :: (a.start.repr.toList ++ '\n' ::
      ("accept".toList ++ ':' :: ' ' :: (a.accept.repr.toList ++ '\n' ::
        ("states".toList ++ ':' ::
          (sequenceText (fun n => (nodeDump n.2 n.1).toList) a.nodes.toList.zipIdx ++ []))))) := by
  unfold dump nodesDump
  rw [← Array.isEmpty_toList, List.append_nil]
  cases a.nodes.toList with
  | nil => simp [sequenceText]
  | cons n ns => simp [sequenceText, List.zipIdx_cons, List.flatMap_map]

/-- **The tokens of a dump.** -/
theorem lexes_dump (a : Automaton) : Lexes [] true 0 a.dump.toList (dumpTokens a) := by
  have hnil : Lexes [0] true 0 [] [.blockEnd, .streamEnd] := .nil [0] true
  obtain ⟨hnodes, hends⟩ := Lexes.sequence (0 + "states".toList.length + 1) lexes_node
    a.nodes.toList.zipIdx hnil ⟨0, [], Nat.le_refl 0, rfl, rfl⟩ (by decide)
  have hstates := hnodes.entry "states" (by decide) hends
  have haccept := hstates.entryWord "accept" (by decide) (isWord_numeral a.accept)
    ⟨0, _, Nat.le_refl 0, rfl, rfl⟩
  have hstart := haccept.openingWord "start" (by decide) (isWord_numeral a.start) (by rfl)
    ⟨0, _, Nat.le_refl 0, rfl, rfl⟩
  rw [toList_dump]
  exact hstart

/-! ## 3. The characters of a dump -/

/-- The texts between the numbers, symbols and kinds of a dump. -/
def dumpTexts : List String :=
  ["", "start: ", "\naccept: ", "\nstates:", " []\n", "\n", "- id: ", "\n  source: ",
    "\n  transitions:", "  - symbol: ", "\n    to: "]

section Pieces

variable {P : String → Prop}

theorem join_of_pieces {ss : List String} (hempty : P "")
    (happend : ∀ {s t : String}, P s → P t → P (s ++ t)) (h : ∀ s ∈ ss, P s) :
    P (String.join ss) := by
  induction ss with
  | nil => rwa [String.join_nil]
  | cons s ss ih =>
      rw [List.forall_mem_cons] at h
      rw [String.join_cons]
      exact happend h.1 (ih h.2)

/-- **What is true of the pieces of a dump is true of the dump**, if it is kept when texts are put
    together. -/
theorem dump_of_pieces (happend : ∀ {s t : String}, P s → P t → P (s ++ t))
    (htext : ∀ s ∈ dumpTexts, P s) (hnumeral : ∀ n : Nat, P n.repr)
    (hkind : ∀ k : Kind, P k.name) (hsymbol : ∀ label, P (symbolScalar label)) (a : Automaton) :
    P a.dump := by
  have hjoin {ss : List String} : (∀ s ∈ ss, P s) → P (String.join ss) :=
    join_of_pieces (htext _ (by decide)) happend
  have htransition (t : Transition) : P (transitionDump t) :=
    happend (happend (happend (happend (htext _ (by decide)) (hsymbol t.label))
      (htext _ (by decide))) (hnumeral t.target)) (htext _ (by decide))
  have hnode (s : State) (node : Node) : P (nodeDump s node) := by
    refine happend (happend (happend (happend (happend (htext _ (by decide)) (hnumeral s))
      (htext _ (by decide))) (hkind node.origin.kind)) (htext _ (by decide))) ?_
    split
    · exact htext _ (by decide)
    · exact happend (htext _ (by decide)) (hjoin (List.forall_mem_map.mpr fun t _ => htransition t))
  have hnodes : P a.nodesDump := by
    unfold nodesDump
    split
    · exact htext _ (by decide)
    · exact happend (htext _ (by decide))
        (hjoin (List.forall_mem_map.mpr fun n _ => hnode n.2 n.1))
  exact happend (happend (happend (happend (happend (htext _ (by decide)) (hnumeral a.start))
    (htext _ (by decide))) (hnumeral a.accept)) (htext _ (by decide))) hnodes

end Pieces

/-- **A dump has only characters a YAML text may have**, and no line break but the line feed. -/
theorem cleanText_dump (a : Automaton) : CleanText a.dump := by
  refine dump_of_pieces CleanText.append (by decide) .numeral ?_ ?_ a
  · intro k
    cases k <;> decide
  · intro label
    cases label with
    | none => exact (by decide : CleanText "null")
    | some c => exact cleanText_charScalar c

/-- **What the reader of tokens makes of a dump.** -/
theorem tokens?_dump (a : Automaton) : tokens? a.dump.toList = some (dumpTokens a) :=
  tokens?_of_lexes (lexes_dump a) (cleanText_dump a).all_isAllowed
    (cleanText_dump a).normalizeBreaks_eq

end Automaton

end EpsilonAutomata
