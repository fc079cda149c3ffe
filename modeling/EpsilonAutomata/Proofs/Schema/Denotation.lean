import EpsilonAutomata.Proofs.Schema.Loading
import EpsilonAutomata.Proofs.Language

/-!
# What a node of a schema denotes

`Denotes` reads a node as it is written: a union or a concatenation has any number of operands, and
nothing is joined in pairs. The loader joins operands from the left, the construction makes an
automaton of the joined expression, and the simulation runs it. None of this shows in the words that
are accepted.

* `Denotes` -- the words of a node, by its kind;
* `mem_language_iff_denotes` -- the expression loaded from a node has the words of the node;
* `accepts_loaded_iff` -- and so has its automaton.
-/

namespace EpsilonAutomata.Schema

open Yaml (Value)

/-- **The words that a node denotes.** -/
inductive Denotes : Value → List Char → Prop where
  | empty : Denotes (.string "empty") []
  | symbol (c : Char) : Denotes (node "symbol" (.string (String.singleton c))) [c]
  /-- One word of the operand after the other, any number of them. -/
  | iterate {w : Value} {words : List (List Char)} (h : ∀ u ∈ words, Denotes w u) :
      Denotes (node "iterate" w) words.flatten
  /-- A word of one of the operands. -/
  | union {items : List Value} {w : Value} {word : List Char} (hw : w ∈ items)
      (h : Denotes w word) : Denotes (node "union" (.sequence items)) word
  /-- A word of each operand, in their order. -/
  | concat {items : List Value} {words : List (List Char)} (h : List.Forall₂ Denotes items words) :
      Denotes (node "concat" (.sequence items)) words.flatten

variable {v w : Value} {e : Regex} {items : List Value} {word : List Char} {c : Char}

/-! ## 1. Each kind of node -/

/-- Which rule a word comes from, for a value of any shape. -/
theorem denotes_iff : Denotes v word ↔
    (v = .string "empty" ∧ word = []) ∨
    (∃ c, v = node "symbol" (.string (String.singleton c)) ∧ word = [c]) ∨
    (∃ w, ∃ words : List (List Char), v = node "iterate" w ∧ (∀ u ∈ words, Denotes w u) ∧
      word = words.flatten) ∨
    (∃ items w, v = node "union" (.sequence items) ∧ w ∈ items ∧ Denotes w word) ∨
    ∃ items words, v = node "concat" (.sequence items) ∧ List.Forall₂ Denotes items words ∧
      word = words.flatten := by
  constructor
  · intro h
    cases h with
    | empty => exact .inl ⟨rfl, rfl⟩
    | symbol c => exact .inr (.inl ⟨c, rfl, rfl⟩)
    | iterate h => exact .inr (.inr (.inl ⟨_, _, rfl, h, rfl⟩))
    | union hw h => exact .inr (.inr (.inr (.inl ⟨_, _, rfl, hw, h⟩)))
    | concat h => exact .inr (.inr (.inr (.inr ⟨_, _, rfl, h, rfl⟩)))
  · rintro (⟨rfl, rfl⟩ | ⟨c, rfl, rfl⟩ | ⟨w, words, rfl, h, rfl⟩ | ⟨items, w, rfl, hw, h⟩ |
      ⟨items, words, rfl, h, rfl⟩)
    · exact .empty
    · exact .symbol c
    · exact .iterate h
    · exact .union hw h
    · exact .concat h

@[simp] theorem node_inj {kind kind' : String} :
    node kind v = node kind' w ↔ kind = kind' ∧ v = w := by
  simp [node]

@[simp] theorem node_ne_string (kind text : String) : node kind v ≠ .string text := nofun

theorem denotes_empty_iff : Denotes (.string "empty") word ↔ word = [] := by
  rw [denotes_iff]
  simp [node]

theorem denotes_symbol_iff :
    Denotes (node "symbol" (.string (String.singleton c))) word ↔ word = [c] := by
  rw [denotes_iff]
  simp

theorem denotes_iterate_iff : Denotes (node "iterate" w) word ↔
    ∃ words : List (List Char), (∀ u ∈ words, Denotes w u) ∧ word = words.flatten := by
  rw [denotes_iff]
  simp

theorem denotes_union_iff :
    Denotes (node "union" (.sequence items)) word ↔ ∃ w ∈ items, Denotes w word := by
  rw [denotes_iff]
  simp

theorem denotes_concat_iff : Denotes (node "concat" (.sequence items)) word ↔
    ∃ words, List.Forall₂ Denotes items words ∧ word = words.flatten := by
  rw [denotes_iff]
  simp

/-! ## 2. Operands joined from the left -/

/-- The union of operands has the words of all of them. -/
theorem mem_foldl_union {first : Regex} {rest : List Regex} :
    word ∈ (rest.foldl .union first).language ↔ ∃ f ∈ first :: rest, word ∈ f.language := by
  induction rest generalizing first with
  | nil => simp
  | cons second rest ih =>
      rw [List.foldl_cons, ih]
      have hjoin : word ∈ (Regex.union first second).language ↔
          word ∈ first.language ∨ word ∈ second.language := Iff.rfl
      simp only [List.exists_mem_cons_iff, hjoin, or_assoc]

/-- The concatenation of operands has one word of each, in their order. -/
theorem mem_foldl_concat {first : Regex} {rest : List Regex} :
    word ∈ (rest.foldl .concat first).language ↔
      ∃ words, List.Forall₂ (fun f u => u ∈ f.language) (first :: rest) words ∧
        word = words.flatten := by
  induction rest generalizing first word with
  | nil =>
      constructor
      · intro h
        exact ⟨[word], .cons h .nil, (List.flatten_singleton ..).symm⟩
      · rintro ⟨words, hwords, rfl⟩
        cases hwords with
        | cons h hrest =>
            cases hrest
            rw [List.flatten_singleton]
            exact h
  | cons second rest ih =>
      rw [List.foldl_cons, ih]
      constructor
      · rintro ⟨words, hwords, rfl⟩
        cases hwords with
        | cons h hrest =>
            -- the word of the first pair is a word of each
            obtain ⟨u, hu, v, hv, rfl⟩ := Language.mem_mul.mp h
            exact ⟨_, .cons hu (.cons hv hrest), by simp⟩
      · rintro ⟨words, hwords, rfl⟩
        cases hwords with
        | cons hu htail =>
            cases htail with
            | cons hv hrest =>
                exact ⟨_, .cons (Language.append_mem_mul hu hv) hrest, by simp⟩

/-! ## 3. Loaded expressions -/

/-- The expression has the words that the node denotes. -/
def Agrees (v : Value) (e : Regex) : Prop := ∀ word, word ∈ e.language ↔ Denotes v word

theorem exists_mem_language_iff {es : List Regex} (h : List.Forall₂ Agrees items es) :
    (∃ f ∈ es, word ∈ f.language) ↔ ∃ w ∈ items, Denotes w word := by
  induction h with
  | nil => simp
  | cons hv _ ih => rw [List.exists_mem_cons_iff, List.exists_mem_cons_iff, hv word, ih]

theorem forall₂_mem_language_iff {es : List Regex} {words : List (List Char)}
    (h : List.Forall₂ Agrees items es) :
    List.Forall₂ (fun f u => u ∈ f.language) es words ↔ List.Forall₂ Denotes items words := by
  induction h generalizing words with
  | nil => rw [List.forall₂_nil_left_iff, List.forall₂_nil_left_iff]
  | cons hv _ ih =>
      rw [List.forall₂_cons_left_iff, List.forall₂_cons_left_iff]
      simp only [hv _, ih]

/-- **The expression loaded from a node has exactly the words that the node denotes.** -/
theorem mem_language_iff_denotes (h : loadNode v = .ok e) :
    word ∈ e.language ↔ Denotes v word := by
  refine loaded_induction (P := Agrees) ?empty ?symbol ?iterate ?operator v e h word
  case empty =>
    intro word
    rw [denotes_empty_iff]
    rfl
  case symbol =>
    intro c word
    rw [denotes_symbol_iff]
    rfl
  case iterate =>
    intro w b hb word
    rw [denotes_iterate_iff, Regex.language, Language.mem_kstar]
    simp only [hb _, and_comm]
  case operator =>
    intro op items first second rest hall word
    cases op with
    | union =>
        show word ∈ ((second :: rest).foldl .union first).language ↔ Denotes (node "union" _) word
        rw [denotes_union_iff, mem_foldl_union, exists_mem_language_iff hall]
    | concat =>
        show word ∈ ((second :: rest).foldl .concat first).language ↔ Denotes (node "concat" _) word
        rw [denotes_concat_iff, mem_foldl_concat]
        simp only [forall₂_mem_language_iff hall]

/-- **The automaton of a loaded expression accepts exactly the words that its node denotes.** -/
theorem accepts_loaded_iff (h : loadNode v = .ok e) (word : List Char) :
    e.compile.accepts word = true ↔ Denotes v word := by
  rw [Automaton.accepts_iff_reads, Regex.reads_compile_iff, mem_language_iff_denotes h]

/-- A concatenation of three operands with a union of three below an iteration. -/
theorem accepts_loaded_concat_three :
    let a := node "symbol" (.string "a")
    let v := node "concat" (.sequence [a,
      node "iterate" (node "union" (.sequence [a, node "symbol" (.string "|"), .string "empty"])),
      node "concat" (.sequence [a, a, a])])
    let e : Regex := .concat
      (.concat (.symbol 'a') (.star (.union (.union (.symbol 'a') (.symbol '|')) .epsilon)))
      (.concat (.concat (.symbol 'a') (.symbol 'a')) (.symbol 'a'))
    loadNode v = .ok e ∧
      (e.compile.accepts ['a', '|', 'a', 'a', 'a'] = true ↔ Denotes v ['a', '|', 'a', 'a', 'a']) :=
  ⟨rfl, accepts_loaded_iff rfl _⟩

end EpsilonAutomata.Schema
