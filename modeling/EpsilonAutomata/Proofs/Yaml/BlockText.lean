import EpsilonAutomata.Proofs.Yaml.Words

/-!
# Block mappings and sequences, line by line

The lines a block mapping of words and sequences is written in, and the tokens they are read as.
Every lemma puts one more piece of text in front of a text that is read already, so that a document
is read from its last line to its first.
-/

namespace EpsilonAutomata.Yaml

/-! ## 1. Entries of a mapping -/

/-- The token of a plain word. -/
def plainToken (s : String) : Token := .scalar .plain s

namespace Lexes

variable {columns : List Nat} {column parent : Nat} {rest : List Char} {ts : List Token}
  {value : String}

/-- A word, up to the end of its line. -/
theorem word (hvalue : isWord value.toList = true) (h : Lexes (parent :: columns) true 0 rest ts)
    (hcolumn : parent ≤ column) (hrest : Indented parent rest) :
    Lexes (parent :: columns) false column (' ' :: (value.toList ++ '\n' :: rest))
      (plainToken value :: ts) := by
  have hplain := h.plain hvalue hcolumn hrest
  rw [String.ofList_toList] at hplain
  exact hplain

/-- What stands behind a key that opens a mapping. -/
theorem opening (key : String) (hkey : isKey key.toList = true)
    (hcolumns : columns.head?.all (· < column))
    (h : Lexes (column :: columns) false (column + key.toList.length + 1) rest ts)
    (hrest : endsWord rest = true) :
    Lexes columns true column (key.toList ++ ':' :: rest)
      (.blockMapping :: .key :: plainToken key :: .value :: ts) := by
  have hfirst := h.firstKey hkey hcolumns hrest
  rw [String.ofList_toList] at hfirst
  exact hfirst

/-- What stands behind a further key. -/
theorem entry (key : String) (hkey : isKey key.toList = true)
    (h : Lexes (column :: columns) false (column + key.toList.length + 1) rest ts)
    (hrest : endsWord rest = true) :
    Lexes (column :: columns) true column (key.toList ++ ':' :: rest)
      (.key :: plainToken key :: .value :: ts) := by
  have hmore := h.key hkey rfl hrest
  rw [String.ofList_toList] at hmore
  exact hmore

/-- A line with a key and a word, which opens a mapping. -/
theorem openingWord (key : String) (hkey : isKey key.toList = true)
    (hvalue : isWord value.toList = true) (hcolumns : columns.head?.all (· < column))
    (h : Lexes (column :: columns) true 0 rest ts)
    (hrest : Indented column rest) :
    Lexes columns true column (key.toList ++ ':' :: ' ' :: (value.toList ++ '\n' :: rest))
      (.blockMapping :: .key :: plainToken key :: .value :: plainToken value :: ts) :=
  opening key hkey hcolumns (word hvalue h (by omega) hrest) rfl

/-- A further line with a key and a word. -/
theorem entryWord (key : String) (hkey : isKey key.toList = true)
    (hvalue : isWord value.toList = true)
    (h : Lexes (column :: columns) true 0 rest ts) (hrest : Indented column rest) :
    Lexes (column :: columns) true column
      (key.toList ++ ':' :: ' ' :: (value.toList ++ '\n' :: rest))
      (.key :: plainToken key :: .value :: plainToken value :: ts) :=
  entry key hkey (word hvalue h (by omega) hrest) rfl

/-! ## 2. Items of a sequence -/

end Lexes

/-- The tokens of a sequence whose items have these behind their dashes. -/
def sequenceTokens {α : Type} (tokens : α → List Token) : List α → List Token
  | [] => [.flowSequence, .flowSequenceEnd]
  | xs => xs.flatMap fun x => .blockEntry :: tokens x

/-- The text of a sequence behind its key: its items have lines of their own. -/
def sequenceText {α : Type} (text : α → List Char) : List α → List Char
  | [] => " []\n".toList
  | xs => '\n' :: xs.flatMap text

namespace Lexes

variable {α : Type} {columns : List Nat} {limit : Nat} {text : α → List Char}
  {tokens : α → List Token} {rest : List Char} {ts : List Token}

/-- Items one below the other, each of which is read in front of any other. -/
theorem items
    (hitem : ∀ x rest ts, Lexes columns true 0 rest ts → Indented limit rest →
      Lexes columns true 0 (text x ++ rest) (.blockEntry :: (tokens x ++ ts)) ∧
        Indented limit (text x ++ rest))
    (xs : List α) (h : Lexes columns true 0 rest ts) (hrest : Indented limit rest) :
    Lexes columns true 0 (xs.flatMap text ++ rest)
        (xs.flatMap (fun x => .blockEntry :: tokens x) ++ ts) ∧
      Indented limit (xs.flatMap text ++ rest) := by
  induction xs with
  | nil => exact ⟨h, hrest⟩
  | cons x xs ih =>
      rw [List.flatMap_cons, List.flatMap_cons, List.append_assoc, List.append_assoc]
      exact hitem x _ _ ih.1 ih.2

/-- **The value of a key that is a sequence.** -/
theorem sequence (column : Nat)
    (hitem : ∀ x rest ts, Lexes columns true 0 rest ts → Indented limit rest →
      Lexes columns true 0 (text x ++ rest) (.blockEntry :: (tokens x ++ ts)) ∧
        Indented limit (text x ++ rest))
    (xs : List α) (h : Lexes columns true 0 rest ts) (hrest : Indented limit rest)
    (hcolumns : columns.head?.all (· ≤ column)) :
    Lexes columns false column (sequenceText text xs ++ rest) (sequenceTokens tokens xs ++ ts) ∧
      endsWord (sequenceText text xs ++ rest) = true := by
  cases xs with
  | nil => exact ⟨.emptySequence (fun _ => h.lineFeed) hcolumns, rfl⟩
  | cons x xs => exact ⟨(items hitem (x :: xs) h hrest).1.lineFeed, rfl⟩

end Lexes

end EpsilonAutomata.Yaml
