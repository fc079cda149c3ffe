import EpsilonAutomata.Proofs.Yaml.Reading

/-!
# Keys and plain values

A block mapping is read line by line: a word and a colon make a key (`Lexes.key`, and
`Lexes.firstKey` for the key that opens the mapping), a word behind a blank makes a value that ends
with its line (`Lexes.plain`). A plain scalar reads over the end of its line to see whether it goes
on there, so its lemma speaks of the line behind it as well.
-/

namespace EpsilonAutomata.Yaml

/-! ## 1. Words -/

/-- The character may stand anywhere in a plain word. -/
def inWord (c : Char) : Bool := !isBreak c && !isBlank c && c != ':'

/-- The character begins a plain word wherever it stands. -/
def beginsWord (c : Char) : Bool :=
  inWord c && c != byteOrderMark && !"-?,[]\x7b\x7d&*!|>\x27\x22%@\x60#".toList.contains c

/-- A plain word. -/
def isWord (w : List Char) : Bool := w.head?.any beginsWord && w.all inWord

theorem atToken_of_beginsWord {c : Char} (h : beginsWord c = true) (rest : List Char) :
    atToken (c :: rest) = true := by
  simp only [beginsWord, inWord, Bool.and_eq_true, Bool.not_eq_true', bne_iff_ne,
    List.contains_eq_mem, decide_eq_false_iff_not] at h
  obtain ⟨⟨⟨⟨hbreak, hblank⟩, _⟩, hmark⟩, hind⟩ := h
  have hcomment : c ≠ '#' := by
    rintro rfl
    exact hind (by decide)
  simp [atToken, isTrivia, hbreak, hblank, hmark, hcomment]

section Plain

variable {least line column : Nat} {read : List Char}

/-- The characters of a word are read one by one. -/
theorem readPlain_word {w : List Char} (hw : w.all inWord = true) (rest : List Char) :
    readPlain false least line column read .none (w ++ rest) =
      readPlain false least line (column + w.length) (w.reverse ++ read) .none rest := by
  induction w generalizing column read with
  | nil => rfl
  | cons c w ih =>
      rw [List.all_cons, Bool.and_eq_true] at hw
      have hc := hw.1
      simp only [inWord, Bool.and_eq_true, Bool.not_eq_true', bne_iff_ne] at hc
      obtain ⟨⟨hbreak, hblank⟩, hcolon⟩ := hc
      rw [List.cons_append, readPlain, if_neg (by simp [hbreak]), if_neg (by simp [hblank]),
        if_neg (by simp), if_neg (by simp), if_neg (by simp [endsPlain, hcolon])]
      rw [ih hw.2, List.length_cons, List.reverse_cons, List.append_assoc, Nat.add_assoc,
        Nat.add_comm 1]
      rfl

/-- A word ends before a colon that ends a word itself. -/
theorem readPlain_colon {rest : List Char} (h : endsWord rest = true) :
    readPlain false least line column read .none (':' :: rest) =
      some ⟨read.reverse, false, ⟨':' :: rest, line, column⟩⟩ := by
  rw [readPlain, if_neg (by decide), if_neg (by decide), if_neg (by simp), if_neg (by simp),
    if_pos (by simp [endsPlain, h])]
  rfl

/-- A word ends with its line if the next line is indented less than the scalar. -/
theorem readPlain_lineEnd {indentation : Nat} {word : List Char} (h : indentation < least)
    (hword : atToken word = true) :
    readPlain false least line column read .none
        ('\n' :: (List.replicate indentation ' ' ++ word)) =
      some ⟨read.reverse, true, ⟨word, line + 1, indentation⟩⟩ := by
  have hspaces : ∀ n k, readPlain false least (line + 1) k read (.folded ['\n'])
      (List.replicate n ' ' ++ word) =
      readPlain false least (line + 1) (k + n) read (.folded ['\n']) word := fun n => by
    induction n with
    | zero => exact fun k => rfl
    | succ n ih =>
        intro k
        rw [List.replicate_succ, List.cons_append, readPlain, if_neg (by decide),
          if_pos (by decide), if_neg (by simp)]
        exact (ih (k + 1)).trans (by rw [Nat.add_assoc, Nat.add_comm 1])
  rw [readPlain, if_pos (by decide)]
  refine (hspaces indentation 0).trans ?_
  rw [Nat.zero_add]
  cases word with
  | nil => rfl
  | cons c rest =>
      simp only [atToken, isTrivia, List.head?_cons, Option.all_some, Bool.not_eq_true',
        Bool.or_eq_false_iff] at hword
      obtain ⟨⟨⟨hbreak, hblank⟩, _⟩, _⟩ := hword
      rw [readPlain, if_neg (by simp [hbreak]), if_neg (by simp [hblank]),
        if_pos (by simp [Gap.none, endsPlainAfterGap, h])]
      rfl

end Plain

/-! ## 2. Plain scalars -/

namespace Lexer

/-- A word is read as a plain scalar. -/
theorem readToken_word {l : Lexer} {c : Char} {rest : List Char} (hc : beginsWord c = true)
    (hflow : l.inFlow = false) (hdot : c ≠ '.' ∨ l.cursor.column ≠ 0) :
    l.readToken c rest = l.plainScalar := by
  have hdots : (decide (l.cursor.column = 0) && isTripled '.' (c :: rest)) = false := by
    rcases hdot with hdot | hcolumn
    · rw [isTripled_of_ne_mark hdot, Bool.and_false]
    · rw [decide_eq_false hcolumn, Bool.false_and]
  simp only [beginsWord, inWord, Bool.and_eq_true, Bool.not_eq_true', bne_iff_ne,
    List.contains_eq_mem, decide_eq_false_iff_not] at hc
  obtain ⟨⟨⟨⟨hbreak, hblank⟩, hcolon⟩, hmark⟩, hind⟩ := hc
  have hdash : c ≠ '-' := by
    rintro rfl
    exact hind (by decide)
  have hstart : startsPlain false (c :: rest) = true := by
    simp at hind
    simp [startsPlain, isFlowIndicator, hbreak, hblank, hcolon, hind]
  simp at hind
  simp [readToken, hdots, isTripled_of_ne_mark hdash, hflow, hcolon, hind, hstart]

/-- A plain scalar where no key may begin. -/
theorem plainScalar_value {columns : List Nat} {column parent : Nat} {rest : List Char}
    {s : PlainScalar} (hcolumns : columns.head? = some parent) (line : Nat) (read : List Token)
    (hs : readPlain false (parent + 1) line column [] .none rest = some s) :
    (placed columns false column rest line read).plainScalar =
      some (placed columns s.brokeLine s.next.column s.next.rest s.next.line
        (.scalar .plain (String.ofList s.text) :: read)) := by
  unfold plainScalar noteCandidate
  simp [placed, hcolumns, hs, inFlow, emit, moveTo]

end Lexer

namespace Lexes

open Lexer (placed)

variable {columns : List Nat} {column : Nat} {rest : List Char} {ts : List Token}

/-- Blanks at the beginning of a line only move what follows. -/
theorem unindent {indentation : Nat} {word : List Char} {keyAllowed : Bool}
    (h : Lexes columns keyAllowed 0 (List.replicate indentation ' ' ++ word) ts) :
    Lexes columns keyAllowed indentation word ts :=
  h.of_skipTrivia fun line => ⟨line, by rw [skipTrivia_spaces, Nat.zero_add]⟩

/-- **A word behind a blank, up to the end of its line, is a plain scalar.** -/
theorem plain {w : List Char} {parent : Nat} (h : Lexes (parent :: columns) true 0 rest ts)
    (hw : isWord w = true) (hcolumn : parent ≤ column) (hrest : Indented parent rest) :
    Lexes (parent :: columns) false column (' ' :: (w ++ '\n' :: rest))
      (.scalar .plain (String.ofList w) :: ts) := by
  obtain ⟨indentation, word, hindentation, rfl, hword⟩ := hrest
  rw [isWord, Bool.and_eq_true] at hw
  obtain ⟨hbegin, hall⟩ := hw
  cases w with
  | nil => simp at hbegin
  | cons c w =>
      have hbegin : beginsWord c = true := by simpa using hbegin
      refine space (token [.scalar .plain (String.ofList (c :: w))] h.unindent
        (atToken_of_beginsWord hbegin _) (by simp; omega) ?_ fun n read => ⟨n + 1, ?_⟩)
      · simp
        omega
      · rw [Lexer.readToken_word hbegin rfl (Or.inr (Nat.succ_ne_zero column))]
        refine Lexer.plainScalar_value rfl n read
          (s := ⟨c :: w, true, ⟨word, n + 1, indentation⟩⟩) ?_
        refine (readPlain_word hall ('\n' :: (List.replicate indentation ' ' ++ word))).trans ?_
        rw [readPlain_lineEnd (Nat.lt_succ_of_le hindentation) hword]
        simp

end Lexes

/-! ## 3. Keys -/

/-- The word can be a key at the beginning of a line. -/
def isKey (w : List Char) : Bool :=
  isWord w && w.head? != some '.' && w.foldl (· + ·.utf8Size) 0 ≤ keyLimit

namespace Lexer

/-- The reader behind a word that may be a key. -/
def behindKey (columns : List Nat) (column : Nat) (w rest : List Char) (line : Nat)
    (read : List Token) : Lexer :=
  ⟨⟨':' :: rest, line, column + w.length⟩, .scalar .plain (String.ofList w) :: read,
    read.length + 1, columns, false,
    some ⟨read.length, columns.head? = some column, ⟨w ++ ':' :: rest, line, column⟩⟩, []⟩

variable {columns : List Nat} {column : Nat} {w rest : List Char}

/-- A word in front of a colon is noted as a key. -/
theorem readToken_key {c : Char} (hw : isKey (c :: w) = true) (hrest : endsWord rest = true)
    (line : Nat) (read : List Token) :
    (placed columns true column (c :: (w ++ ':' :: rest)) line read).readToken c
      (w ++ ':' :: rest) = some (behindKey columns column (c :: w) rest line read) := by
  simp only [isKey, isWord, List.head?_cons, Option.any_some, Bool.and_eq_true, bne_iff_ne] at hw
  obtain ⟨⟨⟨hbegin, hall⟩, hdot⟩, _⟩ := hw
  rw [readToken_word hbegin rfl (Or.inl fun h => hdot (congrArg some h))]
  have hread : ∀ least, readPlain false least line column [] .none (c :: (w ++ ':' :: rest)) =
      some ⟨c :: w, false, ⟨':' :: rest, line, column + (c :: w).length⟩⟩ := fun least => by
    refine (readPlain_word hall (':' :: rest)).trans ?_
    rw [readPlain_colon hrest]
    simp
  unfold plainScalar noteCandidate
  simp [placed, behindKey, dropCandidate, inFlow, hread, emit, moveTo]

/-- The colon makes the word a key: the sign of the key goes in front of it, and that of a new block
    mapping if it stands further right than the innermost collection. -/
theorem readToken_colon (hw : isKey w = true) (hrest : endsWord rest = true) (line : Nat)
    (read : List Token) :
    (behindKey columns column w rest line read).readToken ':' rest =
      let opens := columns.head?.all (· < column)
      let signs := if opens then [.blockMapping, .key] else [.key]
      some (placed (if opens then column :: columns else columns) false (column + w.length + 1) rest
        line (.value :: .scalar .plain (String.ofList w) :: (signs.reverse ++ read))) := by
  let l := behindKey columns column w rest line read
  have hlimit : w.foldl (· + ·.utf8Size) 0 ≤ keyLimit := by
    simp only [isKey, Bool.and_eq_true, decide_eq_true_eq] at hw
    exact hw.2
  have hread : l.readToken ':' rest = l.value := by
    simp [readToken, isTripled_of_ne_mark, hrest]
  have hbytes : Cursor.bytesTo ⟨w ++ ':' :: rest, line, column⟩
      ⟨':' :: rest, line, column + w.length⟩ ≤ keyLimit := by
    unfold Cursor.bytesTo
    dsimp only
    rw [Nat.add_sub_cancel_left, List.take_left']
    · exact hlimit
    · rfl
  have hkey : l.key? = some l.candidate := by
    simp [key?, l, behindKey, hbytes]
  show l.readToken ':' rest = _
  rw [hread]
  unfold value
  rw [hkey]
  by_cases hopen : columns.head?.all (· < column) = true
  · simp [l, behindKey, opensAt, inFlow, hopen, insert, emit, pass, moveTo, placed, Cursor.advance]
  · simp [l, behindKey, opensAt, inFlow, hopen, insert, emit, pass, moveTo, placed, Cursor.advance]

end Lexer

namespace Lexes

/-- A key, and what it opens. -/
theorem keyWith {columns : List Nat} {column : Nat} {w rest : List Char} {ts : List Token}
    (h : Lexes (if columns.head?.all (· < column) then column :: columns else columns) false
      (column + w.length + 1) rest ts)
    (hw : isKey w = true) (hcolumns : columns.head?.all (· ≤ column))
    (hrest : endsWord rest = true) :
    Lexes columns true column (w ++ ':' :: rest)
      ((if columns.head?.all (· < column) then [.blockMapping, .key] else [.key]) ++
        .scalar .plain (String.ofList w) :: .value :: ts) := fun line read => by
  cases w with
  | nil => exact absurd hw (by decide)
  | cons c w =>
      have hbegin : beginsWord c = true := by
        simp only [isKey, isWord, List.head?_cons, Option.any_some, Bool.and_eq_true] at hw
        exact hw.1.1.1
      let l := Lexer.placed columns true column (c :: (w ++ ':' :: rest)) line read
      let behind := Lexer.behindKey columns column (c :: w) rest line read
      have happroach : l.approach = l :=
        Lexer.approach_eq rfl (atToken_of_beginsWord hbegin _) hcolumns
      have hbehind : behind.approach = behind :=
        Lexer.approach_eq rfl rfl (innermost_le hcolumns (Nat.le_add_right column _))
      have hkey : l.readToken c (w ++ ':' :: rest) = some behind :=
        Lexer.readToken_key hw hrest line read
      have hcolon : behind.readToken ':' rest = _ := Lexer.readToken_colon hw hrest line read
      refine .token (congrArg (·.cursor.rest) happroach) (happroach.symm ▸ hkey) ?_
        (.token (congrArg (·.cursor.rest) hbehind) (hbehind.symm ▸ hcolon) ?_ ?_)
      · simp [behind, Lexer.behindKey]
      · exact Nat.le_refl _
      · have hrun := h line (.value :: .scalar .plain (String.ofList (c :: w)) ::
          ((if columns.head?.all (· < column) then [.blockMapping, .key] else [.key]).reverse ++
            read))
        simpa [List.reverse_append, List.append_assoc] using hrun

/-- The key that opens a block mapping. -/
theorem firstKey {columns : List Nat} {column : Nat} {w rest : List Char} {ts : List Token}
    (h : Lexes (column :: columns) false (column + w.length + 1) rest ts) (hw : isKey w = true)
    (hcolumns : columns.head?.all (· < column)) (hrest : endsWord rest = true) :
    Lexes columns true column (w ++ ':' :: rest)
      (.blockMapping :: .key :: .scalar .plain (String.ofList w) :: .value :: ts) := by
  have hle : columns.head?.all (· ≤ column) := by
    cases hhead : columns.head? with
    | none => rfl
    | some m =>
        rw [hhead] at hcolumns
        simp only [Option.all_some, decide_eq_true_eq] at hcolumns ⊢
        omega
  have hkey := keyWith (by rw [if_pos hcolumns]; exact h) hw hle hrest
  rw [if_pos hcolumns] at hkey
  exact hkey

/-- A further key of a block mapping. -/
theorem key {columns : List Nat} {column : Nat} {w rest : List Char} {ts : List Token}
    (h : Lexes columns false (column + w.length + 1) rest ts) (hw : isKey w = true)
    (hcolumn : columns.head? = some column) (hrest : endsWord rest = true) :
    Lexes columns true column (w ++ ':' :: rest)
      (.key :: .scalar .plain (String.ofList w) :: .value :: ts) := by
  have hopen : ¬ columns.head?.all (· < column) = true := by simp [hcolumn]
  have hkey := keyWith (by rw [if_neg hopen]; exact h) hw
    (by simp [hcolumn]) hrest
  rw [if_neg hopen] at hkey
  exact hkey

end Lexes

/-! ## 4. The empty sequence -/

/-- A pair of brackets is a sequence without items. -/
theorem Lexes.emptySequence {columns : List Nat} {column : Nat} {rest : List Char} {ts : List Token}
    (h : ∀ column, Lexes columns false column rest ts) (hcolumns : columns.head?.all (· ≤ column)) :
    Lexes columns false column (' ' :: '[' :: ']' :: rest)
      (.flowSequence :: .flowSequenceEnd :: ts) := by
  refine Lexes.space fun line read => ?_
  let l := Lexer.placed columns false (column + 1) ('[' :: ']' :: rest) line read
  let inside : Lexer := ⟨⟨']' :: rest, line, column + 2⟩, .flowSequence :: read, read.length + 1,
    columns, true, none, [none]⟩
  have happroach : l.approach = l :=
    Lexer.approach_eq rfl rfl (innermost_le hcolumns (Nat.le_succ column))
  have hopen : l.readToken '[' (']' :: rest) = some inside := by
    simp [l, inside, Lexer.readToken, isTripled_of_ne_mark, Lexer.placed, Lexer.openFlow,
      Lexer.noteCandidate, Lexer.emit, Lexer.pass, Lexer.moveTo, Cursor.advance]
  have hinside : inside.approach = inside := by
    unfold Lexer.approach
    rw [skipTrivia_atToken rfl]
    rfl
  have hclose : inside.readToken ']' rest =
      some (Lexer.placed columns false (column + 2 + 1) rest line
        (.flowSequenceEnd :: .flowSequence :: read)) := by
    simp [inside, Lexer.readToken, isTripled_of_ne_mark, Lexer.placed, Lexer.closeFlow,
      Lexer.dropCandidate, Lexer.emit, Lexer.pass, Lexer.moveTo, Cursor.advance]
  have hrun := h (column + 2 + 1) line (.flowSequenceEnd :: .flowSequence :: read)
  simp only [List.reverse_cons, List.append_assoc, List.singleton_append] at hrun
  exact .token (congrArg (·.cursor.rest) happroach) (happroach.symm ▸ hopen) (Nat.le_refl _)
    (.token (congrArg (·.cursor.rest) hinside) (hinside.symm ▸ hclose) (Nat.le_refl _) hrun)

end EpsilonAutomata.Yaml
