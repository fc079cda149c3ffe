import EpsilonAutomata.Yaml.CharScalar
import EpsilonAutomata.Proofs.Yaml.CleanText
import EpsilonAutomata.Proofs.Yaml.Words

/-!
# Every character reads back

The five styles of a one-character scalar, and that the reader of tokens takes each of them for the
character it was written for (`Lexes.charScalar`). What a style has to promise for that is
`StyleFits`; that the chosen style keeps the promise is one walk through `charStyle`
(`charStyle_fits`).
-/

namespace EpsilonAutomata.Yaml

/-! ## 1. What a style promises -/

/-- In double quotes, the text is read as the character. -/
def Escapes (text : List Char) (c : Char) : Prop :=
  ∀ line column rest, readDoubleQuoted line column [] (.text .none) (text ++ '\x22' :: rest) =
    some ([c], ⟨rest, line, column + text.length + 1⟩)

/-- What the reader needs of a character written in this style. -/
def StyleFits (c : Char) : CharStyle → Prop
  | .plain => isClean c = true ∧ beginsWord c = true ∧ c.isDigit = false ∧ c ≠ '~'
  | .singleQuoted => isClean c = true ∧ isBreak c = false
  | .escaped sequence => sequence.toList.all isClean = true ∧ Escapes sequence.toList c
  | .literal => c = '\n'
  | .foldedBreak => c = '\u2028' ∨ c = '\u2029'

/-! ## 2. Escapes -/

section Escape

variable {c e : Char} {line column : Nat} {read rest : List Char}

theorem isDocumentMarker_backslash (rest : List Char) :
    isDocumentMarker ('\\' :: rest) = false := by
  rw [isDocumentMarker, isTripled_of_ne_mark (by decide), isTripled_of_ne_mark (by decide)]
  rfl

theorem readDoubleQuoted_close :
    readDoubleQuoted line column read (.text .none) ('\x22' :: rest) =
      some (read.reverse, ⟨rest, line, column + 1⟩) := by
  rw [readDoubleQuoted.eq_def]
  rfl

/-- A backslash takes the next character with it. -/
theorem readDoubleQuoted_backslash (hbreak : isBreak e = false) :
    readDoubleQuoted line column [] (.text .none) ('\\' :: e :: rest) =
      match escape? e with
      | none => none
      | some (.character x) => readDoubleQuoted line (column + 2) [x] (.text .none) rest
      | some (.codePoint digits) =>
        readDoubleQuoted line (column + 2) [] (.codePoint digits 0) rest := by
  have hplain : isBreak '\\' = false ∧ isBlank '\\' = false := by decide
  rw [readDoubleQuoted.eq_def]
  simp only [hplain, hbreak, isDocumentMarker_backslash, Bool.and_false, Bool.false_eq_true,
    if_false]
  rfl

/-- A backslash and the letter of a character. -/
theorem escapes_character (he : escape? e = some (.character c)) (hbreak : isBreak e = false) :
    Escapes ['\\', e] c := fun line column rest => by
  have hread : readDoubleQuoted line column [] (.text .none) ('\\' :: e :: '\x22' :: rest) =
      readDoubleQuoted line (column + 2) [c] (.text .none) ('\x22' :: rest) := by
    rw [readDoubleQuoted_backslash hbreak, he]
  exact hread.trans readDoubleQuoted_close

/-- The number that hexadecimal digits spell behind `value`. -/
def hexValue? (value : Nat) (digits : List Char) : Option Nat :=
  digits.foldlM (fun n c => (hexDigit? c).map (16 * n + ·)) value

/-- The digits of a code point. -/
theorem readDoubleQuoted_digits {value : Nat} {digits : List Char} (hne : digits ≠ [])
    (hc : (hexValue? value digits).bind charOfCodePoint? = some c) :
    readDoubleQuoted line column read (.codePoint digits.length value) (digits ++ rest) =
      readDoubleQuoted line (column + digits.length) (c :: read) (.text .none) rest := by
  induction digits generalizing value column with
  | nil => exact absurd rfl hne
  | cons d digits ih =>
      rw [hexValue?, List.foldlM_cons] at hc
      cases hd : hexDigit? d with
      | none => rw [hd] at hc; exact absurd hc (by simp)
      | some n =>
          rw [hd] at hc
          cases digits with
          | nil =>
              have hc : charOfCodePoint? (16 * value + n) = some c := hc
              simp [readDoubleQuoted, hd, hc]
          | cons d' digits =>
              have hmore : readDoubleQuoted line (column + 1) read
                  (.codePoint (digits.length + 1) (16 * value + n)) (d' :: digits ++ rest) =
                  readDoubleQuoted line (column + 1 + (digits.length + 1)) (c :: read) (.text .none)
                    rest := ih (List.cons_ne_nil _ _) hc
              rw [List.length_cons, List.length_cons, List.cons_append, readDoubleQuoted.eq_def]
              simp only [hd, Nat.add_sub_cancel]
              rw [if_neg (by omega), hmore, Nat.add_assoc, Nat.add_comm 1]

/-- A backslash, a letter and a code point. -/
theorem escapes_codePoint {digits : List Char} (he : escape? e = some (.codePoint digits.length))
    (hbreak : isBreak e = false) (hne : digits ≠ [])
    (hc : (hexValue? 0 digits).bind charOfCodePoint? = some c) :
    Escapes ('\\' :: e :: digits) c := fun line column rest => by
  have hread : readDoubleQuoted line column [] (.text .none)
      ('\\' :: e :: (digits ++ '\x22' :: rest)) =
      readDoubleQuoted line (column + 2) [] (.codePoint digits.length 0)
        (digits ++ '\x22' :: rest) := by
    rw [readDoubleQuoted_backslash hbreak, he]
  refine hread.trans ((readDoubleQuoted_digits hne hc).trans ?_)
  rw [readDoubleQuoted_close, List.length_cons, List.length_cons, List.reverse_singleton]
  congr 3
  omega

end Escape

/-! ## 3. The chosen style -/

theorem hexDigit?_digitChar : ∀ d < 16, hexDigit? (Nat.digitChar d).toUpper = some d := by
  decide

theorem isClean_digitChar : ∀ d < 16, isClean (Nat.digitChar d).toUpper = true := by
  decide

section Fits

variable {c x : Char} {sequence : String}

/-- A style that is chosen under a condition. -/
theorem fits_ite {p : Prop} [Decidable p] {a b : CharStyle} (ha : p → StyleFits c a)
    (hb : ¬ p → StyleFits c b) : StyleFits c (if p then a else b) := by
  split
  · exact ha ‹_›
  · exact hb ‹_›

/-- The escape of a character by a letter. -/
theorem fits_character {e : Char} (h : c = x) (hs : sequence.toList = ['\\', e])
    (he : escape? e = some (.character x)) (hclean : isClean e = true)
    (hbreak : isBreak e = false) : StyleFits c (.escaped sequence) := by
  subst h
  refine ⟨?_, hs ▸ escapes_character he hbreak⟩
  rw [hs]
  simp [hclean]
  decide

/-- The escape of a character by its code point. -/
theorem fits_codePoint {e : Char} (digits : List Char) (hs : sequence.toList = '\\' :: e :: digits)
    (he : escape? e = some (.codePoint digits.length)) (hne : digits ≠ [])
    (hc : (hexValue? 0 digits).bind charOfCodePoint? = some c)
    (hclean : (e :: digits).all isClean = true) (hbreak : isBreak e = false) :
    StyleFits c (.escaped sequence) := by
  refine ⟨?_, hs ▸ escapes_codePoint he hbreak hne hc⟩
  rw [hs, List.all_cons, hclean]
  decide

/-- The two digits of a code point below 256. -/
theorem fits_hexPair (h : c.toNat < 256) : StyleFits c (.escaped ("\\x" ++ hexPair c.toNat)) := by
  have hhigh := hexDigit?_digitChar (c.toNat / 16) (by omega)
  have hlow := hexDigit?_digitChar (c.toNat % 16) (by omega)
  have hs : ("\\x" ++ hexPair c.toNat).toList =
      ['\\', 'x', (Nat.digitChar (c.toNat / 16)).toUpper,
        (Nat.digitChar (c.toNat % 16)).toUpper] := by
    rw [String.toList_append, hexPair, String.toList_ofList, String.toList_ofList]
    rfl
  have hnumber : 16 * (16 * 0 + c.toNat / 16) + c.toNat % 16 = c.toNat := by omega
  refine fits_codePoint _ hs rfl (List.cons_ne_nil _ _) ?_ ?_ rfl
  · have hvalue : hexValue? 0 [(Nat.digitChar (c.toNat / 16)).toUpper,
        (Nat.digitChar (c.toNat % 16)).toUpper] =
        some (16 * (16 * 0 + c.toNat / 16) + c.toNat % 16) := by
      simp [hexValue?, hhigh, hlow]
    have hvalid : c.toNat.isValidChar := c.valid
    rw [hvalue, hnumber, Option.bind_some, charOfCodePoint?, if_pos hvalid, Char.ofNat_toNat]
  · rw [List.all_cons, List.all_cons, List.all_cons, isClean_digitChar _ (by omega),
      isClean_digitChar _ (by omega)]
    rfl

/-- **The chosen style keeps its promise.** -/
theorem charStyle_fits (c : Char) : StyleFits c (charStyle c) := by
  unfold charStyle
  refine fits_ite (fun h => h) fun hfeed => fits_ite (fun h => ?_) fun hseparator => ?_
  · simpa [StyleFits] using h
  refine fits_ite (fun h => fits_character h rfl rfl rfl rfl) fun _ => ?_
  refine fits_ite (fun h => fits_character h rfl rfl rfl rfl) fun _ => ?_
  refine fits_ite (fun h => fits_character h rfl rfl rfl rfl) fun _ => ?_
  refine fits_ite (fun h => fits_character h rfl rfl rfl rfl) fun htab => ?_
  refine fits_ite (fun h => fits_character h rfl rfl rfl rfl) fun _ => ?_
  refine fits_ite (fun h => fits_character h rfl rfl rfl rfl) fun _ => ?_
  refine fits_ite (fun h => fits_character h rfl rfl rfl rfl) fun hreturn => ?_
  refine fits_ite (fun h => fits_character h rfl rfl rfl rfl) fun _ => ?_
  refine fits_ite (fun h => fits_character h rfl rfl rfl rfl) fun hnel => ?_
  refine fits_ite (fun h => fits_hexPair ?_) fun hcontrol => ?_
  · simp only [Bool.or_eq_true, Bool.and_eq_true, decide_eq_true_eq] at h
    omega
  refine fits_ite (fun h => ?_) fun hmark => fits_ite (fun h => ?_) fun hfffe =>
    fits_ite (fun h => ?_) fun hffff => ?_
  · subst h
    exact fits_codePoint ['F', 'E', 'F', 'F'] rfl rfl (by decide) (by decide) (by decide) rfl
  · subst h
    exact fits_codePoint ['F', 'F', 'F', 'E'] rfl rfl (by decide) (by decide) (by decide) rfl
  · subst h
    exact fits_codePoint ['F', 'F', 'F', 'F'] rfl rfl (by decide) (by decide) (by decide) rfl
  have hclean := isClean_of_printable hreturn hnel hcontrol hfffe hffff
  have hbreak : isBreak c = false := by
    simp only [Bool.or_eq_true, decide_eq_true_eq, not_or] at hseparator
    simp [isBreak, hfeed, hseparator]
  refine fits_ite (fun _ => ⟨hclean, hbreak⟩) fun hquotes => ⟨hclean, ?_, ?_, ?_⟩
  · simp [needsQuotes] at hquotes
    simp [beginsWord, inWord, hbreak, isBlank, htab, hquotes, hmark, byteOrderMark]
  · simp only [needsQuotes, Bool.or_eq_true, not_or, Bool.not_eq_true] at hquotes
    exact hquotes.1
  · rintro rfl
    exact hquotes (by decide)

end Fits

/-! ## 4. Reading it back -/

/-- The style the reader finds. -/
def CharStyle.read : CharStyle → ScalarStyle
  | .plain => .plain
  | .literal => .block
  | .singleQuoted | .escaped _ | .foldedBreak => .quoted

/-- The token a one-character string is written as. -/
def charToken (c : Char) : Token := .scalar (charStyle c).read c.toString

namespace Lexes

open Lexer (placed)

variable {columns : List Nat} {column : Nat} {rest : List Char} {ts : List Token}

/-- A quoted scalar behind a blank. -/
theorem quoted (double : Bool) {quote c : Char} {text : List Char}
    (h : ∀ column, Lexes columns false column rest ts)
    (hcolumns : columns.head?.all (· ≤ column))
    (hquote : quote = if double then '\x22' else '\x27')
    (hread : ∀ line column, ∃ line' column',
      (if double then readDoubleQuoted line (column + 1) [] (.text .none) text
        else readSingleQuoted line (column + 1) [] .none text) =
          some ([c], ⟨rest, line', column'⟩))
    (hlen : rest.length ≤ text.length) :
    Lexes columns false column (' ' :: quote :: text) (.scalar .quoted c.toString :: ts) := by
  refine space fun line read => ?_
  obtain ⟨line', column', heq⟩ := hread line (column + 1)
  let l := placed columns false (column + 1) (quote :: text) line read
  have hatToken : atToken (quote :: text) = true := by
    cases double <;> subst hquote <;> rfl
  have happroach : l.approach = l :=
    Lexer.approach_eq rfl hatToken (innermost_le hcolumns (Nat.le_succ column))
  have hdispatch : l.readToken quote text = l.quotedScalar double := by
    cases double <;> subst hquote <;>
      simp [Lexer.readToken, isTripled_of_ne_mark, l, placed, Lexer.inFlow, endsWord]
  have htoken : l.readToken quote text =
      some (placed columns false column' rest line' (.scalar .quoted c.toString :: read)) := by
    rw [hdispatch]
    unfold Lexer.quotedScalar Lexer.noteCandidate
    cases double with
    | false =>
        rw [if_neg Bool.false_ne_true] at heq
        simp [l, placed, Cursor.advance, heq, Lexer.emit, Lexer.moveTo]
    | true =>
        rw [if_pos rfl] at heq
        simp [l, placed, Cursor.advance, heq, Lexer.emit, Lexer.moveTo]
  have hrun := h column' line' (.scalar .quoted c.toString :: read)
  rw [List.reverse_cons, List.append_assoc] at hrun
  exact .token (congrArg (·.cursor.rest) happroach) (happroach.symm ▸ htoken) hlen hrun

/-- A line indented less than a block scalar ends it. -/
theorem readBlockLines_dedent {folded : Bool} {least line given n : Nat} {word : List Char}
    {text lineBreak emptyLines : List Char} {afterBlank : Bool} (hword : atToken word = true)
    (column widest : Nat) (hlt : column + n < given) :
    ∃ widest', readBlockLines folded least line column
        ⟨some given, widest, text, lineBreak, emptyLines, afterBlank⟩ false
        (List.replicate n ' ' ++ word) =
      some (⟨some given, widest', text, lineBreak, emptyLines, afterBlank⟩,
        ⟨word, line, column + n⟩) := by
  induction n generalizing column widest with
  | zero =>
      refine ⟨widest, ?_⟩
      cases word with
      | nil => rfl
      | cons c rest =>
          simp only [atToken, isTrivia, isBlank, List.head?_cons, Option.all_some,
            Bool.not_eq_true', Bool.or_eq_false_iff, decide_eq_false_iff_not] at hword
          obtain ⟨⟨⟨hbreak, hspace, htab⟩, _⟩, _⟩ := hword
          have hcolumn : column ≠ given := Nat.ne_of_lt hlt
          simp [readBlockLines, hbreak, hspace, htab, hcolumn]
  | succ n ih =>
      have hin : column < given := by omega
      obtain ⟨widest', heq⟩ := ih (column + 1) (max widest (column + 1)) (by omega)
      refine ⟨widest', ?_⟩
      rw [List.replicate_succ, List.cons_append, readBlockLines]
      simp only [Bool.false_eq_true, if_false, Option.all_some, hin, decide_true, Bool.and_true,
        if_true]
      rw [heq, Nat.add_assoc, Nat.add_comm 1]

/-- The block scalar of one empty line is a line break. -/
theorem readBlock_lineFeed {parent line column n : Nat} {word : List Char}
    (hword : atToken word = true) (hn : n ≤ parent) :
    readBlock false (some parent)
        ⟨'2' :: '+' :: '\n' :: '\n' :: (List.replicate n ' ' ++ word), line, column⟩ =
      some (['\n'], ⟨word, line + 2, n⟩) := by
  have hheader : readIndicators ('2' :: '+' :: '\n' :: '\n' :: (List.replicate n ' ' ++ word)) =
      some (⟨.keep, some 2⟩, '\n' :: '\n' :: (List.replicate n ' ' ++ word)) := rfl
  have hcomment : dropComment ('\n' :: '\n' :: (List.replicate n ' ' ++ word)) =
      some ('\n' :: '\n' :: (List.replicate n ' ' ++ word)) := rfl
  have hempty : readBlockLines false (parent + 1) (line + 1) 0 (.start (some (2 + parent))) false
      ('\n' :: (List.replicate n ' ' ++ word)) =
      readBlockLines false (parent + 1) (line + 2) 0 ⟨some (2 + parent), 0, [], [], ['\n'], false⟩
        false (List.replicate n ' ' ++ word) := by
    simp [readBlockLines, BlockText.start, isBreak]
  have hn' : 0 + n < 2 + parent := by omega
  obtain ⟨widest, hlines⟩ := readBlockLines_dedent hword 0 0 hn'
  rw [hlines, Nat.zero_add] at hempty
  unfold readBlock
  simp [hheader, hcomment, hempty, BlockText.finish]

/-- A line break as a literal block: one empty line, indented by what the header says. -/
theorem literalBreak {parent : Nat} (h : Lexes (parent :: columns) true 0 rest ts)
    (hcolumn : parent ≤ column) (hrest : Indented parent rest) :
    Lexes (parent :: columns) false column (' ' :: '|' :: '2' :: '+' :: '\n' :: '\n' :: rest)
      (.scalar .block "\n" :: ts) := by
  obtain ⟨indentation, word, hindentation, rfl, hword⟩ := hrest
  refine space (token [.scalar .block "\n"] h.unindent rfl ?_ ?_ fun line read => ⟨line + 2, ?_⟩)
  · simp
    omega
  · simp
    omega
  let text := '2' :: '+' :: '\n' :: '\n' :: (List.replicate indentation ' ' ++ word)
  let l := placed (parent :: columns) false (column + 1) ('|' :: text) line read
  have hdispatch : l.readToken '|' text = l.blockScalar false := by
    simp [Lexer.readToken, isTripled_of_ne_mark, l, placed, Lexer.inFlow]
  have hblock : readBlock false (some parent) ⟨text, line, column + 1 + 1⟩ =
      some (['\n'], ⟨word, line + 2, indentation⟩) := readBlock_lineFeed hword hindentation
  show l.readToken '|' text = _
  rw [hdispatch]
  unfold Lexer.blockScalar Lexer.dropCandidate
  simp [l, placed, Cursor.advance, hblock, Lexer.emit, Lexer.moveTo]

end Lexes

/-- A quote with something else behind it closes the scalar. -/
theorem readSingleQuoted_close {d : Char} (hd : d ≠ '\x27') (line column : Nat) (read : List Char)
    (gap : Gap) (rest : List Char) :
    readSingleQuoted line column read gap ('\x27' :: d :: rest) =
      some ((gap.onto read).reverse, ⟨d :: rest, line, column + 1⟩) := by
  rw [readSingleQuoted]
  intro more h
  exact hd (List.cons.inj h).1

/-- A character other than the quote. -/
theorem readSingleQuoted_other {c : Char} (hc : c ≠ '\x27') (line column : Nat) (read : List Char)
    (gap : Gap) (rest : List Char) :
    readSingleQuoted line column read gap (c :: rest) =
      if isBreak c then readSingleQuoted (line + 1) 0 read (gap.add c) rest
      else if isBlank c then readSingleQuoted line (column + 1) read (gap.add c) rest
      else if column = 0 && isDocumentMarker (c :: rest) then none
      else readSingleQuoted line (column + 1) (c :: gap.onto read) .none rest := by
  rw [readSingleQuoted]
  · intro more h
    exact absurd h hc
  · intro h
    exact absurd h hc

/-- In single quotes, a character that breaks no line stands for itself. -/
theorem readSingleQuoted_character {c d : Char} (hbreak : isBreak c = false) (hc : c ≠ '\x27')
    (hd : d ≠ '\x27') (line column : Nat) (rest : List Char) :
    ∃ line' column', readSingleQuoted line (column + 1) [] .none (c :: '\x27' :: d :: rest) =
      some ([c], ⟨d :: rest, line', column'⟩) := by
  refine ⟨line, column + 1 + 1 + 1, ?_⟩
  rw [readSingleQuoted_other hc, hbreak, if_neg Bool.false_ne_true]
  by_cases hblank : isBlank c = true
  · rw [if_pos hblank, readSingleQuoted_close hd]
    simp [Gap.add, Gap.none, Gap.onto, Gap.text, hbreak]
  · rw [if_neg hblank, if_neg (by simp), readSingleQuoted_close hd]
    simp [Gap.none, Gap.onto, Gap.text]

/-- In single quotes, two quotes stand for one. -/
theorem readSingleQuoted_quote {d : Char} (hd : d ≠ '\x27') (line column : Nat)
    (rest : List Char) :
    ∃ line' column',
      readSingleQuoted line column [] .none ('\x27' :: '\x27' :: '\x27' :: d :: rest) =
        some (['\x27'], ⟨d :: rest, line', column'⟩) := by
  refine ⟨line, column + 2 + 1, ?_⟩
  rw [readSingleQuoted, readSingleQuoted_close hd]
  rfl

/-- A separator in single quotes breaks the line, and the blanks behind it are indentation. -/
theorem readSingleQuoted_separator {c d : Char} (hc : c = '\u2028' ∨ c = '\u2029')
    (hd : d ≠ '\x27') (line column : Nat) (rest : List Char) :
    ∃ line' column', readSingleQuoted line column [] .none
        (c :: (List.replicate 6 ' ' ++ '\x27' :: d :: rest)) =
      some ([c], ⟨d :: rest, line', column'⟩) := by
  have hbreak : isBreak c = true ∧ c ≠ '\x27' ∧ c ≠ '\n' := by
    rcases hc with rfl | rfl <;> decide
  have hspaces : ∀ n k, readSingleQuoted (line + 1) k [] (.folded [c])
      (List.replicate n ' ' ++ '\x27' :: d :: rest) =
      readSingleQuoted (line + 1) (k + n) [] (.folded [c]) ('\x27' :: d :: rest) := fun n => by
    induction n with
    | zero => exact fun k => rfl
    | succ n ih =>
        intro k
        rw [List.replicate_succ, List.cons_append, readSingleQuoted_other (by decide),
          if_neg (by decide), if_pos (by decide)]
        exact (ih (k + 1)).trans (by rw [Nat.add_assoc, Nat.add_comm 1])
  refine ⟨line + 1, 0 + 6 + 1, ?_⟩
  rw [readSingleQuoted_other hbreak.2.1, if_pos hbreak.1]
  have hgap : Gap.none.add c = .folded [c] := if_pos hbreak.1
  rw [hgap, hspaces, readSingleQuoted_close hd]
  rcases hc with rfl | rfl <;> rfl

namespace Lexes

variable {columns : List Nat} {column : Nat} {rest : List Char} {ts : List Token}

/-- **Every character is read back from its scalar.** -/
theorem charScalar {c : Char} {parent : Nat} (h : Lexes (parent :: columns) true 0 rest ts)
    (hcolumn : parent ≤ column) (hrest : Indented parent rest) :
    Lexes (parent :: columns) false column (' ' :: ((charScalar c).toList ++ '\n' :: rest))
      (charToken c :: ts) := by
  have hfits := charStyle_fits c
  have hcolumns : (parent :: columns).head?.all (· ≤ column) := by simpa using hcolumn
  have hne : '\n' ≠ '\x27' := by decide
  unfold charToken Yaml.charScalar
  cases hstyle : charStyle c with
  | plain =>
      rw [hstyle] at hfits
      obtain ⟨_, hbegin, _, _⟩ := hfits
      have hword : isWord [c] = true := by
        have hin : inWord c = true := by
          simp only [beginsWord, Bool.and_eq_true] at hbegin
          exact hbegin.1.1
        simp [isWord, hbegin, hin]
      have hplain := h.plain hword hcolumn hrest
      simpa [CharStyle.read] using hplain
  | singleQuoted =>
      rw [hstyle] at hfits
      by_cases hc : c = '\x27'
      · subst hc
        exact quoted false (fun _ => h.lineFeed) hcolumns rfl
          (fun line column => readSingleQuoted_quote hne line (column + 1) _) (by simp)
      · have htext : ("\x27" ++ c.toString ++ "\x27").toList = ['\x27', c, '\x27'] := by simp
        simp only [if_neg hc, htext]
        exact quoted false (fun _ => h.lineFeed) hcolumns rfl
          (fun line column => readSingleQuoted_character hfits.2 hc hne line column _) (by simp)
  | escaped sequence =>
      rw [hstyle] at hfits
      have htext : ("\x22" ++ sequence ++ "\x22").toList =
          '\x22' :: (sequence.toList ++ ['\x22']) := by
        simp
      simp only [htext, List.cons_append, List.append_assoc, List.nil_append]
      exact quoted true (fun _ => h.lineFeed) hcolumns rfl
        (fun line column => ⟨_, _, hfits.2 line (column + 1) _⟩) (by simp; omega)
  | literal =>
      rw [hstyle] at hfits
      obtain rfl : c = '\n' := hfits
      exact h.literalBreak hcolumn hrest
  | foldedBreak =>
      rw [hstyle] at hfits
      have htext : ("\x27" ++ c.toString ++ "      \x27").toList =
          '\x27' :: c :: (List.replicate 6 ' ' ++ ['\x27']) := by
        simp [List.replicate]
      simp only [htext, List.cons_append, List.append_assoc, List.nil_append]
      exact quoted false (fun _ => h.lineFeed) hcolumns rfl
        (fun line column => readSingleQuoted_separator hfits hne line (column + 1) _) (by simp)

end Lexes

/-! ## 5. The value of a character -/

/-- The scalar of a character may stand in a document. -/
theorem cleanText_charScalar (c : Char) : CleanText (charScalar c) := by
  have hfits := charStyle_fits c
  unfold charScalar
  cases hstyle : charStyle c with
  | plain =>
      rw [hstyle] at hfits
      exact CleanText.singleton hfits.1
  | singleQuoted =>
      rw [hstyle] at hfits
      by_cases hc : c = '\x27'
      · simp only [if_pos hc]
        decide
      · simp only [if_neg hc]
        exact .append (.append (by decide) (CleanText.singleton hfits.1)) (by decide)
  | escaped sequence =>
      rw [hstyle] at hfits
      exact .append (.append (by decide) hfits.1) (by decide)
  | literal =>
      show CleanText "|2+\n"
      decide
  | foldedBreak =>
      rw [hstyle] at hfits
      rcases hfits with rfl | rfl <;> decide

/-- **A character's scalar has that one-character string as its value**, never a number, a null or a
    truth value. -/
theorem untaggedValue?_charScalar (c : Char) :
    untaggedValue? (charStyle c).read c.toString = some (.string c.toString) := by
  have hfits := charStyle_fits c
  cases hstyle : charStyle c with
  | plain =>
      rw [hstyle] at hfits
      obtain ⟨_, _, hdigit, htilde⟩ := hfits
      refine plainValue?_word (by simpa using hdigit) fun hmem => ?_
      · have hshort : ∀ w ∈ reservedWords, w.toList.length = 1 → w = "~" := by decide
        have htext := hshort _ hmem (by simp)
        have hchars : [c] = ['~'] := by simpa using congrArg String.toList htext
        exact htilde (List.cons.inj hchars).1
  | singleQuoted => rfl
  | escaped sequence => rfl
  | literal => rfl
  | foldedBreak => rfl

end EpsilonAutomata.Yaml
