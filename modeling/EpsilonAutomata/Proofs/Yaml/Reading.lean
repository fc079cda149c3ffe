import EpsilonAutomata.Yaml.Token.Stream

/-!
# Reading a block text line by line

What the reader of tokens makes of a text is stated from the end of the text backwards: `Lexes`
says which tokens are still to come from some place on, whatever has been read before. Each lemma
adds one word, sign or line break in front. The number of steps the reader is given plays no part in
them; that it is enough is shown once (`Finishes.readAll`).
-/

namespace EpsilonAutomata.Yaml

/-! ## 1. Between tokens -/

/-- The character is passed over, or begins what is passed over, between tokens. -/
def isTrivia (c : Char) : Bool := isBreak c || isBlank c || c = byteOrderMark || c = '#'

/-- Nothing is passed over here. -/
def atToken (text : List Char) : Bool := text.head?.all (!isTrivia ·)

/-- Another character begins no document marker. -/
theorem isTripled_of_ne_mark {mark c : Char} (h : c ≠ mark) (rest : List Char) :
    isTripled mark (c :: rest) = false := by
  unfold isTripled
  split
  · rename_i heq
    rw [← (List.cons.inj heq).1, decide_eq_false h]
    rfl
  · rfl

/-- Two different characters begin no document marker. -/
theorem isTripled_of_ne {mark a b : Char} (h : a ≠ b) (rest : List Char) :
    isTripled mark (a :: b :: rest) = false := by
  cases rest with
  | nil => rfl
  | cons c rest =>
      unfold isTripled
      by_cases ha : a = mark
      · subst ha
        simp [h.symm]
      · simp [ha]

/-- A line, or the end of the text, that is indented by `limit` blanks at most. -/
def Indented (limit : Nat) (text : List Char) : Prop :=
  ∃ n word, n ≤ limit ∧ text = List.replicate n ' ' ++ word ∧ atToken word = true

theorem Indented.mono {m n : Nat} {text : List Char} (h : Indented m text) (hmn : m ≤ n) :
    Indented n text := by
  obtain ⟨k, word, hk, heq, hword⟩ := h
  exact ⟨k, word, Nat.le_trans hk hmn, heq, hword⟩

section Trivia

variable {inFlow keyAllowed : Bool} {line column : Nat}

theorem skipTrivia_atToken {text : List Char} (h : atToken text = true) :
    skipTrivia inFlow keyAllowed false line column text = (keyAllowed, ⟨text, line, column⟩) := by
  cases text with
  | nil => rfl
  | cons c rest =>
      simp only [atToken, isTrivia, isBlank, List.head?_cons, Option.all_some, Bool.not_eq_true',
        Bool.or_eq_false_iff, decide_eq_false_iff_not] at h
      obtain ⟨⟨⟨hbreak, hspace, htab⟩, hmark⟩, hcomment⟩ := h
      simp [skipTrivia, hbreak, hspace, htab, hmark, hcomment]

theorem skipTrivia_spaces (n : Nat) (text : List Char) :
    skipTrivia inFlow keyAllowed false line column (List.replicate n ' ' ++ text) =
      skipTrivia inFlow keyAllowed false line (column + n) text := by
  induction n generalizing column with
  | zero => rfl
  | succ n ih =>
      rw [List.replicate_succ, List.cons_append, skipTrivia, if_neg (by decide), if_pos (by simp),
        ih, Nat.add_assoc, Nat.add_comm 1 n]

theorem skipTrivia_lineFeed (text : List Char) :
    skipTrivia false keyAllowed false line column ('\n' :: text) =
      skipTrivia false true false (line + 1) 0 text := by
  rw [skipTrivia, if_pos (by decide), Bool.not_false, Bool.or_true]

/-- Passing over trivia leaves a part of the text. -/
theorem length_skipTrivia_le (inComment : Bool) (text : List Char) :
    (skipTrivia inFlow keyAllowed inComment line column text).2.rest.length ≤ text.length := by
  induction text generalizing keyAllowed inComment line column with
  | nil => exact Nat.le_refl 0
  | cons c rest ih =>
      unfold skipTrivia
      split
      · exact Nat.le_succ_of_le (ih _)
      · split
        · exact Nat.le_succ_of_le (ih _)
        · split
          · exact Nat.le_succ_of_le (ih _)
          · exact Nat.le_refl _

end Trivia

/-! ## 2. Reading to the end -/

namespace Lexer

/-- **What is read from here to the end of the text.** -/
inductive Finishes : Lexer → List Token → Prop where
  /-- Nothing but trivia is left: all block collections end. -/
  | ended {l l' : Lexer} (hrest : l.approach.cursor.rest = [])
      (hend : l.approach.endBlocks = some l') :
      Finishes l (l'.tokens.reverse ++ [.streamEnd])
  /-- One more token. -/
  | token {l l' : Lexer} {c : Char} {rest : List Char} {ts : List Token}
      (hrest : l.approach.cursor.rest = c :: rest) (htoken : l.approach.readToken c rest = some l')
      (hlen : l'.cursor.rest.length ≤ rest.length) (h : Finishes l' ts) : Finishes l ts

/-- What separates tokens does not count. -/
theorem Finishes.of_approach {l l' : Lexer} {ts : List Token} (h : Finishes l ts)
    (ha : l'.approach = l.approach) : Finishes l' ts := by
  cases h with
  | ended hrest hend => exact .ended (ha ▸ hrest) (ha ▸ hend)
  | token hrest htoken hlen h => exact .token (ha ▸ hrest) (ha ▸ htoken) hlen h

theorem length_approach_le (l : Lexer) :
    l.approach.cursor.rest.length ≤ l.cursor.rest.length := by
  have hclose : ∀ (l : Lexer) (closed : Nat → Bool), (l.closeBlocks closed).cursor = l.cursor := by
    intro l closed
    unfold closeBlocks
    split <;> rfl
  unfold approach
  rw [hclose]
  exact length_skipTrivia_le false _

/-- **As many steps as there are characters are enough.** -/
theorem Finishes.readAll {l : Lexer} {ts : List Token} (h : Finishes l ts) {fuel : Nat}
    (hfuel : l.cursor.rest.length < fuel) : readAll fuel l = some ts := by
  induction h generalizing fuel with
  | ended hrest hend =>
      cases fuel with
      | zero => exact absurd hfuel (Nat.not_lt_zero _)
      | succ fuel =>
          simp only [Lexer.readAll, hrest, hend, Option.map_some, emit, List.reverse_cons]
  | @token l l' c rest ts hrest htoken hlen _ ih =>
      cases fuel with
      | zero => exact absurd hfuel (Nat.not_lt_zero _)
      | succ fuel =>
          have hle := l.length_approach_le
          rw [hrest, List.length_cons] at hle
          simp only [Lexer.readAll, hrest, htoken, Option.bind_some]
          exact ih (by omega)

/-- The reader outside flow collections, with no node that could be a key. -/
def placed (columns : List Nat) (keyAllowed : Bool) (column : Nat) (rest : List Char) (line : Nat)
    (read : List Token) : Lexer :=
  ⟨⟨rest, line, column⟩, read, read.length, columns, keyAllowed, none, []⟩

/-- The reader ends the block collections for whose column `closed` holds. -/
def closing (closed : Nat → Bool) (columns : List Nat) (keyAllowed : Bool) (c : Cursor)
    (read : List Token) : Lexer :=
  let n := (columns.takeWhile closed).length
  ⟨c, List.replicate n .blockEnd ++ read, read.length + n, columns.drop n, keyAllowed, none, []⟩

theorem closeBlocks_closing (closed more : Nat → Bool) (columns : List Nat) (keyAllowed : Bool)
    (c : Cursor) (read : List Token) :
    (closing closed columns keyAllowed c read).closeBlocks more =
      let n := (columns.takeWhile closed).length
      closing more (columns.drop n) keyAllowed c (List.replicate n .blockEnd ++ read) := by
  simp only [closing, List.length_append, List.length_replicate, Nat.add_comm _ read.length]
  rfl

theorem approach_placed (columns : List Nat) (keyAllowed : Bool) (column : Nat) (rest : List Char)
    (line : Nat) (read : List Token) :
    (placed columns keyAllowed column rest line read).approach =
      let next := skipTrivia false keyAllowed false line column rest
      closing (next.2.column < ·) columns next.1 next.2 read := rfl

/-- Without trivia and at the column of the innermost collection or further right, the next token is
    at hand. -/
theorem approach_eq {l : Lexer} (hflow : l.inFlow = false) (hrest : atToken l.cursor.rest = true)
    (hcolumns : l.columns.head?.all (· ≤ l.cursor.column)) : l.approach = l := by
  obtain ⟨⟨rest, line, column⟩, tokens, count, columns, keyAllowed, candidate, outer⟩ := l
  unfold approach
  rw [skipTrivia_atToken hrest]
  show closeBlocks (column < ·) _ = _
  unfold closeBlocks
  rw [if_neg (by simpa [moveTo, inFlow] using hflow)]
  cases columns with
  | nil => rfl
  | cons c columns =>
      have hc : ¬ column < c := Nat.not_lt_of_le (by simpa using hcolumns)
      simp [moveTo, hc]

end Lexer

/-- **The tokens of the text `rest`** that begins at `column`, inside block collections at the
    columns `columns`. `keyAllowed` says whether a key may begin here. -/
def Lexes (columns : List Nat) (keyAllowed : Bool) (column : Nat) (rest : List Char)
    (ts : List Token) : Prop :=
  ∀ line read, (Lexer.placed columns keyAllowed column rest line read).Finishes (read.reverse ++ ts)

/-- A text is read from its beginning on. -/
theorem tokens?_of_lexes {text : List Char} {ts : List Token} (h : Lexes [] true 0 text ts)
    (hallowed : text.all isAllowed = true) (hbreaks : normalizeBreaks text = text) :
    tokens? text = some ts := by
  rw [tokens?, if_pos hallowed, hbreaks]
  exact (h 0 []).readAll (Nat.lt_succ_self _)

/-- A place further right than another is still right of the innermost collection. -/
theorem innermost_le {columns : List Nat} {m n : Nat} (h : columns.head?.all (· ≤ m))
    (hmn : m ≤ n) : columns.head?.all (· ≤ n) := by
  cases hhead : columns.head? with
  | none => rfl
  | some k =>
      rw [hhead] at h
      simp only [Option.all_some, decide_eq_true_eq] at h ⊢
      exact Nat.le_trans h hmn

namespace Lexes

open Lexer (placed)

variable {columns columns' : List Nat} {keyAllowed keyAllowed' : Bool} {column column' : Nat}
  {rest rest' : List Char} {ts : List Token}

/-! ## 3. Trivia and indentation -/

/-- Between tokens, only the place behind counts. -/
theorem of_skipTrivia (h : Lexes columns keyAllowed' column' rest' ts)
    (hskip : ∀ line, ∃ line', skipTrivia false keyAllowed false line column rest =
      skipTrivia false keyAllowed' false line' column' rest') :
    Lexes columns keyAllowed column rest ts := fun line read => by
  obtain ⟨line', heq⟩ := hskip line
  refine (h line' read).of_approach ?_
  rw [Lexer.approach_placed, Lexer.approach_placed, heq]

theorem spaces (n : Nat) (h : Lexes columns keyAllowed (column + n) rest ts) :
    Lexes columns keyAllowed column (List.replicate n ' ' ++ rest) ts :=
  h.of_skipTrivia fun line => ⟨line, skipTrivia_spaces n rest⟩

theorem space (h : Lexes columns keyAllowed (column + 1) rest ts) :
    Lexes columns keyAllowed column (' ' :: rest) ts := h.spaces 1

theorem lineFeed (h : Lexes columns true 0 rest ts) :
    Lexes columns keyAllowed column ('\n' :: rest) ts :=
  h.of_skipTrivia fun line => ⟨line + 1, skipTrivia_lineFeed rest⟩

/-- A word left of the innermost block collection ends it. -/
theorem blockEnd {limit m : Nat} (h : Lexes columns true 0 rest ts) (hrest : Indented limit rest)
    (hm : limit < m) : Lexes (m :: columns) true 0 rest (.blockEnd :: ts) :=
  fun line read => by
    obtain ⟨n, word, hn, rfl, hword⟩ := hrest
    have hm := Nat.lt_of_le_of_lt hn hm
    have hrun := h line (.blockEnd :: read)
    rw [List.reverse_cons, List.append_assoc, List.singleton_append] at hrun
    refine hrun.of_approach ?_
    rw [Lexer.approach_placed, Lexer.approach_placed, skipTrivia_spaces, skipTrivia_atToken hword,
      Lexer.closing, Lexer.closing, List.takeWhile_cons, Nat.zero_add, decide_eq_true hm,
      if_pos rfl, List.length_cons, List.replicate_succ', List.append_assoc, List.drop_succ_cons,
      List.singleton_append, List.length_cons, Nat.add_right_comm, Nat.add_assoc read.length]

/-- One token, behind which the reader goes on. -/
theorem token {c : Char} (new : List Token) (h : Lexes columns' keyAllowed' column' rest' ts)
    (hrest : atToken (c :: rest) = true) (hcolumns : columns.head?.all (· ≤ column))
    (hlen : rest'.length ≤ rest.length)
    (htoken : ∀ line read, ∃ line',
      (placed columns keyAllowed column (c :: rest) line read).readToken c rest =
        some (placed columns' keyAllowed' column' rest' line' (new.reverse ++ read))) :
    Lexes columns keyAllowed column (c :: rest) (new ++ ts) := fun line read => by
  obtain ⟨line', heq⟩ := htoken line read
  have happroach : (placed columns keyAllowed column (c :: rest) line read).approach =
      placed columns keyAllowed column (c :: rest) line read :=
    Lexer.approach_eq rfl hrest hcolumns
  have hrun := h line' (new.reverse ++ read)
  rw [List.reverse_append, List.reverse_reverse, List.append_assoc] at hrun
  refine .token (congrArg (·.cursor.rest) happroach) ?_ hlen hrun
  rw [happroach]
  exact heq

/-- The dash in front of an item of a block sequence that is not indented. -/
theorem dash (h : Lexes columns true (column + 2) rest ts) (hcolumn : columns.head? = some column) :
    Lexes columns true column ('-' :: ' ' :: rest) (.blockEntry :: ts) := by
  refine token [.blockEntry] h.space rfl (by simp [hcolumn]) (Nat.le_refl _)
    fun line read => ⟨line, ?_⟩
  let l := placed columns true column ('-' :: ' ' :: rest) line read
  have hopen : ¬ l.opensAt column = true := by
    simp [l, Lexer.opensAt, placed, hcolumn]
  have hread : l.readToken '-' (' ' :: rest) = l.blockEntry := by
    simp [Lexer.readToken, isTripled_of_ne, endsWord, isBlank]
  have hblocks : l.openBlock .blockSequence = l := if_neg hopen
  show l.readToken '-' (' ' :: rest) = _
  rw [hread, Lexer.blockEntry, hblocks]
  rfl

/-- The end of the text. -/
theorem nil (columns : List Nat) (keyAllowed : Bool) :
    Lexes columns keyAllowed 0 [] (List.replicate columns.length .blockEnd ++ [.streamEnd]) :=
  fun line read => by
    let n := (columns.takeWhile (0 < ·)).length
    have hn : n ≤ columns.length := (List.takeWhile_prefix _).length_le
    have hall : ∀ cs : List Nat, cs.takeWhile (fun _ => true) = cs := fun cs => by
      induction cs with
      | nil => rfl
      | cons c cs ih => rw [List.takeWhile_cons, if_pos rfl, ih]
    have hend : (placed columns keyAllowed 0 [] line read).approach.endBlocks =
        some (Lexer.closing (fun _ => true) (columns.drop n) false ⟨[], line, 0⟩
          (List.replicate n .blockEnd ++ read)) := by
      rw [Lexer.approach_placed, Lexer.endBlocks, Lexer.closeBlocks_closing]
      rfl
    have hdone := Lexer.Finishes.ended rfl hend
    have htokens : (Lexer.closing (fun _ => true) (columns.drop n) false ⟨[], line, 0⟩
        (List.replicate n .blockEnd ++ read)).tokens.reverse ++ [.streamEnd] =
        read.reverse ++ (List.replicate columns.length .blockEnd ++ [.streamEnd]) := by
      simp only [Lexer.closing, hall, List.length_drop, List.reverse_append, List.reverse_replicate,
        List.append_assoc]
      rw [← List.append_assoc (List.replicate n _), List.replicate_append_replicate,
        Nat.add_sub_cancel' hn]
    rw [← htokens]
    exact hdone

end Lexes

end EpsilonAutomata.Yaml
