import Mathlib.Data.List.SplitBy
import EpsilonAutomata.Proofs.Text.Lines

/-!
# Comment lines

A text is cut behind every character that ends a line (`linesOf`), and the lines that begin with `#`
are taken out (`withoutComments`). Which characters end a line is left open (`LineEnds`). What is
left of a text that ends with a line can be told piece by piece.

* `withoutComments_append` -- piece by piece;
* `withoutComments_eq_nil_iff` -- when nothing is left;
* `linesOf_eq_singleton_iff` -- when there is one line;
* `withoutComments_of_hashQuoted` -- when everything is left.
-/

namespace EpsilonAutomata.Text

variable (ends : Char → Bool)

/-- **The lines of a text**, each with the character that ends it. -/
def linesOf (text : List Char) : List (List Char) := text.splitBy fun c _ => !ends c

/-- **What is left of a text without the lines that begin with `#`.** -/
def withoutComments (text : List Char) : List Char :=
  ((linesOf ends text).filter fun line => line.head? ≠ some '#').flatten

/-- **Which characters end a line**: the line feed, and of the others only such as some reader takes
    for a line break. -/
structure LineEnds : Prop where
  feed : ends '\n' = true
  breaksLine_of_ends : ∀ c, ends c = true → breaksLine c = true

variable {ends} {text rest : List Char}

theorem LineEnds.eq_false (h : LineEnds ends) {c : Char} (hc : breaksLine c = false) :
    ends c = false := by
  by_contra hends
  rw [h.breaksLine_of_ends c (eq_true_of_ne_false hends)] at hc
  exact Bool.noConfusion hc

theorem lineEnds_feed : LineEnds (· = '\n') where
  feed := rfl
  breaksLine_of_ends c h := by
    rw [of_decide_eq_true h]
    rfl

/-! ## 1. Piece by piece -/

/-- The text is empty or ends with a line. -/
def EndsLine (ends : Char → Bool) (text : List Char) : Prop := ∀ c ∈ text.getLast?, ends c = true

namespace EndsLine

theorem concat {last : Char} (h : ends last = true) (text : List Char) :
    EndsLine ends (text ++ [last]) := by
  intro c hc
  rw [List.getLast?_concat, Option.mem_some] at hc
  exact hc ▸ h

theorem append (h : EndsLine ends text) (hrest : EndsLine ends rest) :
    EndsLine ends (text ++ rest) := by
  intro c hc
  rw [List.getLast?_append, Option.mem_def, Option.or_eq_some_iff] at hc
  exact hc.elim (hrest c) fun hc => h c hc.2

theorem flatMap {α : Type} {f : α → List Char} {xs : List α} (h : ∀ x ∈ xs, EndsLine ends (f x)) :
    EndsLine ends (xs.flatMap f) := by
  induction xs with
  | nil => exact fun _ hc => nomatch hc
  | cons x xs ih =>
      rw [List.forall_mem_cons] at h
      rw [List.flatMap_cons]
      exact h.1.append (ih h.2)

end EndsLine

theorem linesOf_append (h : EndsLine ends text) (rest : List Char) :
    linesOf ends (text ++ rest) = linesOf ends text ++ linesOf ends rest :=
  List.splitBy_append fun c hc _ _ => by rw [h c hc, Bool.not_true]

/-- **What is left of a text that ends with a line, and of what follows it.** -/
theorem withoutComments_append (h : EndsLine ends text) (rest : List Char) :
    withoutComments ends (text ++ rest) =
      withoutComments ends text ++ withoutComments ends rest := by
  rw [withoutComments, linesOf_append h, List.filter_append, List.flatten_append]
  rfl

theorem withoutComments_flatMap {α : Type} {f : α → List Char} {xs : List α}
    (h : ∀ x ∈ xs, EndsLine ends (f x)) :
    withoutComments ends (xs.flatMap f) = xs.flatMap fun x => withoutComments ends (f x) := by
  induction xs with
  | nil => rfl
  | cons x xs ih =>
      rw [List.forall_mem_cons] at h
      rw [List.flatMap_cons, List.flatMap_cons, withoutComments_append h.1, ih h.2]

/-! ## 2. Comments only -/

/-- **Nothing is left of a text if every line is a comment**, and only then. -/
theorem withoutComments_eq_nil_iff :
    withoutComments ends text = [] ↔ ∀ line ∈ linesOf ends text, line.head? = some '#' := by
  rw [withoutComments, List.flatten_eq_nil_iff]
  constructor
  · intro h line hline
    by_contra hhead
    have hkept : line ∈ (linesOf ends text).filter fun line => line.head? ≠ some '#' :=
      List.mem_filter.mpr ⟨hline, decide_eq_true hhead⟩
    exact List.ne_nil_of_mem_splitBy hline (h line hkept)
  · intro h line hline
    obtain ⟨hmem, hkept⟩ := List.mem_filter.mp hline
    exact absurd (h line hmem) (of_decide_eq_true hkept)

/-- No character in front of the last one ends a line. -/
theorem isChain_concat_iff {last : Char} :
    (text ++ [last]).IsChain (fun c _ => (!ends c) = true) ↔ ∀ c ∈ text, ends c = false := by
  induction text with
  | nil => exact iff_of_true (.singleton last) fun _ hc => nomatch hc
  | cons c text ih =>
      rw [List.cons_append, List.isChain_cons, List.forall_mem_cons, ih]
      refine and_congr_left fun _ => ⟨fun h => ?_, fun h _ _ => by rw [h, Bool.not_false]⟩
      obtain ⟨d, hd⟩ : ∃ d, d ∈ (text ++ [last]).head? := by
        cases text with
        | nil => exact ⟨last, rfl⟩
        | cons d text => exact ⟨d, rfl⟩
      exact Bool.not_eq_true' _ ▸ h d hd

/-- **A text is one line if no character in front of its last one ends a line**, and only then. -/
theorem linesOf_eq_singleton_iff {last : Char} :
    linesOf ends (text ++ [last]) = [text ++ [last]] ↔ ∀ c ∈ text, ends c = false := by
  constructor
  · intro h
    have hmem : text ++ [last] ∈ linesOf ends (text ++ [last]) := by
      rw [h]
      exact List.mem_singleton_self _
    exact isChain_concat_iff.mp (List.isChain_of_mem_splitBy hmem)
  · exact fun h => List.splitBy_of_isChain (by simp) (isChain_concat_iff.mpr h)

/-! ## 3. No comments -/

/-- If `d` is a `#`, it stands behind a quotation mark. -/
def quotes (c d : Char) : Prop := d = '#' → c = '\x27'

instance : DecidableRel quotes := fun c d => inferInstanceAs (Decidable (d = '#' → c = '\x27'))

/-- **Every `#` of the text stands behind a quotation mark**, and so none begins it. -/
def HashQuoted (s : String) : Prop := ('\n' :: s.toList).IsChain quotes

instance (s : String) : Decidable (HashQuoted s) :=
  inferInstanceAs (Decidable (('\n' :: s.toList).IsChain quotes))

namespace HashQuoted

variable {s t : String}

theorem of_notMem (h : '#' ∉ s.toList) : HashQuoted s := by
  unfold HashQuoted
  generalize '\n' = c
  generalize s.toList = text at h
  induction text generalizing c with
  | nil => exact .singleton c
  | cons d rest ih =>
      rw [List.mem_cons, not_or] at h
      exact .cons_cons (fun hd => absurd hd.symm h.1) (ih d h.2)

theorem append (hs : HashQuoted s) (ht : HashQuoted t) : HashQuoted (s ++ t) := by
  unfold HashQuoted at hs ht ⊢
  rw [String.toList_append, ← List.cons_append, List.isChain_append]
  rw [List.isChain_cons] at ht
  refine ⟨hs, ht.2, fun c _ d hd hhash => ?_⟩
  exact absurd (ht.1 d hd hhash) (by decide)

/-- Behind a line stands what stands behind its last character. -/
theorem getLast_cons_suffix {line : List Char} (hline : line ≠ []) (rest : List Char) :
    line.getLast hline :: rest <:+ line ++ rest := by
  refine ⟨line.dropLast, ?_⟩
  rw [List.append_cons, List.dropLast_concat_getLast]

/-- Lines behind a character that is no quotation mark. -/
theorem head_ne_of_isChain (hquote : ends '\x27' = false) {c : Char} {ls : List (List Char)}
    (hc : c ≠ '\x27') (h : (c :: ls.flatten).IsChain quotes) (hne : [] ∉ ls)
    (hends : ls.IsChain fun line next => ∃ (hline : line ≠ []) (_ : next ≠ []),
      (!ends (line.getLast hline)) = false) :
    ∀ line ∈ ls, line.head? ≠ some '#' := by
  induction ls generalizing c with
  | nil => exact fun _ hline => nomatch hline
  | cons line ls ih =>
      rw [List.mem_cons, not_or] at hne
      obtain ⟨d, front, rfl⟩ := List.exists_cons_of_ne_nil (Ne.symm hne.1)
      have hd : d ≠ '#' := fun hd => hc (h.rel hd)
      have hrest : ∀ line ∈ ls, line.head? ≠ some '#' := by
        cases ls with
        | nil => exact fun _ hline => nomatch hline
        | cons next ls =>
            obtain ⟨⟨hline, -, hlast⟩, hends⟩ := List.isChain_cons_cons.mp hends
            -- the line ends, and so not with a quotation mark
            have hmark : (d :: front).getLast hline ≠ '\x27' := fun hmark => by
              rw [hmark, hquote] at hlast
              exact Bool.noConfusion hlast
            have hsuffix : (d :: front).getLast hline :: (next :: ls).flatten <:+
                c :: ((d :: front) :: next :: ls).flatten :=
              (getLast_cons_suffix hline _).trans (List.suffix_cons c _)
            exact ih hmark (h.suffix hsuffix) hne.2 hends
      rw [List.forall_mem_cons]
      exact ⟨fun hhead => hd (Option.some.inj hhead), hrest⟩

/-- No line begins with `#`, if a quotation mark does not end a line. -/
theorem head_ne (hquote : ends '\x27' = false) (h : HashQuoted s) :
    ∀ line ∈ linesOf ends s.toList, line.head? ≠ some '#' := by
  have hends := List.isChain_getLast_head_splitBy (fun c _ => !ends c) s.toList
  have hne := List.nil_notMem_splitBy (fun c _ => !ends c) s.toList
  unfold HashQuoted at h
  rw [← List.flatten_splitBy (fun c _ => !ends c) s.toList] at h
  exact head_ne_of_isChain hquote (by decide) h hne hends

end HashQuoted

/-- **Everything is left of a text whose every `#` stands behind a quotation mark**, if that does
    not end a line. -/
theorem withoutComments_of_hashQuoted (hquote : ends '\x27' = false) {s : String}
    (h : HashQuoted s) : withoutComments ends s.toList = s.toList := by
  have hall : (linesOf ends s.toList).filter (fun line => line.head? ≠ some '#') =
      linesOf ends s.toList :=
    List.filter_eq_self.mpr fun line hline => decide_eq_true (h.head_ne hquote line hline)
  rw [withoutComments, hall]
  exact List.flatten_splitBy _ _

end EpsilonAutomata.Text
