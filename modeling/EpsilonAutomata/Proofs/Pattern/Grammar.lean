import EpsilonAutomata.Regex.Pattern

/-!
# The grammar of patterns

How a pattern is read by convention, as a grammar:

    pattern  ->  branch  |  pattern '|' branch
    branch   ->  piece   |  branch piece
    piece    ->  atom    |  atom '*'
    atom     ->  'ε'  |  '\' special  |  any character that is not special  |  '(' pattern ')'

Derivations are trees with one constructor for each rule. Such a tree has a `text`, the characters
at its leaves from left to right, and a `tree`, the expression it stands for. Left recursion is what
makes union and juxtaposition lean to the left.

* `derives_patternText` -- the pattern text of an expression has a derivation, from the rule that
  the precedence of its root asks for, and the derivation stands for the expression.
-/

namespace EpsilonAutomata

/-! ## 1. Derivations -/

/-- The characters that stand for themselves only behind a backslash. -/
def specials : List Char := ['|', '*', '(', ')', '\\', 'ε']

mutual

/-- **A derivation of an atom.** -/
inductive Atom where
  | epsilon
  | escaped (c : Char) (h : c ∈ specials)
  | plain (c : Char) (h : c ∉ specials)
  | group (p : Pattern)

/-- **A derivation of a piece.** -/
inductive Piece where
  | bare (a : Atom)
  | starred (a : Atom)

/-- **A derivation of a branch.** -/
inductive Branch where
  | one (x : Piece)
  | snoc (b : Branch) (x : Piece)

/-- **A derivation of a pattern.** -/
inductive Pattern where
  | one (b : Branch)
  | snoc (p : Pattern) (b : Branch)

end

mutual

/-- The characters an atom is derived to. -/
def Atom.text : Atom → List Char
  | .epsilon => ['ε']
  | .escaped c _ => ['\\', c]
  | .plain c _ => [c]
  | .group p => '(' :: (p.text ++ [')'])

/-- The characters a piece is derived to. -/
def Piece.text : Piece → List Char
  | .bare a => a.text
  | .starred a => a.text ++ ['*']

/-- The characters a branch is derived to. -/
def Branch.text : Branch → List Char
  | .one x => x.text
  | .snoc b x => b.text ++ x.text

/-- The characters a pattern is derived to. -/
def Pattern.text : Pattern → List Char
  | .one b => b.text
  | .snoc p b => p.text ++ '|' :: b.text

end

mutual

/-- The expression an atom stands for. -/
def Atom.tree : Atom → Regex
  | .epsilon => .epsilon
  | .escaped c _ => .symbol c
  | .plain c _ => .symbol c
  | .group p => p.tree

/-- The expression a piece stands for. -/
def Piece.tree : Piece → Regex
  | .bare a => a.tree
  | .starred a => .star a.tree

/-- The expression a branch stands for. -/
def Branch.tree : Branch → Regex
  | .one x => x.tree
  | .snoc b x => .concat b.tree x.tree

/-- The expression a pattern stands for. -/
def Pattern.tree : Pattern → Regex
  | .one b => b.tree
  | .snoc p b => .union p.tree b.tree

end

/-! ## 2. Derivations by precedence -/

/-- The text is derived from the rule for this precedence, and stands for the expression: a pattern
    for 0, a branch for 1, a piece for 2, an atom for 3. -/
def Derives : Nat → List Char → Regex → Prop
  | 0, text, e => ∃ p : Pattern, p.text = text ∧ p.tree = e
  | 1, text, e => ∃ b : Branch, b.text = text ∧ b.tree = e
  | 2, text, e => ∃ x : Piece, x.text = text ∧ x.tree = e
  | _, text, e => ∃ a : Atom, a.text = text ∧ a.tree = e

namespace Derives

variable {n m : Nat} {text u v : List Char} {e l r b : Regex}

/-- An atom alone is a piece, a piece alone a branch, and a branch alone a pattern. -/
theorem looser (h : Derives (n + 1) text e) : Derives n text e := by
  match n, h with
  | 0, ⟨b, htext, htree⟩ => exact ⟨.one b, htext, htree⟩
  | 1, ⟨x, htext, htree⟩ => exact ⟨.one x, htext, htree⟩
  | 2, ⟨a, htext, htree⟩ => exact ⟨.bare a, htext, htree⟩
  | n + 3, h => exact h

theorem mono (h : Derives n text e) (hm : m ≤ n) : Derives m text e := by
  induction n with
  | zero =>
      obtain rfl := Nat.le_zero.mp hm
      exact h
  | succ n ih =>
      by_cases heq : m = n + 1
      · subst heq
        exact h
      · exact ih h.looser (by omega)

/-- In brackets every pattern is an atom. -/
theorem inBrackets (h : Derives 0 text e) : Derives 3 ('(' :: (text ++ [')'])) e := by
  obtain ⟨p, rfl, rfl⟩ := h
  exact ⟨.group p, rfl, rfl⟩

theorem union (hl : Derives 0 u l) (hr : Derives 1 v r) : Derives 0 (u ++ '|' :: v) (.union l r) := by
  obtain ⟨p, rfl, rfl⟩ := hl
  obtain ⟨b, rfl, rfl⟩ := hr
  exact ⟨.snoc p b, rfl, rfl⟩

theorem concat (hl : Derives 1 u l) (hr : Derives 2 v r) : Derives 1 (u ++ v) (.concat l r) := by
  obtain ⟨b, rfl, rfl⟩ := hl
  obtain ⟨x, rfl, rfl⟩ := hr
  exact ⟨.snoc b x, rfl, rfl⟩

theorem star (hb : Derives 3 u b) : Derives 2 (u ++ ['*']) (.star b) := by
  obtain ⟨a, rfl, rfl⟩ := hb
  exact ⟨.starred a, rfl, rfl⟩

end Derives

/-! ## 3. The pattern text of an expression -/

namespace Regex

variable {e : Regex}

theorem isReserved_iff {c : Char} : isReserved c = true ↔ c ∈ specials := by
  simp [isReserved, specials, or_assoc]

theorem derives_symbolText (c : Char) : Derives 3 (symbolText c).toList (.symbol c) := by
  unfold symbolText
  by_cases h : isReserved c = true
  · rw [if_pos h]
    exact ⟨.escaped c (isReserved_iff.mp h), by simp [Atom.text], rfl⟩
  · rw [if_neg h]
    exact ⟨.plain c (fun hc => h (isReserved_iff.mpr hc)), by simp [Atom.text], rfl⟩

/-- An operand, in brackets where it needs them, fits its place. -/
theorem derives_bracketed (least : Nat) {text : String} (hleast : least ≤ 3)
    (h : Derives e.precedence text.toList e) : Derives least (bracketed least e text).toList e := by
  unfold bracketed
  by_cases hlt : e.precedence < least
  · rw [if_pos hlt]
    have htext : ("(" ++ text ++ ")").toList = '(' :: (text.toList ++ [')']) := by simp
    rw [htext]
    exact (h.mono (Nat.zero_le _)).inBrackets.mono hleast
  · rw [if_neg hlt]
    exact h.mono (Nat.le_of_not_lt hlt)

/-- **The pattern text of an expression is derived from the rule for the precedence of its root, and
    stands for the expression.** -/
theorem derives_patternText (e : Regex) : Derives e.precedence e.patternText.toList e := by
  induction e with
  | epsilon => exact ⟨.epsilon, rfl, rfl⟩
  | symbol c => exact derives_symbolText c
  | union l r ihl ihr =>
      have h := (derives_bracketed 0 (by decide) ihl).union
        (derives_bracketed 1 (by decide) ihr)
      simpa [patternText, precedence] using h
  | concat l r ihl ihr =>
      have h := (derives_bracketed 1 (by decide) ihl).concat
        (derives_bracketed 2 (by decide) ihr)
      simpa [patternText, precedence] using h
  | star b ih =>
      have h := (derives_bracketed 3 (by decide) ih).star
      simpa [patternText, precedence] using h

end Regex

end EpsilonAutomata
