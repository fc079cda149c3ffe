import EpsilonAutomata.Proofs.Pattern.Grammar

/-!
# Reading a pattern

No text has two derivations. The grammar is left-recursive, so the text is taken apart from left to
right by a machine that keeps what is finished: at each depth of brackets a `PartialPattern`, with
the branches before the last bar, the pieces before the last atom, and that atom, which a star may
still follow. Each character is one step of the machine, and at the end of a text it holds the
derivation that the text was taken from. So the text tells the derivation.

* `read_text` -- the machine finds every derivation from its text;
* `text_injective` -- no text has two derivations;
* `patternText_readable` -- the pattern text of an expression is read in exactly one way, as that
  expression.
-/

namespace EpsilonAutomata

/-! ## 1. What has been read -/

/-- What has been read of a pattern. -/
structure PartialPattern where
  /-- The branches in front of the last bar. -/
  front : Option Pattern
  /-- The pieces behind it, except for `last`. -/
  pieces : Option Branch
  /-- The last atom, if no star follows it yet. -/
  last : Option Atom

/-- A branch with one more piece. -/
def Branch.extend : Option Branch → Piece → Branch
  | none, x => .one x
  | some b, x => .snoc b x

/-- A pattern with one more branch. -/
def Pattern.extend : Option Pattern → Branch → Pattern
  | none, b => .one b
  | some p, b => .snoc p b

namespace PartialPattern

/-- Nothing has been read behind these branches and the bar. -/
def behind (front : Option Pattern) : PartialPattern := ⟨front, none, none⟩

/-- The branch behind the last bar; there is none if nothing has been read there. -/
def branch? (f : PartialPattern) : Option Branch :=
  match f.last with
  | none => f.pieces
  | some a => some (.extend f.pieces (.bare a))

/-- The whole pattern. -/
def pattern? (f : PartialPattern) : Option Pattern := f.branch?.map (.extend f.front)

/-- An atom follows. -/
def atom (f : PartialPattern) (a : Atom) : PartialPattern := ⟨f.front, f.branch?, some a⟩

/-- A star follows. There must be an atom for it. -/
def star? (f : PartialPattern) : Option PartialPattern :=
  f.last.map fun a => ⟨f.front, some (.extend f.pieces (.starred a)), none⟩

/-- A bar follows. -/
def bar? (f : PartialPattern) : Option PartialPattern := f.pattern?.map fun p => behind (some p)

/-- A whole piece follows. -/
def piece (f : PartialPattern) : Piece → PartialPattern
  | .bare a => f.atom a
  | .starred a => ⟨f.front, some (.extend f.branch? (.starred a)), none⟩

theorem front_piece (f : PartialPattern) (x : Piece) : (f.piece x).front = f.front := by
  cases x <;> rfl

theorem branch?_piece (f : PartialPattern) (x : Piece) :
    (f.piece x).branch? = some (.extend f.branch? x) := by
  cases x <;> rfl

end PartialPattern

/-! ## 2. The machine -/

/-- The reader in the middle of a text. -/
structure Reader where
  /-- What has been read behind the last open bracket. -/
  inner : PartialPattern
  /-- What had been read before each open bracket, the last first. -/
  outer : List PartialPattern
  /-- The last character was a backslash that the next one belongs to. -/
  escaping : Bool

namespace Reader

/-- A bracket closes. -/
def close (f : PartialPattern) : List PartialPattern → Option Reader
  | [] => none
  | g :: outer => f.pattern?.map fun p => ⟨g.atom (.group p), outer, false⟩

/-- **Reads one character.** -/
def step : Reader → Char → Option Reader
  | ⟨f, outer, true⟩, c =>
    if h : c ∈ specials then some ⟨f.atom (.escaped c h), outer, false⟩ else none
  | ⟨f, outer, false⟩, c =>
    if h : c ∉ specials then some ⟨f.atom (.plain c h), outer, false⟩
    else if c = '\\' then some ⟨f, outer, true⟩
    else if c = 'ε' then some ⟨f.atom .epsilon, outer, false⟩
    else if c = '*' then f.star?.map (⟨·, outer, false⟩)
    else if c = '|' then f.bar?.map (⟨·, outer, false⟩)
    else if c = '(' then some ⟨.behind none, f :: outer, false⟩
    else close f outer

/-- Reads a text. -/
def readAll (r : Reader) (text : List Char) : Option Reader := text.foldlM step r

/-- The pattern at the end of a text. No bracket may be open. -/
def finish? : Reader → Option Pattern
  | ⟨f, [], false⟩ => f.pattern?
  | _ => none

variable {f : PartialPattern} {outer : List PartialPattern}

theorem readAll_append (r : Reader) (s t : List Char) :
    r.readAll (s ++ t) = (r.readAll s).bind fun r => r.readAll t := List.foldlM_append

theorem readAll_cons (r : Reader) (c : Char) (t : List Char) :
    r.readAll (c :: t) = (r.step c).bind fun r => r.readAll t := List.foldlM_cons

theorem step_plain {c : Char} (h : c ∉ specials) :
    step ⟨f, outer, false⟩ c = some ⟨f.atom (.plain c h), outer, false⟩ := dif_pos h

theorem step_escaped {c : Char} (h : c ∈ specials) :
    step ⟨f, outer, true⟩ c = some ⟨f.atom (.escaped c h), outer, false⟩ := dif_pos h

theorem step_backslash : step ⟨f, outer, false⟩ '\\' = some ⟨f, outer, true⟩ := rfl

theorem step_star : step ⟨f, outer, false⟩ '*' = f.star?.map (⟨·, outer, false⟩) := rfl

theorem step_bar : step ⟨f, outer, false⟩ '|' = f.bar?.map (⟨·, outer, false⟩) := rfl

theorem step_open : step ⟨f, outer, false⟩ '(' = some ⟨.behind none, f :: outer, false⟩ := rfl

theorem step_close : step ⟨f, outer, false⟩ ')' = close f outer := rfl

end Reader

/-! ## 3. The machine finds every derivation -/

mutual

theorem Atom.readAll_text (a : Atom) (f : PartialPattern) (outer : List PartialPattern) :
    Reader.readAll ⟨f, outer, false⟩ a.text = some ⟨f.atom a, outer, false⟩ := by
  match a with
  | .epsilon => rfl
  | .escaped c h =>
      rw [Atom.text, Reader.readAll_cons, Reader.step_backslash, Option.bind_some,
        Reader.readAll_cons, Reader.step_escaped h]
      rfl
  | .plain c h =>
      rw [Atom.text, Reader.readAll_cons, Reader.step_plain h]
      rfl
  | .group p =>
      obtain ⟨g, hg, hread⟩ := p.readAll_text (f :: outer)
      rw [Atom.text, Reader.readAll_cons, Reader.step_open, Option.bind_some,
        Reader.readAll_append, hread, Option.bind_some, Reader.readAll_cons, Reader.step_close,
        Reader.close, hg]
      rfl

theorem Piece.readAll_text (x : Piece) (f : PartialPattern) (outer : List PartialPattern) :
    Reader.readAll ⟨f, outer, false⟩ x.text = some ⟨f.piece x, outer, false⟩ := by
  match x with
  | .bare a => exact a.readAll_text f outer
  | .starred a =>
      rw [Piece.text, Reader.readAll_append, a.readAll_text f outer, Option.bind_some,
        Reader.readAll_cons, Reader.step_star]
      rfl

theorem Branch.readAll_text (b : Branch) (front : Option Pattern) (outer : List PartialPattern) :
    ∃ f : PartialPattern, f.front = front ∧ f.branch? = some b ∧
      Reader.readAll ⟨.behind front, outer, false⟩ b.text = some ⟨f, outer, false⟩ := by
  match b with
  | .one x =>
      refine ⟨_, PartialPattern.front_piece _ x, ?_, x.readAll_text _ outer⟩
      rw [PartialPattern.branch?_piece]
      rfl
  | .snoc b x =>
      obtain ⟨f, hfront, hbranch, hread⟩ := b.readAll_text front outer
      refine ⟨f.piece x, ?_, ?_, ?_⟩
      · rw [PartialPattern.front_piece, hfront]
      · rw [PartialPattern.branch?_piece, hbranch]
        rfl
      · rw [Branch.text, Reader.readAll_append, hread, Option.bind_some, x.readAll_text f outer]

theorem Pattern.readAll_text (p : Pattern) (outer : List PartialPattern) :
    ∃ f : PartialPattern, f.pattern? = some p ∧
      Reader.readAll ⟨.behind none, outer, false⟩ p.text = some ⟨f, outer, false⟩ := by
  match p with
  | .one b =>
      obtain ⟨f, hfront, hbranch, hread⟩ := b.readAll_text none outer
      refine ⟨f, ?_, hread⟩
      rw [PartialPattern.pattern?, hbranch, hfront]
      rfl
  | .snoc p b =>
      obtain ⟨g, hg, hreadp⟩ := p.readAll_text outer
      obtain ⟨f, hfront, hbranch, hread⟩ := b.readAll_text (some p) outer
      refine ⟨f, ?_, ?_⟩
      · rw [PartialPattern.pattern?, hbranch, hfront]
        rfl
      · rw [Pattern.text, Reader.readAll_append, hreadp, Option.bind_some, Reader.readAll_cons,
          Reader.step_bar, PartialPattern.bar?, hg]
        exact hread

end

namespace Pattern

/-- **Reads a pattern.** -/
def read? (text : List Char) : Option Pattern :=
  (Reader.readAll ⟨.behind none, [], false⟩ text).bind Reader.finish?

/-- **Every derivation is read from its text.** -/
theorem read_text (p : Pattern) : read? p.text = some p := by
  obtain ⟨f, hf, hread⟩ := p.readAll_text []
  rw [read?, hread]
  exact hf

/-- **No text has two derivations.** -/
theorem text_injective {p q : Pattern} (h : p.text = q.text) : p = q := by
  have hp := p.read_text
  rw [h, q.read_text] at hp
  exact (Option.some.inj hp).symm

end Pattern

/-! ## 4. Pattern texts -/

namespace Regex

/-- The derivation of a pattern text. -/
theorem exists_derivation (e : Regex) :
    ∃ p : Pattern, p.text = e.patternText.toList ∧ p.tree = e :=
  e.derives_patternText.mono (Nat.zero_le _)

/-- **The pattern text of an expression has exactly one derivation, which stands for the
    expression**, so that expressions with the same pattern text are the same. -/
theorem patternText_readable (e : Regex) :
    (∃ p : Pattern, p.text = e.patternText.toList ∧ p.tree = e ∧
      ∀ q : Pattern, q.text = e.patternText.toList → q = p) ∧
    ∀ f : Regex, e.patternText = f.patternText ↔ e = f := by
  obtain ⟨p, htext, htree⟩ := e.exists_derivation
  refine ⟨⟨p, htext, htree, fun q hq => Pattern.text_injective (hq.trans htext.symm)⟩, fun f => ?_⟩
  constructor
  · intro h
    obtain ⟨q, hqtext, hqtree⟩ := f.exists_derivation
    have hpq : p = q := Pattern.text_injective (by rw [htext, hqtext, h])
    rw [← htree, ← hqtree, hpq]
  · intro h
    rw [h]

end Regex

end EpsilonAutomata
