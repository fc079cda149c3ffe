import EpsilonAutomata.Proofs.Schema.FirstFault

/-!
# Known and unknown kinds

There are five kinds of node, and each has its place: `empty` is a string, the other four are keys.
The loader knows a kind in its place only. There a node of the wrong shape is an invalid schema, or
an invalid symbol; but a known kind in the place of another (`Face.Misplaced`) is as unsupported as
an unknown one.

* `fault?_eq_unsupported_iff` -- the faces that are unsupported;
* `fault?_of_not_misplaced` -- the faults of kinds in their places;
* `parse_unsupported_iff` -- the texts that are refused for an unsupported kind.
-/

namespace EpsilonAutomata.Schema

open Yaml (Value Document)

/-! ## 1. Kinds and their places -/

/-- **The kinds of node.** -/
def kinds : List String := "empty" :: keys

/-- The kind that a node names. -/
def Face.kind? : Face → Option String
  | word text => some text
  | symbol _ => some "symbol"
  | iterate => some "iterate"
  | operator op _ => some op.kind
  | otherKey kind _ => some kind
  | missing | expressions _ | name _ | notOneEntry | keyNotString | otherNode => none

/-- **A known kind in the place of another**: a key as a string, or `empty` as a key. -/
def Face.Misplaced : Face → Prop
  | word text => text ∈ keys
  | otherKey kind _ => kind = "empty"
  | missing | expressions _ | name _ | notOneEntry | keyNotString | symbol _ | iterate
  | operator _ _ | otherNode => False

variable {d : Document} {f : Face} {k : String} {e : LoadError}

theorem operator_mem_kinds (op : Operator) : op.kind ∈ kinds := by
  cases op <;> decide

/-! ## 2. Faces -/

theorem Face.Misplaced.kind?_mem (h : f.Misplaced) : ∃ k ∈ kinds, f.kind? = some k := by
  match f with
  | .word text => exact ⟨text, List.mem_cons_of_mem _ h, rfl⟩
  | .otherKey kind _ =>
      obtain rfl : kind = "empty" := h
      exact ⟨"empty", List.mem_cons_self, rfl⟩

/-- Whatever is unsupported has been named. -/
theorem kind?_of_unsupported (h : f.fault? = some (.unsupportedExpression k)) :
    f.kind? = some k := by
  match f with
  | .word text =>
      rw [Face.fault?] at h
      split at h
      · cases h
      · cases h
        rfl
  | .otherKey kind _ =>
      cases h
      rfl
  | .symbol (some text) | .expressions _ | .name _ =>
      rw [Face.fault?] at h
      split at h <;> cases h
  | .symbol none | .iterate | .operator _ .notSequence | .operator _ .tooFew | .operator _ .enough
  | .missing | .notOneEntry | .keyNotString | .otherNode => cases h

theorem fault?_of_unknown (hkind : f.kind? = some k) (h : k ∉ kinds) :
    f.fault? = some (.unsupportedExpression k) := by
  match f with
  | .word text =>
      cases hkind
      have hne : k ≠ "empty" := fun he => h (he ▸ List.mem_cons_self)
      rw [Face.fault?, if_neg hne]
  | .otherKey kind _ =>
      cases hkind
      rfl
  | .symbol _ | .iterate =>
      cases hkind
      exact absurd (by decide) h
  | .operator op _ =>
      cases hkind
      exact absurd (operator_mem_kinds op) h

theorem Face.Misplaced.fault?_eq (h : f.Misplaced) (hkind : f.kind? = some k) :
    f.fault? = some (.unsupportedExpression k) := by
  match f with
  | .word text =>
      cases hkind
      have hne : k ≠ "empty" := by
        rintro rfl
        have hempty : "empty" ∈ keys := h
        exact absurd hempty (by decide)
      rw [Face.fault?, if_neg hne]
  | .otherKey kind _ =>
      cases hkind
      rfl

/-- **A kind in its place** has no fault of its own, or is an invalid schema, or an invalid symbol if
    it is a symbol with a text that is not one character. -/
theorem fault?_of_not_misplaced (h : ¬ f.Misplaced) (hkind : f.kind? = some k) (hk : k ∈ kinds) :
    f.fault? = none ∨ (∃ s, f.fault? = some (.invalidSchema s)) ∨
      ∃ text, f = .symbol (some text) ∧ text.length ≠ 1 ∧
        f.fault? = some (.invalidSymbol text) := by
  match f with
  | .word text =>
      cases hkind
      have hempty : k = "empty" := by
        rcases List.mem_cons.mp hk with he | hkey
        · exact he
        · exact absurd hkey h
      exact .inl (by rw [Face.fault?, if_pos hempty])
  | .otherKey kind hother =>
      cases hkind
      rcases List.mem_cons.mp hk with he | hkey
      · exact absurd he h
      · exact absurd hkey hother
  | .symbol none => exact .inr (.inl ⟨_, rfl⟩)
  | .symbol (some text) =>
      by_cases hlen : text.length = 1
      · exact .inl (by rw [Face.fault?, if_pos hlen])
      · exact .inr (.inr ⟨text, rfl, hlen, by rw [Face.fault?, if_neg hlen]⟩)
  | .iterate | .operator _ .enough => exact .inl rfl
  | .operator _ .notSequence | .operator _ .tooFew => exact .inr (.inl ⟨_, rfl⟩)

/-- **A face is unsupported** if it names an unknown kind, or a known one in the place of another. -/
theorem fault?_eq_unsupported_iff : f.fault? = some (.unsupportedExpression k) ↔
    f.kind? = some k ∧ (k ∉ kinds ∨ f.Misplaced) := by
  constructor
  · intro h
    have hkind := kind?_of_unsupported h
    refine ⟨hkind, or_iff_not_imp_right.mpr fun hplaced hk => ?_⟩
    rcases fault?_of_not_misplaced hplaced hkind hk with hnone | ⟨s, hs⟩ | ⟨text, -, -, ht⟩
    · cases hnone.symm.trans h
    · cases hs.symm.trans h
    · cases ht.symm.trans h
  · rintro ⟨hkind, hunknown | hmisplaced⟩
    · exact fault?_of_unknown hkind hunknown
    · exact hmisplaced.fault?_eq hkind

/-! ## 3. Texts -/

/-- **The texts that are refused for an unsupported kind.** The first fault is a node that names an
    unknown kind, or a known kind in the place of another. So an unsupported kind is unknown for
    exactly those documents whose first fault is not of the second sort. And every node that names
    a known kind is unsupported if it is out of its place; in its place it has no fault, or is an
    invalid schema, or an invalid symbol. -/
theorem parse_unsupported_iff {text : String} (h : Document.read? text = some d) :
    (∀ k, parse text = .error (.unsupportedExpression k) ↔
      ∃ f, IsFirst (faces d) f ∧ f.kind? = some k ∧ (k ∉ kinds ∨ f.Misplaced)) ∧
    ((∀ k, parse text = .error (.unsupportedExpression k) → k ∉ kinds) ↔
      ∀ f, IsFirst (faces d) f → ¬ f.Misplaced) ∧
    ∀ f ∈ faces d, ∀ k ∈ kinds, f.kind? = some k →
      (f.Misplaced → f.fault? = some (.unsupportedExpression k)) ∧
      (¬ f.Misplaced → f.fault? = none ∨ (∃ s, f.fault? = some (.invalidSchema s)) ∨
        ∃ text, f = .symbol (some text) ∧ text.length ≠ 1 ∧
          f.fault? = some (.invalidSymbol text)) := by
  have hunsupported : ∀ k, parse text = .error (.unsupportedExpression k) ↔
      ∃ f, IsFirst (faces d) f ∧ f.kind? = some k ∧ (k ∉ kinds ∨ f.Misplaced) := fun k => by
    rw [parse_eq h, ofDocument_eq_error_iff]
    simp only [fault?_eq_unsupported_iff]
  refine ⟨hunsupported, ⟨fun hall f hfirst hmisplaced => ?_, fun hall k hk hmem => ?_⟩,
    fun f _ k hk hkind => ⟨fun hmisplaced => hmisplaced.fault?_eq hkind,
      fun hplaced => fault?_of_not_misplaced hplaced hkind hk⟩⟩
  · obtain ⟨k, hk, hkind⟩ := hmisplaced.kind?_mem
    exact hall k ((hunsupported k).mpr ⟨f, hfirst, hkind, .inr hmisplaced⟩) hk
  · obtain ⟨f, hfirst, -, hunknown | hmisplaced⟩ := (hunsupported k).mp hk
    · exact hunknown hmem
    · exact hall f hfirst hmisplaced

/-- A symbol as a string stands in front of an unknown key. -/
theorem parse_unsupported_iff_symbol :
    let text := "expressions:\n  x:\n    iterate:\n      concat:\n      - symbol\n      - plus: empty\n"
    (∃ d, Document.read? text = some d ∧ IsFirst (faces d) (.word "symbol")) ∧
      parse text = .error (.unsupportedExpression "symbol") := by
  intro text
  have hfaces : (Document.read? text).map faces = some
      ([.expressions true, .name true, .iterate, .operator .concat .enough] ++
        .word "symbol" :: [.otherKey "plus" (by decide)]) := by
    decide +kernel
  obtain ⟨d, hd, hlist⟩ := Option.map_eq_some_iff.mp hfaces
  have hfirst : IsFirst (faces d) (.word "symbol") := ⟨_, _, hlist, by decide⟩
  have hmisplaced : Face.Misplaced (.word "symbol") := by
    show "symbol" ∈ keys
    decide
  exact ⟨⟨d, hd, hfirst⟩,
    ((parse_unsupported_iff hd).1 "symbol").mpr ⟨_, hfirst, rfl, .inr hmisplaced⟩⟩

/-- **Known kinds can be unsupported**: a key as a string, and `empty` as a key. -/
theorem parse_unsupported_known :
    parse "expressions:\n  x: symbol\n" = .error (.unsupportedExpression "symbol") ∧
    parse "expressions:\n  x:\n    empty: empty\n" = .error (.unsupportedExpression "empty") ∧
    "symbol" ∈ kinds ∧ "empty" ∈ kinds :=
  ⟨errorOf?_eq_some_iff.mp (by decide +kernel), errorOf?_eq_some_iff.mp (by decide +kernel),
    by decide, by decide⟩

end EpsilonAutomata.Schema
