import EpsilonAutomata.Yaml.Character
import EpsilonAutomata.Proofs.Yaml.PlainValue

/-!
# Text that may stand in a document

What is checked of a text before it is read (`CleanText`), in the form in which it is proved of a
text that is put together from pieces.
-/

namespace EpsilonAutomata.Yaml

/-! ## 1. Characters -/

/-- The character may stand in a document, and stays what it is when line breaks are normalized. -/
def isClean (c : Char) : Bool := isAllowed c && c != '\r' && c != '\u0085'

/-- A character that is neither escaped nor a separator may stand in a document. -/
theorem isClean_of_printable {c : Char} (hreturn : c ≠ '\r') (hnel : c ≠ '\u0085')
    (hcontrol : ¬ (c.toNat < 0x20 || (0x7f ≤ c.toNat && c.toNat < 0xa0)) = true)
    (hfffe : c ≠ '\ufffe') (hffff : c ≠ '\uffff') : isClean c = true := by
  have h1 : c.toNat ≠ 0xfffe := fun h => hfffe (Char.toNat_inj.mp h)
  have h2 : c.toNat ≠ 0xffff := fun h => hffff (Char.toNat_inj.mp h)
  simp only [Bool.or_eq_true, Bool.and_eq_true, decide_eq_true_eq] at hcontrol
  have hallowed : isAllowed c = true := by
    simp only [isAllowed, Bool.or_eq_true, Bool.and_eq_true, decide_eq_true_eq]
    omega
  simp [isClean, hallowed, hreturn, hnel]

theorem isClean_digit {c : Char} (hc : c.isDigit = true) : isClean c = true := by
  have hrange := digit_range hc
  refine isClean_of_printable (digit_ne hc (by decide)) (digit_ne hc (by decide)) ?_
    (digit_ne hc (by decide)) (digit_ne hc (by decide))
  simp only [Bool.or_eq_true, Bool.and_eq_true, decide_eq_true_eq]
  omega

/-! ## 2. Texts -/

/-- The text may stand in a document, and is what it is when line breaks are normalized. -/
def CleanText (s : String) : Prop := s.toList.all isClean = true

instance (s : String) : Decidable (CleanText s) :=
  inferInstanceAs (Decidable (s.toList.all isClean = true))

namespace CleanText

variable {s t : String}

theorem append (hs : CleanText s) (ht : CleanText t) : CleanText (s ++ t) := by
  rw [CleanText, String.toList_append, List.all_append, Bool.and_eq_true]
  exact ⟨hs, ht⟩

theorem singleton {c : Char} (h : isClean c = true) : CleanText c.toString := by
  simpa [CleanText] using h

theorem numeral (n : Nat) : CleanText n.repr := by
  rw [CleanText, Nat.toList_repr, List.all_eq_true]
  exact fun c hc => isClean_digit (isDigit_of_mem_numeral hc)

theorem all_isAllowed (h : CleanText s) : s.toList.all isAllowed = true := by
  rw [CleanText, List.all_eq_true] at h
  rw [List.all_eq_true]
  intro c hc
  have hclean := h c hc
  simp only [isClean, Bool.and_eq_true] at hclean
  exact hclean.1.1

theorem normalizeOnto_eq {read text : List Char} (h : text.all isClean = true) :
    normalizeOnto read text = read.reverse ++ text := by
  induction text generalizing read with
  | nil => rw [normalizeOnto, List.append_nil]
  | cons c rest ih =>
      rw [List.all_cons, Bool.and_eq_true] at h
      obtain ⟨hc, hrest⟩ := h
      simp only [isClean, Bool.and_eq_true, bne_iff_ne] at hc
      rw [normalizeOnto.eq_3 _ _ _ (fun _ hreturn => absurd hreturn hc.1.2), ih hrest]
      simp [hc]

/-- Normalizing the line breaks changes nothing. -/
theorem normalizeBreaks_eq (h : CleanText s) : normalizeBreaks s.toList = s.toList :=
  normalizeOnto_eq h

end CleanText

end EpsilonAutomata.Yaml
