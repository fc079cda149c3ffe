import Mathlib.Data.List.TakeWhile
import Std.Data.String.ToNat

/-!
# Texts that tell where they end

A text that is put together from pieces can be taken apart again if every piece tells where it ends:
then the first pieces of two equal texts are equal, and so is what follows them. This file says what
that means (`SelfDelimiting`), and what follows for a whole text.

* `SelfDelimiting.eq_iff`, `SelfDelimiting.isPrefix_iff` -- such texts differ, and none of them
  begins another;
* `SelfDelimiting.join_inj` -- pieces in a row are told apart one by one;
* `numeral_inj` -- a decimal numeral ends before the first character that is no digit.
-/

namespace EpsilonAutomata.Text

/-! ## 1. Pieces of text -/

/-- The text of `a` tells where it ends: whatever follows it, no other text begins there. -/
def Delimited {α : Type} (text : α → String) (a : α) : Prop :=
  ∀ ⦃b : α⦄ ⦃s t : List Char⦄, (text a).toList ++ s = (text b).toList ++ t → a = b ∧ s = t

/-- **The texts tell where they end.** -/
def SelfDelimiting {α : Type} (text : α → String) : Prop := ∀ a, Delimited text a

namespace SelfDelimiting

variable {α : Type} {text : α → String} {a b : α}

/-- What a reader takes off the front of any text has told where it ends. -/
theorem of_read (read : List Char → Option (α × List Char))
    (h : ∀ a s, read ((text a).toList ++ s) = some (a, s)) : SelfDelimiting text := by
  intro a b s t heq
  have hread := h a s
  rw [heq, h b t] at hread
  cases hread
  exact ⟨rfl, rfl⟩

/-- Texts that differ in their first characters. -/
theorem of_head (hne : ∀ a, text a ≠ "")
    (h : ∀ a b, (text a).toList.head? = (text b).toList.head? → a = b) : SelfDelimiting text := by
  have hhead : ∀ a s, ((text a).toList ++ s).head? = (text a).toList.head? := fun a s => by
    obtain ⟨c, rest, hcons⟩ := List.exists_cons_of_ne_nil fun hnil =>
      hne a (String.toList_eq_nil_iff.mp hnil)
    rw [hcons]
    rfl
  intro a b s t heq
  obtain rfl : a = b := h a b (by rw [← hhead a s, heq, hhead b t])
  exact ⟨rfl, List.append_cancel_left heq⟩

theorem append_eq_iff (h : SelfDelimiting text) {s t : String} :
    text a ++ s = text b ++ t ↔ a = b ∧ s = t := by
  constructor
  · intro heq
    have hlists := congrArg String.toList heq
    rw [String.toList_append, String.toList_append] at hlists
    exact ⟨(h a hlists).1, String.toList_inj.mp (h a hlists).2⟩
  · rintro ⟨rfl, rfl⟩
    rfl

theorem eq_iff (h : SelfDelimiting text) : text a = text b ↔ a = b := by
  have hwhole := h.append_eq_iff (a := a) (b := b) (s := "") (t := "")
  simpa using hwhole

/-- No text begins another. -/
theorem isPrefix_iff (h : SelfDelimiting text) :
    (text a).toList <+: (text b).toList ↔ a = b := by
  constructor
  · rintro ⟨s, hs⟩
    exact (h a (hs.trans (List.append_nil _).symm)).1
  · rintro rfl
    exact List.prefix_refl _

/-- The same text in front of all of them changes nothing. -/
theorem const_append (h : SelfDelimiting text) (u : String) :
    SelfDelimiting fun a => u ++ text a := by
  intro a b s t heq
  simp only [String.toList_append, List.append_assoc] at heq
  exact h a (List.append_cancel_left heq)

/-- Nor does the same text behind them. -/
theorem append_const (h : SelfDelimiting text) (u : String) :
    SelfDelimiting fun a => text a ++ u := by
  intro a b s t heq
  simp only [String.toList_append, List.append_assoc] at heq
  obtain ⟨hab, hrest⟩ := h a heq
  exact ⟨hab, List.append_cancel_left hrest⟩

/-- **Pieces in a row**, up to something that does not begin like a piece. -/
theorem join_inj (h : SelfDelimiting text) {as bs : List α} {s t : List Char}
    (hs : ∀ a rest, (text a).toList ++ rest ≠ s) (ht : ∀ a rest, (text a).toList ++ rest ≠ t)
    (heq : (String.join (as.map text)).toList ++ s = (String.join (bs.map text)).toList ++ t) :
    as = bs ∧ s = t := by
  simp only [String.toList_join, List.flatMap_map] at heq
  induction as generalizing bs with
  | nil =>
      cases bs with
      | nil => exact ⟨rfl, heq⟩
      | cons b bs =>
          rw [List.flatMap_cons, List.append_assoc] at heq
          exact absurd heq.symm (hs b _)
  | cons a as ih =>
      cases bs with
      | nil =>
          rw [List.flatMap_cons, List.append_assoc] at heq
          exact absurd heq (ht a _)
      | cons b bs =>
          rw [List.flatMap_cons, List.flatMap_cons, List.append_assoc, List.append_assoc] at heq
          obtain ⟨rfl, hrest⟩ := h a heq
          obtain ⟨rfl, hend⟩ := ih hrest
          exact ⟨rfl, hend⟩

end SelfDelimiting

/-! ## 2. Numerals -/

/-- Characters of a class, up to the first character outside it. -/
theorem append_inj_of_class {p : Char → Bool} {u v s t : List Char} {c d : Char}
    (hu : ∀ x ∈ u, p x = true) (hv : ∀ x ∈ v, p x = true) (hc : p c = false) (hd : p d = false)
    (h : u ++ c :: s = v ++ d :: t) : u = v ∧ c :: s = d :: t := by
  have htake : ∀ {w : List Char} {x : Char} {r : List Char}, (∀ y ∈ w, p y = true) → p x = false →
      (w ++ x :: r).takeWhile p = w := fun hw hx => by
    rw [List.takeWhile_append_of_pos hw, List.takeWhile_cons_of_neg (by simp [hx]),
      List.append_nil]
  have huv : u = v := by rw [← htake (r := s) hu hc, h, htake hv hd]
  subst huv
  exact ⟨rfl, List.append_cancel_left h⟩

theorem isDigit_of_mem_repr {n : Nat} {c : Char} (h : c ∈ n.repr.toList) : c.isDigit = true := by
  rw [Nat.toList_repr] at h
  exact Nat.isDigit_of_mem_toDigits (by decide) (by decide) h

/-- **A decimal numeral ends before the first character that is no digit.** -/
theorem numeral_inj {m n : Nat} {c : Char} {s t : List Char} (hc : c.isDigit = false)
    (h : m.repr.toList ++ c :: s = n.repr.toList ++ c :: t) : m = n ∧ s = t := by
  obtain ⟨hrepr, htail⟩ := append_inj_of_class (fun _ => isDigit_of_mem_repr)
    (fun _ => isDigit_of_mem_repr) hc hc h
  exact ⟨Nat.repr_inj.mp (String.toList_inj.mp hrepr), (List.cons.inj htail).2⟩

end EpsilonAutomata.Text
