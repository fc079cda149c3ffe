import EpsilonAutomata.Regex.Term
import EpsilonAutomata.Proofs.Text.Quoted

/-!
# Reading a term

The term text of an expression begins with the name of its kind, and the names differ in their first
letters; behind the name come the operands, each up to its own end. So a term text tells where it
ends, although its symbols may be the very brackets and commas it is built with: inside quotes they
belong to the symbol.

* `selfDelimiting_termText` -- a term text ends in one place only, by induction on two trees;
* `termText_faithful` -- the term text tells the expression, alone and in front of other text.
-/

namespace EpsilonAutomata

open Text (Delimited SelfDelimiting selfDelimiting_quotedChar)

theorem Kind.eq_of_head_name {k l : Kind} (h : k.name.toList.head? = l.name.toList.head?) :
    k = l := by
  revert h
  cases k <;> cases l <;> decide

namespace Regex

section Pieces

variable {e f l r b : Regex} {s t : List Char}

theorem termText_symbol (c : Char) :
    (symbol c).termText = "Symbol(" ++ Text.quotedChar c ++ ")" := rfl

theorem termText_union : (union l r).termText = "Union(" ++ l.termText ++ ", " ++ r.termText ++ ")" :=
  rfl

theorem termText_concat :
    (concat l r).termText = "Concatenation(" ++ l.termText ++ ", " ++ r.termText ++ ")" := rfl

theorem termText_star : (star b).termText = "Iteration(" ++ b.termText ++ ")" := rfl

/-- A term text begins with the name of its kind. -/
theorem head?_termText (e : Regex) (s : List Char) :
    (e.termText.toList ++ s).head? = e.kind.name.toList.head? := by
  cases e with
  | epsilon => rfl
  | symbol c => simp [termText_symbol, kind, Kind.name]
  | union l r => simp [termText_union, kind, Kind.name]
  | concat l r => simp [termText_concat, kind, Kind.name]
  | star b => simp [termText_star, kind, Kind.name]

theorem kind_eq_of_termText (h : e.termText.toList ++ s = f.termText.toList ++ t) :
    e.kind = f.kind := by
  refine Kind.eq_of_head_name ?_
  rw [← e.head?_termText s, h, f.head?_termText t]

/-- Two operands behind a name: the comma between them is found where the first operand ends. -/
theorem operands_inj {name : String} {l' r' : Regex}
    (hl : Delimited termText l) (hr : Delimited termText r)
    (h : (name ++ l.termText ++ ", " ++ r.termText ++ ")").toList ++ s =
      (name ++ l'.termText ++ ", " ++ r'.termText ++ ")").toList ++ t) :
    l = l' ∧ r = r' ∧ s = t := by
  simp only [String.toList_append, List.append_assoc] at h
  obtain ⟨hleft, hrest⟩ := hl (List.append_cancel_left h)
  obtain ⟨hright, hend⟩ := hr (List.append_cancel_left hrest)
  exact ⟨hleft, hright, List.append_cancel_left hend⟩

end Pieces

/-- **A term text tells where it ends.** -/
theorem selfDelimiting_termText : SelfDelimiting termText := by
  intro e
  induction e with
  | epsilon =>
      intro f s t h
      cases f with
      | epsilon => exact ⟨rfl, List.append_cancel_left h⟩
      | symbol _ | union _ _ | concat _ _ | star _ => exact nomatch kind_eq_of_termText h
  | symbol c =>
      intro f s t h
      cases f with
      | symbol d =>
          simp only [termText_symbol, String.toList_append, List.append_assoc] at h
          obtain ⟨rfl, hend⟩ := selfDelimiting_quotedChar c (List.append_cancel_left h)
          exact ⟨rfl, List.append_cancel_left hend⟩
      | epsilon | union _ _ | concat _ _ | star _ => exact nomatch kind_eq_of_termText h
  | union l r ihl ihr =>
      intro f s t h
      cases f with
      | union l' r' =>
          obtain ⟨rfl, rfl, hend⟩ := operands_inj ihl ihr h
          exact ⟨rfl, hend⟩
      | epsilon | symbol _ | concat _ _ | star _ => exact nomatch kind_eq_of_termText h
  | concat l r ihl ihr =>
      intro f s t h
      cases f with
      | concat l' r' =>
          obtain ⟨rfl, rfl, hend⟩ := operands_inj ihl ihr h
          exact ⟨rfl, hend⟩
      | epsilon | symbol _ | union _ _ | star _ => exact nomatch kind_eq_of_termText h
  | star b ih =>
      intro f s t h
      cases f with
      | star b' =>
          simp only [termText_star, String.toList_append, List.append_assoc] at h
          obtain ⟨rfl, hend⟩ := ih (List.append_cancel_left h)
          exact ⟨rfl, List.append_cancel_left hend⟩
      | epsilon | symbol _ | union _ _ | concat _ _ => exact nomatch kind_eq_of_termText h

/-- **The term text of an expression tells the expression.** Different expressions have different
    term texts, none of them begins another, and text behind a term text cannot be mistaken for a
    part of it. -/
theorem termText_faithful (e f : Regex) :
    (e.termText = f.termText ↔ e = f) ∧
    (e.termText.toList <+: f.termText.toList ↔ e = f) ∧
    ∀ s t : String, e.termText ++ s = f.termText ++ t ↔ e = f ∧ s = t :=
  ⟨selfDelimiting_termText.eq_iff, selfDelimiting_termText.isPrefix_iff,
    fun _ _ => selfDelimiting_termText.append_eq_iff⟩

end Regex

end EpsilonAutomata
