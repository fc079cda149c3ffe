/-!
# Lines of a text

A text falls into lines at every character that any reader of plain text takes for a line break, not
at line feeds alone (`lines`). A piece without such a character stays on its line (`OneLine`).
-/

namespace EpsilonAutomata.Text

/-! ## 1. Line breaks -/

/-- A line ends here: line feed, vertical tab, form feed, carriage return, next line, line
    separator and paragraph separator. -/
def breaksLine (c : Char) : Bool :=
  c = '\n' || c = '\x0b' || c = '\x0c' || c = '\r' || c = '\u0085' || c = '\u2028' || c = '\u2029'

/-- **The lines of a text**, without the characters that end them. -/
def lines (text : String) : List String :=
  (text.toList.splitOnP breaksLine).map String.ofList

theorem breaksLine_digit {c : Char} (hc : c.isDigit = true) : breaksLine c = false := by
  have hne : ∀ d : Char, d.isDigit = false → c ≠ d := fun d hd h => by
    rw [h, hd] at hc
    exact Bool.noConfusion hc
  simp [breaksLine, hne]

/-! ## 2. Pieces of one line -/

/-- The text has no line break. -/
def OneLine (s : String) : Prop := ∀ c ∈ s.toList, breaksLine c = false

-- named, since an instance may be found that goes through all characters there are
instance (s : String) : Decidable (OneLine s) := List.decidableBAll _ s.toList

namespace OneLine

variable {s t : String}

theorem append (hs : OneLine s) (ht : OneLine t) : OneLine (s ++ t) := by
  intro c hc
  rw [String.toList_append, List.mem_append] at hc
  exact hc.elim (hs c) (ht c)

theorem singleton {c : Char} (hc : breaksLine c = false) : OneLine c.toString := by
  intro d hd
  obtain rfl : d = c := by simpa using hd
  exact hc

theorem numeral (n : Nat) : OneLine n.repr := by
  intro c hc
  rw [Nat.toList_repr] at hc
  exact breaksLine_digit (Nat.isDigit_of_mem_toDigits (by decide) (by decide) hc)

theorem lines_eq (hs : OneLine s) : lines s = [s] := by
  rw [lines, List.splitOnP_eq_singleton hs, List.map_singleton, String.ofList_toList]

/-- A line feed ends the first line. -/
theorem lines_append (hs : OneLine s) (t : String) : lines (s ++ "\n" ++ t) = s :: lines t := by
  have htext : (s ++ "\n" ++ t).toList = s.toList ++ '\n' :: t.toList := by simp
  rw [lines, htext, List.splitOnP_append_cons_of_forall_mem hs '\n' rfl, List.map_cons,
    String.ofList_toList]
  rfl

/-- Lines that end with a line feed each. -/
theorem lines_join {ss : List String} (hss : ∀ s ∈ ss, OneLine s) (t : String) :
    lines (String.join (ss.map (· ++ "\n")) ++ t) = ss ++ lines t := by
  induction ss with
  | nil => rw [List.map_nil, String.join_nil, String.empty_append, List.nil_append]
  | cons s ss ih =>
      have hrest := ih fun u hu => hss u (List.mem_cons_of_mem _ hu)
      rw [List.map_cons, String.join_cons, String.append_assoc,
        lines_append (hss s List.mem_cons_self), hrest, List.cons_append]

end OneLine

end EpsilonAutomata.Text
