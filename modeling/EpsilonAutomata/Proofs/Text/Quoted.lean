import EpsilonAutomata.Text.Escape
import EpsilonAutomata.Proofs.Text.Lines
import EpsilonAutomata.Proofs.Text.SelfDelimiting
import Mathlib.Algebra.Group.Nat.Defs
import Mathlib.Data.Nat.Digits.Defs

/-!
# Characters in quotes

Inside quotes a character stands in one of three forms: a backslash and a letter, itself, or its code
point in braces (`Escaped`). Every form is read back without looking at what follows it, so a quoted
character tells where it ends, and none of them contains a line break.

* `escaped_escapeChar` -- the form every character is written in;
* `selfDelimiting_quotedChar` -- a quoted character tells where it ends;
* `oneLine_quotedChar` -- a quoted character stays on its line.
-/

namespace EpsilonAutomata.Text

/-! ## 1. Hexadecimal numbers -/

/-- A lower-case hexadecimal digit. -/
def isHexDigit (c : Char) : Bool := "0123456789abcdef".toList.contains c

/-- The number that lower-case hexadecimal digits spell. -/
def hexNumber (digits : List Char) : Nat :=
  digits.foldl (fun n c => 16 * n + "0123456789abcdef".toList.idxOf c) 0

theorem digitChar_hex : ∀ d < 16,
    isHexDigit (Nat.digitChar d) = true ∧
      "0123456789abcdef".toList.idxOf (Nat.digitChar d) = d := by
  decide

/-- The digits of a number are those of its sixteenth, and one more. -/
theorem hexDigits_induction {P : Nat → List Char → Prop}
    (single : ∀ d < 16, P d [Nat.digitChar d])
    (digit : ∀ n, ∀ d < 16, P n (Nat.toDigits 16 n) →
      P (16 * n + d) (Nat.toDigits 16 n ++ [Nat.digitChar d])) (n : Nat) :
    P n (Nat.toDigits 16 n) := by
  induction n using Nat.base_induction 16 (by decide) with
  | single d hd =>
      rw [Nat.toDigits_of_lt_base hd]
      exact single d hd
  | digit n d hd hn ih =>
      rw [← Nat.toDigits_append_toDigits (by decide) hn hd, Nat.toDigits_of_lt_base hd]
      exact digit n d hd ih

theorem isHexDigit_of_mem_toDigits (n : Nat) : ∀ c ∈ Nat.toDigits 16 n, isHexDigit c = true := by
  induction n using hexDigits_induction with
  | single d hd =>
      intro c hc
      obtain rfl := List.mem_singleton.mp hc
      exact (digitChar_hex d hd).1
  | digit n d hd ih =>
      intro c hc
      rcases List.mem_append.mp hc with hc | hc
      · exact ih c hc
      · obtain rfl := List.mem_singleton.mp hc
        exact (digitChar_hex d hd).1

/-- **The hexadecimal digits of a number spell it.** -/
theorem hexNumber_toDigits (n : Nat) : hexNumber (Nat.toDigits 16 n) = n := by
  induction n using hexDigits_induction with
  | single d hd =>
      show 16 * 0 + _ = d
      rw [(digitChar_hex d hd).2, Nat.mul_zero, Nat.zero_add]
  | digit n d hd ih =>
      rw [hexNumber, List.foldl_append]
      show 16 * hexNumber (Nat.toDigits 16 n) + _ = _
      rw [ih, (digitChar_hex d hd).2]

/-! ## 2. The forms of a character -/

/-- The character that a backslash and this letter stand for. -/
def ofLetter : Char → Char
  | '0' => '\x00'
  | 't' => '\t'
  | 'r' => '\r'
  | 'n' => '\n'
  | c => c

/-- **The forms of a character inside single quotes.** -/
inductive Escaped : Char → String → Prop where
  | letter (l : Char) (h : l ∈ "0trn\\\x27".toList) : Escaped (ofLetter l) ("\\" ++ l.toString)
  | itself (c : Char) (hc : c ≠ '\\') (h : standsVisibly c = true) : Escaped c c.toString
  | codePoint (c : Char) : Escaped c (codePointEscape c)

/-- A form that is chosen under a condition. -/
theorem Escaped.ite {c : Char} {p : Prop} [Decidable p] {a b : String} (ha : p → Escaped c a)
    (hb : ¬ p → Escaped c b) : Escaped c (if p then a else b) := by
  split
  · exact ha ‹_›
  · exact hb ‹_›

theorem escaped_escapeChar (c : Char) : Escaped c (escapeChar '\x27' c) := by
  unfold escapeChar
  refine .ite (fun h => h ▸ .letter '0' (by decide)) fun _ => ?_
  refine .ite (fun h => h ▸ .letter 't' (by decide)) fun _ => ?_
  refine .ite (fun h => h ▸ .letter 'r' (by decide)) fun _ => ?_
  refine .ite (fun h => h ▸ .letter 'n' (by decide)) fun _ => ?_
  refine .ite (fun h => h ▸ .letter '\\' (by decide)) fun hbackslash => ?_
  refine .ite (fun h => h ▸ .letter '\x27' (by decide)) fun _ => ?_
  exact .ite (fun h => .itself c hbackslash h) fun _ => .codePoint c

/-! ## 3. Reading a character -/

/-- Reads one character inside quotes; the second part is what follows it. -/
def readChar? : List Char → Option (Char × List Char)
  | [] => none
  | '\\' :: 'u' :: '\x7b' :: text =>
    some (Char.ofNat (hexNumber (text.takeWhile isHexDigit)), (text.dropWhile isHexDigit).drop 1)
  | '\\' :: letter :: text => some (ofLetter letter, text)
  | c :: text => some (c, text)

theorem readChar?_letter {l : Char} (hl : l ≠ 'u') (s : List Char) :
    readChar? ('\\' :: l :: s) = some (ofLetter l, s) := by
  rw [readChar?]
  rintro text rfl
  exact absurd rfl hl

theorem readChar?_itself {c : Char} (hc : c ≠ '\\') (s : List Char) :
    readChar? (c :: s) = some (c, s) := by
  rw [readChar?]
  · exact fun _ h _ => hc h
  · exact fun _ _ h _ => hc h

/-- The digits of a code point end before the closing brace. -/
theorem readChar?_codePoint (c : Char) (s : List Char) :
    readChar? ((codePointEscape c).toList ++ s) = some (c, s) := by
  have htext : (codePointEscape c).toList ++ s =
      '\\' :: 'u' :: '\x7b' :: (Nat.toDigits 16 c.toNat ++ '\x7d' :: s) := by
    simp [codePointEscape, hexText]
  have hdigits := isHexDigit_of_mem_toDigits c.toNat
  have htake : (Nat.toDigits 16 c.toNat ++ '\x7d' :: s).takeWhile isHexDigit =
      Nat.toDigits 16 c.toNat := by
    rw [List.takeWhile_append_of_pos hdigits, List.takeWhile_cons_of_neg (by decide),
      List.append_nil]
  have hdrop : (Nat.toDigits 16 c.toNat ++ '\x7d' :: s).dropWhile isHexDigit = '\x7d' :: s := by
    rw [List.dropWhile_append_of_pos hdigits, List.dropWhile_cons_of_neg (by decide)]
  rw [htext, readChar?, htake, hdrop, hexNumber_toDigits, Char.ofNat_toNat]
  rfl

/-- **Every form is read back as its character**, whatever follows it. -/
theorem Escaped.read {c : Char} {text : String} (h : Escaped c text) (s : List Char) :
    readChar? (text.toList ++ s) = some (c, s) := by
  cases h with
  | letter l hl =>
      have htext : ("\\" ++ l.toString).toList ++ s = '\\' :: l :: s := by simp
      rw [htext]
      exact readChar?_letter (by rintro rfl; exact absurd hl (by decide)) s
  | itself _ hc _ =>
      have htext : c.toString.toList ++ s = c :: s := by simp
      rw [htext]
      exact readChar?_itself hc s
  | codePoint _ => exact readChar?_codePoint c s

theorem selfDelimiting_escapeChar : SelfDelimiting (escapeChar '\x27') :=
  .of_read readChar? fun c s => (escaped_escapeChar c).read s

/-- **A character in quotes tells where it ends.** -/
theorem selfDelimiting_quotedChar : SelfDelimiting quotedChar :=
  (selfDelimiting_escapeChar.const_append "\x27").append_const "\x27"

/-! ## 4. Characters and lines -/

/-- A character that is shown as itself ends no line. -/
theorem breaksLine_of_standsVisibly {c : Char} (h : standsVisibly c = true) :
    breaksLine c = false := by
  refine Bool.eq_false_iff.mpr fun hbreak => ?_
  simp only [breaksLine, Bool.or_eq_true, decide_eq_true_eq, or_assoc] at hbreak
  rcases hbreak with rfl | rfl | rfl | rfl | rfl | rfl | rfl
  all_goals exact absurd h (by decide +kernel)

theorem oneLine_hexDigits : OneLine "0123456789abcdef" := by
  decide

theorem Escaped.oneLine {c : Char} {text : String} (h : Escaped c text) : OneLine text := by
  cases h with
  | letter l hl =>
      have hletters : OneLine "0trn\\\x27" := by decide
      exact .append (by decide) (.singleton (hletters l hl))
  | itself _ _ hvisible => exact .singleton (breaksLine_of_standsVisibly hvisible)
  | codePoint _ =>
      refine .append (.append (by decide) fun d hd => ?_) (by decide)
      rw [hexText, String.toList_ofList] at hd
      have hdigit := isHexDigit_of_mem_toDigits c.toNat d hd
      exact oneLine_hexDigits d (by simpa [isHexDigit] using hdigit)

/-- **A character in quotes stays on its line**, whichever character it is. -/
theorem oneLine_quotedChar (c : Char) : OneLine (quotedChar c) :=
  .append (.append (by decide) (escaped_escapeChar c).oneLine) (by decide)

end EpsilonAutomata.Text
