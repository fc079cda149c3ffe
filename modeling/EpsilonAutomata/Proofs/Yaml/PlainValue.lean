import Mathlib.Algebra.Group.Nat.Defs
import EpsilonAutomata.Yaml.Value.Scalar

/-!
# What plain words read back as

Plain scalars are the only ones whose text decides their type. Two kinds of text are told apart
here: the decimal numeral of a number reads as that number, as long as it has no more than 64 bits
(`plainValue?_repr_iff`), and a text without digits that is none of the reserved words reads as
itself (`plainValue?_word`).
-/

namespace EpsilonAutomata.Yaml

/-! ## 1. Digits -/

theorem hexDigit?_digit {c : Char} (h : c.isDigit = true) :
    hexDigit? c = some (c.toNat - '0'.toNat) := if_pos h

/-- What is no decimal digit is no digit below ten. -/
theorem hexDigit?_other {c : Char} (h : c.isDigit = false) (d : Nat) :
    hexDigit? c = some d → ¬ d < 10 := by
  intro hd
  unfold hexDigit? at hd
  rw [h] at hd
  split at hd
  · simp_all
  · split at hd
    · cases hd
      omega
    · split at hd
      · cases hd
        omega
      · simp at hd

theorem digit_range {c : Char} (h : c.isDigit = true) : 48 ≤ c.toNat ∧ c.toNat ≤ 57 := by
  simp only [Char.isDigit, Bool.and_eq_true, decide_eq_true_eq] at h
  exact h

theorem digit_lt {c : Char} (h : c.isDigit = true) : c.toNat - '0'.toNat < 10 := by
  have hrange := digit_range h
  have hzero : '0'.toNat = 48 := rfl
  omega

/-- Digits are read from the left, each behind what has been read. -/
theorem foldlM_digits {text : List Char} (h : ∀ c ∈ text, c.isDigit = true) (n : Nat) :
    text.foldlM (fun n c => (hexDigit? c).bind fun d =>
      if d < 10 then some (10 * n + d) else none) n = some (Nat.ofDigitChars 10 text n) := by
  induction text generalizing n with
  | nil => rfl
  | cons c rest ih =>
      have hc := h c List.mem_cons_self
      rw [List.foldlM_cons, hexDigit?_digit hc, Option.bind_some, if_pos (digit_lt hc),
        Nat.ofDigitChars_cons]
      exact ih (fun d hd => h d (List.mem_cons_of_mem _ hd)) _

theorem digitsValue?_of_digits {text : List Char} (hne : text ≠ [])
    (h : ∀ c ∈ text, c.isDigit = true) :
    digitsValue? 10 text = some (Nat.ofDigitChars 10 text 0) := by
  rw [digitsValue?, if_neg (by simpa using hne)]
  exact foldlM_digits h 0

/-- A text that does not begin with a digit spells no decimal number. -/
theorem digitsValue?_of_no_digit {text : List Char} (h : ∀ c ∈ text, c.isDigit = false) :
    digitsValue? 10 text = none := by
  cases text with
  | nil => rfl
  | cons c rest =>
      have hc := hexDigit?_other (h c List.mem_cons_self)
      rw [digitsValue?, if_neg (by simp), List.foldlM_cons]
      cases hd : hexDigit? c with
      | none => rfl
      | some d =>
          rw [Option.bind_some, if_neg (hc d hd)]
          rfl

/-! ## 2. Numerals -/

/-- Only the numeral of zero begins with a zero. -/
theorem head?_toDigits {n : Nat} (h : (Nat.toDigits 10 n).head? = some '0') : n = 0 := by
  induction n using Nat.base_induction 10 (by decide) with
  | single m hm => simpa [Nat.toDigits_of_lt_base hm] using h
  | digit m k hk hm ih =>
      obtain ⟨c, rest, hc⟩ := List.exists_cons_of_ne_nil (Nat.toDigits_ne_nil (n := m) (b := 10))
      rw [← Nat.toDigits_append_toDigits (by decide) hm hk, hc] at h
      rw [hc] at ih
      exact absurd (ih h) (Nat.ne_of_gt hm)

theorem isDigit_of_mem_numeral {n : Nat} {c : Char} (h : c ∈ Nat.toDigits 10 n) :
    c.isDigit = true := Nat.isDigit_of_mem_toDigits (by decide) (by decide) h

/-- A numeral begins with a digit. -/
theorem numeral_cons (n : Nat) : ∃ c rest, Nat.toDigits 10 n = c :: rest ∧ c.isDigit = true := by
  obtain ⟨c, rest, h⟩ := List.exists_cons_of_ne_nil (Nat.toDigits_ne_nil (n := n) (b := 10))
  exact ⟨c, rest, h, isDigit_of_mem_numeral (h ▸ List.mem_cons_self)⟩

/-- A numeral of several digits does not begin with a zero. -/
theorem numeral_head_ne_zero {n : Nat} {c d : Char} {rest : List Char}
    (h : Nat.toDigits 10 n = c :: d :: rest) : c ≠ '0' := by
  rintro rfl
  have hn : n = 0 := head?_toDigits (by rw [h]; rfl)
  rw [hn, Nat.toDigits_zero] at h
  simp at h

theorem digit_ne {c d : Char} (hc : c.isDigit = true) (hd : d.isDigit = false) : c ≠ d := by
  rintro rfl
  rw [hc] at hd
  exact Bool.noConfusion hd

/-- Text that begins with a digit has no sign. -/
theorem dropSign_digit {c sign : Char} {rest : List Char} (hc : c.isDigit = true)
    (hsign : sign.isDigit = false) : dropSign sign (c :: rest) = c :: rest := by
  rw [dropSign, if_neg]
  simpa using digit_ne hc hsign

theorem hasNeedlessZero_numeral (n : Nat) : hasNeedlessZero (Nat.toDigits 10 n) = false := by
  obtain ⟨c, rest, h, hc⟩ := numeral_cons n
  have hminus : ¬ (c :: rest).head? = some '-' := by simpa using digit_ne hc rfl
  rw [h, hasNeedlessZero, if_neg hminus, dropSign_digit hc rfl]
  cases rest with
  | nil => rfl
  | cons d rest =>
      have := numeral_head_ne_zero h
      simp [this]

/-- **The numeral of a number spells it.** -/
theorem integer?_numeral (n : Nat) : integer? (Nat.toDigits 10 n) = some (n : Int) := by
  have hdigits : digitsValue? 10 (Nat.toDigits 10 n) = some n := by
    rw [digitsValue?_of_digits Nat.toDigits_ne_nil fun _ => isDigit_of_mem_numeral,
      Nat.ofDigitChars_ten_toDigits]
  have hunsigned : unsigned? (Nat.toDigits 10 n) = some n := by
    unfold unsigned?
    split
    · rename_i letter digits heq
      exact absurd rfl (numeral_head_ne_zero heq)
    · exact hdigits
  obtain ⟨c, rest, h, hc⟩ := numeral_cons n
  unfold integer?
  rw [hasNeedlessZero_numeral, if_neg Bool.false_ne_true]
  split
  · rename_i digits heq
    have hminus : '-'.isDigit = true := isDigit_of_mem_numeral (heq ▸ List.mem_cons_self)
    exact absurd hminus (by decide)
  · rw [h, dropSign_digit hc rfl, ← h, hunsigned]
    rfl

/-! ## 3. Reserved words -/

/-- The words without a digit that plain scalars do not read as themselves. -/
def reservedWords : List String :=
  ["", "~", "null", "Null", "NULL", "true", "True", "TRUE", "false", "False", "FALSE",
    ".nan", ".NaN", ".NAN", ".inf", ".Inf", ".INF", "+.inf", "+.Inf", "+.INF",
    "-.inf", "-.Inf", "-.INF"]

theorem reservedWords_no_digit : ∀ w ∈ reservedWords, w.toList.any Char.isDigit = false := by
  decide

theorem notReserved_of_digit {s : String} {c : Char} (h : c ∈ s.toList) (hc : c.isDigit = true) :
    s ∉ reservedWords := fun hs => by
  exact List.any_eq_false.mp (reservedWords_no_digit s hs) c h hc

/-- Other words are neither a null nor a truth value. -/
theorem plainValue?_of_notReserved {s : String} (h : s ∉ reservedWords) :
    (s.isEmpty || isNullText s) = false ∧ boolText? s = none := by
  simp only [reservedWords, List.mem_cons, List.not_mem_nil, or_false, not_or] at h
  unfold isNullText boolText?
  simp [h]

theorem IntegerRange.of_small {n : Nat} (h : n < 2 ^ 64) :
    IntegerRange.of n = .number n := by
  unfold IntegerRange.of
  rw [if_pos]
  simp only [Bool.and_eq_true, decide_eq_true_eq]
  omega

theorem IntegerRange.of_large {n : Nat} (h : 2 ^ 64 ≤ n) :
    IntegerRange.of n = .refused ∨ IntegerRange.of n = .beyond := by
  unfold IntegerRange.of
  rw [if_neg]
  · split
    · exact Or.inl rfl
    · exact Or.inr rfl
  · simp only [Bool.and_eq_true, decide_eq_true_eq]
    omega

/-- What a text that is not reserved reads as depends on the integer it spells. -/
theorem plainValue?_of_integerRange {s : String} (h : s ∉ reservedWords) :
    plainValue? s = match integerRange s.toList with
      | .number n => some (.number (.integer n))
      | .refused => none
      | .beyond =>
        if hasNeedlessZero s.toList then some (.string s)
        else match double? s.toList with
          | some d => some (.number (.double d))
          | none => some (.string s) := by
  obtain ⟨hnull, hbool⟩ := plainValue?_of_notReserved h
  rw [plainValue?, hnull, hbool]
  rfl

/-- **A numeral is read as its number exactly if that has at most 64 bits.** -/
theorem plainValue?_repr_iff (n : Nat) :
    plainValue? n.repr = some (.number (.integer n)) ↔ n < 2 ^ 64 := by
  obtain ⟨c, rest, h, hc⟩ := numeral_cons n
  have hmem : c ∈ n.repr.toList := by
    rw [Nat.toList_repr, h]
    exact List.mem_cons_self
  have hrange : integerRange n.repr.toList = .of n := by
    rw [integerRange, Nat.toList_repr, integer?_numeral]
  rw [plainValue?_of_integerRange (notReserved_of_digit hmem hc), hrange]
  rcases Nat.lt_or_ge n (2 ^ 64) with hn | hn
  · rw [IntegerRange.of_small hn]
    exact iff_of_true rfl hn
  · refine iff_of_false ?_ (Nat.not_lt_of_le hn)
    rcases IntegerRange.of_large hn with hof | hof
    · rw [hof]
      exact fun h => nomatch h
    · rw [hof]
      show (if _ then _ else _) ≠ _
      split
      · exact fun h => nomatch h
      · split
        · exact fun h => nomatch h
        · exact fun h => nomatch h

/-! ## 4. Words -/

/-- Taking a sign away leaves text without digits. -/
theorem dropSign_no_digit {sign : Char} {text : List Char} (h : ∀ c ∈ text, c.isDigit = false) :
    ∀ c ∈ dropSign sign text, c.isDigit = false := by
  intro c hc
  unfold dropSign at hc
  split at hc
  · exact h c (List.mem_of_mem_drop hc)
  · exact h c hc

/-- Text without digits spells no integer. -/
theorem integer?_of_no_digit {text : List Char} (h : ∀ c ∈ text, c.isDigit = false) :
    integer? text = none := by
  have hunsigned : ∀ text : List Char, (∀ c ∈ text, c.isDigit = false) → unsigned? text = none := by
    intro text h
    unfold unsigned?
    split
    · exact absurd (h '0' List.mem_cons_self) (by decide)
    · exact digitsValue?_of_no_digit h
  unfold integer?
  split
  · rfl
  · split
    · rw [hunsigned _ fun c hc => h c (List.mem_cons_of_mem _ hc)]
      rfl
    · rw [hunsigned _ (dropSign_no_digit h)]
      rfl

theorem takeWhile_isDigit_of_no_digit {text : List Char} (h : ∀ c ∈ text, c.isDigit = false) :
    text.takeWhile Char.isDigit = [] := by
  cases text with
  | nil => rfl
  | cons c rest => rw [List.takeWhile_cons, h c List.mem_cons_self, if_neg Bool.false_ne_true]

/-- Text without digits spells no decimal fraction. -/
theorem decimal?_of_no_digit {text : List Char} (h : ∀ c ∈ text, c.isDigit = false) :
    decimal? text = none := by
  have hdrop : ∀ c ∈ text.dropWhile Char.isDigit, c.isDigit = false := fun c hc =>
    h c ((List.dropWhile_suffix _).subset hc)
  unfold decimal?
  dsimp only
  rw [takeWhile_isDigit_of_no_digit h]
  cases hafter : text.dropWhile Char.isDigit with
  | nil => rfl
  | cons c rest =>
      rw [hafter] at hdrop
      by_cases hc : c = '.'
      · subst hc
        have htake := takeWhile_isDigit_of_no_digit fun c hc =>
          hdrop c (List.mem_cons_of_mem _ hc)
        simp [htake, digitsValue?]
      · simp [hc, digitsValue?]

/-- A text with a sign is its sign and the rest. -/
theorem eq_cons_of_head? {text : List Char} {sign : Char} (h : text.head? = some sign) :
    text = sign :: text.drop 1 := by
  cases text with
  | nil => exact absurd h (by simp)
  | cons c rest =>
      obtain rfl : c = sign := by simpa using h
      rfl

/-- A word that is not reserved spells no infinity, with or without a sign. -/
theorem double?_of_notReserved {s : String} (h : ∀ c ∈ s.toList, c.isDigit = false)
    (hs : s ∉ reservedWords) : double? s.toList = none := by
  have hne : ∀ w ∈ reservedWords, s.toList ≠ w.toList := fun w hw he =>
    hs (String.toList_inj.mp he ▸ hw)
  have hinf : ∀ text, isInfinityText text = true →
      text = ".inf".toList ∨ text = ".Inf".toList ∨ text = ".INF".toList := fun text ht => by
    simpa [isInfinityText, or_assoc] using ht
  unfold double?
  have hnan : ¬ (s.toList = ".nan".toList || s.toList = ".NaN".toList ||
      s.toList = ".NAN".toList) = true := by
    simp only [Bool.or_eq_true, decide_eq_true_eq]
    rintro ((ht | ht) | ht)
    · exact hne ".nan" (by decide) ht
    · exact hne ".NaN" (by decide) ht
    · exact hne ".NAN" (by decide) ht
  rw [if_neg hnan]
  have hunsigned : isInfinityText (if s.toList.head? = some '-' then s.toList.drop 1
      else dropSign '+' s.toList) ≠ true := fun ht => by
    split at ht
    · rename_i hhead
      have heq := eq_cons_of_head? hhead
      rcases hinf _ ht with ht | ht | ht
      · exact hne "-.inf" (by decide) (heq.trans (by rw [ht]; rfl))
      · exact hne "-.Inf" (by decide) (heq.trans (by rw [ht]; rfl))
      · exact hne "-.INF" (by decide) (heq.trans (by rw [ht]; rfl))
    · unfold dropSign at ht
      split at ht
      · rename_i hhead
        have heq := eq_cons_of_head? hhead
        rcases hinf _ ht with ht | ht | ht
        · exact hne "+.inf" (by decide) (heq.trans (by rw [ht]; rfl))
        · exact hne "+.Inf" (by decide) (heq.trans (by rw [ht]; rfl))
        · exact hne "+.INF" (by decide) (heq.trans (by rw [ht]; rfl))
      · rcases hinf _ ht with ht | ht | ht
        · exact hne ".inf" (by decide) ht
        · exact hne ".Inf" (by decide) ht
        · exact hne ".INF" (by decide) ht
  dsimp only
  rw [if_neg hunsigned, decimal?_of_no_digit]
  · rfl
  · split
    · exact fun c hc => h c (List.mem_of_mem_drop hc)
    · exact dropSign_no_digit h

/-- **A word without digits that is not reserved is read as itself.** -/
theorem plainValue?_word {s : String} (hdigit : s.toList.any Char.isDigit = false)
    (hs : s ∉ reservedWords) : plainValue? s = some (.string s) := by
  have h : ∀ c ∈ s.toList, c.isDigit = false := fun c hc => by
    simpa using List.any_eq_false.mp hdigit c hc
  have hrange : integerRange s.toList = .beyond := by
    rw [integerRange, integer?_of_no_digit h]
  rw [plainValue?_of_integerRange hs, hrange, double?_of_notReserved h hs]
  exact ite_self _

end EpsilonAutomata.Yaml
