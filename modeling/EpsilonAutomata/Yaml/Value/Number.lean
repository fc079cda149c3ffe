import EpsilonAutomata.Yaml.Character

/-!
# Numbers

The numbers a plain scalar can stand for. Integers are kept exactly; a number with a decimal point
or an exponent is rounded to the nearest double-precision number, a tie to the even one, because two
keys are the same number exactly if they round to the same one.
-/

namespace EpsilonAutomata.Yaml

/-! ## 1. Double precision -/

/-- A double-precision number in its only form: a finite number is `mantissa · 2 ^ exponent`, with
    the smallest exponent its mantissa of at most 53 bits allows, and both signs of zero are one. -/
inductive Double where
  | notANumber
  | infinite (negative : Bool)
  | finite (negative : Bool) (mantissa : Nat) (exponent : Int)
deriving DecidableEq

/-- The quotient rounded to the nearest integer, a tie to the even one. -/
def roundDiv (num den : Nat) : Nat :=
  let q := num / den
  let r := num % den
  if den < 2 * r || (2 * r = den && q % 2 = 1) then q + 1 else q

/-- The integer `e` with `2 ^ e ≤ num / den < 2 ^ (e + 1)`. -/
def floorLog2 (num den : Nat) : Int :=
  let e : Int := num.log2 - den.log2
  let reached := if 0 ≤ e then den * Nat.pow 2 e.toNat ≤ num else den ≤ num * Nat.pow 2 (-e).toNat
  if reached then e else e - 1

/-- The quotient of positive numbers as a double; `none` if it is too large. -/
def Double.ofQuotient? (negative : Bool) (num den : Nat) : Option Double :=
  let exponent := max (floorLog2 num den - 52) (-1074)
  let mantissa :=
    if 0 ≤ exponent then roundDiv num (den * Nat.pow 2 exponent.toNat)
    else roundDiv (num * Nat.pow 2 (-exponent).toNat) den
  let (mantissa, exponent) :=
    if mantissa = Nat.pow 2 53 then (Nat.pow 2 52, exponent + 1) else (mantissa, exponent)
  if mantissa = 0 then some (.finite false 0 0)
  else if 971 < exponent then none
  else some (.finite negative mantissa exponent)

/-- The number `digits · 10 ^ exponent` as a double; `none` if it is too large. Numbers far outside
    the range are told by their count of digits. -/
def Double.ofDecimal? (negative : Bool) (digits : Nat) (exponent : Int) : Option Double :=
  let magnitude : Int := (Nat.toDigits 10 digits).length + exponent
  if digits = 0 || magnitude < -400 then some (.finite false 0 0)
  else if 400 < magnitude then none
  else if 0 ≤ exponent then Double.ofQuotient? negative (digits * Nat.pow 10 exponent.toNat) 1
  else Double.ofQuotient? negative digits (Nat.pow 10 (-exponent).toNat)

/-! ## 2. Integers -/

/-- The number that digits of this base spell; there must be at least one. -/
def digitsValue? (base : Nat) (text : List Char) : Option Nat :=
  if text.isEmpty then none
  else text.foldlM (fun n c => (hexDigit? c).bind fun d =>
    if d < base then some (base * n + d) else none) 0

/-- The base of an integer by the letter behind its leading zero. -/
def base? : Char → Option Nat
  | 'x' => some 16
  | 'o' => some 8
  | 'b' => some 2
  | _ => none

/-- Digits, with a base in front of them or in base ten. -/
def unsigned? (text : List Char) : Option Nat :=
  match text with
  | '0' :: letter :: digits =>
    match base? letter with
    | some base => digitsValue? base digits
    | none => digitsValue? 10 text
  | _ => digitsValue? 10 text

/-- Takes one leading character away. -/
def dropSign (sign : Char) (text : List Char) : List Char :=
  if text.head? = some sign then text.drop 1 else text

/-- The text has only digits but begins with a needless zero, which makes it a string. -/
def hasNeedlessZero (text : List Char) : Bool :=
  let digits := if text.head? = some '-' then text.drop 1 else dropSign '+' text
  2 ≤ digits.length && digits.head? = some '0' && digits.all Char.isDigit

/-- The integer a text spells, of any size. -/
def integer? (text : List Char) : Option Int :=
  if hasNeedlessZero text then none
  else match text with
    | '-' :: digits => (unsigned? digits).map fun n => -(n : Int)
    | _ => (unsigned? (dropSign '+' text)).map Int.ofNat

/-! ## 3. Decimal fractions -/

/-- The digits and the exponent of `digits [. digits] [e [sign] digits]`, with a digit before or
    behind the point. -/
def decimal? (text : List Char) : Option (Nat × Int) :=
  let whole := text.takeWhile Char.isDigit
  let afterWhole := text.dropWhile Char.isDigit
  let (fraction, afterFraction) :=
    match afterWhole with
    | '.' :: rest => (rest.takeWhile Char.isDigit, rest.dropWhile Char.isDigit)
    | _ => ([], afterWhole)
  match digitsValue? 10 (whole ++ fraction) with
  | none => none
  | some digits =>
    let shift := (fraction.length : Int)
    match afterFraction with
    | [] => some (digits, -shift)
    | e :: rest =>
      if e = 'e' || e = 'E' then
        match rest with
        | '-' :: rest => (digitsValue? 10 rest).map fun n => (digits, -(n : Int) - shift)
        | '+' :: rest => (digitsValue? 10 rest).map fun n => (digits, (n : Int) - shift)
        | rest => (digitsValue? 10 rest).map fun n => (digits, (n : Int) - shift)
      else none

/-- The text without its sign is one of the spellings of infinity. -/
def isInfinityText (text : List Char) : Bool :=
  text = ".inf".toList || text = ".Inf".toList || text = ".INF".toList

/-- The double a text spells. -/
def double? (text : List Char) : Option Double :=
  if text = ".nan".toList || text = ".NaN".toList || text = ".NAN".toList then some .notANumber
  else
    let negative := text.head? = some '-'
    let unsigned := if negative then text.drop 1 else dropSign '+' text
    if isInfinityText unsigned then some (.infinite negative)
    else (decimal? unsigned).bind fun (digits, exponent) =>
      Double.ofDecimal? negative digits exponent

end EpsilonAutomata.Yaml
