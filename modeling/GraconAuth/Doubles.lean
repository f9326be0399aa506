/-
This file is a library of the numbers of ECMAScript as far as texts are converted to
them: doubles, rounding to the nearest one, and the numbers that texts stand for. It
names nothing of the system.

The two zeros are one number here. A text is trimmed and then read as a whole: nothing
stands for nought, digits may have a point, an exponent and a sign, and there are
literals of other bases. What cannot be read stands for no number.
-/

import GraconAuth.Numerals
import Mathlib.Algebra.Order.Field.Power
import Mathlib.Algebra.Order.Round
import Mathlib.Data.Int.Log
import Mathlib.Data.List.TakeWhile
import Mathlib.Data.Rat.Floor

namespace Doubles

inductive Double where
  | nan
  | infinite (negative : Bool)
  | finite (value : ℚ)
  deriving DecidableEq

/-! ### Rounding -/

/-- The nearest integer, and the even one of two. -/
def roundEven (value : ℚ) : ℤ :=
  if value - ⌊value⌋ < 1 / 2 then ⌊value⌋
  else if 1 / 2 < value - ⌊value⌋ then ⌊value⌋ + 1
  else ⌊value⌋ + ⌊value⌋ % 2

/-- How far apart doubles are at a value, as an exponent of two: there are 53 digits, and no
exponent is below that of the subnormal numbers. -/
def exponent (value : ℚ) : ℤ := max (Int.log 2 |value| - 52) (-1074)

def nearest (value : ℚ) : ℚ := roundEven (value / 2 ^ exponent value) * 2 ^ exponent value

/-- The double of a value. What is too large is infinite. -/
def Double.ofRat (value : ℚ) : Double :=
  if 2 ^ 1024 ≤ |nearest value| then .infinite (value < 0) else .finite (nearest value)

def Double.neg : Double → Double
  | .nan => .nan
  | .infinite negative => .infinite !negative
  | .finite value => .finite (-value)

/-- Subtraction of a finite number. -/
def Double.sub (number : Double) (value : ℚ) : Double :=
  match number with
  | .finite minuend => .ofRat (minuend - value)
  | other => other

/-- The integer of a value, towards nought. -/
def truncate (value : ℚ) : ℤ := if 0 ≤ value then ⌊value⌋ else ⌈value⌉

theorem roundEven_intCast (number : ℤ) : roundEven number = number := by
  rw [roundEven, Int.floor_intCast, sub_self, if_pos (by norm_num)]

theorem truncate_intCast (number : ℤ) : truncate number = number := by
  rw [truncate, Int.floor_intCast, Int.ceil_intCast, ite_self]

/-- An integer of at most 53 digits is a double. -/
theorem nearest_intCast {number : ℤ} (small : |number| < 2 ^ 53) : nearest number = number := by
  rcases eq_or_ne number 0 with rfl | nonzero
  · rw [nearest, Int.cast_zero, zero_div]
    rw [← Int.cast_zero, roundEven_intCast, Int.cast_zero, zero_mul]
  · have positive : (0 : ℚ) < |(number : ℚ)| := abs_pos.mpr (Int.cast_ne_zero.mpr nonzero)
    have below : |(number : ℚ)| < ((2 : ℕ) : ℚ) ^ (53 : ℤ) := by
      rw [← Int.cast_abs]
      exact_mod_cast small
    have narrow : Int.log 2 |(number : ℚ)| < 53 :=
      (Int.lt_zpow_iff_log_lt one_lt_two positive).mp below
    obtain ⟨digits, fine⟩ : ∃ digits : ℕ, exponent number = -(digits : ℤ) :=
      Int.exists_eq_neg_ofNat (max_le (by omega) (by omega))
    have scaled : (number : ℚ) / 2 ^ (-(digits : ℤ)) = ((number * 2 ^ digits : ℤ) : ℚ) := by
      rw [zpow_neg, div_inv_eq_mul, zpow_natCast, Int.cast_mul, Int.cast_pow, Int.cast_ofNat]
    rw [nearest, fine, scaled, roundEven_intCast, ← scaled]
    exact div_mul_cancel₀ _ (zpow_ne_zero _ two_ne_zero)

theorem ofRat_intCast {number : ℤ} (small : |number| < 2 ^ 53) :
    Double.ofRat number = .finite number := by
  have finite : |(number : ℚ)| < 2 ^ 1024 := by
    calc |(number : ℚ)| = ((|number| : ℤ) : ℚ) := (Int.cast_abs).symm
      _ < ((2 ^ 53 : ℤ) : ℚ) := Int.cast_lt.mpr small
      _ = 2 ^ 53 := by rw [Int.cast_pow, Int.cast_ofNat]
      _ ≤ 2 ^ 1024 := pow_le_pow_right₀ one_le_two (by decide)
  rw [Double.ofRat, nearest_intCast small, if_neg (not_le.mpr finite)]

/-! ### Numbers of texts -/

/-- White space and ends of lines. -/
def whiteSpace : List Char :=
  ['\t', '\n', '\x0b', '\x0c', '\r', ' ', '\u00a0', '\u1680', '\u2000', '\u2001',
    '\u2002', '\u2003', '\u2004', '\u2005', '\u2006', '\u2007', '\u2008', '\u2009', '\u200a',
    '\u2028', '\u2029', '\u202f', '\u205f', '\u3000', '\ufeff']

def isWhiteSpace (letter : Char) : Bool := letter ∈ whiteSpace

def trim (text : List Char) : List Char :=
  ((text.dropWhile isWhiteSpace).reverse.dropWhile isWhiteSpace).reverse

/-- The digits of an exponent, with or without a sign. -/
def exponentDigits : List Char → Option ℤ
  | '+' :: digits =>
    if digits ≠ [] ∧ digits.all Char.isDigit then some (Numerals.value digits) else none
  | '-' :: digits =>
    if digits ≠ [] ∧ digits.all Char.isDigit then some (-Numerals.value digits) else none
  | digits => if digits ≠ [] ∧ digits.all Char.isDigit then some (Numerals.value digits) else none

/-- What may follow the digits of a decimal literal. -/
def exponentPart : List Char → Option ℤ
  | [] => some 0
  | 'e' :: rest | 'E' :: rest => exponentDigits rest
  | _ => none

/-- The digits after the point, if there is one, and what follows them. -/
def fractionPart : List Char → List Char × List Char
  | '.' :: rest => rest.span Char.isDigit
  | rest => ([], rest)

/-- A decimal literal without a sign. -/
def unsignedDecimal (text : List Char) : Double :=
  if text = "Infinity".toList then .infinite false
  else
    let (whole, rest) := text.span Char.isDigit
    let (fraction, rest) := fractionPart rest
    if whole = [] ∧ fraction = [] then .nan
    else
      match exponentPart rest with
      | some exponent =>
        .ofRat (Numerals.value (whole ++ fraction) * 10 ^ (exponent - fraction.length))
      | none => .nan

/-- The digit of a letter in a base up to sixteen. -/
def digitOf (base : ℕ) (letter : Char) : Option ℕ :=
  let digit :=
    if letter.isDigit then letter.toNat - '0'.toNat
    else if 'a' ≤ letter ∧ letter ≤ 'f' then letter.toNat - 'a'.toNat + 10
    else if 'A' ≤ letter ∧ letter ≤ 'F' then letter.toNat - 'A'.toNat + 10
    else base
  if digit < base then some digit else none

/-- The digits of a literal of another base. -/
def integerInBase (base : ℕ) (text : List Char) : Double :=
  match text.mapM (digitOf base) with
  | some (first :: digits) =>
    .ofRat ((first :: digits).foldl (fun number digit => base * number + digit) 0 : ℕ)
  | _ => .nan

/-- `Number(text)` -/
def number (text : List Char) : Double :=
  match trim text with
  | [] => .finite 0
  | '0' :: 'x' :: digits | '0' :: 'X' :: digits => integerInBase 16 digits
  | '0' :: 'o' :: digits | '0' :: 'O' :: digits => integerInBase 8 digits
  | '0' :: 'b' :: digits | '0' :: 'B' :: digits => integerInBase 2 digits
  | '+' :: rest => unsignedDecimal rest
  | '-' :: rest => (unsignedDecimal rest).neg
  | rest => unsignedDecimal rest

/-! ### Texts of digits -/

theorem isWhiteSpace_digit {letter : Char} (digit : letter.isDigit) :
    isWhiteSpace letter = false := by
  have visible : whiteSpace.all (fun white => !white.isDigit) = true := by decide
  refine decide_eq_false fun white => ?_
  have other := List.all_eq_true.mp visible letter white
  rw [digit] at other
  cases other

/-- A text of digits has nothing to trim. -/
theorem trim_digits {text : List Char} (digits : ∀ letter ∈ text, letter.isDigit) :
    trim text = text := by
  have untouched (text : List Char) (digits : ∀ letter ∈ text, letter.isDigit) :
      text.dropWhile isWhiteSpace = text := by
    cases text with
    | nil => rfl
    | cons first rest =>
      have visible := isWhiteSpace_digit (digits first List.mem_cons_self)
      rw [List.dropWhile_cons, visible, if_neg Bool.false_ne_true]
  rw [trim, untouched text digits, untouched, List.reverse_reverse]
  exact fun letter member => digits letter (List.mem_reverse.mp member)

/-- A text of digits is read as their number. -/
theorem unsignedDecimal_digits {text : List Char} (some_digits : text ≠ [])
    (digits : ∀ letter ∈ text, letter.isDigit) :
    unsignedDecimal text = .ofRat (Numerals.value text : ℤ) := by
  have spans : text.span Char.isDigit = (text, []) := by
    rw [List.span_eq_takeWhile_dropWhile, List.takeWhile_eq_self_iff.mpr digits,
      List.dropWhile_eq_nil_iff.mpr digits]
  have finite : text ≠ "Infinity".toList := by
    rintro rfl
    exact absurd (digits 'I' (by decide)) (by decide)
  unfold unsignedDecimal
  rw [if_neg finite, spans]
  simp only [fractionPart, exponentPart, some_digits, false_and, if_false, List.append_nil,
    List.length_nil, Nat.cast_zero, sub_zero, zpow_zero, mul_one, Int.cast_natCast]

/-- A text of digits stands for their number, if a double can hold it. -/
theorem number_digits {text : List Char} (some_digits : text ≠ [])
    (digits : ∀ letter ∈ text, letter.isDigit) (small : Numerals.value text < 2 ^ 53) :
    number text = .finite (Numerals.value text : ℤ) := by
  have reads : unsignedDecimal text = .finite (Numerals.value text : ℤ) := by
    rw [unsignedDecimal_digits some_digits digits, ofRat_intCast]
    rw [Nat.abs_cast]
    exact_mod_cast small
  unfold number
  rw [trim_digits digits]
  split
  all_goals try exact reads
  · exact absurd rfl some_digits
  · exact absurd (digits 'x' (by simp)) (by decide)
  · exact absurd (digits 'X' (by simp)) (by decide)
  · exact absurd (digits 'o' (by simp)) (by decide)
  · exact absurd (digits 'O' (by simp)) (by decide)
  · exact absurd (digits 'b' (by simp)) (by decide)
  · exact absurd (digits 'B' (by simp)) (by decide)
  · exact absurd (digits '+' (by simp)) (by decide)
  · exact absurd (digits '-' (by simp)) (by decide)

end Doubles
