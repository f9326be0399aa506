/-
This file is a library of decimal numerals: how long they are, that they are digits,
that they tell numbers apart, and what padding with noughts leaves of them. It names
nothing of the system.
-/

import Mathlib.Algebra.Group.Nat.Defs
import Mathlib.Data.Nat.Log

namespace Numerals

/-- The numeral has the length of its digits. -/
theorem length_numeral {number width : Nat} (low : 10 ^ width ≤ number)
    (high : number < 10 ^ (width + 1)) : (toString number).length = width + 1 := by
  rw [Nat.toString_eq_repr]
  have most := (Nat.length_repr_le_iff (n := number) (Nat.succ_pos width)).mpr high
  cases width with
  | zero => exact le_antisymm most Nat.length_repr_pos
  | succ width =>
    have least := mt (Nat.length_repr_le_iff (n := number) (Nat.succ_pos width)).mp
      (not_lt.mpr low)
    omega

theorem isDigit_numeral {number : Nat} {letter : Char}
    (member : letter ∈ (toString number).toList) : letter.isDigit := by
  rw [Nat.toString_eq_repr, Nat.toList_repr] at member
  exact Nat.isDigit_of_mem_toDigits (by decide) (by decide) member

/-- The number of a numeral. -/
def value (digits : List Char) : Nat := Nat.ofDigitChars 10 digits 0

theorem value_numeral (number : Nat) : value (toString number).toList = number := by
  rw [value, Nat.toString_eq_repr, Nat.toList_repr, Nat.ofDigitChars_ten_toDigits]

theorem numeral_injective {first second : Nat} (same : toString first = toString second) :
    first = second := by
  rw [← value_numeral first, same, value_numeral second]

/-! ### Padding -/

/-- `padStart(width, '0')` -/
def padStart (width : Nat) (text : String) : String :=
  String.ofList (List.replicate (width - text.length) '0') ++ text

theorem toList_padStart (width : Nat) (text : String) :
    (padStart width text).toList = List.replicate (width - text.length) '0' ++ text.toList := by
  rw [padStart, String.toList_append, String.toList_ofList]

theorem length_padStart (width : Nat) (text : String) :
    (padStart width text).length = max width text.length := by
  rw [padStart, String.length_append, String.length_ofList, List.length_replicate]
  omega

/-- Padding leaves a text that is long enough. -/
theorem padStart_of_le {width : Nat} {text : String} (long : width ≤ text.length) :
    padStart width text = text := by
  rw [padStart, Nat.sub_eq_zero_of_le long, List.replicate_zero, String.ofList_nil,
    String.empty_append]

theorem isDigit_padStart {width number : Nat} {letter : Char}
    (member : letter ∈ (padStart width (toString number)).toList) : letter.isDigit := by
  rw [toList_padStart, List.mem_append] at member
  rcases member with padding | member
  · rw [List.eq_of_mem_replicate padding]
    decide
  · exact isDigit_numeral member

/-- Padding keeps the number. -/
theorem value_padStart (width number : Nat) :
    value (padStart width (toString number)).toList = number := by
  rw [value, toList_padStart, Nat.ofDigitChars_append, Nat.ofDigitChars_replicate_zero,
    Nat.mul_zero]
  exact value_numeral number

/-- A padded numeral of a number that is small enough has the width. -/
theorem length_padStart_numeral {width number : Nat} (positive : 0 < width)
    (bound : number < 10 ^ width) : (padStart width (toString number)).length = width := by
  have most : (toString number).length ≤ width := by
    rw [Nat.toString_eq_repr]
    exact (Nat.length_repr_le_iff positive).mpr bound
  rw [length_padStart, max_eq_left most]

/-! ### Joined numerals -/

theorem ne_of_isDigit {letter separator : Char} (digit : letter.isDigit)
    (apart : separator.isDigit = false) : (letter == separator) = false := by
  rw [beq_eq_false_iff_ne]
  rintro rfl
  rw [apart] at digit
  cases digit

/-- Padded numerals are split where they are joined. -/
theorem splitOn_joined {separator : Char} (apart : separator.isDigit = false)
    (firstWidth secondWidth thirdWidth first second third : Nat) :
    ((padStart firstWidth (toString first)).toList ++ separator ::
      ((padStart secondWidth (toString second)).toList ++ separator ::
        (padStart thirdWidth (toString third)).toList)).splitOn separator =
      [(padStart firstWidth (toString first)).toList,
        (padStart secondWidth (toString second)).toList,
        (padStart thirdWidth (toString third)).toList] := by
  have whole (width number : Nat) :
      ∀ letter ∈ (padStart width (toString number)).toList, (letter == separator) = false :=
    fun _ member => ne_of_isDigit (isDigit_padStart member) apart
  rw [List.splitOn_eq_splitOnP,
    List.splitOnP_append_cons_of_forall_mem (whole firstWidth first) separator (beq_self_eq_true _),
    List.splitOnP_append_cons_of_forall_mem (whole secondWidth second) separator
      (beq_self_eq_true _),
    List.splitOnP_eq_singleton (whole thirdWidth third)]

/-- Joined numerals tell their numbers apart. -/
theorem joined_injective {separator : Char} (apart : separator.isDigit = false)
    {firstWidth secondWidth thirdWidth first second third otherFirst otherSecond otherThird : Nat}
    (same : (padStart firstWidth (toString first)).toList ++ separator ::
        ((padStart secondWidth (toString second)).toList ++ separator ::
          (padStart thirdWidth (toString third)).toList) =
      (padStart firstWidth (toString otherFirst)).toList ++ separator ::
        ((padStart secondWidth (toString otherSecond)).toList ++ separator ::
          (padStart thirdWidth (toString otherThird)).toList)) :
    first = otherFirst ∧ second = otherSecond ∧ third = otherThird := by
  have fields := congrArg (fun text => (text.splitOn separator).map value) same
  simpa only [splitOn_joined apart, List.map_cons, List.map_nil, value_padStart, List.cons.injEq,
    and_true] using fields

/-! ### Prefixes -/

theorem value_append (first second : List Char) :
    value (first ++ second) = 10 ^ second.length * value first + value second := by
  rw [value, Nat.ofDigitChars_append, Nat.ofDigitChars_eq_ofDigitChars_zero]
  rfl

/-- A numeral does not start a text that starts with the numeral of the number before. -/
theorem not_prefix_pred {number : Nat} (rest : List Char) :
    ¬ (toString (number + 1)).toList <+: (toString number).toList ++ rest := by
  intro starts
  have ofLess := value_numeral number
  have ofMore := value_numeral (number + 1)
  rcases List.prefix_or_prefix_of_prefix starts (List.prefix_append _ rest) with
    ⟨tail, same⟩ | ⟨tail, same⟩
  · rw [← same, value_append, ofMore] at ofLess
    have positive : 1 ≤ 10 ^ tail.length := Nat.one_le_pow _ _ (by decide)
    have := Nat.mul_le_mul_right (number + 1) positive
    omega
  · cases tail with
    | nil =>
      rw [List.append_nil] at same
      rw [same, ofMore] at ofLess
      omega
    | cons letter tail =>
      cases number with
      | zero =>
        have nought : (toString 0).toList = ['0'] := by decide
        have one : (toString (0 + 1)).toList = ['1'] := by decide
        rw [nought, one] at same
        exact absurd (List.cons.inj same).1 (by decide)
      | succ number =>
        rw [← same, value_append, ofLess, List.length_cons, Nat.pow_succ'] at ofMore
        have positive : 1 ≤ 10 ^ tail.length := Nat.one_le_pow _ _ (by decide)
        have := Nat.mul_le_mul_right (number + 1) positive
        rw [Nat.mul_assoc] at ofMore
        omega

end Numerals
