/-
This file embeds the validators of the three passwords that requests choose and
compares what they accept with the policy that their messages state.

A dot of the patterns does not cross the end of a line, so the four kinds of letters
must stand before the first one, and two of the three patterns also bind the first
letter to a class. The validators agree with the policy, and with one another, on the
passwords that fail it or meet these two conditions as well, and on no others.
-/

import GraconAuth.Encodings
import GraconAuth.RegExps
import Mathlib.Data.UInt
import Mathlib.Tactic.Tauto

namespace GraconAuth

open RegExps

/-! ### The validators -/

/-- A string is a list of code units. -/
abbrev CodeUnit := UInt16

/-- The code units of a text. -/
def codeUnits (text : String) : List CodeUnit := Encodings.utf16 text.toList

/-- A class of letters, as the ranges that are written in it. -/
def inRanges (ranges : List (Char × Char)) (unit : CodeUnit) : Bool :=
  ranges.any fun (low, high) => low.toNat ≤ unit.toNat && unit.toNat ≤ high.toNat

def lowercase : CodeUnit → Bool := inRanges [('a', 'z')]

def uppercase : CodeUnit → Bool := inRanges [('A', 'Z')]

def digit : CodeUnit → Bool := inRanges [('0', '9')]

/-- `[@$!%*?&^#]` -/
def special : CodeUnit → Bool := inRanges ("@$!%*?&^#".toList.map fun symbol => (symbol, symbol))

/-- `[A-Za-z\d@$!%*?&^#]` -/
def admitted (unit : CodeUnit) : Bool :=
  uppercase unit || lowercase unit || digit unit || special unit

/-- The dot accepts what does not end a line. -/
def dot (unit : CodeUnit) : Bool :=
  !(unit == 0x0A || unit == 0x0D || unit == 0x2028 || unit == 0x2029)

/-- `(?=.*[…])` -/
def somewhereAhead (accepts : CodeUnit → Bool) : RegExp CodeUnit :=
  .lookahead (.sequence (.many dot) (.letter accepts))

/-- The four lookaheads, and what is read after them. -/
def mixedThen (opening : RegExp CodeUnit) : RegExp CodeUnit :=
  .sequence .start (.sequence (somewhereAhead lowercase) (.sequence (somewhereAhead uppercase)
    (.sequence (somewhereAhead digit) (.sequence (somewhereAhead special) opening))))

/-- The decorators of a field. -/
inductive Constraint where
  | IsString (message : String)
  | Length (min max : Nat) (message : String)
  | MinLength (min : Nat) (message : String)
  | MaxLength (max : Nat) (message : String)
  | Matches (pattern : RegExp CodeUnit) (message : String)

namespace Constraint

def message : Constraint → String
  | IsString message | Length _ _ message | MinLength _ message | MaxLength _ message
  | Matches _ message => message

/-- How many characters a string has is counted by the validators' package. What is validated here
is a string. -/
def holds (count : List CodeUnit → Nat) (value : List CodeUnit) : Constraint → Bool
  | IsString _ => true
  | Length min max _ => min ≤ count value && count value ≤ max
  | MinLength min _ => min ≤ count value
  | MaxLength max _ => count value ≤ max
  | Matches pattern _ => pattern.test value

end Constraint

/-- The messages with which a value is refused. -/
def fieldErrors (count : List CodeUnit → Nat) (rules : List Constraint) (value : List CodeUnit) :
    List String :=
  (rules.filter fun rule => !rule.holds count value).map Constraint.message

def MIXED_PASSWORD : String :=
  "Password must contain at least one uppercase letter, one lowercase letter, one number, and " ++
    "one special character (@$!%*?&^#)"

def RegisterDto.passwordRules : List Constraint := [
  .IsString "password must be a string",
  .Length 8 128 "Password must be between 8 and 128 characters",
  .Matches (mixedThen (.letter admitted)) MIXED_PASSWORD ]

def ChangePasswordDto.newPasswordRules : List Constraint := [
  .IsString "newPassword must be a string",
  .MinLength 8 "New password must be at least 8 characters",
  .MaxLength 128 "New password must be at most 128 characters",
  .Matches (mixedThen (.letter admitted)) MIXED_PASSWORD ]

def ResetPasswordDto.newPasswordRules : List Constraint := [
  .IsString "newPassword must be a string",
  .Length 8 128 "Password must be between 8 and 128 characters",
  .Matches (mixedThen .empty)
    "Password must contain uppercase, lowercase, number, and special character" ]

/-- The field takes the value. -/
def Takes (count : List CodeUnit → Nat) (rules : List Constraint) (value : List CodeUnit) : Prop :=
  fieldErrors count rules value = []

/-! ### What the policy says -/

/-- The kinds of letters of which a password needs one each. -/
def kinds : List (CodeUnit → Bool) := [lowercase, uppercase, digit, special]

/-- One letter of each kind. -/
def Mixed (text : List CodeUnit) : Prop := ∀ kind ∈ kinds, ∃ unit ∈ text, kind unit

/-- The stated policy. -/
structure Policy (count : List CodeUnit → Nat) (password : List CodeUnit) : Prop where
  long : 8 ≤ count password
  short : count password ≤ 128
  mixed : Mixed password

/-- The three fields take a password together, and exactly by the policy. -/
structure OnePolicy (count : List CodeUnit → Nat) (password : List CodeUnit) : Prop where
  register_change : Takes count RegisterDto.passwordRules password ↔
    Takes count ChangePasswordDto.newPasswordRules password
  change_reset : Takes count ChangePasswordDto.newPasswordRules password ↔
    Takes count ResetPasswordDto.newPasswordRules password
  register : Takes count RegisterDto.passwordRules password ↔ Policy count password
  change : Takes count ChangePasswordDto.newPasswordRules password ↔ Policy count password
  reset : Takes count ResetPasswordDto.newPasswordRules password ↔ Policy count password

/-- A space in front is taken by one of the three. -/
theorem not_one_policy : ¬ ∀ count password, OnePolicy count password := by
  intro shared
  have same := shared List.length (codeUnits " Abcdef1!")
  exact absurd (same.change_reset.mpr (by unfold Takes; decide)) (by unfold Takes; decide)

/-! ### What the fields take -/

section

variable {count : List CodeUnit → Nat} {password : List CodeUnit}

theorem takes_iff {rules : List Constraint} :
    Takes count rules password ↔ ∀ rule ∈ rules, rule.holds count password := by
  simp [Takes, fieldErrors]

/-- The first line. -/
def firstLine (text : List CodeUnit) : List CodeUnit := text.takeWhile dot

/-- Letters of a class that is written out do not end a line. -/
theorem dot_of_inRanges {ranges : List (Char × Char)} {unit : CodeUnit}
    (plain : ∀ range ∈ ranges, 0x20 ≤ range.1.toNat ∧ range.2.toNat ≤ 0x7F)
    (inside : inRanges ranges unit) : dot unit := by
  obtain ⟨range, among, bounds⟩ := List.any_eq_true.mp inside
  have ⟨above, below⟩ := plain range among
  simp only [Bool.and_eq_true, decide_eq_true_eq] at bounds
  have far (stop : CodeUnit) (outside : stop.toNat < 0x20 ∨ 0x7F < stop.toNat) : unit ≠ stop := by
    rintro rfl
    omega
  simp [dot, far 0x0A (by decide), far 0x0D (by decide), far 0x2028 (by decide),
    far 0x2029 (by decide)]

theorem dot_of_kind {kind : CodeUnit → Bool} {unit : CodeUnit} (among : kind ∈ kinds)
    (accepted : kind unit) : dot unit := by
  simp only [kinds, List.mem_cons, List.not_mem_nil, or_false] at among
  obtain rfl | rfl | rfl | rfl := among
  all_goals exact dot_of_inRanges (by decide) accepted

/-- What a lookahead finds, it finds on the first line. -/
theorem reads_somewhereAhead {kind : CodeUnit → Bool} (among : kind ∈ kinds)
    {rest : RegExp CodeUnit} :
    (RegExp.sequence (somewhereAhead kind) rest).reads ⟨[], password⟩ = true ↔
      (∃ unit ∈ firstLine password, kind unit) ∧ rest.reads ⟨[], password⟩ = true := by
  rw [somewhereAhead, reads_lookahead, Bool.and_eq_true,
    reads_many_letter_of_passes fun _ accepted => dot_of_kind among accepted]
  rfl

/-- The lookaheads find the four kinds. -/
theorem test_mixedThen {opening : RegExp CodeUnit} :
    (mixedThen opening).test password = true ↔
      Mixed (firstLine password) ∧ opening.reads ⟨[], password⟩ = true := by
  rw [mixedThen, test_start]
  rw [reads_somewhereAhead (by simp [kinds]), reads_somewhereAhead (by simp [kinds]),
    reads_somewhereAhead (by simp [kinds]), reads_somewhereAhead (by simp [kinds])]
  simp only [Mixed, kinds, List.forall_mem_cons, List.not_mem_nil, false_implies, implies_true,
    and_true, and_assoc]

/-- What the first line has, the text has. -/
theorem Mixed.whole (mixed : Mixed (firstLine password)) : Mixed password := by
  intro kind among
  obtain ⟨unit, inside, accepted⟩ := mixed kind among
  exact ⟨unit, (List.takeWhile_prefix _).subset inside, accepted⟩

/-- The password opens with a letter of the class. -/
def Opening (password : List CodeUnit) : Prop := password.head?.any admitted = true

theorem takes_register : Takes count RegisterDto.passwordRules password ↔
    (8 ≤ count password ∧ count password ≤ 128) ∧ Mixed (firstLine password) ∧
      Opening password := by
  simp [takes_iff, RegisterDto.passwordRules, Constraint.holds, test_mixedThen, reads_letter,
    Opening]

theorem takes_change : Takes count ChangePasswordDto.newPasswordRules password ↔
    (8 ≤ count password ∧ count password ≤ 128) ∧ Mixed (firstLine password) ∧
      Opening password := by
  simp [takes_iff, ChangePasswordDto.newPasswordRules, Constraint.holds, test_mixedThen,
    reads_letter, Opening, and_assoc]

theorem takes_reset : Takes count ResetPasswordDto.newPasswordRules password ↔
    (8 ≤ count password ∧ count password ≤ 128) ∧ Mixed (firstLine password) := by
  simp [takes_iff, ResetPasswordDto.newPasswordRules, Constraint.holds, test_mixedThen,
    reads_empty]

/-- The three fields share the policy exactly on the passwords that fail it, and on those that have
the four kinds before the end of a line and open with a letter of the class. -/
theorem one_policy_iff : OnePolicy count password ↔
    (Policy count password → Mixed (firstLine password) ∧ Opening password) := by
  constructor
  · intro shared policy
    exact (takes_register.mp (shared.register.mpr policy)).2
  · intro plain
    have strict : ((8 ≤ count password ∧ count password ≤ 128) ∧ Mixed (firstLine password) ∧
        Opening password) ↔ Policy count password :=
      ⟨fun taken => ⟨taken.1.1, taken.1.2, taken.2.1.whole⟩,
        fun policy => ⟨⟨policy.long, policy.short⟩, plain policy⟩⟩
    have loose : ((8 ≤ count password ∧ count password ≤ 128) ∧ Mixed (firstLine password)) ↔
        Policy count password :=
      ⟨fun taken => ⟨taken.1.1, taken.1.2, taken.2.whole⟩,
        fun policy => ⟨⟨policy.long, policy.short⟩, (plain policy).1⟩⟩
    have register := takes_register.trans strict
    have change := takes_change.trans strict
    have reset := takes_reset.trans loose
    exact ⟨register.trans change.symm, change.trans reset.symm, register, change, reset⟩

end

end GraconAuth
