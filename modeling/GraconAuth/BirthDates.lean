/-
This file settles which texts the parser of birth dates accepts, and which dates it makes
of them.

A date that is written as day, month and year, of two, two and four digits, gives a
time on that day, if its year does not have two digits after the noughts. The parser
only splits the text and converts its fields to numbers, so it makes a date of many
other texts as well: it rejects a text only if one of the first three fields is no
finite number or the date would be out of range.
-/

import GraconAuth.CitizenService

namespace GraconAuth

open CalendarDates Doubles Numerals CitizenService

variable {zone : TimeZone} {day month year : Nat}

/-! ### Written dates -/

/-- The date as `DD/MM/YYYY`. -/
def writeDate (day month year : Nat) : String :=
  padStart 2 (toString day) ++ "/" ++ padStart 2 (toString month) ++ "/" ++
    padStart 4 (toString year)

/-- An existing day of a year that four digits can write. -/
structure Exists (day month year : Nat) : Prop where
  fourDigits : year < 10000
  fromOne : 1 ≤ month
  valid : Valid year (month - 1) day

namespace Exists

theorem month_le (existing : Exists day month year) : month ≤ 12 := by
  have := existing.fromOne
  have := existing.valid.inYear
  omega

theorem day_le (existing : Exists day month year) : day ≤ 31 := by
  have := existing.valid.inMonth
  have := (daysInMonth_bounds year existing.valid.inYear).2
  omega

end Exists

/-- The text is `DD/MM/YYYY` and names that day. -/
structure Names (dateString : String) (day month year : Nat) : Prop where
  written : dateString = writeDate day month year
  existing : Exists day month year

/-! ### Its fields -/

theorem toList_writeDate (day month year : Nat) :
    (writeDate day month year).toList =
      (padStart 2 (toString day)).toList ++ '/' :: ((padStart 2 (toString month)).toList ++
        '/' :: (padStart 4 (toString year)).toList) := by
  have slash : "/".toList = ['/'] := by decide
  simp only [writeDate, String.toList_append, slash, List.append_assoc, List.cons_append,
    List.nil_append]

theorem splitOn_writeDate (day month year : Nat) :
    (writeDate day month year).toList.splitOn '/' =
      [(padStart 2 (toString day)).toList, (padStart 2 (toString month)).toList,
        (padStart 4 (toString year)).toList] := by
  rw [toList_writeDate, splitOn_joined (by decide)]

/-- A field of the text, as a number. One that is missing is none. -/
def field (dateString : String) (place : Nat) : Double :=
  ((dateString.toList.splitOn '/').map number).getD place .nan

/-- A padded numeral stands for its number. -/
theorem number_padStart {width value : Nat} (small : value < 2 ^ 53) :
    number (padStart width (toString value)).toList = .finite (value : ℤ) := by
  have written : (padStart width (toString value)).toList ≠ [] := by
    intro empty
    have filled := congrArg List.length empty
    rw [String.length_toList, length_padStart, Nat.toString_eq_repr] at filled
    have := Nat.length_repr_pos (n := value)
    simp only [List.length_nil] at filled
    omega
  rw [number_digits written (fun _ member => isDigit_padStart member), value_padStart]
  rwa [value_padStart]

theorem field_writeDate (days : day < 2 ^ 53) (months : month < 2 ^ 53) (years : year < 2 ^ 53) :
    field (writeDate day month year) 0 = .finite (day : ℤ) ∧
      field (writeDate day month year) 1 = .finite (month : ℤ) ∧
      field (writeDate day month year) 2 = .finite (year : ℤ) := by
  unfold field
  rw [splitOn_writeDate]
  simp only [List.map_cons, List.map_nil, number_padStart days, number_padStart months,
    number_padStart years]
  exact ⟨rfl, rfl, rfl⟩

/-- A date is written in one way. -/
theorem writeDate_injective {otherDay otherMonth otherYear : Nat}
    (same : writeDate day month year = writeDate otherDay otherMonth otherYear) :
    day = otherDay ∧ month = otherMonth ∧ year = otherYear := by
  have letters := congrArg String.toList same
  rw [toList_writeDate, toList_writeDate] at letters
  exact joined_injective (by decide) letters

/-! ### The parser -/

theorem parseDateOfBirth_eq (zone : TimeZone) (dateString : String) :
    parseDateOfBirth zone dateString =
      match zone.newDate (field dateString 2) ((field dateString 1).sub 1) (field dateString 0) with
      | some date => .ok date
      | none => .error InvalidDocumentException := rfl

/-- A text with such fields gives the local midnight of the day that they name, and what is too
much for a month rolls over. -/
theorem parseDateOfBirth_writeDate {full : Int} (named : fullYear (year : ℤ) = (full : ℚ))
    (since : 0 ≤ full) (before : full ≤ 9999) (years : year < 10000) (fromOne : 1 ≤ month)
    (months : month ≤ 12) (positive : 1 ≤ day) (days : day ≤ 31) :
    parseDateOfBirth zone (writeDate day month year) =
      .ok (zone.utc (makeDay full (month - 1 : Nat) day * msPerDay)) := by
  obtain ⟨first, second, third⟩ := field_writeDate (show day < 2 ^ 53 by omega)
    (show month < 2 ^ 53 by omega) (show year < 2 ^ 53 by omega)
  have monthIndex : (Double.finite (month : ℤ)).sub 1 = .finite ((month - 1 : Nat) : ℤ) := by
    have less : ((month : ℤ) : ℚ) - 1 = (((month - 1 : Nat) : ℤ) : ℚ) := by
      rw [Nat.cast_sub fromOne]
      push_cast
      ring
    rw [Double.sub, less, ofRat_intCast]
    rw [Nat.abs_cast]
    exact_mod_cast (show month - 1 < 2 ^ 53 by omega)
  rw [parseDateOfBirth_eq, first, second, third, monthIndex, newDate_of_valid named since before
    (by omega) (by omega) (by omega)]

/-- The year that the constructor of dates takes a written year for. -/
def parsedYear (year : Nat) : Int := if year < 100 then 1900 + year else year

theorem fullYear_parsedYear (year : Nat) : fullYear (year : ℤ) = (parsedYear year : ℚ) := by
  unfold parsedYear
  split
  · exact fullYear_of_lt (by omega) (by omega)
  · exact fullYear_of_ge (by omega)

/-- A text that names a day gives its local midnight, in the year it is taken for. -/
theorem parseDateOfBirth_existing (existing : Exists day month year) :
    parseDateOfBirth zone (writeDate day month year) =
      .ok (zone.utc (makeDay (parsedYear year) (month - 1 : Nat) day * msPerDay)) := by
  have positive := existing.valid.positive
  have years := existing.fourDigits
  refine parseDateOfBirth_writeDate (fullYear_parsedYear year) ?_ ?_ years existing.fromOne
    existing.month_le (by omega) existing.day_le
  · unfold parsedYear
    split <;> omega
  · unfold parsedYear
    split <;> omega

/-- The date that three numbers name is beyond what the constructor of dates takes. -/
def OutOfRange (zone : TimeZone) (day month year : ℚ) : Prop :=
  1000000 < |fullYear year| ∨ 10000000 < |nearest (month - 1)| ∨
    maxTime < |zone.utc (engineDay (truncate (fullYear year)) (truncate (nearest (month - 1)))
      (truncate day) * msPerDay)|

/-- One of the first three fields is missing or no finite number, or their date is out of range. -/
def Dateless (zone : TimeZone) (dateString : String) : Prop :=
  ∀ day month year, field dateString 0 = .finite day → field dateString 1 = .finite month →
    field dateString 2 = .finite year → OutOfRange zone day month year

theorem newDate_eq_none {day month year : ℚ} :
    zone.newDate (.finite year) ((Double.finite month).sub 1) (.finite day) = none ↔
      OutOfRange zone day month year := by
  unfold OutOfRange
  rw [Double.sub, Double.ofRat]
  split
  · rename_i large
    have far : (10000000 : ℚ) < |nearest (month - 1)| :=
      calc (10000000 : ℚ) < 2 ^ 24 := by norm_num
        _ ≤ 2 ^ 1024 := pow_le_pow_right₀ one_le_two (by decide)
        _ ≤ |nearest (month - 1)| := large
    exact iff_of_true rfl (.inr (.inl far))
  · rw [TimeZone.newDate]
    split
    · rename_i near
      rw [timeClip, ite_eq_right_iff, or_iff_right (not_lt.mpr near.1),
        or_iff_right (not_lt.mpr near.2)]
      simp only [reduceCtorEq, imp_false, not_le]
    · rename_i far
      rw [not_and_or, not_le, not_le] at far
      refine iff_of_true rfl ?_
      rcases far with far | far
      · exact .inl far
      · exact .inr (.inl far)

/-- What is no finite number names no date. -/
theorem newDate_of_dateless {dateString : String} (dateless : Dateless zone dateString) :
    zone.newDate (field dateString 2) ((field dateString 1).sub 1) (field dateString 0) = none := by
  cases third : field dateString 2 with
  | nan => rfl
  | infinite negative => rfl
  | finite year =>
    cases second : field dateString 1 with
    | nan => rfl
    | infinite negative => rfl
    | finite month =>
      cases first : field dateString 0 with
      | nan => cases (Double.finite month).sub 1 <;> rfl
      | infinite negative => cases (Double.finite month).sub 1 <;> rfl
      | finite day => exact newDate_eq_none.mpr (dateless day month year first second third)

/-- The parser rejects what has no date. -/
theorem parseDateOfBirth_rejects_iff {dateString : String} :
    parseDateOfBirth zone dateString = .error InvalidDocumentException ↔
      Dateless zone dateString := by
  constructor
  · intro rejected day month year first second third
    rw [parseDateOfBirth_eq, first, second, third] at rejected
    refine newDate_eq_none.mp ?_
    cases made : zone.newDate (.finite year) ((Double.finite month).sub 1) (.finite day) with
    | none => rfl
    | some date =>
      rw [made] at rejected
      cases rejected
  · intro dateless
    rw [parseDateOfBirth_eq, newDate_of_dateless dateless]

/-! ### The grammar -/

/-- The parser accepts the text if it is in the grammar, with the day that is written, and rejects
it otherwise. -/
structure ParsesExactly (zone : TimeZone) (dateString : String) : Prop where
  accepts : ∀ day month year, Names dateString day month year →
    ∃ date, parseDateOfBirth zone dateString = .ok date ∧ zone.getDate date = day ∧
      zone.getMonth date + 1 = month ∧ zone.getFullYear date = year
  rejects : (¬ ∃ day month year, Names dateString day month year) →
    parseDateOfBirth zone dateString = .error InvalidDocumentException

/-- A midnight of this age is not read as one of the first century. -/
theorem year_of_midnight (zone : TimeZone) {full date : Int} {month : Nat} (since : 1900 ≤ full)
    (inYear : month < 12) (positive : 1 ≤ date) :
    1899 ≤ zone.getFullYear (zone.utc (makeDay full month date * msPerDay)) := by
  have near := zone.dayOfTime_utc (makeDay full month date)
  have begun := dayFromYear_mono since
  have first := (daysBeforeMonth_le full month).1
  have placed : makeDay full month date = _ := makeDay_of_lt inYear
  calc (1899 : Int) = yearFromDay (dayFromYear 1900 - 2) := by decide
    _ ≤ _ := yearFromDay_mono (by omega)

/-- A text is accepted with the day that is written exactly if the year has more than two digits
after the noughts and the zone does not skip the day. -/
theorem accepts_iff {dateString : String} (named : Names dateString day month year) :
    (∃ date, parseDateOfBirth zone dateString = .ok date ∧ zone.getDate date = day ∧
      zone.getMonth date + 1 = month ∧ zone.getFullYear date = year) ↔
        100 ≤ year ∧ zone.KeepsDay (makeDay year (month - 1 : Nat) day) := by
  obtain ⟨rfl, existing⟩ := named
  have parsed : parseDateOfBirth zone (writeDate day month year) = _ :=
    parseDateOfBirth_existing existing
  have positive := existing.valid.positive
  rcases Nat.lt_or_ge year 100 with early | late
  · have modern := year_of_midnight zone (show 1900 ≤ parsedYear year by
      rw [parsedYear, if_pos early]; omega) existing.valid.inYear positive
    refine iff_of_false ?_ fun right => absurd right.1 (by omega)
    rintro ⟨date, alsoParsed, -, -, sameYear⟩
    cases parsed.symm.trans alsoParsed
    omega
  · rw [parsedYear, if_neg (by omega)] at parsed
    constructor
    · rintro ⟨date, alsoParsed, sameDay, sameMonth, sameYear⟩
      cases parsed.symm.trans alsoParsed
      refine ⟨late, ?_⟩
      unfold TimeZone.getDate at sameDay
      unfold TimeZone.getMonth at sameMonth
      unfold TimeZone.getFullYear at sameYear
      rw [TimeZone.KeepsDay, ← makeDay_date (dayOfTime _), sameYear, sameDay,
        Nat.eq_sub_of_add_eq sameMonth]
    · rintro ⟨-, kept⟩
      refine ⟨_, parsed, ?_, ?_, ?_⟩
      · rw [TimeZone.getDate, kept, dateFromDay_makeDay existing.valid]
      · have fromOne := existing.fromOne
        rw [TimeZone.getMonth, kept, monthFromDay_makeDay existing.valid]
        omega
      · rw [TimeZone.getFullYear, kept, yearFromDay_makeDay existing.valid]

/-- A day is named in one way. -/
theorem names_unique {dateString : String} {otherDay otherMonth otherYear : Nat}
    (first : Names dateString day month year)
    (second : Names dateString otherDay otherMonth otherYear) :
    day = otherDay ∧ month = otherMonth ∧ year = otherYear :=
  writeDate_injective (first.written.symm.trans second.written)

/-- **The parser accepts exactly its grammar, with the day that is written, on the texts of the
grammar whose year has more than two digits after the noughts and whose day the zone does not
skip, and on the texts outside of it that have no date at all.** -/
theorem parses_exactly_iff (zone : TimeZone) (dateString : String) :
    ParsesExactly zone dateString ↔
      (∃ day month year, Names dateString day month year ∧ 100 ≤ year ∧
        zone.KeepsDay (makeDay year (month - 1 : Nat) day)) ∨
      (¬ ∃ day month year, Names dateString day month year) ∧ Dateless zone dateString := by
  constructor
  · rintro ⟨accepts, rejects⟩
    rcases em (∃ day month year, Names dateString day month year) with written | unwritten
    · obtain ⟨day, month, year, named⟩ := written
      exact .inl ⟨day, month, year, named, (accepts_iff named).mp (accepts day month year named)⟩
    · exact .inr ⟨unwritten, parseDateOfBirth_rejects_iff.mp (rejects unwritten)⟩
  · rintro (⟨day, month, year, named, right⟩ | ⟨unwritten, dateless⟩)
    · refine ⟨fun otherDay otherMonth otherYear other => ?_, fun unwritten => ?_⟩
      · obtain ⟨rfl, rfl, rfl⟩ := names_unique named other
        exact (accepts_iff named).mpr right
      · exact absurd ⟨day, month, year, named⟩ unwritten
    · refine ⟨fun day month year named => ?_, fun _ => ?_⟩
      · exact absurd ⟨day, month, year, named⟩ unwritten
      · exact parseDateOfBirth_rejects_iff.mpr dateless

/-- The last day of February 2000 is the 29th, and its 31st is taken for the second of March. -/
theorem not_parses_exactly : ¬ ∀ (zone : TimeZone) (dateString : String),
    ParsesExactly zone dateString := by
  intro always
  have written : "31/02/2000" = writeDate 31 2 2000 := by decide +kernel
  have unnamed : ¬ ∃ day month year, Names "31/02/2000" day month year := by
    rintro ⟨day, month, year, named⟩
    obtain ⟨rfl, rfl, rfl⟩ := writeDate_injective (written.symm.trans named.written)
    exact absurd named.existing.valid (by decide)
  have rejected := (always (.fixed 0 (by decide)) "31/02/2000").rejects unnamed
  have parsed : parseDateOfBirth (.fixed 0 (by decide)) (writeDate 31 2 2000) = .ok _ :=
    parseDateOfBirth_writeDate (fullYear_of_ge (by decide)) (by decide) (by decide) (by decide)
      (by decide) (by decide) (by decide) (by decide)
  rw [written, parsed] at rejected
  cases rejected

end GraconAuth
