/-
This file is a library of the dates of ECMAScript: days counted from the epoch, the
year, month and date of a day, the day that a year, a month and a date make, and local
time. It names nothing of the system.

Days go through the Gregorian calendar, extended to both sides. The day of a valid
date gives that date back, and a month outside of a year or a date outside of a month
rolls over. The engine divides towards nought, and counts the days of the calendar from
the year -399999 on.
-/

import GraconAuth.Doubles
import Mathlib.Algebra.Order.Ring.Int
import Mathlib.Data.Nat.Find
import Mathlib.Order.Monotone.Basic
import Mathlib.Tactic.IntervalCases

namespace CalendarDates

open Doubles Numerals

/-! ### Years -/

/-- The number of the first day of a year. -/
def dayFromYear (year : Int) : Int :=
  365 * (year - 1970) + (year - 1969) / 4 - (year - 1901) / 100 + (year - 1601) / 400

def leap (year : Int) : Bool := year % 4 == 0 && (year % 100 != 0 || year % 400 == 0)

/-- The day that a leap year has more. -/
def leapDay (year : Int) : Int := if leap year then 1 else 0

/-- The year of a day: an estimate by the mean length of a year, and at most one year more or
less. -/
def yearFromDay (day : Int) : Int :=
  let year := 1970 + 400 * day / 146097
  if day < dayFromYear year then year - 1
  else if dayFromYear (year + 1) ≤ day then year + 1
  else year

theorem dayFromYear_succ (year : Int) :
    dayFromYear (year + 1) = dayFromYear year + 365 + leapDay year := by
  unfold dayFromYear leapDay leap
  simp only [Bool.and_eq_true, Bool.or_eq_true, beq_iff_eq, bne_iff_ne]
  split <;> omega

theorem leapDay_cases (year : Int) : leapDay year = 0 ∨ leapDay year = 1 := by
  unfold leapDay
  split
  · exact .inr rfl
  · exact .inl rfl

theorem dayFromYear_mono {first second : Int} (ordered : first ≤ second) :
    dayFromYear first ≤ dayFromYear second := by
  unfold dayFromYear
  omega

theorem yearFromDay_spec (day : Int) :
    dayFromYear (yearFromDay day) ≤ day ∧ day < dayFromYear (yearFromDay day + 1) := by
  have least : dayFromYear (1970 + 400 * day / 146097 - 1) ≤ day := by
    unfold dayFromYear
    omega
  have most : day < dayFromYear (1970 + 400 * day / 146097 + 1 + 1) := by
    unfold dayFromYear
    omega
  unfold yearFromDay
  dsimp only
  split
  · rename_i before
    rw [Int.sub_add_cancel]
    exact ⟨least, before⟩
  · rename_i since
    split
    · rename_i after
      exact ⟨after, most⟩
    · rename_i still
      exact ⟨not_lt.mp since, not_le.mp still⟩

/-- A day is in one year. -/
theorem yearFromDay_eq {day year : Int} (since : dayFromYear year ≤ day)
    (before : day < dayFromYear (year + 1)) : yearFromDay day = year := by
  obtain ⟨low, high⟩ := yearFromDay_spec day
  refine le_antisymm ?_ ?_
  · by_contra later
    have := dayFromYear_mono (show year + 1 ≤ yearFromDay day by omega)
    omega
  · by_contra earlier
    have := dayFromYear_mono (show yearFromDay day + 1 ≤ year by omega)
    omega

theorem yearFromDay_mono {first second : Int} (ordered : first ≤ second) :
    yearFromDay first ≤ yearFromDay second := by
  by_contra reversed
  have := dayFromYear_mono (show yearFromDay second + 1 ≤ yearFromDay first by omega)
  have := (yearFromDay_spec first).1
  have := (yearFromDay_spec second).2
  omega

/-! ### Months -/

/-- How many days of a year come before a month. Months are counted from nought. -/
def daysBeforeMonth (year : Int) : Nat → Int
  | 0 => 0
  | 1 => 31
  | 2 => 59 + leapDay year
  | 3 => 90 + leapDay year
  | 4 => 120 + leapDay year
  | 5 => 151 + leapDay year
  | 6 => 181 + leapDay year
  | 7 => 212 + leapDay year
  | 8 => 243 + leapDay year
  | 9 => 273 + leapDay year
  | 10 => 304 + leapDay year
  | 11 => 334 + leapDay year
  | _ => 365 + leapDay year

def daysInMonth (year : Int) (month : Nat) : Int :=
  daysBeforeMonth year (month + 1) - daysBeforeMonth year month

/-- The month of a day that is given by its place in a year: the last one that has begun. -/
def monthInYear (year place : Int) : Nat :=
  Nat.findGreatest (fun month => daysBeforeMonth year month ≤ place) 11

def monthFromDay (day : Int) : Nat :=
  monthInYear (yearFromDay day) (day - dayFromYear (yearFromDay day))

def dateFromDay (day : Int) : Int :=
  day - dayFromYear (yearFromDay day) - daysBeforeMonth (yearFromDay day) (monthFromDay day) + 1

theorem monthInYear_lt (year place : Int) : monthInYear year place < 12 :=
  Nat.lt_succ_of_le (Nat.findGreatest_le 11)

theorem daysBeforeMonth_mono (year : Int) {first second : Nat} (ordered : first ≤ second) :
    daysBeforeMonth year first ≤ daysBeforeMonth year second := by
  have one := leapDay_cases year
  refine monotone_nat_of_le_succ (fun month => ?_) ordered
  match month with
  | 0 | 1 | 2 | 3 | 4 | 5 | 6 | 7 | 8 | 9 | 10 | 11 => simp only [daysBeforeMonth]; omega
  | _ + 12 => exact le_rfl

theorem daysBeforeMonth_le (year : Int) (month : Nat) :
    0 ≤ daysBeforeMonth year month ∧ daysBeforeMonth year month ≤ 365 + leapDay year := by
  refine ⟨daysBeforeMonth_mono year (Nat.zero_le month), ?_⟩
  exact daysBeforeMonth_mono year (Nat.le_add_right month 12)

theorem daysInMonth_bounds (year : Int) {month : Nat} (inYear : month < 12) :
    28 ≤ daysInMonth year month ∧ daysInMonth year month ≤ 31 := by
  have one := leapDay_cases year
  interval_cases month <;> simp only [daysInMonth, daysBeforeMonth] <;> omega

/-- The place of a valid date is in its month. -/
theorem monthInYear_eq {year date : Int} {month : Nat} (inYear : month < 12) (positive : 1 ≤ date)
    (inMonth : date ≤ daysInMonth year month) :
    monthInYear year (daysBeforeMonth year month + date - 1) = month := by
  unfold daysInMonth at inMonth
  refine Nat.findGreatest_eq_iff.mpr ⟨Nat.le_of_lt_succ inYear, fun _ => by omega, ?_⟩
  intro later after _ begun
  have : daysBeforeMonth year (month + 1) ≤ daysBeforeMonth year later :=
    daysBeforeMonth_mono year after
  omega

/-- A day of a year is a date of its month. -/
theorem date_of_place {year place : Int} (since : 0 ≤ place) (before : place < 365 + leapDay year) :
    0 ≤ place - daysBeforeMonth year (monthInYear year place) ∧
      place - daysBeforeMonth year (monthInYear year place) <
        daysInMonth year (monthInYear year place) := by
  have begun : daysBeforeMonth year (monthInYear year place) ≤ place :=
    Nat.findGreatest_spec (P := fun month => daysBeforeMonth year month ≤ place)
      (Nat.zero_le 11) since
  have next : place < daysBeforeMonth year (monthInYear year place + 1) := by
    rcases Nat.lt_or_ge (monthInYear year place) 11 with inside | last
    · exact not_le.mp (Nat.findGreatest_is_greatest (Nat.lt_succ_self _) inside)
    · have : monthInYear year place = 11 := le_antisymm (Nat.findGreatest_le 11) last
      rw [this]
      exact before
  unfold daysInMonth
  omega

/-! ### Making days -/

/-- The day of a year, a month and a date. What is too much or too little rolls over. -/
def makeDay (year month date : Int) : Int :=
  dayFromYear (year + month / 12) +
    daysBeforeMonth (year + month / 12) (month % 12).toNat + date - 1

/-- The days of so many years, as the engine counts them. Its division goes towards nought. -/
def daysOfYears (years : Int) : Int :=
  365 * years + years.tdiv 4 - years.tdiv 100 + years.tdiv 400

/-- The number of the first day of a year as the engine has it. The years that it adds keep the
quotients from being negative. -/
def engineDayFromYear (year : Int) : Int :=
  daysOfYears (year + 399999) - daysOfYears (1970 + 399999)

/-- The day that the engine makes of a year, a month and a date. -/
def engineDay (year month date : Int) : Int :=
  engineDayFromYear (year + month / 12) +
    daysBeforeMonth (year + month / 12) (month % 12).toNat + date - 1

theorem engineDayFromYear_eq {year : Int} (since : -399999 ≤ year) :
    engineDayFromYear year = dayFromYear year := by
  have positive : 0 ≤ year + 399999 := by omega
  have base : daysOfYears (1970 + 399999) = 146816162 := by decide
  rw [engineDayFromYear, base, daysOfYears, Int.tdiv_eq_ediv_of_nonneg positive,
    Int.tdiv_eq_ediv_of_nonneg positive, Int.tdiv_eq_ediv_of_nonneg positive, dayFromYear]
  omega

/-- From this year on the engine makes the day of the calendar. -/
theorem engineDay_eq {year month date : Int} (since : -399999 ≤ year + month / 12) :
    engineDay year month date = makeDay year month date := by
  rw [engineDay, makeDay, engineDayFromYear_eq since]

/-- The date names a day of the calendar. -/
structure Valid (year : Int) (month : Nat) (date : Int) : Prop where
  inYear : month < 12
  positive : 1 ≤ date
  inMonth : date ≤ daysInMonth year month

instance (year : Int) (month : Nat) (date : Int) : Decidable (Valid year month date) :=
  decidable_of_iff (month < 12 ∧ 1 ≤ date ∧ date ≤ daysInMonth year month)
    ⟨fun ⟨inYear, positive, inMonth⟩ => ⟨inYear, positive, inMonth⟩,
      fun ⟨inYear, positive, inMonth⟩ => ⟨inYear, positive, inMonth⟩⟩

theorem makeDay_of_lt {year date : Int} {month : Nat} (inYear : month < 12) :
    makeDay year month date = dayFromYear year + daysBeforeMonth year month + date - 1 := by
  have quotient : (month : Int) / 12 = 0 := by omega
  have remainder : ((month : Int) % 12).toNat = month := by omega
  rw [makeDay, quotient, remainder, Int.add_zero]

theorem yearFromDay_makeDay {year date : Int} {month : Nat} (valid : Valid year month date) :
    yearFromDay (makeDay year month date) = year := by
  obtain ⟨inYear, positive, inMonth⟩ := valid
  have start := (daysBeforeMonth_le year month).1
  have stop := (daysBeforeMonth_le year (month + 1)).2
  rw [makeDay_of_lt inYear]
  unfold daysInMonth at inMonth
  refine yearFromDay_eq (by omega) ?_
  rw [dayFromYear_succ]
  omega

/-- The day before a date is in the same year, unless the date is the first of the year. -/
theorem yearFromDay_makeDay_pred {year date : Int} {month : Nat} (valid : Valid year month date) :
    yearFromDay (makeDay year month date - 1) =
      if month = 0 ∧ date = 1 then year - 1 else year := by
  obtain ⟨_, before⟩ := yearFromDay_spec (makeDay year month date)
  rw [yearFromDay_makeDay valid] at before
  have placed : makeDay year month date = _ := makeDay_of_lt valid.inYear
  have positive := valid.positive
  split
  · rename_i first
    rw [first.1, first.2, daysBeforeMonth] at placed
    have earlier := dayFromYear_succ (year - 1)
    have one := leapDay_cases (year - 1)
    rw [Int.sub_add_cancel] at earlier
    rw [first.1, first.2, placed]
    exact yearFromDay_eq (by omega) (by rw [Int.sub_add_cancel]; omega)
  · rename_i later
    refine yearFromDay_eq ?_ (by omega)
    rcases Nat.eq_zero_or_pos month with rfl | after
    · rw [daysBeforeMonth] at placed
      omega
    · have := daysBeforeMonth_mono year after
      rw [daysBeforeMonth] at this
      omega

theorem monthFromDay_makeDay {year date : Int} {month : Nat} (valid : Valid year month date) :
    monthFromDay (makeDay year month date) = month := by
  rw [monthFromDay, yearFromDay_makeDay valid, makeDay_of_lt valid.inYear]
  have place : dayFromYear year + daysBeforeMonth year month + date - 1 - dayFromYear year =
      daysBeforeMonth year month + date - 1 := by omega
  rw [place]
  exact monthInYear_eq valid.inYear valid.positive valid.inMonth

theorem dateFromDay_makeDay {year date : Int} {month : Nat} (valid : Valid year month date) :
    dateFromDay (makeDay year month date) = date := by
  rw [dateFromDay, yearFromDay_makeDay valid, monthFromDay_makeDay valid,
    makeDay_of_lt valid.inYear]
  omega

/-- The date of a day is valid. -/
theorem valid_of_day (day : Int) :
    Valid (yearFromDay day) (monthFromDay day) (dateFromDay day) := by
  obtain ⟨since, before⟩ := yearFromDay_spec day
  rw [dayFromYear_succ] at before
  have place : 0 ≤ day - dayFromYear (yearFromDay day) := by omega
  obtain ⟨low, high⟩ := date_of_place place
    (show day - dayFromYear (yearFromDay day) < 365 + leapDay (yearFromDay day) by omega)
  rw [dateFromDay]
  refine ⟨monthInYear_lt _ _, ?_, ?_⟩
  · unfold monthFromDay
    omega
  · unfold monthFromDay
    omega

/-- A day is made of its date. -/
theorem makeDay_date (day : Int) :
    makeDay (yearFromDay day) (monthFromDay day) (dateFromDay day) = day := by
  rw [makeDay_of_lt (valid_of_day day).inYear, dateFromDay]
  omega

/-! ### Times -/

def msPerDay : Int := 86400000

/-- The day of a time. -/
def dayOfTime (time : Int) : Int := time / msPerDay

/-- A time zone: how far local time is ahead at an instant, and as how far ahead a local time is
read. Neither is a whole day. -/
structure TimeZone where
  offset : Int → Int
  offsetOfLocal : Int → Int
  offset_bounds : ∀ time, -msPerDay < offset time ∧ offset time < msPerDay
  offsetOfLocal_bounds : ∀ time, -msPerDay < offsetOfLocal time ∧ offsetOfLocal time < msPerDay

namespace TimeZone

def localTime (zone : TimeZone) (time : Int) : Int := time + zone.offset time

def utc (zone : TimeZone) (time : Int) : Int := time - zone.offsetOfLocal time

/-- The zone that is always as far ahead. -/
def fixed (ahead : Int) (bounds : -msPerDay < ahead ∧ ahead < msPerDay) : TimeZone where
  offset _ := ahead
  offsetOfLocal _ := ahead
  offset_bounds _ := bounds
  offsetOfLocal_bounds _ := bounds

/-- `getFullYear`, `getMonth` and `getDate` -/
def getFullYear (zone : TimeZone) (time : Int) : Int :=
  yearFromDay (dayOfTime (zone.localTime time))

def getMonth (zone : TimeZone) (time : Int) : Nat := monthFromDay (dayOfTime (zone.localTime time))

def getDate (zone : TimeZone) (time : Int) : Int := dateFromDay (dayOfTime (zone.localTime time))

/-- A local midnight is on its day. A zone that skips a day does not keep it. -/
def KeepsDay (zone : TimeZone) (day : Int) : Prop :=
  dayOfTime (zone.localTime (zone.utc (day * msPerDay))) = day

theorem fixed_localTime_utc {ahead : Int} (bounds : -msPerDay < ahead ∧ ahead < msPerDay)
    (time : Int) : (fixed ahead bounds).localTime ((fixed ahead bounds).utc time) = time :=
  Int.sub_add_cancel time ahead

theorem dayOfTime_of_day (day : Int) : dayOfTime (day * msPerDay) = day :=
  Int.mul_ediv_cancel day (by decide)

/-- A zone that is always as far ahead keeps every day. -/
theorem fixed_keepsDay {ahead : Int} (bounds : -msPerDay < ahead ∧ ahead < msPerDay) (day : Int) :
    (fixed ahead bounds).KeepsDay day := by
  rw [KeepsDay, fixed_localTime_utc, dayOfTime_of_day]

/-- A local midnight is on the day before in a zone that is ahead. -/
theorem dayOfTime_fixed_utc {ahead : Int} (bounds : -msPerDay < ahead ∧ ahead < msPerDay)
    (day : Int) : dayOfTime ((fixed ahead bounds).utc (day * msPerDay)) =
      if 0 < ahead then day - 1 else day := by
  have shifted : (fixed ahead bounds).utc (day * msPerDay) = day * msPerDay - ahead := rfl
  rw [shifted]
  unfold dayOfTime msPerDay at *
  split <;> omega

/-- A midnight is on the local day before in a zone that is behind. -/
theorem dayOfTime_fixed_localTime {ahead : Int} (bounds : -msPerDay < ahead ∧ ahead < msPerDay)
    (day : Int) : dayOfTime ((fixed ahead bounds).localTime (day * msPerDay)) =
      if ahead < 0 then day - 1 else day := by
  have shifted : (fixed ahead bounds).localTime (day * msPerDay) = day * msPerDay + ahead := rfl
  rw [shifted]
  unfold dayOfTime msPerDay at *
  split <;> omega

/-- A local midnight is at most two days away from its day. -/
theorem dayOfTime_utc (zone : TimeZone) (day : Int) :
    day - 2 ≤ dayOfTime (zone.localTime (zone.utc (day * msPerDay))) := by
  have far := zone.offsetOfLocal_bounds (day * msPerDay)
  have near := zone.offset_bounds (day * msPerDay - zone.offsetOfLocal (day * msPerDay))
  unfold localTime utc dayOfTime
  generalize zone.offset _ = ahead at *
  generalize zone.offsetOfLocal _ = read at *
  unfold msPerDay at *
  omega

/-- The local day of a midnight is that day or one beside it. -/
theorem dayOfTime_localTime (zone : TimeZone) (day : Int) :
    day - 1 ≤ dayOfTime (zone.localTime (day * msPerDay)) ∧
      dayOfTime (zone.localTime (day * msPerDay)) ≤ day := by
  have bounds := zone.offset_bounds (day * msPerDay)
  unfold localTime dayOfTime
  generalize zone.offset (day * msPerDay) = ahead at *
  unfold msPerDay at *
  omega

end TimeZone

/-! ### Making times -/

/-- A hundred million days. -/
def maxTime : Int := 8640000000000000

def timeClip (time : Int) : Option Int := if |time| ≤ maxTime then some time else none

/-- Two digits stand for a year of the twentieth century. -/
def fullYear (year : ℚ) : ℚ :=
  if 0 ≤ truncate year ∧ truncate year ≤ 99 then 1900 + truncate year else year

namespace TimeZone

/-- `new Date(year, month, date)`: the time of a local midnight. There is none for what is no
finite number or out of range. -/
def newDate (zone : TimeZone) : Double → Double → Double → Option Int
  | .finite year, .finite month, .finite date =>
    if |fullYear year| ≤ 1000000 ∧ |month| ≤ 10000000 then
      timeClip (zone.utc
        (engineDay (truncate (fullYear year)) (truncate month) (truncate date) * msPerDay))
    else none
  | _, _, _ => none

end TimeZone

theorem fullYear_of_ge {year : Int} (late : 100 ≤ year) : fullYear year = year := by
  rw [fullYear, truncate_intCast, if_neg (by omega)]

theorem fullYear_of_lt {year : Int} (since : 0 ≤ year) (early : year < 100) :
    fullYear year = ((1900 + year : Int) : ℚ) := by
  rw [fullYear, truncate_intCast, if_pos (by omega), Int.cast_add, Int.cast_ofNat]

/-- A day of a year with four digits has a time. -/
theorem newDate_of_valid {zone : TimeZone} {year full date : Int} {month : Nat}
    (named : fullYear year = (full : ℚ)) (since : 0 ≤ full) (before : full ≤ 9999)
    (inYear : month < 12) (positive : 1 ≤ date) (bounded : date ≤ 31) :
    zone.newDate (.finite year) (.finite (month : Int)) (.finite date) =
      some (zone.utc (makeDay full month date * msPerDay)) := by
  have first := (daysBeforeMonth_le full month).1
  have last := (daysBeforeMonth_le full month).2
  have leap := leapDay_cases full
  have low := dayFromYear_mono since
  have high := dayFromYear_mono before
  have bounds := zone.offsetOfLocal_bounds (makeDay full month date * msPerDay)
  have inRange : |zone.utc (makeDay full month date * msPerDay)| ≤ maxTime := by
    rw [makeDay_of_lt inYear] at bounds ⊢
    unfold TimeZone.utc dayFromYear msPerDay maxTime at *
    rw [abs_le]
    omega
  have yearInRange : |(full : ℚ)| ≤ 1000000 := by
    rw [abs_of_nonneg (Int.cast_nonneg since)]
    exact_mod_cast le_trans before (by decide)
  have monthInRange : |((month : Int) : ℚ)| ≤ 10000000 := by
    rw [abs_of_nonneg (Int.cast_nonneg (Int.natCast_nonneg month))]
    exact_mod_cast (show month ≤ 10000000 by omega)
  have made : engineDay full month date = makeDay full month date := engineDay_eq (by omega)
  rw [TimeZone.newDate, named, if_pos ⟨yearInRange, monthInRange⟩, truncate_intCast,
    truncate_intCast, truncate_intCast, made, timeClip, if_pos inRange]

/-! ### Texts of times -/

/-- A year of more than four digits, or before the first one, has a sign and six digits. -/
def isoYear (year : Int) : String :=
  if 0 ≤ year ∧ year ≤ 9999 then padStart 4 (toString year.toNat)
  else (if year < 0 then "-" else "+") ++ padStart 6 (toString year.natAbs)

/-- `YYYY-MM-DD`, where months are counted from nought. -/
def isoDate (year : Int) (month : Nat) (date : Int) : String :=
  isoYear year ++ "-" ++ padStart 2 (toString (month + 1)) ++ "-" ++
    padStart 2 (toString date.toNat)

def isoDay (day : Int) : String :=
  isoDate (yearFromDay day) (monthFromDay day) (dateFromDay day)

/-- The time of day, in milliseconds. -/
def isoTime (within : Nat) : String :=
  padStart 2 (toString (within / 3600000)) ++ ":" ++
    padStart 2 (toString (within / 60000 % 60)) ++ ":" ++
    padStart 2 (toString (within / 1000 % 60)) ++ "." ++ padStart 3 (toString (within % 1000))

def toISOString (time : Int) : String :=
  isoDay (dayOfTime time) ++ "T" ++ isoTime (time % msPerDay).toNat ++ "Z"

/-- What stands before the `T`. -/
def datePart (text : String) : String := String.ofList (text.toList.takeWhile (· != 'T'))

theorem isoYear_letters {year : Int} {letter : Char} (member : letter ∈ (isoYear year).toList) :
    letter.isDigit ∨ letter = '-' ∨ letter = '+' := by
  unfold isoYear at member
  split at member
  · exact .inl (isDigit_padStart member)
  · rw [String.toList_append, List.mem_append] at member
    rcases member with sign | member
    · split at sign
      · exact .inr (.inl (List.mem_singleton.mp sign))
      · exact .inr (.inr (List.mem_singleton.mp sign))
    · exact .inl (isDigit_padStart member)

theorem toList_isoDate (year : Int) (month : Nat) (date : Int) :
    (isoDate year month date).toList = (isoYear year).toList ++ '-' ::
      ((padStart 2 (toString (month + 1))).toList ++ '-' ::
        (padStart 2 (toString date.toNat)).toList) := by
  have dash : "-".toList = ['-'] := by decide
  simp only [isoDate, String.toList_append, dash, List.append_assoc, List.cons_append,
    List.nil_append]

/-- The date part of the text of a time is its day. -/
theorem datePart_toISOString (time : Int) :
    datePart (toISOString time) = isoDay (dayOfTime time) := by
  have plain : ∀ letter ∈ (isoDay (dayOfTime time)).toList, (letter != 'T') = true := by
    have other {letter : Char} (kind : letter.isDigit ∨ letter = '-' ∨ letter = '+') :
        (letter != 'T') = true := by
      rcases kind with digit | rfl | rfl
      · exact bne_iff_ne.mpr (beq_eq_false_iff_ne.mp (ne_of_isDigit digit (by decide)))
      · decide
      · decide
    intro letter member
    rw [isoDay, toList_isoDate] at member
    simp only [List.mem_append, List.mem_cons] at member
    rcases member with member | rfl | member | rfl | member
    · exact other (isoYear_letters member)
    · decide
    · exact other (.inl (isDigit_padStart member))
    · decide
    · exact other (.inl (isDigit_padStart member))
  have letters : (toISOString time).toList = (isoDay (dayOfTime time)).toList ++
      'T' :: ((isoTime (time % msPerDay).toNat).toList ++ "Z".toList) := by
    have mark : "T".toList = ['T'] := by decide
    simp only [toISOString, String.toList_append, mark, List.append_assoc, List.cons_append,
      List.nil_append]
  rw [datePart, letters, List.takeWhile_append_of_pos plain, List.takeWhile_cons_of_neg (by decide),
    List.append_nil, String.ofList_toList]

/-- A date of a year with four digits is written in one way. -/
theorem isoDate_injective {year otherYear date otherDate : Int} {month otherMonth : Nat}
    (years : 0 ≤ year ∧ year ≤ 9999) (otherYears : 0 ≤ otherYear ∧ otherYear ≤ 9999)
    (positive : 0 ≤ date) (otherPositive : 0 ≤ otherDate)
    (same : isoDate year month date = isoDate otherYear otherMonth otherDate) :
    year = otherYear ∧ month = otherMonth ∧ date = otherDate := by
  have letters := congrArg String.toList same
  rw [toList_isoDate, toList_isoDate, isoYear, isoYear, if_pos years, if_pos otherYears] at letters
  have := joined_injective (by decide) letters
  omega

/-- The text of a day is that of a date only if the date makes the day. -/
theorem isoDay_eq_iff {day year date : Int} {month : Nat} (valid : Valid year month date)
    (years : 0 ≤ year ∧ year ≤ 9999) (days : 0 ≤ yearFromDay day ∧ yearFromDay day ≤ 9999) :
    isoDay day = isoDate year month date ↔ day = makeDay year month date := by
  constructor
  · intro same
    have named := valid_of_day day
    obtain ⟨sameYear, sameMonth, sameDate⟩ := isoDate_injective days years
      (le_trans (by decide) named.positive) (le_trans (by decide) valid.positive) same
    rw [← sameYear, ← sameMonth, ← sameDate, makeDay_date]
  · rintro rfl
    rw [isoDay, yearFromDay_makeDay valid, monthFromDay_makeDay valid, dateFromDay_makeDay valid]

end CalendarDates
