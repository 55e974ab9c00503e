import Mathlib.Data.Nat.Basic
import Mathlib.Order.Basic
import Mathlib.Tactic.Common

/-!
# The Gregorian calendar

Dates of the proleptic Gregorian calendar from the year zero on. A date stands for the
number of days before it, which is a sum over the years and months before it. With years
that begin in March the leap day is the last day of a year, and the sum has a closed form.
-/
namespace Gregorian

def isLeap (year : Nat) : Prop := year % 4 = 0 ∧ (year % 100 ≠ 0 ∨ year % 400 = 0)

instance (year : Nat) : Decidable (isLeap year) := inferInstanceAs (Decidable (_ ∧ _))

def yearLength (year : Nat) : Nat := if isLeap year then 366 else 365

def monthLength (year month : Nat) : Nat :=
  if month = 2 then if isLeap year then 29 else 28
  else if month = 4 ∨ month = 6 ∨ month = 9 ∨ month = 11 then 30
  else 31

/-- A day of the calendar. -/
@[ext] structure Date where
  year : Nat
  month : Nat
  day : Nat
  month_pos : 1 ≤ month
  month_le : month ≤ 12
  day_pos : 1 ≤ day
  day_le : day ≤ monthLength year month

/-- The days of the years before a year. -/
def daysBeforeYear : Nat → Nat
  | 0 => 0
  | year + 1 => daysBeforeYear year + yearLength year

/-- The days of the months before a month. -/
def daysBeforeMonth (year : Nat) : Nat → Nat
  | 0 => 0
  | 1 => 0
  | month + 2 => daysBeforeMonth year (month + 1) + monthLength year (month + 1)

/-- The days before a date. -/
def Date.number (date : Date) : Nat :=
  daysBeforeYear date.year + daysBeforeMonth date.year date.month + (date.day - 1)

/-! ## Years that begin in March -/

/-- The number of a date, from the first of March of the year zero on, the months counted
from March. -/
def marchNumber (year month day : Nat) : Nat :=
  365 * year + year / 4 - year / 100 + year / 400 + (month * 306 + 5) / 10 + day

/-- The leap years up to a year, without the year zero. -/
def leapYears (year : Nat) : Nat := year / 4 - year / 100 + year / 400

theorem leapYears_succ (year : Nat) :
    leapYears (year + 1) = leapYears year + if isLeap (year + 1) then 1 else 0 := by
  have fewer : year / 100 ≤ year / 4 := Nat.div_le_div_left (by decide) (by decide)
  -- a century is divisible by four, and four centuries are divisible by a hundred
  have four : (year + 1) % 100 = 0 → (year + 1) % 4 = 0 := by omega
  have hundred : (year + 1) % 400 = 0 → (year + 1) % 100 = 0 := by omega
  rw [leapYears, leapYears, Nat.succ_div, Nat.succ_div, Nat.succ_div]
  simp only [Nat.dvd_iff_mod_eq_zero]
  generalize year / 4 = fours at fewer ⊢
  generalize year / 100 = hundreds at fewer ⊢
  by_cases leap : isLeap (year + 1)
  · rw [if_pos leap]
    obtain ⟨divided, century⟩ := leap
    rw [if_pos divided]
    split_ifs <;> omega
  · rw [if_neg leap]
    rw [isLeap] at leap
    split_ifs <;> omega

theorem marchNumber_eq (year month day : Nat) :
    marchNumber year month day = 365 * year + leapYears year + (month * 306 + 5) / 10 + day := by
  have fewer : year / 100 ≤ year / 4 := Nat.div_le_div_left (by decide) (by decide)
  rw [marchNumber, leapYears]
  omega

theorem daysBeforeYear_succ (year : Nat) :
    daysBeforeYear (year + 1) = 366 + 365 * year + leapYears year := by
  induction year with
  | zero => rfl
  | succ year ih =>
    rw [daysBeforeYear, ih, yearLength, leapYears_succ]
    split
    · omega
    · omega

theorem daysBeforeMonth_two (year : Nat) : daysBeforeMonth year 2 = 31 := rfl

/-- January and February come before the leap day. -/
theorem daysBeforeMonth_early (year : Nat) {month : Nat} (positive : 1 ≤ month)
    (early : month ≤ 2) : daysBeforeMonth year month = 31 * (month - 1) := by
  have either : month = 1 ∨ month = 2 := by omega
  rcases either with rfl | rfl
  · rfl
  · rfl

/-- From March on the months have the same lengths in every year. -/
theorem daysBeforeMonth_march (year : Nat) {month : Nat} (short : month ≤ 9) :
    daysBeforeMonth year (month + 3) =
      (if isLeap year then 60 else 59) + (month * 306 + 5) / 10 := by
  induction month with
  | zero =>
    rw [daysBeforeMonth, daysBeforeMonth_two, monthLength, if_pos rfl]
    split
    · rfl
    · rfl
  | succ month ih =>
    have before := ih (by omega)
    have length : monthLength year (month + 3) =
        ((month + 1) * 306 + 5) / 10 - (month * 306 + 5) / 10 := by
      have each : ∀ month < 9, (if month = 1 ∨ month = 3 ∨ month = 6 ∨ month = 8 then 30 else 31) =
          ((month + 1) * 306 + 5) / 10 - (month * 306 + 5) / 10 := by decide
      rw [← each month (by omega), monthLength, if_neg (by omega)]
      congr 1
      rw [eq_iff_iff]
      omega
    rw [daysBeforeMonth, before, length]
    omega

theorem Date.day_le_thirtyOne (date : Date) : date.day ≤ 31 := by
  have le := date.day_le
  rw [monthLength] at le
  split at le
  · split at le <;> omega
  · split at le <;> omega

/-- A date from March on. -/
theorem Date.number_march (date : Date) (late : 3 ≤ date.month) :
    date.number = marchNumber date.year (date.month - 3) date.day + 59 := by
  have short := date.month_le
  have positive := date.day_pos
  obtain ⟨month, same⟩ := Nat.exists_eq_add_of_le' late
  have before := daysBeforeMonth_march date.year (show month ≤ 9 by omega)
  rw [Date.number, marchNumber_eq, same, before, Nat.add_sub_cancel]
  cases date.year with
  | zero =>
    have none_before : leapYears 0 = 0 := rfl
    rw [daysBeforeYear, if_pos (by decide), none_before]
    omega
  | succ year =>
    -- the leap day of the year itself comes before March
    rw [daysBeforeYear_succ, leapYears_succ]
    split
    · omega
    · omega

/-- January and February belong to the year before. -/
theorem Date.number_january (date : Date) (early : date.month ≤ 2) {year : Nat}
    (before : date.year = year + 1) :
    date.number = marchNumber year (date.month + 9) date.day + 59 := by
  have positive := date.day_pos
  have first := date.month_pos
  rw [Date.number, marchNumber_eq, before, daysBeforeYear_succ, daysBeforeMonth_early _ first early]
  omega

/-- Before January and February of the year zero there is no March. -/
theorem Date.number_of_year_zero (date : Date) (early : date.month ≤ 2)
    (first : date.year = 0) : date.number ≤ 61 := by
  have days := date.day_le_thirtyOne
  have positive := date.month_pos
  rw [Date.number, first, daysBeforeYear, daysBeforeMonth_early _ positive early]
  omega

/-! ## Dates of numbers -/

/-- The years of an era of 400 years that are over on a day of it. -/
def yearOfEra (day : Nat) : Nat := (day - day / 1460 + day / 36524 - day / 146096) / 365

/-- The days of an era before a year of it. -/
def daysBeforeYearOfEra (year : Nat) : Nat := 365 * year + year / 4 - year / 100

/-- The days without the leap days before them. -/
def commonDays (day : Nat) : Nat := day - day / 1460 + day / 36524 - day / 146096

theorem commonDays_mono {day other : Nat} (le : day ≤ other) (short : other < 146097) :
    commonDays day ≤ commonDays other := by
  induction other, le using Nat.le_induction with
  | base => exact Nat.le_refl _
  | succ other le ih =>
    refine (ih (by omega)).trans ?_
    rw [commonDays, commonDays]
    omega

theorem commonDays_year : ∀ year < 400,
    365 * year ≤ commonDays (daysBeforeYearOfEra year) ∧
      (year < 399 → commonDays (daysBeforeYearOfEra (year + 1) - 1) < 365 * (year + 1)) := by
  decide +kernel

theorem daysBeforeYearOfEra_succ : ∀ year < 400,
    daysBeforeYearOfEra (year + 1) = daysBeforeYearOfEra year + 365 ∨
      daysBeforeYearOfEra (year + 1) = daysBeforeYearOfEra year + 366 ∧ isLeap (year + 1) := by
  decide +kernel

/-- The year of a day, and the place of the day in it; the last day of a year of 366 days
comes before the end of a leap year's February. -/
theorem yearOfEra_spec {day : Nat} (short : day < 146097) :
    yearOfEra day < 400 ∧ daysBeforeYearOfEra (yearOfEra day) ≤ day ∧
      day ≤ daysBeforeYearOfEra (yearOfEra day) + 365 ∧
      (day = daysBeforeYearOfEra (yearOfEra day) + 365 → isLeap (yearOfEra day + 1)) := by
  have quotient : yearOfEra day = commonDays day / 365 := rfl
  have last : commonDays day ≤ 145999 := commonDays_mono (show day ≤ 146096 by omega) (by decide)
  generalize yearOfEra day = year at quotient ⊢
  have bound : year < 400 := by omega
  have start : daysBeforeYearOfEra year ≤ day := by
    by_contra late
    cases year with
    | zero => exact late (Nat.zero_le day)
    | succ year =>
      have before := (commonDays_year year (by omega)).2 (by omega)
      have mono : commonDays day ≤ commonDays (daysBeforeYearOfEra (year + 1) - 1) :=
        commonDays_mono (by omega) (by rw [daysBeforeYearOfEra]; omega)
      omega
  have final : daysBeforeYearOfEra 399 = 145731 := rfl
  have stop : year < 399 → day < daysBeforeYearOfEra (year + 1) := by
    intro inner
    by_contra late
    have after := (commonDays_year (year + 1) (by omega)).1
    have mono := commonDays_mono (not_lt.mp late) short
    omega
  have next := daysBeforeYearOfEra_succ year bound
  refine ⟨bound, start, ?_, fun leapDay => ?_⟩
  · by_cases inner : year < 399
    · have := stop inner
      omega
    · have same : year = 399 := by omega
      subst same
      omega
  · rcases next with common | ⟨-, leap⟩
    · by_cases inner : year < 399
      · have := stop inner
        omega
      · have same : year = 399 := by omega
        subst same
        decide
    · exact leap

/-- The month and the day of a day of a year that begins in March. -/
theorem monthOfYear_spec : ∀ day < 366,
    (5 * day + 2) / 153 ≤ 11 ∧
      ((5 * day + 2) / 153 * 306 + 5) / 10 = (153 * ((5 * day + 2) / 153) + 2) / 5 ∧
      (153 * ((5 * day + 2) / 153) + 2) / 5 ≤ day ∧
      (∀ month ≤ 11, month = (5 * day + 2) / 153 →
        day - (153 * month + 2) / 5 + 1 ≤
          if month = 11 then if day = 365 then 29 else 28
          else if month = 1 ∨ month = 3 ∨ month = 6 ∨ month = 8 then 30 else 31) := by
  decide +kernel

/-- The date of a day of a year that begins in March. -/
theorem exists_date {year day : Nat} (short : day ≤ 365)
    (leap : day = 365 → isLeap (year + 1)) :
    ∃ date : Date,
      date.month = (if (5 * day + 2) / 153 < 10 then (5 * day + 2) / 153 + 3
        else (5 * day + 2) / 153 - 9) ∧
      date.year = (if date.month ≤ 2 then year + 1 else year) ∧
      date.day = day - (153 * ((5 * day + 2) / 153) + 2) / 5 + 1 ∧
      date.number = 365 * year + leapYears year + day + 60 := by
  obtain ⟨inside, rounded, before, fits⟩ := monthOfYear_spec day (by omega)
  have length := fits _ inside rfl
  generalize (5 * day + 2) / 153 = month at *
  by_cases march : month < 10
  · have named : day - (153 * month + 2) / 5 + 1 ≤ monthLength year (month + 3) := by
      rw [if_neg (by omega)] at length
      rw [monthLength, if_neg (by omega)]
      refine length.trans_eq ?_
      congr 1
      rw [eq_iff_iff]
      omega
    let date : Date := ⟨year, month + 3, day - (153 * month + 2) / 5 + 1, by omega, by omega,
      by omega, named⟩
    have number := date.number_march (Nat.le_add_left 3 month)
    refine ⟨date, (if_pos march).symm, (if_neg (by simp [date])).symm, rfl, ?_⟩
    rw [number, marchNumber_eq, Nat.add_sub_cancel, rounded]
    simp only [date]
    omega
  · have named : day - (153 * month + 2) / 5 + 1 ≤ monthLength (year + 1) (month - 9) := by
      have tenth : month = 10 ∨ month = 11 := by omega
      rcases tenth with rfl | rfl
      · exact length
      · by_cases last : day = 365
        · rw [if_pos rfl, if_pos last] at length
          rw [monthLength, if_pos rfl, if_pos (leap last)]
          exact length
        · rw [if_pos rfl, if_neg last] at length
          refine length.trans ?_
          rw [monthLength, if_pos rfl]
          split <;> decide
    let date : Date := ⟨year + 1, month - 9, day - (153 * month + 2) / 5 + 1, by omega, by omega,
      by omega, named⟩
    have early : date.month ≤ 2 := by
      simp only [date]
      omega
    have number := date.number_january early rfl
    refine ⟨date, (if_neg march).symm, (if_pos early).symm, rfl, ?_⟩
    have shifted : date.month + 9 = month := by
      simp only [date]
      omega
    rw [number, marchNumber_eq, shifted, rounded]
    simp only [date]
    omega

/-- An era of 400 years has the same days as every other. -/
theorem leapYears_era (year era : Nat) (short : year < 400) :
    365 * (year + era * 400) + leapYears (year + era * 400) =
      daysBeforeYearOfEra year + era * 146097 := by
  have fewer : year / 100 ≤ year / 4 := Nat.div_le_div_left (by decide) (by decide)
  have fours : (year + era * 400) / 4 = year / 4 + era * 100 := by omega
  have hundreds : (year + era * 400) / 100 = year / 100 + era * 4 := by omega
  have eras : (year + era * 400) / 400 = era := by omega
  rw [leapYears, daysBeforeYearOfEra, fours, hundreds, eras]
  generalize year / 4 = a at *
  generalize year / 100 = b at *
  omega

theorem isLeap_era (year era : Nat) : isLeap (year + era * 400) ↔ isLeap year := by
  rw [isLeap, isLeap]
  omega

end Gregorian
