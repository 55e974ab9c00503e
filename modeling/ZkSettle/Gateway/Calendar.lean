import ZkSettle.Gateway.Siws
import ZkSettle.Gateway.Usage
import ZkSettle.Library.Gregorian

/-!
# Days and timestamps

The gateway writes days and reads timestamps with two formulas of its own, which both count
the days of the Gregorian calendar. Where a timestamp is of the years that it can count, its
time is read; otherwise the checked arithmetic panics, which every text of a date before
1970 brings about.
-/
namespace ZkSettle.Gateway

open Checks Gregorian Numerals

/-- The number of the first of January 1970. -/
def EPOCH_NUMBER : Nat := 719528

/-! ## From days to dates -/

theorem asI32_of_lt {n : Nat} (small : n < 2147483648) : asI32 n = n := by
  rw [asI32]
  exact Int.bmod_eq_of_le (by omega) (by omega)

/-- `civil_from_days` finds the date with the number. -/
theorem civilFromDays_eq (n : Nat) : ∃ date : Date, date.number = n + EPOCH_NUMBER ∧
    civilFromDays n = (asI32 date.year, date.month, date.day) := by
  -- the era, and the day of the era
  have sign : (0 : Int) ≤ n + 719468 := by omega
  have era : ((n : Int) + 719468).tdiv 146097 = ((n + 719468) / 146097 : Nat) := by
    rw [Int.tdiv_eq_ediv_of_nonneg sign]
    omega
  have doe : ((n : Int) + 719468 - ((n + 719468) / 146097 : Nat) * 146097).toNat =
      (n + 719468) % 146097 := by omega
  simp only [civilFromDays, if_pos sign, era, doe]
  have short : (n + 719468) % 146097 < 146097 := Nat.mod_lt _ (by decide)
  have total := Nat.div_add_mod' (n + 719468) 146097
  generalize (n + 719468) % 146097 = day at *
  generalize (n + 719468) / 146097 = eras at *
  obtain ⟨inside, start, stop, leapDay⟩ := yearOfEra_spec short
  have days := leapYears_era (yearOfEra day) eras inside
  have leap : day - daysBeforeYearOfEra (yearOfEra day) = 365 →
      isLeap (yearOfEra day + eras * 400 + 1) := by
    intro last
    rw [Nat.add_right_comm, isLeap_era]
    exact leapDay (by omega)
  obtain ⟨date, month, year, dayOfMonth, number⟩ := exists_date (by omega) leap
  refine ⟨date, by rw [number, EPOCH_NUMBER]; omega, ?_⟩
  have same : day - (365 * yearOfEra day + yearOfEra day / 4 - yearOfEra day / 100) =
      day - daysBeforeYearOfEra (yearOfEra day) := rfl
  have yoe : (day - day / 1460 + day / 36524 - day / 146096) / 365 = yearOfEra day := rfl
  rw [yoe, same, ← month, ← dayOfMonth, year]
  refine congrArg (fun y => (asI32 y, date.month, date.day)) ?_
  split
  · push_cast
    ring
  · push_cast
    ring

theorem daysBeforeYear_mono {year other : Nat} (le : year ≤ other) :
    daysBeforeYear year ≤ daysBeforeYear other := by
  induction other, le using Nat.le_induction with
  | base => exact Nat.le_refl _
  | succ other _ ih => exact ih.trans (Nat.le_add_right _ _)

/-- The text of a date. -/
def dateText (date : Date) : List Char :=
  decimalField 4 date.year ++ '-' :: (decimalField 2 date.month ++
    '-' :: decimalField 2 date.day)

/-- A day before the year 10000 is written as its date. -/
theorem formatDay_eq {d : Nat} (fourDigits : d + EPOCH_NUMBER < daysBeforeYear 10000) :
    ∃ date : Date, date.number = d + EPOCH_NUMBER ∧ date.year < 10000 ∧
      (formatDay (d * DAY_SECS)).toList = dateText date := by
  obtain ⟨date, number, civil⟩ := civilFromDays_eq d
  have year : date.year < 10000 := by
    by_contra late
    have before := daysBeforeYear_mono (not_lt.mp late)
    have within : daysBeforeYear date.year ≤ date.number := by
      rw [Date.number]
      omega
    omega
  have days : d * DAY_SECS / DAY_SECS = d := Nat.mul_div_cancel d (by decide)
  refine ⟨date, number, year, ?_⟩
  rw [formatDay, days, civil, asI32_of_lt (year.trans (by decide))]
  simp only [formatPadded, dateText, String.toList_ofList]
  rw [if_neg (by omega), Int.natAbs_natCast, List.append_assoc]
  rfl

/-! ## Checked arithmetic -/

/-- No panic; `None` is as good as a value. -/
def Safe {α : Type} (computation : Except Stop α) : Prop := computation ≠ .error .panic

theorem safe_bind {α β : Type} {first : Except Stop α} {continuation : α → Except Stop β} :
    Safe (first >>= continuation) ↔
      Safe first ∧ ∀ value, first = .ok value → Safe (continuation value) := bind_ne_error_iff

@[simp] theorem safe_pure {α : Type} (value : α) : Safe (pure value) := nofun

@[simp] theorem safe_okOr {α : Type} (value : Option α) : Safe (okOr value .none) := by
  simp [Safe, okOr_eq_error]

@[simp] theorem safe_require (condition : Prop) [Decidable condition] :
    Safe (require condition Stop.none) := by
  simp [Safe, require_eq_error]

theorem checked_eq_ok {low high n m : Int} :
    checked low high n = .ok m ↔ (low ≤ n ∧ n ≤ high) ∧ n = m := by
  rw [checked]
  split
  next inside => simp [inside]
  next outside => simp [outside]

@[simp] theorem safe_checked {low high n : Int} :
    Safe (checked low high n) ↔ low ≤ n ∧ n ≤ high := by
  rw [Safe, checked]
  split
  next inside => simp [inside]
  next outside => simp [outside]

@[simp] theorem safe_parseI64 (text : List Char) : Safe (parseI64 text) := safe_okOr _

@[simp] theorem safe_parseU64 (text : List Char) : Safe (parseU64 text) := by
  rw [Safe, parseU64]
  cases Text.parseUnsigned 18446744073709551616 text <;> simp [okOr, Except.map]

theorem parseU64_eq_ok {text : List Char} {n : Int} (read : parseU64 text = .ok n) :
    0 ≤ n ∧ n < 18446744073709551616 := by
  rw [parseU64] at read
  cases found : Text.parseUnsigned 18446744073709551616 text with
  | none =>
    rw [found] at read
    cases read
  | some m =>
    rw [found] at read
    cases read
    exact ⟨Int.natCast_nonneg m, Int.ofNat_lt.mpr (Text.parseUnsigned_lt found)⟩

@[simp] theorem safe_parseThree (separator : Char) (text : List Char) :
    Safe (parseThree separator text) := by
  simp [parseThree, safe_bind, -bind_pure_comp]

theorem parseThree_eq_ok {separator : Char} {text : List Char} {a b c : Int}
    (read : parseThree separator text = .ok (a, b, c)) :
    (0 ≤ a ∧ a < 18446744073709551616) ∧ (0 ≤ b ∧ b < 18446744073709551616) ∧
      0 ≤ c ∧ c < 18446744073709551616 := by
  simp only [parseThree, bind_eq_ok, pure_eq_ok] at read
  obtain ⟨_, -, _, first, _, -, _, second, _, -, _, third, same⟩ := read
  cases same
  exact ⟨parseU64_eq_ok first, parseU64_eq_ok second, parseU64_eq_ok third⟩

def FitsI64 (n : Int) : Prop := -9223372036854775808 ≤ n ∧ n ≤ 9223372036854775807

/-! ## Offsets -/

/-- The text without its offset, and the offset in seconds. -/
def ReadsOffset (s before : List Char) (offset : Int) : Prop :=
  (Text.stripSuffix ['Z'] s = some before ∧ offset = 0) ∨
    Text.stripSuffix ['Z'] s = none ∧ ∃ negative offsetStr oh om hours minutes,
      splitSign s = some (before, negative, offsetStr) ∧
      Text.splitOnce [':'] offsetStr = some (oh, om) ∧
      parseI64 oh = .ok hours ∧ parseI64 om = .ok minutes ∧
      offset = (if negative then -1 else 1) * (hours * 3600 + minutes * 60)

/-- The hours and the minutes of an offset are small enough to be counted in seconds. -/
def OffsetFits (s : List Char) : Prop :=
  Text.stripSuffix ['Z'] s = none → ∀ before negative offsetStr oh om hours,
    splitSign s = some (before, negative, offsetStr) →
      Text.splitOnce [':'] offsetStr = some (oh, om) → parseI64 oh = .ok hours →
        FitsI64 (hours * 3600) ∧ ∀ minutes, parseI64 om = .ok minutes →
          FitsI64 (minutes * 60) ∧ FitsI64 (hours * 3600 + minutes * 60) ∧
            FitsI64 ((if negative then -1 else 1) * (hours * 3600 + minutes * 60))

theorem safe_splitOffset {s : List Char} : Safe (splitOffset s) ↔ OffsetFits s := by
  rw [splitOffset, OffsetFits]
  cases Text.stripSuffix ['Z'] s with
  | some rest => simp [Safe]
  | none =>
    simp only [safe_bind, safe_okOr, okOr_eq_ok, safe_parseI64, checkedI64, safe_checked,
      checked_eq_ok, safe_pure, true_and, forall_const, and_true, implies_true]
    constructor
    · intro safe before negative offsetStr oh om hours signed split read
      obtain ⟨small, later⟩ := safe _ signed _ split _ read
      refine ⟨small, fun minutes read' => ?_⟩
      obtain ⟨small', sum⟩ := later _ ⟨small, rfl⟩ _ read'
      obtain ⟨sumFits, signFits⟩ := sum _ ⟨small', rfl⟩
      exact ⟨small', sumFits, signFits _ ⟨sumFits, rfl⟩⟩
    · rintro fits ⟨before, negative, offsetStr⟩ signed ⟨oh, om⟩ split hours read
      obtain ⟨small, later⟩ := fits _ _ _ _ _ _ signed split read
      refine ⟨small, ?_⟩
      rintro _ ⟨-, rfl⟩ minutes read'
      obtain ⟨small', sumFits, signFits⟩ := later _ read'
      refine ⟨small', ?_⟩
      rintro _ ⟨-, rfl⟩
      refine ⟨sumFits, ?_⟩
      rintro _ ⟨-, rfl⟩
      exact signFits

theorem splitOffset_eq_ok {s before : List Char} {offset : Int} (fits : OffsetFits s) :
    splitOffset s = .ok (before, offset) ↔ ReadsOffset s before offset := by
  rw [splitOffset, ReadsOffset]
  rw [OffsetFits] at fits
  cases suffix : Text.stripSuffix ['Z'] s with
  | some rest =>
    simp only [Except.ok.injEq, Prod.mk.injEq, Option.some.injEq, reduceCtorEq, false_and,
      or_false]
    exact and_congr_right fun _ => eq_comm
  | none =>
    simp only [bind_eq_ok, okOr_eq_ok, checkedI64, checked_eq_ok, pure_eq_ok, reduceCtorEq,
      false_and, false_or, true_and]
    constructor
    · rintro ⟨⟨_, negative, offsetStr⟩, signed, ⟨oh, om⟩, split, hours, read, _, ⟨-, rfl⟩, minutes,
        read', _, ⟨-, rfl⟩, _, ⟨-, rfl⟩, _, ⟨-, rfl⟩, same⟩
      cases same
      exact ⟨_, _, _, _, _, _, signed, split, read, read', rfl⟩
    · rintro ⟨negative, offsetStr, oh, om, hours, minutes, signed, split, read, read', rfl⟩
      obtain ⟨small, later⟩ := fits suffix _ _ _ _ _ _ signed split read
      obtain ⟨small', sumFits, signFits⟩ := later _ read'
      exact ⟨_, signed, _, split, _, read, _, ⟨small, rfl⟩, _, read', _, ⟨small', rfl⟩, _,
        ⟨sumFits, rfl⟩, _, ⟨signFits, rfl⟩, rfl⟩

/-! ## Dates and times -/

theorem maxDayInMonth_eq (year month : Nat) :
    maxDayInMonth year month = monthLength year month := by
  by_cases february : month = 2
  · have leap : ((year : Int) % 4 = 0 ∧ ((year : Int) % 100 ≠ 0 ∨ (year : Int) % 400 = 0)) ↔
        isLeap year := by
      rw [isLeap]
      omega
    rw [maxDayInMonth, monthLength, if_pos february, if_pos (by omega)]
    by_cases leapYear : isLeap year
    · rw [if_pos leapYear, if_pos (leap.mpr leapYear)]
      rfl
    · rw [if_neg leapYear, if_neg (mt leap.mp leapYear)]
      rfl
  · rw [maxDayInMonth, monthLength, if_neg february, if_neg (by omega)]
    by_cases short : month = 4 ∨ month = 6 ∨ month = 9 ∨ month = 11
    · rw [if_pos short, if_pos (by omega)]
      rfl
    · rw [if_neg short, if_neg (by omega)]
      rfl

/-- A date that passes the checks is one of the calendar. -/
theorem exists_date_of_checks {year month day : Int} (yearNat : 0 ≤ year) (dayNat : 0 ≤ day)
    (first : 1 ≤ month) (last : month ≤ 12) (start : day ≠ 0)
    (stop : day ≤ maxDayInMonth year month) :
    ∃ date : Date, (date.year : Int) = year ∧ (date.month : Int) = month ∧
      (date.day : Int) = day := by
  obtain ⟨y, rfl⟩ := Int.eq_ofNat_of_zero_le yearNat
  obtain ⟨m, rfl⟩ := Int.eq_ofNat_of_zero_le (zero_le_one.trans first)
  obtain ⟨d, rfl⟩ := Int.eq_ofNat_of_zero_le dayNat
  rw [maxDayInMonth_eq] at stop
  exact ⟨⟨y, m, d, by omega, by omega, by omega, by omega⟩, rfl, rfl, rfl⟩

/-- The sums of `daysFromDate`, once the year begins in March. -/
def marchDays (y m day : Int) : Except Stop Int := do
  let product ← checkedU64 (365 * y)
  let quarters ← checkedU64 (product + y / 4)
  let centuries ← checkedU64 (quarters - y / 100)
  let eras ← checkedU64 (centuries + y / 400)
  let months ← checkedU64 (eras + (m * 306 + 5) / 10)
  let days ← checkedU64 (months + day)
  checkedU64 (days - 719469)

theorem marchDays_eq_ok {y m day : Nat} {days : Int} (counted : marchDays y m day = .ok days) :
    days = marchNumber y m day - 719469 ∧ 719469 ≤ marchNumber y m day := by
  simp only [marchDays, bind_eq_ok, checkedU64, checked_eq_ok] at counted
  obtain ⟨_, ⟨-, rfl⟩, _, ⟨-, rfl⟩, _, ⟨-, rfl⟩, _, ⟨-, rfl⟩, _, ⟨-, rfl⟩, _, ⟨-, rfl⟩,
    ⟨late, -⟩, rfl⟩ := counted
  have fewer : y / 100 ≤ y / 4 := Nat.div_le_div_left (by decide) (by decide)
  rw [marchNumber_eq, leapYears]
  omega

/-- Far below the bound no sum is too large. -/
theorem marchDays_of_le {y m day : Nat} (late : 719469 ≤ marchNumber y m day)
    (small : marchNumber y m day ≤ 1000000000000000000) :
    marchDays y m day = .ok (marchNumber y m day - 719469) := by
  have fewer : y / 100 ≤ y / 4 := Nat.div_le_div_left (by decide) (by decide)
  rw [marchNumber_eq, leapYears] at late small
  simp only [marchDays, bind_eq_ok, checkedU64, checked_eq_ok]
  refine ⟨_, ⟨?_, rfl⟩, _, ⟨?_, rfl⟩, _, ⟨?_, rfl⟩, _, ⟨?_, rfl⟩, _, ⟨?_, rfl⟩, _, ⟨?_, rfl⟩,
    ?_, ?_⟩
  all_goals try rw [marchNumber_eq, leapYears]
  all_goals omega

theorem daysFromDate_march {date : Date} (late : 3 ≤ date.month) :
    daysFromDate date.year date.month date.day =
      marchDays date.year (date.month - 3 : Nat) date.day := by
  have other : ¬ (date.month : Int) ≤ 2 := by omega
  have month : (date.month : Int) - 3 = (date.month - 3 : Nat) := by omega
  rw [daysFromDate, if_neg other, if_neg other, month]
  rfl

theorem daysFromDate_january {date : Date} (early : date.month ≤ 2) {year : Nat}
    (before : date.year = year + 1) (small : year < 18446744073709551616) :
    daysFromDate date.year date.month date.day =
      marchDays year (date.month + 9 : Nat) date.day := by
  have here : (date.month : Int) ≤ 2 := by omega
  have shifted : checkedU64 ((date.year : Int) - 1) = .ok (year : Int) :=
    checked_eq_ok.mpr (by omega)
  rw [daysFromDate, if_pos here, if_pos here, shifted]
  rfl

/-- The days that are counted from 1970 on. -/
theorem daysFromDate_eq_ok {date : Date} (word : date.year < 18446744073709551616) {days : Int}
    (counted : daysFromDate date.year date.month date.day = .ok days) :
    days = date.number - EPOCH_NUMBER ∧ EPOCH_NUMBER ≤ date.number := by
  rw [EPOCH_NUMBER]
  by_cases late : 3 ≤ date.month
  · rw [daysFromDate_march late] at counted
    obtain ⟨rfl, from1970⟩ := marchDays_eq_ok counted
    rw [date.number_march late]
    omega
  · cases before : date.year with
    | zero =>
      -- the year before the year zero is no word
      have here : (date.month : Int) ≤ 2 := by omega
      have below : checkedU64 ((date.year : Int) - 1) = .error .panic := by
        rw [before]
        rfl
      rw [daysFromDate, if_pos here, below] at counted
      cases counted
    | succ year =>
      rw [daysFromDate_january (by omega) before (by omega)] at counted
      obtain ⟨rfl, from1970⟩ := marchDays_eq_ok counted
      rw [date.number_january (by omega) before]
      omega

theorem daysFromDate_of_le {date : Date} (late : EPOCH_NUMBER ≤ date.number)
    (small : date.number ≤ 1000000000000000000) :
    daysFromDate date.year date.month date.day = .ok (date.number - EPOCH_NUMBER) := by
  rw [EPOCH_NUMBER] at late ⊢
  by_cases march : 3 ≤ date.month
  · have number := date.number_march march
    rw [daysFromDate_march march, marchDays_of_le (by omega) (by omega), number]
    congr 1
    omega
  · cases before : date.year with
    | zero =>
      have first := date.number_of_year_zero (by omega) before
      omega
    | succ year =>
      have number := date.number_january (by omega) before
      have year_le : year ≤ date.number := by
        rw [number, marchNumber]
        omega
      have counted := daysFromDate_january (by omega) before (by omega)
      rw [before] at counted
      rw [counted, marchDays_of_le (by omega) (by omega), number]
      congr 1
      omega

/-! ## What a text reads -/

/-- The date, the time and the offset of a text. -/
structure Reading where
  date : Date
  hour : Nat
  minute : Nat
  second : Nat
  offset : Int

/-- The seconds from 1970 on to the local time. -/
def Reading.seconds (reading : Reading) : Int :=
  (reading.date.number - EPOCH_NUMBER) * 86400 + reading.hour * 3600 + reading.minute * 60 +
    reading.second

/-- The parts of a text are those of a date, a time of the day and an offset. -/
def Reads (s : String) (reading : Reading) : Prop :=
  ∃ datetimeStr datePart timePart,
    ReadsOffset (Text.trim s.toList) datetimeStr reading.offset ∧
    Text.splitOnce ['T'] datetimeStr = some (datePart, timePart) ∧
    parseThree '-' datePart =
      .ok (reading.date.year, reading.date.month, reading.date.day) ∧
    parseThree ':' (timePart.takeWhile (· != '.')) =
      .ok (reading.hour, reading.minute, reading.second) ∧
    reading.hour ≤ 23 ∧ reading.minute ≤ 59 ∧ reading.second ≤ 59

/-- The seconds of the local time are those of a date from 1970 on and fit into a word, and
so does what the offset leaves of them. -/
def Reading.Fits (reading : Reading) : Prop :=
  EPOCH_NUMBER ≤ reading.date.number ∧ reading.seconds < 18446744073709551616 ∧
    FitsI64 (asI64 reading.seconds - reading.offset)

/-- Every number that the text leads to fits into its type. -/
structure Representable (s : String) : Prop where
  offset : OffsetFits (Text.trim s.toList)
  instant : ∀ reading, Reads s reading → reading.Fits

/-- Dates whose seconds fit are far below the bounds of the sums. -/
theorem Reading.Fits.number_le {reading : Reading} (fits : reading.Fits) :
    reading.date.number ≤ 1000000000000000000 := by
  obtain ⟨-, small, -⟩ := fits
  rw [Reading.seconds, EPOCH_NUMBER] at small
  omega

/-- The end of `parse_iso8601`, where everything has been read. -/
def utcSeconds (reading : Reading) : Except Stop Int := do
  let days ← daysFromDate reading.date.year reading.date.month reading.date.day
  let daySecs ← checkedU64 (days * 86400)
  let hourSecs ← checkedU64 (daySecs + reading.hour * 3600)
  let minuteSecs ← checkedU64 (hourSecs + reading.minute * 60)
  let secs ← checkedU64 (minuteSecs + reading.second)
  let utcSecs ← checkedI64 (asI64 secs - reading.offset)
  require (0 ≤ utcSecs) Stop.none
  pure utcSecs

/-- Sums are wrong in one way only. -/
theorem checked_ne_none (low high n : Int) : checked low high n ≠ .error .none := by
  rw [checked]
  split
  · nofun
  · nofun

theorem exists_days_of_safe {date : Date}
    (safe : Safe (daysFromDate date.year date.month date.day)) :
    ∃ days, daysFromDate date.year date.month date.day = .ok days := by
  cases counted : daysFromDate date.year date.month date.day with
  | ok days => exact ⟨days, rfl⟩
  | error stop =>
    cases stop with
    | panic => exact absurd counted safe
    | none =>
      have sums : ∀ y m day, marchDays y m day ≠ .error .none := by
        intro y m day
        simp only [marchDays, bind_ne_error_iff, checkedU64]
        simp [checked_ne_none]
      rw [daysFromDate] at counted
      split at counted
      · rcases bind_eq_error.mp counted with below | ⟨y, -, sum⟩
        · exact absurd below (checked_ne_none _ _ _)
        · exact absurd sum (sums _ _ _)
      · exact absurd counted (sums _ _ _)

theorem utcSeconds_of_fits {reading : Reading} (fits : reading.Fits)
    (positive : 0 ≤ asI64 reading.seconds - reading.offset) :
    utcSeconds reading = .ok (asI64 reading.seconds - reading.offset) := by
  obtain ⟨late, small, instant⟩ := id fits
  rw [Reading.seconds] at small
  simp only [utcSeconds, daysFromDate_of_le late fits.number_le, bind_eq_ok, Except.ok.injEq,
    exists_eq_left', checkedU64, checkedI64, checked_eq_ok, require_eq_ok, pure_eq_ok]
  refine ⟨_, ⟨by omega, rfl⟩, _, ⟨by omega, rfl⟩, _, ⟨by omega, rfl⟩, _, ⟨by omega, rfl⟩, _,
    ⟨instant, rfl⟩, (), positive, rfl⟩

theorem safe_utcSeconds {reading : Reading} (word : reading.date.year < 18446744073709551616) :
    Safe (utcSeconds reading) ↔ reading.Fits := by
  constructor
  · intro safe
    simp only [utcSeconds, safe_bind, checkedU64, checkedI64, safe_checked, checked_eq_ok,
      safe_require, safe_pure] at safe
    obtain ⟨counts, later⟩ := safe
    obtain ⟨days, counted⟩ := exists_days_of_safe counts
    obtain ⟨daySecs, later⟩ := later _ counted
    obtain ⟨hourSecs, later⟩ := later _ ⟨daySecs, rfl⟩
    obtain ⟨minuteSecs, later⟩ := later _ ⟨hourSecs, rfl⟩
    obtain ⟨secs, later⟩ := later _ ⟨minuteSecs, rfl⟩
    obtain ⟨instant, -⟩ := later _ ⟨secs, rfl⟩
    obtain ⟨rfl, late⟩ := daysFromDate_eq_ok word counted
    exact ⟨late, by rw [Reading.seconds]; omega, instant⟩
  · intro fits
    obtain ⟨late, small, instant⟩ := id fits
    rw [Reading.seconds] at small
    simp only [utcSeconds, safe_bind, daysFromDate_of_le late fits.number_le, checkedU64,
      checkedI64, safe_checked, checked_eq_ok, safe_require, safe_pure]
    refine ⟨fun panicked => ?_, ?_⟩
    · cases panicked
    rintro _ ⟨⟩
    refine ⟨by omega, ?_⟩
    rintro _ ⟨-, rfl⟩
    refine ⟨by omega, ?_⟩
    rintro _ ⟨-, rfl⟩
    refine ⟨by omega, ?_⟩
    rintro _ ⟨-, rfl⟩
    refine ⟨by omega, ?_⟩
    rintro _ ⟨-, rfl⟩
    refine ⟨instant, ?_⟩
    rintro _ -
    exact ⟨trivial, fun _ _ => trivial⟩

/-- What is read is below the bound of a word. -/
theorem Reads.word {s : String} {reading : Reading} (reads : Reads s reading) :
    reading.date.year < 18446744073709551616 := by
  obtain ⟨_, _, _, -, -, date, -⟩ := reads
  exact Int.ofNat_lt.mp (parseThree_eq_ok date).1.2

/-- `parse_iso8601` up to the sums. -/
theorem parseIso8601_of_reads {s : String} {reading : Reading} (reads : Reads s reading)
    (offset : OffsetFits (Text.trim s.toList)) : parseIso8601 s = utcSeconds reading := by
  obtain ⟨datetimeStr, datePart, timePart, zone, parts, date, time, hour, minute, second⟩ := reads
  have firstMonth := reading.date.month_pos
  have lastMonth := reading.date.month_le
  have firstDay := reading.date.day_pos
  have lastDay : (reading.date.day : Int) ≤
      maxDayInMonth reading.date.year reading.date.month := by
    rw [maxDayInMonth_eq]
    exact Int.ofNat_le.mpr reading.date.day_le
  have ranges : (1 : Int) ≤ reading.date.month ∧ (reading.date.month : Int) ≤ 12 ∧
      (reading.date.day : Int) ≠ 0 ∧ (reading.hour : Int) ≤ 23 ∧ (reading.minute : Int) ≤ 59 ∧
      (reading.second : Int) ≤ 59 := by omega
  rw [parseIso8601, (splitOffset_eq_ok offset).mpr zone]
  simp only [ok_bind, okOr_eq_ok.mpr parts, date, time,
    (require_eq_ok (u := ⟨⟩)).mpr ranges, (require_eq_ok (u := ⟨⟩)).mpr lastDay]
  rfl

/-- A text is safe if and only if what it reads fits. -/
theorem safe_parseIso8601 {s : String} : Safe (parseIso8601 s) ↔ Representable s := by
  constructor
  · intro safe
    have offset : OffsetFits (Text.trim s.toList) := by
      rw [parseIso8601, safe_bind, safe_splitOffset] at safe
      exact safe.1
    refine ⟨offset, fun reading reads => ?_⟩
    rw [parseIso8601_of_reads reads offset] at safe
    exact (safe_utcSeconds reads.word).mp safe
  · intro representable
    have offset := representable.offset
    rw [parseIso8601, safe_bind, safe_splitOffset]
    refine ⟨offset, ?_⟩
    rintro ⟨datetimeStr, offsetSecs⟩ zone
    have readsZone := (splitOffset_eq_ok offset).mp zone
    simp only [safe_bind, safe_okOr, okOr_eq_ok, safe_parseThree, safe_require, require_eq_ok,
      true_and]
    rintro ⟨datePart, timePart⟩ parts ⟨year, month, day⟩ readsDate ⟨hour, minute, second⟩
      readsTime _ ⟨firstMonth, lastMonth, firstDay, lastHour, lastMinute, lastSecond⟩ _ lastDay
    obtain ⟨⟨yearNat, -⟩, -, dayNat, -⟩ := parseThree_eq_ok readsDate
    obtain ⟨⟨hourNat, -⟩, ⟨minuteNat, -⟩, secondNat, -⟩ := parseThree_eq_ok readsTime
    obtain ⟨date, rfl, rfl, rfl⟩ :=
      exists_date_of_checks yearNat dayNat firstMonth lastMonth firstDay lastDay
    obtain ⟨h, rfl⟩ := Int.eq_ofNat_of_zero_le hourNat
    obtain ⟨min, rfl⟩ := Int.eq_ofNat_of_zero_le minuteNat
    obtain ⟨sec, rfl⟩ := Int.eq_ofNat_of_zero_le secondNat
    -- what has been checked is a reading, so the sums are those of its seconds
    have reads : Reads s ⟨date, h, min, sec, offsetSecs⟩ :=
      ⟨datetimeStr, datePart, timePart, readsZone, parts, readsDate, readsTime,
        Int.ofNat_le.mp lastHour, Int.ofNat_le.mp lastMinute, Int.ofNat_le.mp lastSecond⟩
    have sums := (safe_utcSeconds reads.word).mpr (representable.instant _ reads)
    simp only [utcSeconds, safe_bind, safe_require, require_eq_ok, true_and] at sums
    exact sums

/-! ## Timestamps -/

/-- `Z`, or an offset with its sign, in hours and minutes of two digits each. -/
inductive Zone where
  | utc
  | offset (negative : Bool) (hours minutes : Fin 100)

def Zone.text : Zone → List Char
  | utc => ['Z']
  | offset negative hours minutes =>
      (if negative then '-' else '+') ::
        (decimalField 2 hours.val ++ ':' :: decimalField 2 minutes.val)

/-- How far the local time is ahead, in seconds. -/
def Zone.seconds : Zone → Int
  | utc => 0
  | offset negative hours minutes =>
      (if negative then -1 else 1) * ((hours.val : Int) * 3600 + (minutes.val : Int) * 60)

theorem Zone.neg_le_seconds (zone : Zone) : -362340 ≤ zone.seconds := by
  cases zone with
  | utc => simp [seconds]
  | offset negative hours minutes =>
    have hoursBound := hours.isLt
    have minutesBound := minutes.isLt
    rw [seconds]
    split
    · omega
    · omega

/-- `YYYY-MM-DDThh:mm:ss[.f](Z|+hh:mm|-hh:mm)`, with a date of the Gregorian calendar. -/
structure Timestamp where
  date : Date
  hour : Nat
  minute : Nat
  second : Nat
  /-- The digits of the fraction, when there is one. -/
  fraction : Option (List Char)
  zone : Zone
  year_lt : date.year < 10000
  hour_le : hour ≤ 23
  minute_le : minute ≤ 59
  second_le : second ≤ 59
  digits : ∀ written ∈ fraction, ∀ c ∈ written, c.isDigit = true

def Timestamp.fractionText (timestamp : Timestamp) : List Char :=
  match timestamp.fraction with
  | none => []
  | some written => '.' :: written

def Timestamp.time (timestamp : Timestamp) : List Char :=
  decimalField 2 timestamp.hour ++ ':' :: (decimalField 2 timestamp.minute ++
    ':' :: decimalField 2 timestamp.second)

/-- The text without the zone. -/
def Timestamp.localText (timestamp : Timestamp) : List Char :=
  dateText timestamp.date ++ 'T' :: (timestamp.time ++ timestamp.fractionText)

def Timestamp.text (timestamp : Timestamp) : List Char :=
  timestamp.localText ++ timestamp.zone.text

def Timestamp.reading (timestamp : Timestamp) : Reading where
  date := timestamp.date
  hour := timestamp.hour
  minute := timestamp.minute
  second := timestamp.second
  offset := timestamp.zone.seconds

/-- The Unix time. -/
def Timestamp.instant (timestamp : Timestamp) : Int :=
  timestamp.reading.seconds - timestamp.zone.seconds

theorem notMem_decimalField {c : Char} (other : c.isDigit = false) (width n : Nat) :
    c ∉ decimalField width n := by
  intro member
  rw [isDigit_of_mem_decimalField member] at other
  cases other

theorem parseU64_decimalField (width : Nat) {n : Nat} (small : n < 18446744073709551616) :
    parseU64 (decimalField width n) = .ok n := by
  rw [parseU64, Text.parseUnsigned_decimalField width small]
  rfl

theorem parseI64_decimalField (width : Nat) {n : Nat} (small : n < 9223372036854775808) :
    parseI64 (decimalField width n) = .ok n := by
  rw [parseI64, Text.parseSigned_decimalField width small]
  rfl

/-- Three numbers between separators are read back. -/
theorem parseThree_decimalFields {separator : Char} (sign : separator.isDigit = false)
    (u v w : Nat) {a b c : Nat} (first : a < 18446744073709551616)
    (second : b < 18446744073709551616) (third : c < 18446744073709551616) :
    parseThree separator (decimalField u a ++ separator :: (decimalField v b ++
      separator :: decimalField w c)) = .ok (a, b, c) := by
  have parts : (decimalField u a ++ separator :: (decimalField v b ++
      separator :: decimalField w c)).splitOn separator =
        [decimalField u a, decimalField v b, decimalField w c] := by
    rw [List.splitOn_append_cons_self_of_not_mem (notMem_decimalField sign u a),
      List.splitOn_append_cons_self_of_not_mem (notMem_decimalField sign v b),
      List.splitOn_eq_singleton (notMem_decimalField sign w c)]
  rw [parseThree, parts]
  simp only [bind_eq_ok, okOr_eq_ok, pure_eq_ok]
  exact ⟨_, rfl, _, parseU64_decimalField u first, _, rfl, _, parseU64_decimalField v second, _,
    rfl, _, parseU64_decimalField w third, rfl⟩

/-- What stands before the zone has no sign of a zone. -/
theorem Timestamp.notMem_fractionText (timestamp : Timestamp) {c : Char}
    (other : c.isDigit = false) (point : c ≠ '.') : c ∉ timestamp.fractionText := by
  rw [fractionText]
  cases fraction : timestamp.fraction with
  | none => simp
  | some written =>
    intro member
    rcases List.mem_cons.mp member with here | later
    · exact point here
    · rw [timestamp.digits written fraction c later] at other
      cases other

theorem notMem_dateText {c : Char} (other : c.isDigit = false) (dash : c ≠ '-') (date : Date) :
    c ∉ dateText date := by
  simp [dateText, notMem_decimalField other, dash]

theorem Timestamp.notMem_time (timestamp : Timestamp) {c : Char} (other : c.isDigit = false)
    (colon : c ≠ ':') : c ∉ timestamp.time := by
  simp [time, notMem_decimalField other, colon]

/-- A zone that is not `Z` is found at its sign. -/
theorem Timestamp.splitSign_text (timestamp : Timestamp) {negative : Bool}
    {hours minutes : Fin 100} (zone : timestamp.zone = .offset negative hours minutes) :
    splitSign timestamp.text = some (timestamp.localText, negative,
      decimalField 2 hours.val ++ ':' :: decimalField 2 minutes.val) := by
  rw [text, zone, Zone.text, splitSign]
  have plus : '+' ∉ decimalField 2 hours.val ++ ':' :: decimalField 2 minutes.val := by
    simp [notMem_decimalField]
  have minus : '-' ∉ decimalField 2 hours.val ++ ':' :: decimalField 2 minutes.val := by
    simp [notMem_decimalField]
  cases negative with
  | false =>
    rw [if_neg Bool.false_ne_true, Text.splitLast_append plus]
  | true =>
    have unsigned : '+' ∉ timestamp.localText := by
      simp [localText, notMem_dateText, notMem_time, notMem_fractionText]
    have absent : '+' ∉ timestamp.localText ++
        '-' :: (decimalField 2 hours.val ++ ':' :: decimalField 2 minutes.val) := by
      simp [unsigned, notMem_decimalField]
    have date : ∀ c ∈ dateText timestamp.date, (c != 'T') = true := by
      intro c member
      rw [bne_iff_ne]
      rintro rfl
      exact notMem_dateText (by decide) (by decide) _ member
    rw [if_pos rfl, Text.splitLast_of_notMem absent, localText, List.append_assoc,
      List.cons_append, List.span_eq_takeWhile_dropWhile, List.takeWhile_append_of_pos date,
      List.dropWhile_append_of_pos date, List.takeWhile_cons_of_neg (by simp),
      List.dropWhile_cons_of_neg (by simp), ← List.cons_append, List.append_nil]
    simp only [Text.splitLast_append minus, Option.map_some]

theorem isDigit_of_getLast {c : Char} (before : List Char) (width n : Nat)
    (last : c ∈ (before ++ decimalField width n).getLast?) : c.isDigit = true := by
  rw [List.getLast?_append_of_ne_nil _ (decimalField_ne_nil width n)] at last
  exact isDigit_of_mem_decimalField (List.mem_of_getLast? last)

/-- An offset ends with a digit. -/
theorem Zone.isDigit_of_getLast {c : Char} {negative : Bool} {hours minutes : Fin 100}
    (before : List Char) (last : c ∈ (before ++ (offset negative hours minutes).text).getLast?) :
    c.isDigit = true := by
  apply Gateway.isDigit_of_getLast
    (before ++ (if negative then '-' else '+') :: (decimalField 2 hours.val ++ [':'])) 2 minutes.val
  simpa [text] using last

/-- The offset is read from the text. -/
theorem Timestamp.readsOffset (timestamp : Timestamp) :
    ReadsOffset timestamp.text timestamp.localText timestamp.zone.seconds := by
  cases zone : timestamp.zone with
  | utc =>
    refine Or.inl ⟨?_, rfl⟩
    rw [text, zone]
    exact Text.stripSuffix_append timestamp.localText ['Z']
  | offset negative hours minutes =>
    have unsuffixed : timestamp.text.getLast? ≠ some 'Z' := by
      intro last
      rw [text, zone] at last
      exact absurd (Zone.isDigit_of_getLast _ last) (by decide)
    exact Or.inr ⟨Text.stripSuffix_of_getLast unsuffixed, negative, _, _, _, _, _,
      timestamp.splitSign_text zone, Text.splitOnce_append (notMem_decimalField (by decide) _ _) _,
      parseI64_decimalField 2 (hours.isLt.trans (by decide)),
      parseI64_decimalField 2 (minutes.isLt.trans (by decide)), rfl⟩

/-- The text neither starts nor ends with white space. -/
theorem Timestamp.trim_text (timestamp : Timestamp) :
    Text.trim timestamp.text = timestamp.text := by
  apply Text.trim_eq_self
  · intro c first
    obtain ⟨rest, start⟩ : ∃ rest, timestamp.text = decimalField 4 timestamp.date.year ++ rest := by
      simp only [text, localText, dateText, List.append_assoc]
      exact ⟨_, rfl⟩
    rw [start, List.head?_append_of_ne_nil _ (decimalField_ne_nil 4 _)] at first
    exact Text.isWhitespace_of_isDigit (isDigit_of_mem_decimalField (List.mem_of_mem_head? first))
  · intro c last
    rw [text] at last
    cases zone : timestamp.zone with
    | utc =>
      rw [zone, Zone.text, List.getLast?_concat] at last
      cases last
      rfl
    | offset negative hours minutes =>
      rw [zone] at last
      exact Text.isWhitespace_of_isDigit (Zone.isDigit_of_getLast _ last)

/-- The parts of a timestamp are read from its text. -/
theorem Timestamp.reads (timestamp : Timestamp) :
    Reads (.ofList timestamp.text) timestamp.reading := by
  have year := timestamp.year_lt
  have month := timestamp.date.month_le
  have day := timestamp.date.day_le_thirtyOne
  have hour := timestamp.hour_le
  have minute := timestamp.minute_le
  have second := timestamp.second_le
  have clock : (timestamp.time ++ timestamp.fractionText).takeWhile (· != '.') =
      timestamp.time := by
    have before : ∀ c ∈ timestamp.time, (c != '.') = true := by
      intro c member
      rw [bne_iff_ne]
      rintro rfl
      exact timestamp.notMem_time (by decide) (by decide) member
    rw [List.takeWhile_append_of_pos before, fractionText]
    cases timestamp.fraction with
    | none => simp
    | some written => simp
  refine ⟨timestamp.localText, dateText timestamp.date, _, ?_,
    Text.splitOnce_append (notMem_dateText (by decide) (by decide) _) _,
    parseThree_decimalFields (by decide) 4 2 2 (by omega) (by omega) (by omega), ?_,
    hour, minute, second⟩
  · rw [String.toList_ofList, timestamp.trim_text]
    exact timestamp.readsOffset
  · rw [clock]
    exact parseThree_decimalFields (by decide) 2 2 2 (by omega) (by omega) (by omega)

theorem Timestamp.number_le (timestamp : Timestamp) : timestamp.date.number ≤ 4000000 := by
  have year := timestamp.year_lt
  have month := timestamp.date.month_le
  have day := timestamp.date.day_le_thirtyOne
  by_cases late : 3 ≤ timestamp.date.month
  · rw [timestamp.date.number_march late, marchNumber]
    omega
  · cases before : timestamp.date.year with
    | zero =>
      have first := timestamp.date.number_of_year_zero (by omega) before
      omega
    | succ year =>
      rw [timestamp.date.number_january (by omega) before, marchNumber]
      omega

/-- Two digits of hours and of minutes are few seconds. -/
theorem Timestamp.offsetFits (timestamp : Timestamp) : OffsetFits timestamp.text := by
  cases zone : timestamp.zone with
  | utc =>
    intro unsuffixed
    rw [text, zone, Zone.text, Text.stripSuffix_append] at unsuffixed
    cases unsuffixed
  | offset negative hours minutes =>
    intro _ before sign offsetStr oh om h split parts read
    rw [timestamp.splitSign_text zone] at split
    cases split
    rw [Text.splitOnce_append (notMem_decimalField (by decide) _ _)] at parts
    cases parts
    rw [parseI64_decimalField 2 (hours.isLt.trans (by decide))] at read
    cases read
    have hoursBound := hours.isLt
    have minutesBound := minutes.isLt
    simp only [FitsI64]
    refine ⟨by omega, fun m read => ?_⟩
    rw [parseI64_decimalField 2 (minutes.isLt.trans (by decide))] at read
    cases read
    refine ⟨by omega, by omega, ?_⟩
    split
    · omega
    · omega

/-- A timestamp with a local date from 1970 on is read as its Unix time. -/
theorem Timestamp.parseIso8601_text (timestamp : Timestamp)
    (late : EPOCH_NUMBER ≤ timestamp.date.number) (positive : 0 ≤ timestamp.instant) :
    parseIso8601 (.ofList timestamp.text) = .ok timestamp.instant := by
  have number := timestamp.number_le
  have hour := timestamp.hour_le
  have minute := timestamp.minute_le
  have second := timestamp.second_le
  have small : timestamp.reading.seconds ≤ 400000000000 := by
    simp only [Reading.seconds, reading]
    omega
  have same : asI64 timestamp.reading.seconds = timestamp.reading.seconds :=
    if_pos (small.trans (by decide))
  have offset : OffsetFits (Text.trim (String.ofList timestamp.text).toList) := by
    rw [String.toList_ofList, timestamp.trim_text]
    exact timestamp.offsetFits
  have fits : timestamp.reading.Fits := by
    refine ⟨late, by omega, ?_⟩
    have zone := timestamp.zone.neg_le_seconds
    rw [same, FitsI64]
    rw [instant] at positive
    simp only [reading] at *
    omega
  rw [instant] at positive ⊢
  rw [parseIso8601_of_reads timestamp.reads offset,
    utcSeconds_of_fits fits (by rw [same]; exact positive), same]
  rfl

/-- No panic, and a timestamp from 1970 on is read as its Unix time. -/
structure ReadsTimestamps (s : String) : Prop where
  safe : parseIso8601 s ≠ .error .panic
  instant : ∀ timestamp : Timestamp, s = .ofList timestamp.text → 0 ≤ timestamp.instant →
    parseIso8601 s = .ok timestamp.instant

/-- The parser does what it should if and only if the numbers of the text are
representable. -/
theorem readsTimestamps_iff (s : String) : ReadsTimestamps s ↔ Representable s := by
  constructor
  · intro meets
    exact safe_parseIso8601.mp meets.safe
  · intro representable
    refine ⟨safe_parseIso8601.mpr representable, ?_⟩
    rintro timestamp rfl positive
    have fits := representable.instant _ timestamp.reads
    exact timestamp.parseIso8601_text fits.1 positive

/-- An hour after the epoch, written two hours behind it. -/
theorem not_readsTimestamps :
    parseIso8601 "1969-12-31T23:00:00-02:00" = .error .panic ∧
      ¬ ∀ s : String, ReadsTimestamps s := by
  have panics : parseIso8601 "1969-12-31T23:00:00-02:00" = .error .panic := by decide
  exact ⟨panics, fun always => (always "1969-12-31T23:00:00-02:00").safe panics⟩

/-! ## Days written and read -/

/-- The first second of a date. -/
def midnight (date : Date) (year : date.year < 10000) : Timestamp where
  date
  hour := 0
  minute := 0
  second := 0
  fraction := none
  zone := .utc
  year_lt := year
  hour_le := Nat.zero_le 23
  minute_le := Nat.zero_le 59
  second_le := Nat.zero_le 59
  digits := fun written member => absurd member (Option.not_mem_none written)

/-- A day that is written is read as its first second. -/
theorem parseIso8601_formatDay {d : Nat}
    (fourDigits : d + EPOCH_NUMBER < daysBeforeYear 10000) :
    parseIso8601 (formatDay (d * DAY_SECS) ++ "T00:00:00Z") = .ok (d * DAY_SECS : Nat) := by
  obtain ⟨date, number, year, written⟩ := formatDay_eq fourDigits
  have zeros : decimalField 2 0 = ['0', '0'] := by decide
  have text : formatDay (d * DAY_SECS) ++ "T00:00:00Z" = .ofList (midnight date year).text := by
    rw [← String.toList_inj, String.toList_append, written, String.toList_ofList]
    simp only [Timestamp.text, Timestamp.localText, Timestamp.time, Timestamp.fractionText,
      midnight, Zone.text, zeros]
    simp
  have late : EPOCH_NUMBER ≤ date.number := by omega
  have instant : (midnight date year).instant = (d * DAY_SECS : Nat) := by
    simp only [Timestamp.instant, Reading.seconds, Timestamp.reading, midnight, number, DAY_SECS,
      Zone.seconds]
    omega
  rw [text, (midnight date year).parseIso8601_text late (by omega), instant]

/-- The 29th of February 2000. -/
theorem parseIso8601_formatDay_leap :
    parseIso8601 (formatDay (11016 * DAY_SECS) ++ "T00:00:00Z") =
      .ok (11016 * DAY_SECS : Nat) :=
  parseIso8601_formatDay (by decide +kernel)

end ZkSettle.Gateway
