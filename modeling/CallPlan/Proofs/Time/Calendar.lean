import CallPlan.Time.DateTime

/-!
# CallPlan.Proofs.Time.Calendar

Day numbers and the dates that they stand for.

* An era has 400 years, which start in March. Its common days are counted without the leap days
  before them, and a day lies in the year that has as many years of common days before it
  (`year_of_era`).
* So the date of a day number from the year 1 to the year 9999 is on the calendar, and has this day
  number (`exists_date`).
-/

namespace CallPlan

namespace DateTime

/-! ## Years of an era -/

/-- The day of an era on which a year starts: a year has 365 days, and the leap days of the years
before it come first. -/
def yearStart (year : Nat) : Nat := 365 * year + year / 4 - year / 100

/-- The days of an era up to a day, without leap days. -/
def commonDays (day : Nat) : Nat := day - day / 1460 + day / 36524 - day / 146096

theorem commonDays_le_succ (day : Nat) : commonDays day ≤ commonDays (day + 1) := by
  unfold commonDays
  omega

theorem commonDays_mono {day later : Nat} (le : day ≤ later) :
    commonDays day ≤ commonDays later := by
  induction le with
  | refl => exact Nat.le_refl _
  | step _ ih => exact Nat.le_trans ih (commonDays_le_succ _)

theorem yearStart_succ_le (year : Nat) : yearStart (year + 1) ≤ yearStart year + 366 := by
  unfold yearStart
  omega

/-- A year is longer by a day if the next one, in which its leap day is, has one. -/
theorem isLeapYear_of_yearStart {year : Nat} (long : yearStart year + 365 < yearStart (year + 1)) :
    isLeapYear (year + 1) = true := by
  simp only [isLeapYear, Bool.and_eq_true, Bool.or_eq_true, decide_eq_true_eq]
  unfold yearStart at long
  omega

/-- When a year starts there have been as many years of common days. -/
theorem le_commonDays_yearStart : ∀ year < 400, 365 * year ≤ commonDays (yearStart year) := by
  decide +kernel

/-- On the day before the next year there have been no more. -/
theorem commonDays_lt_of_yearEnd :
    ∀ year < 400, commonDays (yearStart (year + 1) - 1) < 365 * (year + 1) := by
  decide +kernel

/-- A day of an era lies in the year that has as many years of common days before it. Only the year
before a leap day has a day more. -/
theorem year_of_era {day : Nat} (h : day < 146097) :
    commonDays day / 365 < 400 ∧ ∃ dayOfYear, day = yearStart (commonDays day / 365) + dayOfYear ∧
      dayOfYear ≤ 365 ∧ (dayOfYear = 365 → isLeapYear (commonDays day / 365 + 1) = true) := by
  have few : commonDays day < 146000 :=
    Nat.lt_of_le_of_lt (commonDays_mono (Nat.le_of_lt_succ h)) (by decide)
  generalize year_eq : commonDays day / 365 = year
  have started : yearStart year ≤ day := by
    cases year with
    | zero => exact Nat.zero_le day
    | succ before =>
        refine Nat.not_lt.1 fun later => ?_
        have most := commonDays_mono (Nat.le_sub_one_of_lt later)
        have ended := commonDays_lt_of_yearEnd before (by omega)
        omega
  refine ⟨by omega, day - yearStart year, by omega, ?_⟩
  rcases Nat.lt_or_ge year 399 with another | last
  · have ended : day < yearStart (year + 1) := by
      refine Nat.not_le.1 fun later => ?_
      have least := commonDays_mono later
      have begun := le_commonDays_yearStart (year + 1) (by omega)
      omega
    have days := yearStart_succ_le year
    exact ⟨by omega, fun leap => isLeapYear_of_yearStart (by omega)⟩
  · obtain rfl : year = 399 := by omega
    have start : yearStart 399 = 145731 := rfl
    exact ⟨by omega, fun _ => rfl⟩

/-! ## Months of a year -/

/-- The month of a day of a year, counted from March. -/
def monthOf (dayOfYear : Nat) : Nat := (5 * dayOfYear + 2) / 153

/-- The day of the year on which a month starts. -/
def monthStart (fromMarch : Nat) : Nat := (153 * fromMarch + 2) / 5

/-- The place of a month in a calendar year. -/
def calendarMonth (fromMarch : Nat) : Nat :=
  if fromMarch < 10 then fromMarch + 3 else fromMarch - 9

/-- The calendar year of a month in a year of an era. -/
def calendarYear (era year fromMarch : Nat) : Nat :=
  year + 400 * era + if fromMarch < 10 then 0 else 1

/-- Every day of a year but the leap day lies in its month as long as this is in every year. -/
theorem month_of_year : ∀ dayOfYear < 366,
    monthOf dayOfYear ≤ 11 ∧ monthStart (monthOf dayOfYear) ≤ dayOfYear ∧
      (dayOfYear - monthStart (monthOf dayOfYear) <
          daysInMonth 1 (calendarMonth (monthOf dayOfYear)) ∨
        dayOfYear = 365) := by
  decide +kernel

/-- No month is shorter than in a year without a leap day. -/
theorem daysInMonth_one_le (year month : Nat) : daysInMonth 1 month ≤ daysInMonth year month := by
  unfold daysInMonth
  split
  · have common : isLeapYear 1 = false := rfl
    rw [common]
    cases isLeapYear year <;> decide
  · exact Nat.le_refl _

/-! ## Dates -/

/-- A date of a year, as the calendar has it. -/
structure IsDate (year month day : Nat) : Prop where
  months : 1 ≤ month ∧ month ≤ 12
  days : 1 ≤ day ∧ day ≤ daysInMonth year month

theorem isLeapYear_add_era (year era : Nat) : isLeapYear (year + 400 * era) = isLeapYear year := by
  have fours : (year + 400 * era) % 4 = year % 4 := by omega
  have hundreds : (year + 400 * era) % 100 = year % 100 := by omega
  have eras : (year + 400 * era) % 400 = year % 400 := by omega
  rw [isLeapYear, fours, hundreds, eras, isLeapYear]

/-- The number of a day of a month of a year of an era. -/
theorem dayNumber_of_month {era year fromMarch : Nat} (few : year < 400) (months : fromMarch ≤ 11)
    (day : Nat) :
    dayNumber (calendarYear era year fromMarch) (calendarMonth fromMarch) day
      = 146097 * era + (yearStart year + monthStart fromMarch + day : Nat) - 719469 := by
  unfold dayNumber calendarYear calendarMonth yearStart monthStart
  simp only [Int.fdiv_eq_ediv_of_nonneg _ (by decide : (0 : Int) ≤ 4),
    Int.fdiv_eq_ediv_of_nonneg _ (by decide : (0 : Int) ≤ 5),
    Int.fdiv_eq_ediv_of_nonneg _ (by decide : (0 : Int) ≤ 100),
    Int.fdiv_eq_ediv_of_nonneg _ (by decide : (0 : Int) ≤ 400)]
  split
  next early =>
    have march : ¬ fromMarch + 3 ≤ 2 := by omega
    simp only [march, if_false]
    omega
  next late =>
    have january : fromMarch - 9 ≤ 2 := by omega
    simp only [january, if_true]
    omega

/-- The date of a day of an era. -/
theorem ofDayNumber_of_era (era : Nat) {day dayOfYear : Nat} (small : day < 146097)
    (place : day = yearStart (commonDays day / 365) + dayOfYear) (months : monthOf dayOfYear ≤ 11) :
    ofDayNumber (146097 * era + day - 719468) =
      ((calendarYear era (commonDays day / 365) (monthOf dayOfYear) : Int),
        calendarMonth (monthOf dayOfYear), dayOfYear - monthStart (monthOf dayOfYear) + 1) := by
  have shifted : (146097 * era + day - 719468 : Int) + 719468 = 146097 * era + day := by omega
  have era_eq : (146097 * era + day : Int).fdiv 146097 = era := by
    rw [Int.fdiv_eq_ediv_of_nonneg _ (by decide)]
    omega
  have day_eq : ((146097 * era + day : Int).fmod 146097).toNat = day := by
    rw [Int.fmod_eq_emod_of_nonneg _ (by decide)]
    omega
  have rest : day - yearStart (commonDays day / 365) = dayOfYear := by omega
  unfold ofDayNumber
  simp only [shifted, era_eq, day_eq]
  rw [← commonDays, ← yearStart, rest, ← monthOf, ← calendarMonth, ← monthStart]
  generalize monthOf dayOfYear = fromMarch at months ⊢
  congr 1
  unfold calendarYear calendarMonth
  split
  next early =>
    have march : ¬ fromMarch + 3 ≤ 2 := by omega
    rw [if_neg march]
    omega
  next late =>
    have january : fromMarch - 9 ≤ 2 := by omega
    rw [if_pos january]
    omega

/-- January and February come after the first 306 days from March. -/
theorem ten_le_monthOf_iff {dayOfYear : Nat} : 10 ≤ monthOf dayOfYear ↔ 306 ≤ dayOfYear := by
  unfold monthOf
  omega

/-- A day of a year of an era is on the calendar. -/
theorem isDate_of_era {era year dayOfYear : Nat} (short : dayOfYear ≤ 365)
    (leap : dayOfYear = 365 → isLeapYear (year + 1) = true) :
    IsDate (calendarYear era year (monthOf dayOfYear)) (calendarMonth (monthOf dayOfYear))
      (dayOfYear - monthStart (monthOf dayOfYear) + 1) := by
  obtain ⟨months, started, inside⟩ := month_of_year dayOfYear (by omega)
  refine ⟨?_, Nat.le_add_left 1 _, ?_⟩
  · unfold calendarMonth
    split <;> omega
  · rcases inside with inside | rfl
    · exact Nat.le_trans inside (daysInMonth_one_le _ _)
    · have february : isLeapYear (calendarYear era year (monthOf 365)) = true := by
        have year_eq : calendarYear era year (monthOf 365) = year + 1 + 400 * era := by
          have late : ¬ monthOf 365 < 10 := by decide
          rw [calendarYear, if_neg late]
          omega
        rw [year_eq, isLeapYear_add_era, leap rfl]
      have last : calendarMonth (monthOf 365) = 2 := by decide
      rw [last, daysInMonth, if_pos rfl, february]
      decide

/-- The date of a day from the year 1 to the year 9999 is on the calendar, and stands for this
day. -/
theorem exists_date {n : Int} (first : dayNumber 1 1 1 ≤ n) (last : n < dayNumber 10000 1 1) :
    ∃ year month day : Nat, ofDayNumber n = ((year : Int), month, day) ∧ 1 ≤ year ∧ year ≤ 9999 ∧
      IsDate year month day ∧ dayNumber year month day = n := by
  have first_eq : dayNumber 1 1 1 = -719162 := by decide
  have last_eq : dayNumber 10000 1 1 = 2932897 := by decide
  rw [first_eq] at first
  rw [last_eq] at last
  obtain ⟨era, day, small, rfl⟩ : ∃ era day : Nat, day < 146097 ∧
      n = 146097 * era + day - 719468 :=
    ⟨((n + 719468) / 146097).toNat, ((n + 719468) % 146097).toNat, by omega, by omega⟩
  obtain ⟨few, dayOfYear, place, short, leap⟩ := year_of_era small
  obtain ⟨months, started, -⟩ := month_of_year dayOfYear (by omega)
  have date := ofDayNumber_of_era era small place months
  generalize commonDays day / 365 = year at few place leap date
  have late := @ten_le_monthOf_iff dayOfYear
  refine ⟨_, _, _, date, ?_, ?_, isDate_of_era short leap, ?_⟩
  · -- the era starts in March, so its first ten months are in the year 0
    unfold calendarYear
    unfold yearStart at place
    split <;> omega
  · -- the last era ends two months too late
    unfold calendarYear
    unfold yearStart at place
    split <;> omega
  · rw [dayNumber_of_month few months]
    omega

theorem daysInMonth_le (year month : Nat) : daysInMonth year month ≤ 31 := by
  unfold daysInMonth
  split
  · split <;> decide
  · split <;> decide

/-- A date up to the year 9999 comes before the first one after it. -/
theorem IsDate.dayNumber_lt {year month day : Nat} (h : IsDate year month day)
    (last : year ≤ 9999) : dayNumber year month day < dayNumber 10000 1 1 := by
  have last_eq : dayNumber 10000 1 1 = 2932897 := by decide
  have days := Nat.le_trans h.days.2 (daysInMonth_le year month)
  have months := h.months
  rw [last_eq]
  unfold dayNumber
  simp only [Int.fdiv_eq_ediv_of_nonneg _ (by decide : (0 : Int) ≤ 4),
    Int.fdiv_eq_ediv_of_nonneg _ (by decide : (0 : Int) ≤ 5),
    Int.fdiv_eq_ediv_of_nonneg _ (by decide : (0 : Int) ≤ 100),
    Int.fdiv_eq_ediv_of_nonneg _ (by decide : (0 : Int) ≤ 400)]
  split
  next early => omega
  next late => omega

end DateTime

end CallPlan
