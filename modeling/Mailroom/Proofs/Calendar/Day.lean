import Mailroom.Calendar
import Mathlib.Order.Monotone.Basic
import Mathlib.Tactic.IntervalCases

/-!
# The days of the calendar

A month has as many days as the Gregorian rule says, and a day is one of them. The
number of a day is computed by a formula with divisions; this module shows that it
counts the days of the calendar: the first day of each month comes as many days after
that of the month before as that month is long. With months counted from January of
the year zero, that is one strictly increasing sequence, `monthStart`, and a day of a
month is so many days behind the start of its month, also one that the month does not
have any more and that therefore runs on into the next.

So days are numbered in the order of their dates, and a day is found from its number.
-/

namespace Mailroom.Calendar

/-! ## Months -/

/-- Whether a year has a leap day. -/
def IsLeap (year : Int) : Prop := year % 4 = 0 ∧ (year % 100 ≠ 0 ∨ year % 400 = 0)

instance : DecidablePred IsLeap := fun _ => inferInstanceAs (Decidable (_ ∧ _))

/-- The number of days in a month of a year. -/
def monthLength (year month : Int) : Int :=
  if month = 2 then if IsLeap year then 29 else 28
  else if month = 4 ∨ month = 6 ∨ month = 9 ∨ month = 11 then 30
  else 31

/-- A day that the calendar has. -/
structure Date.Valid (d : Date) : Prop where
  month_pos : 1 ≤ d.month
  month_le : d.month ≤ 12
  day_pos : 1 ≤ d.day
  day_le : d.day ≤ monthLength d.year d.month

instance (d : Date) : Decidable d.Valid :=
  decidable_of_iff (1 ≤ d.month ∧ d.month ≤ 12 ∧ 1 ≤ d.day ∧
      d.day ≤ monthLength d.year d.month)
    ⟨fun ⟨h₁, h₂, h₃, h₄⟩ => ⟨h₁, h₂, h₃, h₄⟩,
      fun ⟨h₁, h₂, h₃, h₄⟩ => ⟨h₁, h₂, h₃, h₄⟩⟩

private theorem monthLength_le (year month : Int) : monthLength year month ≤ 31 := by
  unfold monthLength
  split_ifs <;> omega

private theorem le_monthLength (year month : Int) : 28 ≤ monthLength year month := by
  unfold monthLength
  split_ifs <;> omega

/-- February is where leap years come in. -/
theorem dayNumber_march (year : Int) :
    dayNumber ⟨year, 3, 1⟩ = dayNumber ⟨year, 2, 1⟩ + monthLength year 2 := by
  simp only [dayNumber, monthLength, IsLeap]
  split_ifs <;> omega

theorem dayNumber_january (year : Int) :
    dayNumber ⟨year + 1, 1, 1⟩ = dayNumber ⟨year, 12, 1⟩ + monthLength year 12 := by
  simp [dayNumber, monthLength]
  omega

theorem dayNumber_next_month {year month : Int} (hPos : 1 ≤ month)
    (hLe : month ≤ 11) :
    dayNumber ⟨year, month + 1, 1⟩ =
      dayNumber ⟨year, month, 1⟩ + monthLength year month := by
  by_cases hFebruary : month = 2
  · subst hFebruary
    exact dayNumber_march year
  · interval_cases month
    all_goals first
      | exact absurd rfl hFebruary
      | simp [dayNumber, monthLength]; omega

/-- The first day of a month; months are counted from January of the year zero. -/
def monthStart (months : Int) : Int := dayNumber ⟨months / 12, months % 12 + 1, 1⟩

/-- **The months follow each other.** -/
theorem monthStart_succ (months : Int) :
    monthStart (months + 1) =
      monthStart months + monthLength (months / 12) (months % 12 + 1) := by
  unfold monthStart
  by_cases hDecember : months % 12 = 11
  · have hYear : (months + 1) / 12 = months / 12 + 1 := by omega
    have hMonth : (months + 1) % 12 + 1 = 1 := by omega
    have hLast : months % 12 + 1 = 12 := by omega
    rw [hYear, hMonth, hLast, dayNumber_january]
  · have hYear : (months + 1) / 12 = months / 12 := by omega
    have hMonth : (months + 1) % 12 = months % 12 + 1 := by omega
    rw [hYear, hMonth, dayNumber_next_month (by omega) (by omega)]

example : monthStart (1970 * 12) = 0 := by decide

private theorem monthStart_lt {a b : Int} (h : a < b) : monthStart a < monthStart b := by
  refine strictMono_int_of_lt_succ (fun months => ?_) h
  have hLength := le_monthLength (months / 12) (months % 12 + 1)
  rw [monthStart_succ]
  omega

theorem monthStart_le {a b : Int} (h : a ≤ b) : monthStart a ≤ monthStart b := by
  rcases Int.lt_or_eq_of_le h with hLt | rfl
  · exact Int.le_of_lt (monthStart_lt hLt)
  · exact Int.le_refl _

/-! ## Days of a month -/

/-- The number of months before the month of a day. -/
def Date.months (d : Date) : Int := d.year * 12 + (d.month - 1)

/-- A day is so many days behind the start of its month, whether or not the month has
so many. -/
theorem dayNumber_eq {d : Date} (hPos : 1 ≤ d.month) (hLe : d.month ≤ 12) :
    dayNumber d = monthStart d.months + (d.day - 1) := by
  obtain ⟨year, month, day⟩ := d
  have hYear : (year * 12 + (month - 1)) / 12 = year := by simp only at *; omega
  have hMonth : (year * 12 + (month - 1)) % 12 + 1 = month := by simp only at *; omega
  have hDay := dayNumber_add year month 1 (day - 1)
  rw [show (1 : Int) + (day - 1) = day by omega] at hDay
  simp only [monthStart, Date.months, hYear, hMonth, hDay]

namespace Date.Valid

variable {d e : Date}

theorem dayNumber_eq (h : d.Valid) : dayNumber d = monthStart d.months + (d.day - 1) :=
  Calendar.dayNumber_eq h.month_pos h.month_le

theorem day_le_31 (h : d.Valid) : d.day ≤ 31 :=
  h.day_le.trans (monthLength_le _ _)

/-- A day comes before the month after its own. -/
theorem dayNumber_lt_succ (h : d.Valid) : dayNumber d < monthStart (d.months + 1) := by
  have hYear : d.months / 12 = d.year := by
    have := h.month_pos
    have := h.month_le
    unfold Date.months
    omega
  have hMonth : d.months % 12 + 1 = d.month := by
    have := h.month_pos
    have := h.month_le
    unfold Date.months
    omega
  have hDay := h.day_le
  rw [h.dayNumber_eq, monthStart_succ, hYear, hMonth]
  omega

/-- Days of an earlier month come first. -/
theorem dayNumber_lt_of_months (hd : d.Valid) (he : e.Valid)
    (h : d.months < e.months) : dayNumber d < dayNumber e := by
  have hDay := he.day_pos
  calc dayNumber d < monthStart (d.months + 1) := hd.dayNumber_lt_succ
    _ ≤ monthStart e.months := monthStart_le h
    _ ≤ dayNumber e := by rw [he.dayNumber_eq]; omega

end Date.Valid

/-- The order of dates: by year, then by month, then by day. -/
def Date.Before (d e : Date) : Prop :=
  d.year < e.year ∨ d.year = e.year ∧
    (d.month < e.month ∨ d.month = e.month ∧ d.day < e.day)

theorem Date.before_trichotomy (d e : Date) : d.Before e ∨ d = e ∨ e.Before d := by
  obtain ⟨y, m, n⟩ := d
  obtain ⟨y', m', n'⟩ := e
  simp only [Date.Before, Date.mk.injEq]
  omega

theorem dayNumber_lt_of_before {d e : Date} (hd : d.Valid) (he : e.Valid)
    (h : d.Before e) : dayNumber d < dayNumber e := by
  have := hd.month_pos
  have := hd.month_le
  have := he.month_pos
  have := he.month_le
  rcases Int.lt_trichotomy d.months e.months with hLt | hEq | hGt
  · exact hd.dayNumber_lt_of_months he hLt
  · have hDay : d.day < e.day := by
      unfold Date.Before at h
      unfold Date.months at hEq
      omega
    rw [hd.dayNumber_eq, he.dayNumber_eq, hEq]
    omega
  · unfold Date.Before at h
    unfold Date.months at hGt
    omega

/-- **The order of days** is that of their dates. -/
theorem dayNumber_lt_iff {d e : Date} (hd : d.Valid) (he : e.Valid) :
    dayNumber d < dayNumber e ↔ d.Before e := by
  refine ⟨fun h => ?_, dayNumber_lt_of_before hd he⟩
  rcases d.before_trichotomy e with hBefore | rfl | hAfter
  · exact hBefore
  · omega
  · have := dayNumber_lt_of_before he hd hAfter
    omega

/-! ## The day of a number -/

/-- The year that started in March. -/
def Date.marchYear (d : Date) : Int := if d.month ≤ 2 then d.year - 1 else d.year

/-- The number of days before a day in the year that started in March. -/
def Date.sinceMarch (d : Date) : Int :=
  (153 * ((d.month + 9) % 12) + 2) / 5 + d.day - 1

private theorem dayNumber_add_shift (d : Date) :
    dayNumber d + 719468 = d.marchYear / 400 * 146097 +
      (d.marchYear % 400 * 365 + d.marchYear % 400 / 4 - d.marchYear % 400 / 100 +
        d.sinceMarch) := by
  simp only [dayNumber, Date.marchYear, Date.sinceMarch]
  omega

namespace Date.Valid

variable {d : Date}

/-- Such a year has 365 days, and the leap day behind them. -/
theorem sinceMarch_range (h : d.Valid) : 0 ≤ d.sinceMarch ∧
    (d.sinceMarch ≤ 364 ∨ d.sinceMarch = 365 ∧ IsLeap (d.marchYear + 1)) := by
  obtain ⟨year, month, day⟩ := d
  obtain ⟨hPos, hLe, hDay, hLength⟩ := h
  simp only [monthLength, Date.sinceMarch, Date.marchYear] at *
  interval_cases month
  all_goals simp at hLength ⊢
  all_goals try split_ifs at hLength
  all_goals try simp [*]
  all_goals omega

/-- The month is found from the days before a day. -/
theorem month_of_sinceMarch (h : d.Valid) :
    (5 * d.sinceMarch + 2) / 153 = (d.month + 9) % 12 := by
  obtain ⟨year, month, day⟩ := d
  obtain ⟨hPos, hLe, hDay, hLength⟩ := h
  simp only [monthLength, Date.sinceMarch] at *
  interval_cases month
  all_goals simp at hLength ⊢
  all_goals try split_ifs at hLength
  all_goals omega

end Date.Valid

/-- The year of a cycle of 400 years is found from a day of it: `g` centuries, `k` times
four years and `j` years have gone by, and `r` days of the year. Every 1460 days the day
count runs ahead of years of 365 days by one, and every century it falls back by one. -/
theorem year_of_cycle {g k j r c : Int} (hg : 0 ≤ g ∧ g < 4) (hk : 0 ≤ k ∧ k < 25)
    (hj : 0 ≤ j ∧ j < 4) (hr : 0 ≤ r)
    (hLeap : r ≤ 364 ∨ r = 365 ∧ j = 3 ∧ (k < 24 ∨ g = 3))
    (hc : c = 36524 * g + 1461 * k + 365 * j + r) :
    c < 146097 ∧
      (c - c / 1460 + c / 36524 - c / 146096) / 365 = 100 * g + 4 * k + j := by
  have hCenturies : c / 36524 - c / 146096 = g := by
    by_cases hLast : c = 146096
    · omega
    · have hEnd : 1461 * k + 365 * j + r < 36524 := by omega
      omega
  -- Stretches of 1460 days may be one more than the four-year periods, as they are on a
  -- leap day, but never on the first day of a year.
  have hFours : ∃ q, c / 1460 = 25 * g + k + q ∧ 0 ≤ r - q ∧ r - q ≤ 364 := by
    by_cases hShort : 24 * g + k + 365 * j + r < 1460
    · exact ⟨0, by omega, by omega, by omega⟩
    · exact ⟨1, by omega, by omega, by omega⟩
  obtain ⟨q, hq, hLow, hHigh⟩ := hFours
  refine ⟨by omega, ?_⟩
  clear hLeap
  generalize c / 1460 = fours at *
  generalize c / 36524 = centuries at *
  generalize c / 146096 = cycles at *
  have hSum : c - fours + centuries - cycles =
      365 * (100 * g + 4 * k + j) + (r - q) := by omega
  rw [hSum]
  omega

/-- The same with the year counted from the year zero. -/
theorem cycle_of_year {y r c : Int} (hr : 0 ≤ r)
    (hLeap : r ≤ 364 ∨ r = 365 ∧ IsLeap (y + 1))
    (hc : c = y % 400 * 365 + y % 400 / 4 - y % 400 / 100 + r) :
    0 ≤ c ∧ c < 146097 ∧
      (c - c / 1460 + c / 36524 - c / 146096) / 365 = y % 400 := by
  unfold IsLeap at hLeap
  have hParts : 100 * (y % 400 / 100) + 4 * (y % 100 / 4) + y % 4 = y % 400 := by omega
  obtain ⟨hLt, hYear⟩ := year_of_cycle (g := y % 400 / 100) (k := y % 100 / 4)
    (j := y % 4) (by omega) (by omega) (by omega) hr (by omega) (c := c) (by omega)
  exact ⟨by omega, hLt, hYear.trans hParts⟩

/-- **A day is found from its number.** -/
theorem dateOf_dayNumber {d : Date} (h : d.Valid) : dateOf (dayNumber d) = d := by
  have hNumber := dayNumber_add_shift d
  have hMonth := h.month_of_sinceMarch
  obtain ⟨hLow, hHigh⟩ := h.sinceMarch_range
  obtain ⟨c, hc⟩ : ∃ c, c = d.marchYear % 400 * 365 + d.marchYear % 400 / 4 -
      d.marchYear % 400 / 100 + d.sinceMarch := ⟨_, rfl⟩
  obtain ⟨hc₀, hLt, hCycle⟩ := cycle_of_year hLow hHigh hc
  rw [← hc] at hNumber
  have hQuotient : (dayNumber d + 719468) / 146097 = d.marchYear / 400 := by omega
  have hRemainder : (dayNumber d + 719468) % 146097 = c := by omega
  have hRest : c - (365 * (d.marchYear % 400) + d.marchYear % 400 / 4 -
      d.marchYear % 400 / 100) = d.sinceMarch := by omega
  have hYears : d.marchYear % 400 + d.marchYear / 400 * 400 = d.marchYear := by omega
  unfold dateOf
  simp only [hQuotient, hRemainder, hCycle, hRest, hMonth, hYears]
  obtain ⟨year, month, day⟩ := d
  have hPos := h.month_pos
  have hLe := h.month_le
  clear hNumber hMonth hLow hHigh hc hc₀ hLt hCycle hQuotient hRemainder hRest hYears
  unfold Date.marchYear Date.sinceMarch
  simp only [Date.mk.injEq] at *
  split_ifs
  all_goals omega

/-- The day after a day. -/
theorem exists_next {d : Date} (h : d.Valid) :
    ∃ e : Date, e.Valid ∧ dayNumber e = dayNumber d + 1 := by
  obtain ⟨year, month, day⟩ := d
  obtain ⟨hPos, hLe, hDay, hLength⟩ := h
  simp only at hPos hLe hDay hLength
  have hFirst := dayNumber_add year month 1 (day - 1)
  rw [show (1 : Int) + (day - 1) = day by omega] at hFirst
  by_cases hInside : day + 1 ≤ monthLength year month
  · exact ⟨⟨year, month, day + 1⟩, ⟨hPos, hLe, by simp only; omega, hInside⟩,
      dayNumber_add year month day 1⟩
  · have hStart (y m : Int) : 1 ≤ monthLength y m :=
      le_trans (by decide) (le_monthLength y m)
    by_cases hDecember : month = 12
    · subst hDecember
      refine ⟨⟨year + 1, 1, 1⟩,
        ⟨le_refl 1, by simp only; omega, le_refl 1, hStart _ _⟩, ?_⟩
      rw [dayNumber_january, hFirst]
      omega
    · refine ⟨⟨year, month + 1, 1⟩,
        ⟨by simp only; omega, by simp only; omega, le_refl 1, hStart _ _⟩, ?_⟩
      rw [dayNumber_next_month hPos (by omega), hFirst]
      omega

/-- The day before a day. -/
theorem exists_previous {d : Date} (h : d.Valid) :
    ∃ e : Date, e.Valid ∧ dayNumber e = dayNumber d - 1 := by
  obtain ⟨year, month, day⟩ := d
  obtain ⟨hPos, hLe, hDay, hLength⟩ := h
  simp only at hPos hLe hDay hLength
  by_cases hInside : 2 ≤ day
  · have hBack := dayNumber_add year month day (-1)
    exact ⟨⟨year, month, day + -1⟩,
      ⟨hPos, hLe, by simp only; omega, by simp only; omega⟩, hBack⟩
  · have hFirst : day = 1 := by omega
    subst hFirst
    have hLast (y m : Int) := dayNumber_add y m 1 (monthLength y m - 1)
    have hStart (y m : Int) : 1 ≤ 1 + (monthLength y m - 1) := by
      have := le_monthLength y m
      omega
    have hEnd (y m : Int) : 1 + (monthLength y m - 1) ≤ monthLength y m := by omega
    by_cases hJanuary : month = 1
    · subst hJanuary
      refine ⟨⟨year - 1, 12, 1 + (monthLength (year - 1) 12 - 1)⟩,
        ⟨by simp only; omega, le_refl 12, hStart _ _, hEnd _ _⟩, ?_⟩
      have hYear := dayNumber_january (year - 1)
      rw [show year - 1 + 1 = year by omega] at hYear
      rw [hLast, hYear]
      omega
    · refine ⟨⟨year, month - 1, 1 + (monthLength year (month - 1) - 1)⟩,
        ⟨by simp only; omega, by simp only; omega, hStart _ _, hEnd _ _⟩, ?_⟩
      have hNext : dayNumber ⟨year, month - 1 + 1, 1⟩ =
          dayNumber ⟨year, month - 1, 1⟩ + monthLength year (month - 1) :=
        dayNumber_next_month (by omega) (by omega)
      rw [show month - 1 + 1 = month by omega] at hNext
      rw [hLast, hNext]
      omega

/-- Each number is that of a day: the days before and after 1970-01-01 have them all. -/
theorem exists_dayNumber (n : Int) : ∃ d : Date, d.Valid ∧ dayNumber d = n := by
  induction n using Int.induction_on with
  | zero => exact ⟨⟨1970, 1, 1⟩, by decide, by decide⟩
  | succ n ih =>
      obtain ⟨d, hd, hNumber⟩ := ih
      rw [← hNumber]
      exact exists_next hd
  | pred n ih =>
      obtain ⟨d, hd, hNumber⟩ := ih
      rw [← hNumber]
      exact exists_previous hd

/-- **What is found for a number is a day of the calendar**, the one with this
number. -/
theorem valid_dateOf (n : Int) : (dateOf n).Valid := by
  obtain ⟨d, hd, rfl⟩ := exists_dayNumber n
  rwa [dateOf_dayNumber hd]

theorem dayNumber_dateOf (n : Int) : dayNumber (dateOf n) = n := by
  obtain ⟨d, hd, rfl⟩ := exists_dayNumber n
  rw [dateOf_dayNumber hd]

end Mailroom.Calendar
