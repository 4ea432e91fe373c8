import Mailroom.Proofs.Calendar.Stamp
import Mailroom.Sql.Moment

/-!
# Going back in time

Seconds, minutes, hours and days are taken off a count of milliseconds. A month or a year
is taken off the date: the moment keeps the number of its day, counted from the start of
the earlier month, and if that month is too short the day falls in the next one.

`Span.back` says this without asking whether there is such a moment. A longer way back
never ends later, since the starts of the months are in order. And `before?` finds this
moment whenever it lies in the years 0 to 9999: neither the limit of a unit nor the range
of the years is met on the way there. Only a clock behind these years could meet a limit.
-/

namespace Mailroom.Sql.Moment

open Mailroom.Calendar

/-- The day with the same number in the month `n` months before; beyond the end of that
month, days run on into the next. -/
def dayBack (day n : Int) : Int :=
  monthStart ((dateOf day).months - n) + ((dateOf day).day - 1)

/-- The moment `n` months before `now`, at the same time of day. -/
def monthsBack (now n : Int) : Int :=
  dayBack (now / 86400000) n * 86400000 + now % 86400000

namespace Span

/-- Seconds in a unit, if it has a fixed length. -/
def seconds? : Span → Option Int
  | second => some 1
  | minute => some 60
  | hour => some 3600
  | day => some 86400
  | month => none
  | year => none

/-- The moment `n` units before `now`, both in milliseconds since 1970. -/
def back (now : Int) (n : Nat) : Span → Int
  | month => monthsBack now n
  | year => monthsBack now (n * 12)
  | span => now - n * span.millis

/-- **Units of fixed length** are seconds taken off the seconds of the clock. -/
theorem back_of_seconds? {span : Span} {unit : Int} (h : span.seconds? = some unit)
    (now : Int) (n : Nat) : span.back now n / 1000 = now / 1000 - n * unit := by
  cases span with
  | month => cases h
  | year => cases h
  | _ =>
      cases h
      simp only [back, millis]
      omega

private theorem monthsBack_le (now : Int) {n k : Int} (h : n ≤ k) :
    monthsBack now k ≤ monthsBack now n := by
  have hStart := monthStart_le (Int.sub_le_sub_left h (dateOf (now / 86400000)).months)
  unfold monthsBack dayBack
  omega

/-- **A longer way back** ends no later. -/
theorem back_le (now : Int) (span : Span) {n k : Nat} (h : n ≤ k) :
    span.back now k ≤ span.back now n := by
  cases span with
  | month => exact monthsBack_le now (Int.ofNat_le.2 h)
  | year => exact monthsBack_le now (by omega)
  | _ =>
      simp only [back, millis]
      omega

end Span

/-! ## In the years 0 to 9999 -/

/-- No limit is in the way: the clock is in the years up to 9999, or the number of units
is below the limit of the unit. -/
def Reach (now : Int) (n : Nat) (span : Span) : Prop :=
  now < dayNumber ⟨10000, 1, 1⟩ * 86400000 ∨ n < span.limit

private theorem dayNumber_year_zero : dayNumber ⟨0, 1, 1⟩ = -719528 := by decide

private theorem dayNumber_year_end : dayNumber ⟨10000, 1, 1⟩ = 2932897 := by decide

private theorem inRange?_of_inYears {millis : Int} (h : InYears (millis / 1000)) :
    inRange? millis = some millis := by
  unfold InYears at h
  rw [dayNumber_year_zero, dayNumber_year_end] at h
  refine if_pos ?_
  unfold epochOffset lastInstant
  omega

/-- The day of a moment so many months back. -/
theorem dayBack_of_inYears {now n : Int} (h : InYears (monthsBack now n / 1000)) :
    dayNumber ⟨0, 1, 1⟩ ≤ dayBack (now / 86400000) n ∧
      dayBack (now / 86400000) n < dayNumber ⟨10000, 1, 1⟩ := by
  unfold InYears monthsBack at h
  omega

/-- The earlier month is in these years too, or right before them: days that run on go
one month further. -/
theorem months_of_dayBack {day n : Int} (hLow : dayNumber ⟨0, 1, 1⟩ ≤ dayBack day n)
    (hHigh : dayBack day n < dayNumber ⟨10000, 1, 1⟩) :
    -1 ≤ (dateOf day).months - n ∧ (dateOf day).months - n < 120000 := by
  have hLast := (valid_dateOf day).day_le_31
  have hFirst := (valid_dateOf day).day_pos
  have hZero : dayNumber ⟨0, 1, 1⟩ = monthStart (-2) + 61 := by decide
  have hEnd : dayNumber ⟨10000, 1, 1⟩ = monthStart 120000 := by decide
  unfold dayBack at hLow hHigh
  constructor
  -- Two months before these years, 61 days are more than a day of a month can be off.
  · by_contra hEarly
    have hStart := monthStart_le (show (dateOf day).months - n ≤ -2 by omega)
    omega
  · by_contra hLate
    have hStart := monthStart_le (show 120000 ≤ (dateOf day).months - n by omega)
    omega

/-- The calendar finds that day. -/
theorem monthsBefore?_eq {day n : Int} (hLow : dayNumber ⟨0, 1, 1⟩ ≤ dayBack day n)
    (hHigh : dayBack day n < dayNumber ⟨10000, 1, 1⟩) :
    monthsBefore? day n = some (dayBack day n) := by
  obtain ⟨hFirst, hLast⟩ := months_of_dayBack hLow hHigh
  have hYear : -4713 ≤ ((dateOf day).months - n) / 12 ∧
      ((dateOf day).months - n) / 12 ≤ 9999 := by omega
  have hMonths (months : Int) : (withMonths (dateOf day) months).months = months := by
    simp only [Date.months, withMonths]
    omega
  have hTarget : dayNumber (withMonths (dateOf day) ((dateOf day).months - n)) =
      dayBack day n := by
    rw [dayNumber_eq (by simp only [withMonths]; omega) (by simp only [withMonths]; omega),
      hMonths]
    rfl
  rw [← hTarget]
  exact if_pos hYear

/-- So the database finds a moment that many months back. -/
theorem monthsBack_found {now n : Int} (h : InYears (monthsBack now n / 1000)) :
    ((monthsBefore? (now / 86400000) n).bind fun d =>
      inRange? (d * 86400000 + now % 86400000)) = some (monthsBack now n) := by
  obtain ⟨hLow, hHigh⟩ := dayBack_of_inYears h
  rw [monthsBefore?_eq hLow hHigh]
  exact inRange?_of_inYears h

/-- There are not more than 120000 months in these years. -/
theorem months_le {now n : Int} (hNow : now < dayNumber ⟨10000, 1, 1⟩ * 86400000)
    (h : InYears (monthsBack now n / 1000)) : n ≤ 120000 := by
  obtain ⟨hLow, hHigh⟩ := dayBack_of_inYears h
  obtain ⟨hFirst, -⟩ := months_of_dayBack hLow hHigh
  have hNumber := (valid_dateOf (now / 86400000)).dayNumber_eq
  have hDay := (valid_dateOf (now / 86400000)).day_pos
  have hEnd : dayNumber ⟨10000, 1, 1⟩ = monthStart 120000 := by decide
  rw [dayNumber_dateOf] at hNumber
  by_contra hMany
  have hStart := monthStart_le (show 120000 ≤ (dateOf (now / 86400000)).months by omega)
  omega

/-- A moment in these years is fewer units away than the limit of the unit. -/
theorem lt_limit {now : Int} {n : Nat} {span : Span} (hReach : Reach now n span)
    (hYears : InYears (span.back now n / 1000)) : n < span.limit := by
  rcases hReach with hNow | hLimit
  · cases span with
    | month =>
        have hFew := months_le hNow hYears
        simp only [Span.limit]
        omega
    | year =>
        have hFew := months_le hNow hYears
        simp only [Span.limit]
        omega
    | _ =>
        simp only [Span.back, Span.millis, Span.limit, InYears, dayNumber_year_zero,
          dayNumber_year_end] at *
        omega
  · exact hLimit

/-- **The moment is found.** -/
theorem before?_eq {now : Int} {n : Nat} {span : Span} (hReach : Reach now n span)
    (hYears : InYears (span.back now n / 1000)) :
    before? now n span = some (span.back now n) := by
  have hFew : ¬span.limit ≤ n := not_le.2 (lt_limit hReach hYears)
  cases span with
  | month =>
      simp only [before?, if_neg hFew]
      exact monthsBack_found hYears
  | year =>
      simp only [before?, if_neg hFew]
      exact monthsBack_found hYears
  | _ =>
      simp only [before?, if_neg hFew]
      exact inRange?_of_inYears hYears

end Mailroom.Sql.Moment
