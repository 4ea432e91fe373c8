import Mailroom.Proofs.Calendar.Stamp
import Mailroom.Proofs.Store.StoredRow
import Mailroom.Proofs.Text.Numeral

/-!
# Days counted one year and one month after the other

The number of a day comes from a formula. Here the same days are counted as a calendar on
the wall has them: so many for each year that has gone by since the year zero, 365 or 366,
so many for each month of this year, and so many of this month. The two agree, so a stamp
is as many seconds after 1970-01-01 00:00:00 as its days and its time of day make.

A text says a stamp if its digits do, each field at its place and of its width.
-/

namespace Mailroom.Calendar

/-! ## Counting days -/

/-- The number of days in a year. -/
def yearLength (year : Int) : Int := if IsLeap year then 366 else 365

/-- The days of the first years from the year zero on. -/
def daysOfYears : Nat → Int
  | 0 => 0
  | n + 1 => daysOfYears n + yearLength n

/-- The days of the first months of a year. -/
def daysOfMonths (year : Int) : Nat → Int
  | 0 => 0
  | n + 1 => daysOfMonths year n + monthLength year (n + 1)

private theorem daysOfMonths_twelve (year : Int) : daysOfMonths year 12 = yearLength year := by
  simp only [daysOfMonths, monthLength, yearLength]
  by_cases hLeap : IsLeap year
  · simp [hLeap]
  · simp [hLeap]

private theorem dayNumber_month (year : Int) {n : Nat} (h : n ≤ 11) :
    dayNumber ⟨year, n + 1, 1⟩ = dayNumber ⟨year, 1, 1⟩ + daysOfMonths year n := by
  induction n with
  | zero => simp [daysOfMonths]
  | succ n ih =>
      have hNext : dayNumber ⟨year, (n + 1 : Int) + 1, 1⟩ =
          dayNumber ⟨year, n + 1, 1⟩ + monthLength year (n + 1) :=
        dayNumber_next_month (by omega) (by omega)
      rw [Int.natCast_succ, hNext, ih (by omega), daysOfMonths, Int.add_assoc]

private theorem dayNumber_year (n : Nat) :
    dayNumber ⟨n, 1, 1⟩ = dayNumber ⟨0, 1, 1⟩ + daysOfYears n := by
  induction n with
  | zero => simp [daysOfYears]
  | succ n ih =>
      have hDecember : dayNumber ⟨n, 12, 1⟩ = dayNumber ⟨n, 1, 1⟩ + daysOfMonths n 11 :=
        dayNumber_month n (Nat.le_refl 11)
      have hWhole : daysOfMonths n 11 + monthLength n 12 = yearLength n :=
        daysOfMonths_twelve n
      rw [Int.natCast_succ, dayNumber_january, hDecember, ih, daysOfYears, ← hWhole]
      omega

/-- The days from the first one of the year zero to a day. -/
def Date.elapsed (d : Date) : Int :=
  daysOfYears d.year.toNat + daysOfMonths d.year (d.month - 1).toNat + (d.day - 1)

private theorem dayNumber_eq_add_elapsed {d : Date} (h : d.Written) :
    dayNumber d = dayNumber ⟨0, 1, 1⟩ + d.elapsed := by
  obtain ⟨year, month, day⟩ := d
  obtain ⟨n, rfl⟩ := Int.eq_ofNat_of_zero_le h.year_nonneg
  obtain ⟨k, hk⟩ := Int.eq_ofNat_of_zero_le (Int.sub_nonneg_of_le h.month_pos)
  have hLe := h.month_le
  simp only at hk hLe
  obtain rfl : month = k + 1 := by omega
  have hDay := dayNumber_add n (k + 1) 1 (day - 1)
  rw [show (1 : Int) + (day - 1) = day by omega] at hDay
  rw [hDay, dayNumber_month n (by omega), dayNumber_year, Date.elapsed]
  simp only [Int.toNat_natCast, Int.add_sub_cancel]
  omega

/-- **The number of a day counts the days** since 1970-01-01. -/
theorem dayNumber_eq_elapsed {d : Date} (h : d.Written) :
    dayNumber d = d.elapsed - Date.elapsed ⟨1970, 1, 1⟩ := by
  have hFirst : dayNumber ⟨1970, 1, 1⟩ = 0 := by decide
  have hStart : Date.Written ⟨1970, 1, 1⟩ := by decide
  rw [dayNumber_eq_add_elapsed hStart] at hFirst
  rw [dayNumber_eq_add_elapsed h]
  omega

/-! ## Stamps -/

/-- A number in digits of a fixed width. -/
structure Field (width : Nat) (n : Int) (cs : List Char) : Prop where
  length : cs.length = width
  digits : ∀ c ∈ cs, c.isDigit = true
  value : (Text.value cs : Int) = n

private theorem field_padded (width : Nat) {n : Nat} (hw : width ≠ 0) (hn : n < 10 ^ width) :
    Field width n (Text.padded width n) where
  length := Text.length_padded hw hn
  digits := fun c hc => isDigit_of_mem_padded hc
  value := by rw [Text.value_padded]

namespace Stamp

/-- Seconds from 1970-01-01 00:00:00 UTC, counted by years, months and days. -/
def sinceEpoch (s : Stamp) : Int :=
  (s.date.elapsed - Date.elapsed ⟨1970, 1, 1⟩) * 86400 +
    (s.hour * 3600 + s.minute * 60 + s.second : Nat)

/-- **The seconds of a stamp** are those counted. -/
theorem seconds_eq {s : Stamp} (h : s.Valid) : s.seconds = s.sinceEpoch := by
  rw [seconds, dayNumber_eq_elapsed h.date, sinceEpoch]

/-- A text `YYYY-MM-DD HH:MM:SS` with the numbers of a stamp. -/
def Says (s : Stamp) (text : String) : Prop :=
  ∃ year month day hour minute second : List Char,
    text.toList = year ++ '-' :: (month ++ '-' :: (day ++ ' ' ::
      (hour ++ ':' :: (minute ++ ':' :: second)))) ∧
    Field 4 s.date.year year ∧ Field 2 s.date.month month ∧ Field 2 s.date.day day ∧
    Field 2 s.hour hour ∧ Field 2 s.minute minute ∧ Field 2 s.second second

/-- It has nineteen characters. -/
theorem Says.length {s : Stamp} {text : String} (h : s.Says text) : text.length = 19 := by
  obtain ⟨year, month, day, hour, minute, second, hText, hYear, hMonth, hDay, hHour, hMinute,
    hSecond⟩ := h
  rw [← String.length_toList, hText]
  simp [hYear.length, hMonth.length, hDay.length, hHour.length, hMinute.length, hSecond.length]

/-- **The text of a stamp says the stamp.** -/
theorem says_text {s : Stamp} (h : s.Valid) : s.Says s.text := by
  have hYear := field_padded 4 (by decide) h.date.year_lt
  have hMonth := field_padded 2 (by decide) h.date.month_lt
  have hDay := field_padded 2 (by decide) h.date.day_lt
  rw [Int.natAbs_of_nonneg h.date.year_nonneg] at hYear
  rw [Int.toNat_of_nonneg (by have := h.date.month_pos; omega)] at hMonth
  rw [Int.toNat_of_nonneg (by have := h.date.day_pos; omega)] at hDay
  have hHour := h.hour
  have hMinute := h.minute
  have hSecond := h.second
  refine ⟨_, _, _, _, _, _, ?_, hYear, hMonth, hDay, field_padded 2 (by decide) (by omega),
    field_padded 2 (by decide) (by omega), field_padded 2 (by decide) (by omega)⟩
  rw [text, String.toList_ofList, h.date.dateText_eq]
  simp only [List.append_assoc, List.cons_append]

/-- The stamp of a moment. -/
def ofSeconds (seconds : Int) : Stamp :=
  let time := (seconds % 86400).toNat
  ⟨dateOf (seconds / 86400), time / 3600, time / 60 % 60, time % 60⟩

theorem valid_ofSeconds {seconds : Int} (h : InYears seconds) : (ofSeconds seconds).Valid where
  date := h.written
  hour := by simp only [ofSeconds]; omega
  minute := Nat.mod_lt _ (by decide)
  second := Nat.mod_lt _ (by decide)

/-- It is the one with these seconds. -/
theorem seconds_ofSeconds (seconds : Int) : (ofSeconds seconds).seconds = seconds := by
  simp only [Stamp.seconds, ofSeconds, dayNumber_dateOf]
  omega

end Stamp

end Mailroom.Calendar
