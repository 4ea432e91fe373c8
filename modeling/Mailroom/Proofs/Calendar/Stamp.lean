import Mailroom.Proofs.Calendar.Day
import Mailroom.Proofs.Sql.TextOrder
import Mailroom.Proofs.Text.FixedWidth

/-!
# Moments as texts

A moment is written `YYYY-MM-DD HH:MM:SS`. In the years 0 to 9999 the year has four
digits and no sign, so all moments are written with nineteen characters, the same ones
at the same places, from the longest unit down to the shortest. The order of texts is
then the order of moments, and a text that only has the date stands before all moments of
its day and behind those of the day before.

A `Stamp` is what such a text says: a day of the calendar and a time of day.
-/

namespace Mailroom.Calendar

open Mailroom.Sql (compareText compareText_of_lt compareText_of_gt compareText_self)
open Mailroom.Text (append_cons_lt append_lt_append length_padded padded
  padded_append_lt padded_lt_padded)

/-! ## Four digits for a year -/

/-- A moment in the years 0 to 9999, in seconds since 1970-01-01 00:00:00 UTC. -/
def InYears (seconds : Int) : Prop :=
  dayNumber ⟨0, 1, 1⟩ * 86400 ≤ seconds ∧ seconds < dayNumber ⟨10000, 1, 1⟩ * 86400

instance : DecidablePred InYears := fun _ => inferInstanceAs (Decidable (_ ∧ _))

/-- A day of the calendar in the years 0 to 9999. -/
structure Date.Written (d : Date) : Prop extends d.Valid where
  year_nonneg : 0 ≤ d.year
  year_le : d.year ≤ 9999

instance (d : Date) : Decidable d.Written :=
  decidable_of_iff (d.Valid ∧ 0 ≤ d.year ∧ d.year ≤ 9999)
    ⟨fun ⟨h₁, h₂, h₃⟩ => ⟨h₁, h₂, h₃⟩, fun ⟨h₁, h₂, h₃⟩ => ⟨h₁, h₂, h₃⟩⟩

/-- The days of these years are those between their first and their last. -/
theorem written_iff {d : Date} (h : d.Valid) : d.Written ↔
    dayNumber ⟨0, 1, 1⟩ ≤ dayNumber d ∧ dayNumber d < dayNumber ⟨10000, 1, 1⟩ := by
  have hFirst : Date.Valid ⟨0, 1, 1⟩ := by decide
  have hEnd : Date.Valid ⟨10000, 1, 1⟩ := by decide
  have hPos := h.month_pos
  have hDay := h.day_pos
  rw [dayNumber_lt_iff h hEnd, ← not_lt, dayNumber_lt_iff h hFirst]
  simp only [Date.Before]
  constructor
  · rintro ⟨-, hLow, hHigh⟩
    omega
  · intro hBetween
    exact ⟨h, by omega, by omega⟩

theorem InYears.written {seconds : Int} (h : InYears seconds) :
    (dateOf (seconds / 86400)).Written := by
  unfold InYears at h
  rw [written_iff (valid_dateOf _), dayNumber_dateOf]
  omega

namespace Date.Written

variable {d e : Date}

theorem year_lt (h : d.Written) : d.year.natAbs < 10 ^ 4 := by
  have := h.year_nonneg
  have := h.year_le
  omega

theorem month_lt (h : d.Written) : d.month.toNat < 10 ^ 2 := by
  have := h.month_le
  omega

theorem day_lt (h : d.Written) : d.day.toNat < 10 ^ 2 := by
  have := h.toValid.day_le_31
  omega

/-- A year has four digits. -/
theorem dateText_eq (h : d.Written) : dateText d =
    padded 4 d.year.natAbs ++ '-' :: (padded 2 d.month.toNat ++
      '-' :: padded 2 d.day.toNat) := by
  have hLow : ¬d.year < 0 := not_lt.2 h.year_nonneg
  have hHigh : ¬9999 < d.year := not_lt.2 h.year_le
  simp only [dateText, yearText, if_neg hLow, if_neg hHigh, List.append_assoc,
    List.cons_append]

private theorem length_dateText (h : d.Written) : (dateText d).length = 10 := by
  rw [h.dateText_eq]
  simp [length_padded (by decide) h.year_lt, length_padded (by decide) h.month_lt,
    length_padded (by decide) h.day_lt]

/-- Dates are ordered as their texts. -/
theorem dateText_lt (hd : d.Written) (he : e.Written) (h : d.Before e) :
    dateText d < dateText e := by
  have hYear := hd.year_nonneg
  have hMonth := hd.month_pos
  have hDay := hd.day_pos
  rw [hd.dateText_eq, he.dateText_eq]
  rcases h with hLt | ⟨hSame, hLt | ⟨hSameMonth, hLt⟩⟩
  · exact padded_append_lt (by decide) he.year_lt (by omega) _ _
  · rw [hSame]
    refine append_cons_lt _ '-' ?_
    exact padded_append_lt (by decide) he.month_lt (by omega) _ _
  · rw [hSame, hSameMonth]
    refine append_cons_lt _ '-' (append_cons_lt _ '-' ?_)
    exact padded_lt_padded (by decide) he.day_lt (by omega)

end Date.Written

/-! ## The time of day -/

private theorem timeText_lt {s t : Nat} (ht : t < 86400) (h : s < t) : timeText s < timeText t := by
  simp only [timeText, List.append_assoc, List.cons_append]
  have hUnits : s / 3600 < t / 3600 ∨ s / 3600 = t / 3600 ∧
      (s / 60 % 60 < t / 60 % 60 ∨ s / 60 % 60 = t / 60 % 60 ∧ s % 60 < t % 60) := by
    omega
  rcases hUnits with hHour | ⟨hHour, hMinute | ⟨hMinute, hSecond⟩⟩
  · exact padded_append_lt (by decide) (by omega) hHour _ _
  · rw [hHour]
    refine append_cons_lt _ ':' ?_
    exact padded_append_lt (by decide) (by omega) hMinute _ _
  · rw [hHour, hMinute]
    refine append_cons_lt _ ':' (append_cons_lt _ ':' ?_)
    exact padded_lt_padded (by decide) (by omega) hSecond

/-! ## Moments -/

theorem momentText_lt {s t : Int} (hs : InYears s) (ht : InYears t) (h : s < t) :
    momentText s < momentText t := by
  rw [String.lt_iff, momentText, momentText, String.toList_ofList, String.toList_ofList]
  have hDays : s / 86400 < t / 86400 ∨ s / 86400 = t / 86400 ∧ s % 86400 < t % 86400 := by
    omega
  rcases hDays with hDay | ⟨hDay, hSecond⟩
  · have hBefore : (dateOf (s / 86400)).Before (dateOf (t / 86400)) := by
      rwa [← dayNumber_lt_iff (valid_dateOf _) (valid_dateOf _), dayNumber_dateOf,
        dayNumber_dateOf]
    refine append_lt_append ?_ (hs.written.dateText_lt ht.written hBefore) _ _
    rw [hs.written.length_dateText, ht.written.length_dateText]
  · rw [hDay]
    exact append_cons_lt _ ' ' (timeText_lt (by omega) (by omega))

/-- **Moments are ordered as their texts.** -/
theorem compareText_momentText {s t : Int} (hs : InYears s) (ht : InYears t) :
    compareText (momentText s) (momentText t) = compare s t := by
  rcases Int.lt_trichotomy s t with hLt | rfl | hGt
  · rw [compareText_of_lt (momentText_lt hs ht hLt), Int.compare_eq_lt.2 hLt]
  · rw [compareText_self, Int.compare_eq_eq.2 rfl]
  · rw [compareText_of_gt (momentText_lt ht hs hGt), Int.compare_eq_gt.2 hGt]

/-- **Moments and dates**: a date stands right in front of its day. -/
theorem compareText_dateText {s : Int} (hs : InYears s) {d : Date} (hd : d.Written) :
    compareText (momentText s) (String.ofList (dateText d)) =
      if dayNumber d * 86400 ≤ s then .gt else .lt := by
  have hLength : (dateText (dateOf (s / 86400))).length = (dateText d).length := by
    rw [hs.written.length_dateText, hd.length_dateText]
  split
  · next hLater =>
    refine compareText_of_gt ?_
    rw [String.lt_iff, momentText, String.toList_ofList, String.toList_ofList]
    rcases d.before_trichotomy (dateOf (s / 86400)) with hBefore | hSame | hAfter
    · have hText := append_lt_append hLength.symm (hd.dateText_lt hs.written hBefore) []
        (' ' :: timeText (s % 86400).toNat)
      rwa [List.append_nil] at hText
    · rw [← hSame]
      have hText : dateText d ++ [] <
          dateText d ++ ' ' :: timeText (s % 86400).toNat :=
        List.append_left_lt (List.nil_lt_cons _ _)
      rwa [List.append_nil] at hText
    · have hDay := dayNumber_lt_of_before (valid_dateOf _) hd.toValid hAfter
      rw [dayNumber_dateOf] at hDay
      omega
  · next hEarlier =>
    refine compareText_of_lt ?_
    rw [String.lt_iff, momentText, String.toList_ofList, String.toList_ofList]
    have hBefore : (dateOf (s / 86400)).Before d := by
      rw [← dayNumber_lt_iff (valid_dateOf _) hd.toValid, dayNumber_dateOf]
      omega
    have hText := append_lt_append hLength (hs.written.dateText_lt hd hBefore)
      (' ' :: timeText (s % 86400).toNat) []
    rwa [List.append_nil] at hText

/-! ## Stamps -/

/-- A day and a time of day. -/
structure Stamp where
  date : Date
  hour : Nat
  minute : Nat
  second : Nat
deriving DecidableEq, Repr

namespace Stamp

/-- A day of the calendar in the years 0 to 9999 and a time that a day has. -/
structure Valid (s : Stamp) : Prop where
  date : s.date.Written
  hour : s.hour < 24
  minute : s.minute < 60
  second : s.second < 60

/-- The text `YYYY-MM-DD HH:MM:SS`. -/
def text (s : Stamp) : String :=
  String.ofList (dateText s.date ++ ' ' ::
    (padded 2 s.hour ++ ':' :: padded 2 s.minute ++ ':' :: padded 2 s.second))

/-- Seconds from 1970-01-01 00:00:00 UTC. -/
def seconds (s : Stamp) : Int :=
  dayNumber s.date * 86400 + (s.hour * 3600 + s.minute * 60 + s.second : Nat)

variable {s : Stamp} (h : s.Valid)
include h

private theorem time_lt : s.hour * 3600 + s.minute * 60 + s.second < 86400 := by
  have := h.hour
  have := h.minute
  have := h.second
  omega

theorem inYears_seconds : InYears s.seconds := by
  have hTime := time_lt h
  obtain ⟨hLow, hHigh⟩ := (written_iff h.date.toValid).1 h.date
  unfold InYears seconds
  omega

/-- **The text of a stamp** is the text of its moment. -/
theorem momentText_seconds : momentText s.seconds = s.text := by
  have hTime := time_lt h
  have hMinute := h.minute
  have hSecond := h.second
  have hDay : s.seconds / 86400 = dayNumber s.date := by
    unfold seconds
    omega
  have hRest : (s.seconds % 86400).toNat =
      s.hour * 3600 + s.minute * 60 + s.second := by
    unfold seconds
    omega
  have hHours : (s.hour * 3600 + s.minute * 60 + s.second) / 3600 = s.hour := by omega
  have hMinutes : (s.hour * 3600 + s.minute * 60 + s.second) / 60 % 60 = s.minute := by
    omega
  have hSeconds : (s.hour * 3600 + s.minute * 60 + s.second) % 60 = s.second := by omega
  rw [momentText, text, hDay, hRest, dateOf_dayNumber h.date.toValid, timeText, hHours,
    hMinutes, hSeconds]

end Stamp

end Mailroom.Calendar
