import Mailroom.Text.Integer

/-!
# The Gregorian calendar

Days are counted from 1970-01-01 in the proleptic Gregorian calendar, with a year zero. The year
starts in March for the arithmetic, so that the leap day is the last of its year: a day is a place
in a cycle of 400 years (146097 days), and a year, a month and a day of it.

A moment is written `YYYY-MM-DD HH:MM:SS` in UTC. A year outside 0 to 9999 carries its sign.
-/

namespace Mailroom.Calendar

/-- A day of a month of a year; January is month 1. -/
structure Date where
  year : Int
  month : Int
  day : Int
deriving DecidableEq, Repr

/-- Days from 1970-01-01 to the given day. -/
def dayNumber (d : Date) : Int :=
  let year := if d.month ≤ 2 then d.year - 1 else d.year
  let ofCycle := year % 400
  let ofYear := (153 * ((d.month + 9) % 12) + 2) / 5 + d.day - 1
  year / 400 * 146097 + (ofCycle * 365 + ofCycle / 4 - ofCycle / 100 + ofYear) - 719468

theorem dayNumber_add (y m d n : Int) : dayNumber ⟨y, m, d + n⟩ = dayNumber ⟨y, m, d⟩ + n := by
  simp only [dayNumber]
  omega

/-- The day that comes `n` days after 1970-01-01. -/
def dateOf (n : Int) : Date :=
  let shifted := n + 719468
  let inCycle := shifted % 146097
  let year := (inCycle - inCycle / 1460 + inCycle / 36524 - inCycle / 146096) / 365
  let inYear := inCycle - (365 * year + year / 4 - year / 100)
  let month := (5 * inYear + 2) / 153
  let day := inYear - (153 * month + 2) / 5 + 1
  let calendarMonth := if month < 10 then month + 3 else month - 9
  ⟨year + shifted / 146097 * 400 + (if calendarMonth ≤ 2 then 1 else 0), calendarMonth, day⟩

/-- A year, with at least four digits. -/
def yearText (year : Int) : List Char :=
  let body := Text.padded 4 year.natAbs
  if year < 0 then '-' :: body else if 9999 < year then '+' :: body else body

/-- The text of a date. -/
def dateText (d : Date) : List Char :=
  yearText d.year ++ '-' :: Text.padded 2 d.month.toNat ++ '-' :: Text.padded 2 d.day.toNat

/-- The text of a second of a day. -/
def timeText (second : Nat) : List Char :=
  Text.padded 2 (second / 3600) ++ ':' :: Text.padded 2 (second / 60 % 60) ++
    ':' :: Text.padded 2 (second % 60)

/-- The text of the moment `seconds` seconds after 1970-01-01 00:00:00 UTC. -/
def momentText (seconds : Int) : String :=
  String.ofList (dateText (dateOf (seconds / 86400)) ++ ' ' :: timeText (seconds % 86400).toNat)

/-- The first day that a moment may fall on. -/
def firstDay : Int := dayNumber ⟨-262143, 1, 1⟩

/-- The last day that a moment may fall on. -/
def lastDay : Int := dayNumber ⟨262142, 12, 31⟩

/-- The text of a moment given in milliseconds, parts of a second dropped; none outside the years
-262143 to 262142. -/
def momentOfMillis? (millis : Int) : Option String :=
  let day := millis / 86400000
  if firstDay ≤ day ∧ day ≤ lastDay then some (momentText (millis / 1000)) else none

end Mailroom.Calendar
