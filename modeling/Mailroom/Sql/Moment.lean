import Mailroom.Calendar

/-!
# Moments counted back from now

`datetime('now', '-2 days')`: the moment that lies a number of units before now, as text. Days are
counted from noon of 24 November 4714 BC, in milliseconds. Months and years are taken off the
calendar date, a day beyond the end of the month running on into the next. There is no moment before
the first such day or after the year 9999, and a number beyond a unit's limit is none at all.
-/

namespace Mailroom.Sql.Moment

open Mailroom.Calendar

/-- A unit of time. -/
inductive Span
  | second
  | minute
  | hour
  | day
  | month
  | year
deriving DecidableEq, Repr

namespace Span

/-- The units by name. -/
def ofName? : String → Option Span
  | "second" | "seconds" => some second
  | "minute" | "minutes" => some minute
  | "hour" | "hours" => some hour
  | "day" | "days" => some day
  | "month" | "months" => some month
  | "year" | "years" => some year
  | _ => none

/-- The least number of units that is too large. -/
def limit : Span → Nat
  | second => 464270000000000
  | minute => 7737900000000
  | hour => 128970000000
  | day => 5373485
  | month => 176546
  | year => 14713

/-- Milliseconds in a unit of fixed length. -/
def millis : Span → Int
  | second => 1000
  | minute => 60000
  | hour => 3600000
  | _ => 86400000

end Span

/-- Milliseconds from the first day to 1970-01-01 00:00:00 UTC. -/
def epochOffset : Int := 210866760000000

/-- The last millisecond of the year 9999. -/
def lastInstant : Int := 464269060799999

/-- A moment in milliseconds since 1970, if it lies in the years that have moments. -/
def inRange? (millis : Int) : Option Int :=
  if 0 ≤ millis + epochOffset ∧ millis + epochOffset ≤ lastInstant then some millis else none

/-- The date with another count of months since the year zero, January first. -/
def withMonths (d : Date) (months : Int) : Date := ⟨months / 12, months % 12 + 1, d.day⟩

/-- The day that lies `n` months before another, if its year has moments. -/
def monthsBefore? (day n : Int) : Option Int :=
  let d := dateOf day
  let target := withMonths d (d.year * 12 + (d.month - 1) - n)
  if -4713 ≤ target.year ∧ target.year ≤ 9999 then some (dayNumber target) else none

/-- The moment `n` units before `now`, both in milliseconds since 1970. -/
def before? (now : Int) (n : Nat) (span : Span) : Option Int :=
  if span.limit ≤ n then none
  else
    match span with
    | .month => (monthsBefore? (now / 86400000) n).bind fun d =>
        inRange? (d * 86400000 + now % 86400000)
    | .year => (monthsBefore? (now / 86400000) (n * 12)).bind fun d =>
        inRange? (d * 86400000 + now % 86400000)
    | span => inRange? (now - n * span.millis)

/-- A number of units with a minus sign in front, such as `-2 days`. -/
def modifier? (s : String) : Option (Nat × Span) :=
  match s.toList with
  | '-' :: r => do
      let n ← Text.natural? (r.takeWhile (· ≠ ' '))
      let span ← Span.ofName? (String.ofList ((r.dropWhile (· ≠ ' ')).drop 1))
      return (n, span)
  | _ => none

/-- The text of `datetime('now', modifier)`. -/
def text? (now : Int) (modifier : String) : Option String := do
  let (n, span) ← modifier? modifier
  let millis ← before? now n span
  return momentText (millis / 1000)

end Mailroom.Sql.Moment
