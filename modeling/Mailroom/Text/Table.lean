import Mailroom.Text.Integer
import Mailroom.Text.Split

/-!
# Tables of code points

A table says something of some code points. It is written as words, each a run of code points in
hexadecimal: `first`, `first-last`, or `first-last/step` for every `step`-th of them, and after a
`=` what is said of the run, one or more numbers with `+` between them. The words stand in
ascending order and their runs do not overlap, so a code point is found by halving.
-/

namespace Mailroom.Text

/-- A run of code points, every `step`-th from `first` to `last`, and what is said of it. -/
structure Row where
  first : Nat
  last : Nat
  step : Nat
  value : List Nat
deriving DecidableEq, Repr

namespace Row

/-- Whether a code point belongs to the run. -/
def holds (r : Row) (n : Nat) : Bool :=
  decide (r.first ≤ n) && decide (n ≤ r.last) && (n - r.first) % r.step == 0

/-- The number of a word's part. -/
def number (cs : List Char) : Nat := (hexNumber? cs).getD 0

/-- Reads a word. -/
def ofWord (word : List Char) : Row :=
  let (run, value) := cut '=' word
  let (run, step) := cut '/' run
  let (first, last) := cut '-' run
  { first := number first
    last := number (if last = [] then first else last)
    step := if step = [] then 1 else number step
    value := if value = [] then [] else (split '+' value).map number }

/-- What is said of a code point of the run: a single number counts up along with the run, a
sequence is the same for all of it. -/
def valueAt (r : Row) (n : Nat) : List Nat :=
  match r.value with
  | [v] => [v + (n - r.first)]
  | vs => vs

end Row

/-- A table, its rows in ascending order. -/
structure Table where
  rows : Array Row
deriving Repr

namespace Table

/-- Reads the lines of a table, each of words with a space between them. -/
def ofLines (lines : List String) : Table :=
  ⟨(lines.flatMap fun line => (split ' ' line.toList).map Row.ofWord).toArray⟩

/-- The last row from `low` on and before `high` that starts at or before a code point, if the one
at `low` does. -/
def seek (t : Table) (n low high : Nat) : Option Row :=
  if low + 1 < high then
    let middle := (low + high) / 2
    if t.rows[middle]?.any (·.first ≤ n) then seek t n middle high
    else seek t n low middle
  else t.rows[low]?
termination_by high - low
decreasing_by all_goals omega

/-- The row of a code point. -/
def find? (t : Table) (n : Nat) : Option Row := (t.seek n 0 t.rows.size).filter (·.holds n)

/-- Whether a code point is in the table. -/
def contains (t : Table) (n : Nat) : Bool := (t.find? n).isSome

end Table

end Mailroom.Text
