import Mailroom.Decimal.DoublePair

/-!
# Numerals in a table

How the text of a number is read, and how a double is written. A numeral has a sign, digits, a
point and an exponent, of which only one digit is required, and blanks may stand around it. What has
neither point nor exponent is a whole number.
-/

namespace Mailroom.Sql

open Mailroom.Decimal (Binary64 Digits DoublePair)

/-- The blanks that may stand around a numeral. -/
def isNumeralBlank (c : Char) : Bool :=
  let n := c.toNat
  n = 32 || (9 ≤ n && n ≤ 13)

/-- A numeral: its sign, the digits before the point, those after it where there is one, and the
exponent where there is one. -/
structure Numeral where
  negative : Bool
  whole : List Char
  part : Option (List Char)
  exponent : Option (Bool × List Char)
deriving DecidableEq, Repr

namespace Numeral

/-! ## Reading -/

/-- A sign and what follows it. -/
def takeSign : List Char → Bool × List Char
  | '-' :: r => (true, r)
  | '+' :: r => (false, r)
  | r => (false, r)

/-- An exponent, which has at least one digit and nothing after it. -/
def exponentOf? (cs : List Char) : Option (Bool × List Char) :=
  let (negative, ds) := takeSign cs
  if ds ≠ [] ∧ ds.all Char.isDigit then some (negative, ds) else none

/-- Reads a numeral. -/
def ofText? (s : String) : Option Numeral := do
  let trimmed := (s.toList.dropWhile isNumeralBlank).reverse.dropWhile isNumeralBlank
  let (negative, r) := takeSign trimmed.reverse
  let whole := r.takeWhile Char.isDigit
  let (part, r) := match r.dropWhile Char.isDigit with
    | '.' :: r => (some (r.takeWhile Char.isDigit), r.dropWhile Char.isDigit)
    | r => (none, r)
  if whole = [] ∧ part.getD [] = [] then none
  match r with
  | [] => return ⟨negative, whole, part, none⟩
  | c :: r =>
      if c = 'e' ∨ c = 'E' then return ⟨negative, whole, part, some (← exponentOf? r)⟩ else none

/-! ## Exact value -/

/-- All digits as one number. -/
def digits (n : Numeral) : Nat := Text.value (n.whole ++ n.part.getD [])

/-- The power of ten that goes with the digits. -/
def scale (n : Numeral) : Int :=
  let e : Int := (n.exponent.map fun (negative, ds) =>
    if negative then -(Text.value ds : Int) else Text.value ds).getD 0
  e - (n.part.getD []).length

/-- The whole number that a numeral is, if it has neither point nor exponent. -/
def integer? (n : Numeral) : Option Int :=
  if n.part.isSome ∨ n.exponent.isSome then none
  else some (if n.negative then -(Text.value n.whole : Int) else Text.value n.whole)

/-! ## The double that a table makes of it -/

/-- From this number on, further digits are not taken up. -/
def fullDigits : Nat := (DoublePair.largestWord - 9) / 10

/-- Takes up digits after a number until it is full; gives the number and how many were taken up. -/
def takeUp (number : Nat) : List Char → Nat × Nat
  | [] => (number, 0)
  | c :: cs =>
      if fullDigits ≤ number then (number, 0)
      else
        let (m, count) := takeUp (number * 10 + Text.digitValue c) cs
        (m, count + 1)

/-- The digits that count, as a number, and the power of ten that goes with them, the exponent
aside. -/
def kept (n : Numeral) : Nat × Int :=
  let (m, taken) := takeUp 0 n.whole
  let (m, after) := takeUp m (n.part.getD [])
  (m, (n.whole.length - taken : Nat) - (after : Int))

/-- The value of an exponent; from ten thousand on, digits do not count. -/
def exponentValue (ds : List Char) : Nat :=
  ds.foldl (fun e c => if e < 10000 then e * 10 + Text.digitValue c else 10000) 0

/-- The double that a numeral is read as. -/
def toFloat (n : Numeral) : Float :=
  let (m, scale) := n.kept
  let e : Int := (n.exponent.map fun (negative, ds) =>
    if negative then -(exponentValue ds : Int) else exponentValue ds).getD 0
  DoublePair.read n.negative m (e + scale)

end Numeral

/-! ## Text of a double -/

/-- An exponent with its sign and at least two digits. -/
def exponentText (e : Int) : List Char :=
  (if e < 0 then '-' else '+') :: Text.padded 2 e.natAbs

/-- Fifteen significant digits, with a digit on each side of the point; an exponent below 1e-4 and
from 1e15 on. -/
def realText (x : Float) : String :=
  match Binary64.ofFloat x with
  | .nan => "NaN"
  | .infinite negative => if negative then "-Inf" else "Inf"
  | .finite negative v =>
      if v.mantissa = 0 then "0.0"
      else
        let d := DoublePair.digits 15 x.abs
        let scientific := d.point - 1 < -4 ∨ 14 < d.point - 1
        let (whole, part) := (if scientific then { d with point := 1 } else d).split
        let part := if part = [] then ['0'] else part
        String.ofList
          ((if negative then ['-'] else []) ++ whole ++ '.' :: part ++
            (if scientific then 'e' :: exponentText (d.point - 1) else []))

end Mailroom.Sql
