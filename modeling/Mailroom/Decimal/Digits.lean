import Mailroom.Decimal.Binary64

/-!
# Decimal digits of a double

Two choices of digits for a nonzero magnitude `v`, each a digit string with the place of its point:

* `shortest`: the fewest digits that read back as `v`, the nearest such where there are two;
* `significant n`: `v` rounded to `n` digits, a half away from zero.

`positional` writes a digit string without an exponent, padding with zeros on either side.
-/

namespace Mailroom.Decimal

/-- The number `0.d₁d₂… · 10^point`. -/
structure Digits where
  digits : List Char
  point : Int
deriving DecidableEq, Repr

/-- The fraction `num / den` in units of `10^exponent`. -/
def inUnits (num den : Nat) (exponent : Int) : Nat × Nat :=
  (num * tens (-exponent).toNat, den * tens exponent.toNat)

/-- `num / den` rounded to a whole number, a half upwards. -/
def rounded (num den : Nat) : Nat := (2 * num + den) / (2 * den)

/-- The point of the first digit: `10^(point - 1) ≤ num / den < 10^point`, found by search around an
estimate from the lengths of the two numbers. -/
def leadingPoint (num den : Nat) : Int :=
  let guess : Int := (Text.digits num).length - (Text.digits den).length
  let (n, d) := inUnits num den guess
  if n < d then guess else guess + 1

/-- Without the zeros at the end. -/
def dropZeros (cs : List Char) : List Char := (cs.reverse.dropWhile (· == '0')).reverse

/-- The number rounded to `n` significant digits, trailing zeros dropped. -/
def significant (n : Nat) (v : Magnitude) : Digits :=
  let point := leadingPoint v.num v.den
  let (a, b) := inUnits v.num v.den (point - n)
  let d := rounded a b
  let carried := if d = tens n then 1 else 0
  ⟨dropZeros (Text.digits d), point + carried⟩

/-- Whether `d · 10^unit` lies among the numbers that read back as `v`: at most half a step away,
the step below a power of two being half as long, and the ends belonging to an even mantissa. -/
def readsBack (v : Magnitude) (d : Nat) (unit : Int) : Bool :=
  let atPower := v.mantissa = Magnitude.hidden ∧ -1074 < v.exponent
  let candidateNum := d * tens unit.toNat * v.den * 4
  let candidateDen := tens (-unit).toNat
  let step := 1 <<< v.exponent.toNat
  let low := (v.num * 4 - (if atPower then step else 2 * step)) * candidateDen
  let high := (v.num * 4 + 2 * step) * candidateDen
  if v.mantissa % 2 = 0 then low ≤ candidateNum && candidateNum ≤ high
  else low < candidateNum && candidateNum < high

/-- Among grids of `n, n + 1, …` digits, the first with a point that reads back as `v`. -/
def shortestFrom (v : Magnitude) (point : Int) : Nat → Nat → Digits
  | 0, n => significant n v
  | tries + 1, n =>
      let unit := point - n
      let (a, b) := inUnits v.num v.den unit
      let below := a / b
      let nearer := rounded a b
      let other := if nearer = below then below + 1 else below
      let choose (d : Nat) : Digits :=
        ⟨dropZeros (Text.digits d), point + (if d = tens n then 1 else 0)⟩
      if readsBack v nearer unit then choose nearer
      else if readsBack v other unit then choose other
      else shortestFrom v point tries (n + 1)

/-- The fewest digits that read back as the magnitude. -/
def shortest (v : Magnitude) : Digits :=
  shortestFrom v (leadingPoint v.num v.den) 16 1

/-- The digits before the point and those after it. -/
def Digits.split (d : Digits) : List Char × List Char :=
  if d.point ≤ 0 then (['0'], List.replicate (-d.point).toNat '0' ++ d.digits)
  else
    let whole := d.digits.take d.point.toNat
    (whole ++ List.replicate (d.point.toNat - whole.length) '0', d.digits.drop d.point.toNat)

/-- Positional text: no exponent, and no point before nothing. -/
def Digits.positional (d : Digits) : List Char :=
  match d.split with
  | (whole, []) => whole
  | (whole, part) => whole ++ '.' :: part

/-- The shortest positional text of a double. -/
def floatText (x : Float) : String :=
  match Binary64.ofFloat x with
  | .nan => "NaN"
  | .infinite negative => if negative then "-inf" else "inf"
  | .finite negative v =>
      let body := if v.mantissa = 0 then ['0'] else (shortest v).positional
      String.ofList (if negative then '-' :: body else body)

end Mailroom.Decimal
