import Mailroom.Decimal.Digits

/-!
# Pairs of doubles

A number as the sum of two doubles, the second one far smaller than the first. Scaling such a pair
by powers of ten keeps about thirty digits, which is how tables turn the texts of numbers into
doubles and doubles into texts: the products are not exact, and the last digit of a result shows it
now and then.
-/

namespace Mailroom.Decimal

/-- The sum of two doubles. -/
structure DoublePair where
  high : Float
  low : Float

namespace DoublePair

/-- A double without the lower half of its digits. -/
def upper (x : Float) : Float := Float.ofBits (x.toBits &&& 0xFFFFFFFFFC000000)

/-- The product of two pairs, the products of the low parts left out. -/
def mul (p q : DoublePair) : DoublePair :=
  let hx := upper p.high
  let tx := p.high - hx
  let hy := upper q.high
  let ty := q.high - hy
  let top := hx * hy
  let cross := hx * ty + tx * hy
  let c := top + cross
  let rest := top - c + cross + tx * ty
  let rest := p.high * q.low + p.low * q.high + rest
  let high := c + rest
  ⟨high, c - high + rest⟩

/-! ## Powers of ten -/

/-- `10`. -/
def ten : DoublePair := ⟨1.0e1, 0.0⟩

/-- `10^10`. -/
def tenToTen : DoublePair := ⟨1.0e10, 0.0⟩

/-- `10^100`. -/
def tenToHundred : DoublePair := ⟨1.0e100, -1.5902891109759918046e83⟩

/-- `10^-1`. -/
def tenth : DoublePair := ⟨1.0e-1, -5.5511151231257827021e-18⟩

/-- `10^-10`. -/
def tenthToTen : DoublePair := ⟨1.0e-10, -3.6432197315497741579e-27⟩

/-- `10^-100`. -/
def tenthToHundred : DoublePair := ⟨1.0e-100, -1.99918998026028836196e-117⟩

/-- A pair scaled `n` times. -/
def scaleBy (factor : DoublePair) (n : Nat) (p : DoublePair) : DoublePair :=
  Nat.repeat (fun p => p.mul factor) n p

/-- A pair scaled by a power of ten, in hundreds, tens and ones. -/
def scale (exponent : Int) (p : DoublePair) : DoublePair :=
  let n := exponent.natAbs
  let (ones, tens, hundreds) :=
    if exponent < 0 then (tenth, tenthToTen, tenthToHundred) else (ten, tenToTen, tenToHundred)
  scaleBy ones (n % 10) (scaleBy tens (n % 100 / 10) (scaleBy hundreds (n / 100) p))

/-! ## Reading -/

/-- The largest number of 64 bits. -/
def largestWord : Nat := 1 <<< 64 - 1

/-- Moves tens from a positive exponent into a number, as long as it stays well below 64 bits. -/
def takeTens : Nat → Nat → Nat × Nat
  | n, 0 => (n, 0)
  | n, e + 1 => if n < (largestWord - 0x7FF) / 10 then takeTens (n * 10) e else (n, e + 1)

/-- Moves tens from a number into a negative exponent, which is given without its sign. -/
def giveTens : Nat → Nat → Nat × Nat
  | n, 0 => (n, 0)
  | n, e + 1 => if n % 10 = 0 then giveTens (n / 10) e else (n, e + 1)

/-- A number of 64 bits. -/
def ofWord (n : UInt64) : DoublePair :=
  let high := n.toFloat
  if high ≤ 18446744073709549568.0 then
    let m := high.toUInt64
    ⟨high, if m ≤ n then (n - m).toFloat else -(m - n).toFloat⟩
  else ⟨high, 0.0⟩

/-- The sum; what is too large is infinite. -/
def sum (p : DoublePair) : Float :=
  let x := p.high + p.low
  if x.isNaN then 1.0 / 0.0 else x

/-- The double that `digits · 10^exponent` is read as, `digits` a number of 64 bits. -/
def read (negative : Bool) (digits : Nat) (exponent : Int) : Float :=
  let x :=
    if digits = 0 then 0.0
    else if 0 < exponent then
      let (n, e) := takeTens digits exponent.toNat
      ((ofWord (UInt64.ofNat n)).scale e).sum
    else
      let (n, e) := giveTens digits exponent.natAbs
      ((ofWord (UInt64.ofNat n)).scale (-e)).sum
  if negative then -x else x

/-! ## Writing -/

/-- Scales a pair step by step while it is out of range, for `fuel` steps at most, counting the
tens. -/
def scaleWhile (outside : Float → Bool) (factor : DoublePair) (tens : Int) :
    Nat → DoublePair × Int → DoublePair × Int
  | 0, s => s
  | fuel + 1, (p, exponent) =>
      if outside p.high then scaleWhile outside factor tens fuel (p.mul factor, exponent + tens)
      else (p, exponent)

/-- More steps of one factor than any double needs. -/
def maxSteps : Nat := 12

/-- A positive double as a number of eighteen or nineteen digits and a power of ten. -/
def widen (x : Float) : DoublePair × Int :=
  let down (limit : Float) (factor : DoublePair) (tens : Int) :=
    scaleWhile (fun y => limit < y) factor tens maxSteps
  let up (limit : Float) (factor : DoublePair) (tens : Int) :=
    scaleWhile (fun y => y < limit) factor (-tens) maxSteps
  if 9.223372036854774784e18 < x then
    down 9.223372036854774784e18 tenth 1 <| down 9.223372036854774784e28 tenthToTen 10 <|
      down 9.223372036854774784e118 tenthToHundred 100 (⟨x, 0.0⟩, 0)
  else
    up 9.22337203685477478e17 ten 1 <| up 9.223372036854774784e7 tenToTen 10 <|
      up 9.223372036854774784e-83 tenToHundred 100 (⟨x, 0.0⟩, 0)

/-- The whole part of a pair. -/
def whole (p : DoublePair) : Nat :=
  let high := p.high.toUInt64
  (if p.low < 0.0 then high - (-p.low).toUInt64 else high + p.low.toUInt64).toNat

/-- A number rounded to `n` significant digits, a half upwards. -/
def roundTo (n number : Nat) : List Char × Int :=
  let ds := Text.digits number
  let next := (ds[n]?.map fun c => decide ('5' ≤ c)).getD false
  if next then
    let up := Text.digits (Text.value (ds.take n) + 1)
    (up.take n, ds.length + (up.length - n : Nat))
  else (ds.take n, ds.length)

/-- `n` significant digits of a positive double, without the zeros at the end. -/
def digits (n : Nat) (x : Float) : Digits :=
  let (p, exponent) := widen x
  let (ds, point) := roundTo n p.whole
  ⟨dropZeros ds, point + exponent⟩

end DoublePair

end Mailroom.Decimal
