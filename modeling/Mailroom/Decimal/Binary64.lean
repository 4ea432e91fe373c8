import Mailroom.Text.Integer

/-!
# Binary floating point numbers as exact fractions

A finite double is `±m · 2^q`. Reading that off its bits puts every question about the number (its
order among integers, its decimal digits) into `Nat` and `Int` arithmetic. The other way round,
`ofDecimal` is the double nearest to a decimal numeral.
-/

namespace Mailroom.Decimal

/-- A power of ten. -/
def tens (k : Nat) : Nat := Nat.pow 10 k

/-- The number `mantissa · 2^exponent`. -/
structure Magnitude where
  mantissa : Nat
  exponent : Int
deriving DecidableEq, Repr

namespace Magnitude

/-- The highest bit of a full mantissa, which the bits of a double leave out. -/
def hidden : Nat := 1 <<< 52

/-- Numerator of the fraction. -/
def num (v : Magnitude) : Nat := v.mantissa <<< v.exponent.toNat

/-- Denominator of the fraction. -/
def den (v : Magnitude) : Nat := 1 <<< (-v.exponent).toNat

end Magnitude

/-- What a double denotes. -/
inductive Binary64
  | nan
  | infinite (negative : Bool)
  | finite (negative : Bool) (value : Magnitude)
deriving DecidableEq, Repr

/-- Reads a double off its sign, exponent and fraction bits. -/
def Binary64.ofFloat (x : Float) : Binary64 :=
  let bits := x.toBits.toNat
  let negative := bits >>> 63 = 1
  let exponent : Nat := bits >>> 52 % 2048
  let fraction := bits % Magnitude.hidden
  if exponent = 2047 then
    if fraction = 0 then .infinite negative else .nan
  else if exponent = 0 then .finite negative ⟨fraction, -1074⟩
  else .finite negative ⟨Magnitude.hidden + fraction, (exponent : Int) - 1075⟩

/-- How a finite or infinite double stands to an integer; a NaN stands to none. -/
def Binary64.compareInt (x : Binary64) (n : Int) : Option Ordering :=
  match x with
  | .nan => none
  | .infinite negative => some (if negative then .lt else .gt)
  | .finite negative v =>
      let num : Int := if negative then -v.num else v.num
      some (compare num (n * v.den))

/-- The integer that a finite double is, if it is one. -/
def Binary64.integer? : Binary64 → Option Int
  | .finite negative v =>
      if v.num % v.den = 0 then
        some (if negative then -((v.num / v.den : Nat) : Int) else ((v.num / v.den : Nat) : Int))
      else none
  | _ => none

/-! ## Rounding -/

/-- The quotient of two numbers rounded to a whole number, a half to the even one. -/
def halfEven (num den : Nat) : Nat :=
  let q := num / den
  let twice := 2 * (num % den)
  if twice < den then q
  else if den < twice then q + 1
  else q + q % 2

namespace Magnitude

/-- The least exponent of a double. -/
def leastExponent : Int := -1074

/-- A fraction in steps of `2^exponent`, rounded. -/
def inSteps (num den : Nat) (exponent : Int) : Nat :=
  halfEven (num <<< (-exponent).toNat) (den <<< exponent.toNat)

/-- The magnitude nearest to a fraction that is not zero: its mantissa has 53 bits, or fewer where
the exponent is the least one. -/
def nearest (num den : Nat) : Magnitude :=
  let guess : Int := (num.log2 : Int) - den.log2 - 52
  let full : Int :=
    if num <<< (-guess).toNat < (den <<< guess.toNat) <<< 52 then guess - 1 else guess
  let exponent := max full leastExponent
  ⟨inSteps num den exponent, exponent⟩

/-- The bits of a magnitude as a double; too large a one is infinite. -/
def bits (v : Magnitude) : Nat :=
  let biased := (v.exponent - leastExponent).toNat <<< 52 + v.mantissa
  min biased (2047 <<< 52)

end Magnitude

/-- The whole number of 53 bits nearest to one. -/
def nearest (n : Nat) : Nat :=
  if n < 1 <<< 53 then n else (Magnitude.nearest n 1).num

/-- The double nearest to a fraction. -/
def ofFraction (negative : Bool) (num den : Nat) : Float :=
  let bits := if num = 0 then 0 else (Magnitude.nearest num den).bits
  Float.ofBits (UInt64.ofNat (if negative then bits + 1 <<< 63 else bits))

/-- The double nearest to `digits · 10^exponent`; too large a number is infinite. -/
def ofDecimal (negative : Bool) (digits : Nat) (exponent : Int) : Float :=
  let size : Int := (Text.digits digits).length + exponent
  if digits = 0 ∨ size < -400 then ofFraction negative 0 1
  else if 400 < size then ofFraction negative (tens 400) 1
  else ofFraction negative (digits * tens exponent.toNat) (tens (-exponent).toNat)

end Mailroom.Decimal
