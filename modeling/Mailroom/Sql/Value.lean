import Mailroom.Sql.Numeral
import Mailroom.Text.Utf8

/-!
# Values of a table

A value is null, an integer, a double, a text or a byte string. A column has an affinity: storing a
value in it, or comparing a value with it, first converts the value towards the affinity where that
loses nothing.

Values that are not null have one order: numbers by value, then texts by code points, then byte
strings.
-/

namespace Mailroom.Sql

open Mailroom.Decimal (Binary64)

/-- A value in a table. -/
inductive Value
  | null
  | integer (n : Int64)
  | real (x : Float)
  | text (s : String)
  | blob (bytes : List UInt8)
deriving Repr

/-- The kinds of value. -/
def Value.kind : Value → String
  | .null => "Null"
  | .integer _ => "Integer"
  | .real _ => "Real"
  | .text _ => "Text"
  | .blob _ => "Blob"

/-- The integer that a double is, if it is one strictly between the ends of the 64-bit range. -/
def wholeReal? (x : Float) : Option Int64 :=
  match (Binary64.ofFloat x).integer? with
  | some n =>
      if Int64.minValue.toInt < n ∧ n < Int64.maxValue.toInt then some (Int64.ofInt n) else none
  | none => none

/-- A double as a value, an integer where it can be. -/
def ofReal (x : Float) : Value :=
  match wholeReal? x with
  | some n => .integer n
  | none => .real x

/-- The range in which a whole number that a double is counts as an integer at once. -/
def exactRange : Int := 1 <<< 51

/-- The value of a numeral. A whole number is an integer if the double it is read as is one of
moderate size, or if it has 64 bits itself. -/
def Numeral.toValue (n : Numeral) : Value :=
  let x := n.toFloat
  match n.integer? with
  | some i =>
      match (Binary64.ofFloat x).integer? with
      | some m => if -exactRange ≤ m ∧ m < exactRange then .integer (Int64.ofInt m) else word i x
      | none => word i x
  | none => ofReal x
where
  /-- A whole number as an integer if it has 64 bits, and as a double if not. -/
  word (i : Int) (x : Float) : Value :=
    match int64OfInt? i with
    | some w => .integer w
    | none => ofReal x

/-! ## Affinity -/

/-- What a column converts values towards. -/
inductive Affinity
  | text
  | numeric
deriving DecidableEq, Repr

/-- Converts a value towards an affinity. -/
def Affinity.apply : Affinity → Value → Value
  | .text, .integer n => .text (intText n.toInt)
  | .text, .real x => .text (realText x)
  | .numeric, .text s =>
      match Numeral.ofText? s with
      | some n => n.toValue
      | none => .text s
  | .numeric, .real x => ofReal x
  | _, v => v

/-- The two sides of a comparison, each converted towards the other's affinity: a number column
converts the side that is none, and else a text column the side that is no column. -/
def align (a b : Value × Option Affinity) : Value × Value :=
  match a.2, b.2 with
  | some .numeric, some .numeric => (a.1, b.1)
  | some .numeric, _ => (a.1, Affinity.numeric.apply b.1)
  | _, some .numeric => (Affinity.numeric.apply a.1, b.1)
  | some .text, none => (a.1, Affinity.text.apply b.1)
  | none, some .text => (Affinity.text.apply a.1, b.1)
  | _, _ => (a.1, b.1)

/-! ## Order -/

/-- Exchanges less and greater. -/
def flip : Ordering → Ordering
  | .lt => .gt
  | .eq => .eq
  | .gt => .lt

/-- The order of two doubles. -/
def compareReal (x y : Float) : Ordering :=
  if x < y then .lt else if y < x then .gt else .eq

/-- The order of byte strings. -/
def compareBytes : List UInt8 → List UInt8 → Ordering
  | [], [] => .eq
  | [], _ :: _ => .lt
  | _ :: _, [] => .gt
  | a :: as, b :: bs => if a < b then .lt else if b < a then .gt else compareBytes as bs

/-- The order of texts: by code points, which is the order of their UTF-8 bytes. -/
def compareText (s t : String) : Ordering :=
  if s < t then .lt else if t < s then .gt else .eq

/-- The order of two values; none if either is null. -/
def compareValues : Value → Value → Option Ordering
  | .null, _ => none
  | _, .null => none
  | .integer m, .integer n => some (compare m.toInt n.toInt)
  | .integer m, .real x =>
      some (((Binary64.ofFloat x).compareInt m.toInt).map flip |>.getD .eq)
  | .real x, .integer n => some (((Binary64.ofFloat x).compareInt n.toInt).getD .eq)
  | .real x, .real y => some (compareReal x y)
  | .integer _, _ => some .lt
  | .real _, _ => some .lt
  | .text s, .text t => some (compareText s t)
  | .text _, .blob _ => some .lt
  | .text _, _ => some .gt
  | .blob a, .blob b => some (compareBytes a b)
  | .blob _, _ => some .gt

/-- The bytes that take part in matching a pattern: those of the text form, or the bytes of a byte
string. -/
def Value.pattern? : Value → Option (List UInt8)
  | .null => none
  | .integer n => some (Text.Utf8.encode (Text.ofInt n.toInt))
  | .real x => some (Text.Utf8.encode (realText x).toList)
  | .text s => some (Text.Utf8.encode s.toList)
  | .blob bytes => some bytes

end Mailroom.Sql
