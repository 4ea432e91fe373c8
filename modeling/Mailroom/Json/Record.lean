import Mailroom.Decimal.Binary64
import Mailroom.Json.Parser

/-!
# Records in JSON

A record is written as an object with a member per field, or as an array of its fields in the order
of declaration. In an object, members that belong to no field are skipped, but a field must not
come twice and every key must have a text. In an array the last fields may be missing, and nothing
may follow the last field.

What a missing field means is the field's own business: `required` refuses it, `withDefault` takes
its default, and `optional` takes it for absent, which an array cannot express.

`keepable` tells whether a value can be kept whole: all its strings have a text, its numbers fit a
double, and its brackets do not nest too deeply.
-/

namespace Mailroom.Json

/-- The fields that are present. -/
structure Record where
  positional : Bool
  members : List (String × Json)

/-- The members of an object that belong to one of the named fields. -/
def known (names : List String) (members : List (Option String × Json)) : List (String × Json) :=
  members.filterMap fun m =>
    match m.1 with
    | some k => if k ∈ names then some (k, m.2) else none
    | none => none

/-- Reads an object as a record. -/
def mapping? (names : List String) : Json → Option Record
  | .object ms =>
      if ms.all (·.1.isSome) ∧ ((known names ms).map (·.1)).Nodup then
        some ⟨false, known names ms⟩
      else none
  | _ => none

/-- Reads an object or an array as a record. -/
def record? (names : List String) : Json → Option Record
  | .array xs => if xs.length ≤ names.length then some ⟨true, names.zip xs⟩ else none
  | j => mapping? names j

/-- The value of a field. -/
def Record.get? (r : Record) (name : String) : Option Json := r.members.lookup name

namespace Record

variable {α : Type}

/-- A field that must be there. -/
def required (r : Record) (name : String) (read : Json → Option α) : Option α :=
  (r.get? name).bind read

/-- A field that has a default. -/
def withDefault (r : Record) (name : String) (default : α) (read : Json → Option α) : Option α :=
  match r.get? name with
  | some v => read v
  | none => some default

/-- A field that may be absent or `null`; only an object can leave it out. -/
def optional (r : Record) (name : String) (read : Json → Option α) : Option (Option α) :=
  match r.get? name with
  | some v => v.nullable? read
  | none => if r.positional then none else some none

end Record

/-! ## Values kept whole -/

/-- The largest power of ten that a number is multiplied with. -/
def maxTens : Nat := 308

/-- The least number that no double comes near to. -/
def beyondDoubles : Nat := 1 <<< 1024 - 1 <<< 970

/-- Whether a double holds the product of a number and a power of ten, both made doubles first. -/
def finite (digits : Nat) (exponent : Int) : Bool :=
  digits = 0 || exponent < 0 ||
    (exponent ≤ maxTens &&
      Decimal.nearest digits * Decimal.nearest (Decimal.tens exponent.toNat) < beyondDoubles)

mutual

/-- Whether the value can be kept whole. -/
def representable : Json → Bool
  | .integer n =>
      let (digits, exponent) := kept (Text.digits n.natAbs) []
      finite digits exponent
  | .decimal _ d e => finite d e
  | .string s => s.isSome
  | .array xs => representableItems xs
  | .object ms => representableMembers ms
  | _ => true

/-- Whether all items can be kept whole. -/
def representableItems : List Json → Bool
  | [] => true
  | x :: xs => representable x && representableItems xs

/-- Whether all members can be kept whole. -/
def representableMembers : List (Option String × Json) → Bool
  | [] => true
  | (k, v) :: ms => k.isSome && representable v && representableMembers ms

end

/-- Whether a value can be kept whole where brackets may nest `levels` deep. -/
def keepable (levels : Nat) (j : Json) : Bool := representable j && depth j ≤ levels

end Mailroom.Json
