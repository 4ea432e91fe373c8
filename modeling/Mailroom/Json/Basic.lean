import Mailroom.Text.Integer

/-!
# JSON values

A JSON text as a tree that forgets spacing and nothing a reader can ask about. Two things are kept
apart that a looser model would merge: an integer is written without fraction or exponent (`-0`
counts as a decimal), and a string escape may name half of a surrogate pair, in which case the
string has no text. Such a string is harmless as long as nobody asks for its text. Of a decimal only
as many digits are kept as fit 64 bits.

The nesting of a value is the number of brackets around its innermost part. Readers that keep part
of a value limit its nesting; a member that nobody reads may nest as deeply as it likes.
-/

namespace Mailroom

/-- A JSON value. -/
inductive Json
  | null
  | bool (b : Bool)
  | integer (n : Int)
  | decimal (negative : Bool) (digits : Nat) (exponent : Int)
  | string (text : Option String)
  | array (items : List Json)
  | object (members : List (Option String × Json))
deriving Repr

namespace Json

/-- A string value. -/
def ofString (s : String) : Json := .string (some s)

/-- A list of strings. -/
def ofStrings (ss : List String) : Json := .array (ss.map ofString)

/-- An object from pairs of key and value. -/
def ofMembers (members : List (String × Json)) : Json :=
  .object (members.map fun (k, v) => (some k, v))

/-- The text of a string value. -/
def text? : Json → Option String
  | .string t => t
  | _ => none

/-- The value of a signed 64-bit integer. -/
def int64? : Json → Option Int64
  | .integer n => int64OfInt? n
  | _ => none

/-- The value of an unsigned 64-bit integer. -/
def uint64? : Json → Option UInt64
  | .integer n => uint64OfInt? n
  | _ => none

/-- The items of an array, each read by `read`. -/
def list? {α : Type} (read : Json → Option α) : Json → Option (List α)
  | .array xs => xs.mapM read
  | _ => none

/-- The items of an array that may nest `levels` deep, each read with the levels left to it. -/
def listWithin? {α : Type} (read : Nat → Json → Option α) : Nat → Json → Option (List α)
  | 0, _ => none
  | levels + 1, j => j.list? (read levels)

/-- A value that may be `null`. -/
def nullable? {α : Type} (read : Json → Option α) : Json → Option (Option α)
  | .null => some none
  | j => (read j).map some

theorem list?_ofStrings (ss : List String) : (ofStrings ss).list? text? = some ss := by
  simp only [ofStrings, list?]
  induction ss with
  | nil => rfl
  | cons s r ih => simp [ofString, text?] at ih ⊢; simp [ih]

theorem int64?_toInt (n : Int64) : (Json.integer n.toInt).int64? = some n :=
  int64OfInt?_toInt n

/-! ## Nesting -/

/-- How deep brackets may nest in what a reader keeps. -/
def nesting : Nat := 127

mutual

/-- How deep brackets nest. -/
def depth : Json → Nat
  | .array xs => depthItems xs + 1
  | .object ms => depthMembers ms + 1
  | _ => 0

/-- How deep brackets nest in a list of items. -/
def depthItems : List Json → Nat
  | [] => 0
  | x :: xs => max (depth x) (depthItems xs)

/-- How deep brackets nest in a list of members. -/
def depthMembers : List (Option String × Json) → Nat
  | [] => 0
  | (_, v) :: ms => max (depth v) (depthMembers ms)

end

theorem depth_ofStrings (ss : List String) : (ofStrings ss).depth = 1 := by
  have items : depthItems (ss.map ofString) = 0 := by
    induction ss with
    | nil => rfl
    | cons s r ih => simp [depthItems, ofString, depth, ih]
  simp [ofStrings, depth, items]

end Json

end Mailroom
