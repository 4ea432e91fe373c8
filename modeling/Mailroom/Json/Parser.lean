import Mailroom.Json.Basic
import Mailroom.Text.Integer
import Mailroom.Text.Utf8

/-!
# Reading JSON

Strict JSON: no comments, no trailing commas, no leading zeros, no raw control characters in
strings.

A reader takes the remaining characters and gives a value and what follows it. `Json.parse?` reads a
whole text; `Json.parseFrontBytes?` reads a value off the front of bytes.
-/

namespace Mailroom.Json

/-- Reads something off the front of a text. -/
abbrev Reader (α : Type) := List Char → Option (α × List Char)

/-- Space, tab, line feed and carriage return. -/
def isSpace (c : Char) : Bool := c = ' ' || c = '\n' || c = '\t' || c = '\r'

/-- Drops the spacing in front. -/
def skipSpace (cs : List Char) : List Char := cs.dropWhile isSpace

/-! ## Strings -/

/-- The value of four hexadecimal digits. -/
def hex4? (a b c d : Char) : Option Nat := Text.hexNumber? [a, b, c, d]

/-- What a one-letter escape stands for. -/
def escaped? : Char → Option Nat
  | '"' => some 34
  | '\\' => some 92
  | '/' => some 47
  | 'b' => some 8
  | 'f' => some 12
  | 'n' => some 10
  | 'r' => some 13
  | 't' => some 9
  | _ => none

/-- Stands for bytes that are no character. A text that holds this character itself is no JSON. -/
def broken : Char := '\x00'

/-- The code unit of `broken`, beyond all code points. -/
def brokenUnit : Nat := 0x110000

/-- The characters of a text; one that holds NUL gets another control character in its place. -/
def unbroken (c : Char) : Char := if c = broken then '\x01' else c

/-- The code units of a string up to its closing quote: code points as they stand, and whatever a
`\u` escape names. -/
def units : Reader (List Nat)
  | [] => none
  | '"' :: r => some ([], r)
  | '\\' :: 'u' :: a :: b :: c :: d :: r => do
      let n ← hex4? a b c d
      let (us, r) ← units r
      return (n :: us, r)
  | '\\' :: c :: r => do
      let n ← escaped? c
      let (us, r) ← units r
      return (n :: us, r)
  | c :: r => do
      let n ← if c = broken then some brokenUnit else if c.toNat < 32 then none else some c.toNat
      let (us, r) ← units r
      return (n :: us, r)

/-- The text of code units, halves of surrogate pairs joined; none if a half stands alone or
something is no character. -/
def joinUnits : List Nat → Option (List Char)
  | [] => some []
  | u :: us =>
      if brokenUnit ≤ u then none
      else if u < 0xD800 ∨ 0xE000 ≤ u then (joinUnits us).map (Char.ofNat u :: ·)
      else if 0xDC00 ≤ u then none
      else match us with
        | v :: vs =>
            if 0xDC00 ≤ v ∧ v < 0xE000 then
              (joinUnits vs).map (Char.ofNat (0x10000 + (u - 0xD800) * 0x400 + (v - 0xDC00)) :: ·)
            else none
        | [] => none

theorem joinUnits_ofChars (cs : List Char) : joinUnits (cs.map Char.toNat) = some cs := by
  induction cs with
  | nil => rfl
  | cons c r ih =>
      have valid : (c.toNat < 0xD800 ∨ 0xE000 ≤ c.toNat) ∧ ¬ brokenUnit ≤ c.toNat := by
        have := c.valid
        simp only [UInt32.isValidChar, Nat.isValidChar, Char.toNat, brokenUnit] at this ⊢
        omega
      rw [List.map_cons, joinUnits.eq_def]
      simp [valid.1, valid.2, ih, Char.ofNat_toNat]

/-- A string after its opening quote. -/
def stringBody : Reader (Option String) := fun cs => do
  let (us, r) ← units cs
  return ((joinUnits us).map String.ofList, r)

/-! ## Numbers and words -/

/-- The digits in front. -/
def takeDigits (cs : List Char) : List Char × List Char :=
  (cs.takeWhile Char.isDigit, cs.dropWhile Char.isDigit)

/-- The digits after a point, if there is one. -/
def fraction : Reader (List Char)
  | '.' :: r =>
      match takeDigits r with
      | ([], _) => none
      | p => some p
  | cs => some ([], cs)

/-- An exponent after its letter. -/
def exponentBody (cs : List Char) : Option (Int × List Char) :=
  let (negative, r) := match cs with
    | '-' :: r => (true, r)
    | '+' :: r => (false, r)
    | r => (false, r)
  match takeDigits r with
  | ([], _) => none
  | (ds, r) => some (if negative then -(Text.value ds : Int) else Text.value ds, r)

/-- The exponent, if there is one. -/
def exponent : Reader (Option Int)
  | c :: r =>
      if c = 'e' ∨ c = 'E' then (exponentBody r).map fun (e, r) => (some e, r)
      else some (none, c :: r)
  | [] => some (none, [])

/-- The largest number whose digits are all kept. -/
def largestDigits : Nat := 1 <<< 64 - 1

/-- Takes up digits after a number as long as it stays small enough; gives the number, and how many
digits are left over. -/
def takeUp (n : Nat) : List Char → Nat × Nat
  | [] => (n, 0)
  | c :: cs =>
      let m := n * 10 + Text.digitValue c
      if largestDigits < m then (n, (c :: cs).length) else takeUp m cs

/-- The digits that are kept of those before and after a point, as a number, and the power of ten
that goes with them. -/
def kept (whole part : List Char) : Nat × Int :=
  let (n, skipped) := takeUp 0 whole
  let (n, ignored) := takeUp n part
  (n, (skipped : Int) - (part.length - ignored : Nat))

/-- A number after its sign. -/
def unsignedNumber (negative : Bool) : Reader Json := fun cs => do
  let (whole, r) ← match cs with
    | '0' :: r => some (['0'], r)
    | _ => match takeDigits cs with
      | ([], _) => none
      | p => some p
  let (part, r) ← fraction r
  let (e, r) ← exponent r
  let n := Text.value whole
  let j := if part = [] ∧ e = none ∧ ¬ (negative ∧ n = 0) then
      .integer (if negative then -(n : Int) else n)
    else
      let (digits, scale) := kept whole part
      .decimal negative digits (scale + e.getD 0)
  return (j, r)

/-- A given word. -/
def word (w : List Char) (j : Json) : Reader Json := fun cs =>
  if w.isPrefixOf cs then some (j, cs.drop w.length) else none

/-- A value without brackets. -/
def scalar : Reader Json
  | '"' :: r => (stringBody r).map fun (s, r) => (.string s, r)
  | '-' :: r => unsignedNumber true r
  | 't' :: r => word ['r', 'u', 'e'] (.bool true) r
  | 'f' :: r => word ['a', 'l', 's', 'e'] (.bool false) r
  | 'n' :: r => word ['u', 'l', 'l'] .null r
  | cs => unsignedNumber false cs

/-! ## Arrays and objects -/

/-- One or more items with commas between them, and the closing character. -/
def itemsUntil {α : Type} (close : Char) (item : Reader α) : Nat → Reader (List α)
  | 0, _ => none
  | fuel + 1, cs => do
      let (x, r) ← item (skipSpace cs)
      match skipSpace r with
      | [] => none
      | c :: r =>
          if c = ',' then
            let (xs, r) ← itemsUntil close item fuel r
            return (x :: xs, r)
          else if c = close then return ([x], r)
          else none

/-- Up to `most` items, and the closing character. -/
def bracketed {α : Type} (most : Nat) (close : Char) (item : Reader α) : Reader (List α) :=
  fun cs =>
    match skipSpace cs with
    | [] => none
    | c :: r => if c = close then some ([], r) else itemsUntil close item most (c :: r)

/-- A key, a colon and a value. -/
def member (value : Reader Json) : Reader (Option String × Json)
  | '"' :: r => do
      let (k, r) ← stringBody r
      match skipSpace r with
      | ':' :: r =>
          let (v, r) ← value (skipSpace r)
          return ((k, v), r)
      | _ => none
  | _ => none

/-- A value with brackets nested at most `levels` deep, and at most `most` items in each. -/
def value (most : Nat) : Nat → Reader Json
  | levels + 1, '[' :: r =>
      (bracketed most ']' (value most levels) r).map fun (xs, r) => (.array xs, r)
  | levels + 1, '\x7b' :: r =>
      (bracketed most '\x7d' (member (value most levels)) r).map fun (ms, r) => (.object ms, r)
  | _, cs => scalar cs

/-- The value at the front of a text in which `broken` stands for what is no character. Its length
bounds both how deep brackets are nested and how many items they hold. -/
def parseFront? (cs : List Char) : Option (Json × List Char) :=
  value cs.length cs.length (skipSpace cs)

/-- The value that a text consists of, spacing aside. -/
def parse? (s : String) : Option Json :=
  match parseFront? (s.toList.map unbroken) with
  | some (j, r) => if skipSpace r = [] then some j else none
  | none => none

/-- The value at the front of bytes, whatever follows. Bytes that are no text may stand in strings,
which then have none. -/
def parseFrontBytes? (bytes : List UInt8) : Option Json :=
  let zeros := bytes.map fun b => if b = 0 then 1 else b
  (parseFront? (Text.Utf8.decodeWith broken zeros)).map (·.1)

end Mailroom.Json
