import Mailroom.Text.Split
import Mailroom.Url.Percent

/-!
# Forms

`application/x-www-form-urlencoded`: pairs of name and value, with `=` inside a pair and `&` between
pairs. Letters, digits and `*-._` are written as they are, a space as `+`, and any other byte
percent-encoded. Reading is lenient: empty pairs are skipped, a missing value is empty, and bytes
that are no UTF-8 become U+FFFD.
-/

namespace Mailroom.Url.Form

/-- Whether a byte is written as it is. -/
def isPlain (b : UInt8) : Bool :=
  let n := b.toNat
  (48 ≤ n && n ≤ 57) || (65 ≤ n && n ≤ 90) || (97 ≤ n && n ≤ 122) || n = 42 || n = 45 || n = 46 ||
    n = 95

/-- A byte as it is written. -/
def encodeByte (b : UInt8) : List Char :=
  if b = 32 then ['+']
  else if isPlain b then [Char.ofNat b.toNat]
  else Percent.encodeByte b

/-- A text encoded. -/
def encode (cs : List Char) : List Char := (Text.Utf8.encode cs).flatMap encodeByte

/-- Pairs written one after the other. -/
def write : List (String × String) → List Char
  | [] => []
  | [(name, value)] => encode name.toList ++ '=' :: encode value.toList
  | (name, value) :: next :: rest =>
      encode name.toList ++ '=' :: encode value.toList ++ '&' :: write (next :: rest)

/-- A text decoded. -/
def decode (cs : List Char) : String :=
  let bytes := (Text.Utf8.encode cs).map fun b => if b = Percent.asciiByte '+' then 32 else b
  String.ofList (Text.Utf8.decode (Percent.decode bytes))

/-- Reads a pair. -/
def pair (cs : List Char) : String × String :=
  let (name, value) := Text.cut '=' cs
  (decode name, decode value)

/-- Reads the pairs of a form. -/
def pairs (cs : List Char) : List (String × String) :=
  ((Text.split '&' cs).filter (· ≠ [])).map pair

end Mailroom.Url.Form
