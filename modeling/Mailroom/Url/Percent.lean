import Mailroom.Text.Integer
import Mailroom.Text.Utf8

/-!
# Percent encoding

A byte that a part of a URL cannot carry as it is becomes `%` and two hexadecimal digits. Encoding
works on characters: the reserved ones and all beyond ASCII are written byte by byte. Decoding works
on bytes, and a `%` without two digits after it stands for itself.
-/

namespace Mailroom.Url.Percent

/-- The upper-case hexadecimal digit of a number below sixteen. -/
def hexDigit (n : Nat) : Char := Char.ofNat (if n < 10 then 48 + n else 55 + n)

/-- The value of a hexadecimal digit, given as a byte. -/
def hexValue? (b : UInt8) : Option Nat := Text.hexValue? (Char.ofNat b.toNat)

/-- The byte of an ASCII character. -/
def asciiByte (c : Char) : UInt8 := UInt8.ofNat c.toNat

private theorem hexValue?_hexDigit :
    ∀ n, n < 16 → hexValue? (asciiByte (hexDigit n)) = some n := by decide

/-! ## Encoding -/

/-- A byte as `%` and two digits. -/
def encodeByte (b : UInt8) : List Char := ['%', hexDigit (b.toNat / 16), hexDigit (b.toNat % 16)]

/-- A character with its bytes encoded if it is reserved or not ASCII. -/
def encodeChar (reserved : Char → Bool) (c : Char) : List Char :=
  if c.toNat < 0x80 ∧ reserved c = false then [c] else (Text.Utf8.encode [c]).flatMap encodeByte

/-- A text with its reserved characters encoded. -/
def encode (reserved : Char → Bool) (cs : List Char) : List Char :=
  cs.flatMap (encodeChar reserved)

/-! ## Decoding -/

/-- The byte that two digits stand for. -/
def pair? (a b : UInt8) : Option UInt8 := do
  return UInt8.ofNat (16 * (← hexValue? a) + (← hexValue? b))

/-- Bytes with each encoded byte decoded. -/
def decode : List UInt8 → List UInt8
  | [] => []
  | [a] => [a]
  | [a, b] => [a, b]
  | a :: b :: c :: r =>
      if a = asciiByte '%' then
        match pair? b c with
        | some x => x :: decode r
        | none => a :: decode (b :: c :: r)
      else a :: decode (b :: c :: r)

private theorem pair?_hexDigit (b : UInt8) :
    pair? (asciiByte (hexDigit (b.toNat / 16))) (asciiByte (hexDigit (b.toNat % 16))) = some b := by
  have high : b.toNat / 16 < 16 := by have := b.toNat_lt; omega
  have low : b.toNat % 16 < 16 := by omega
  have whole : 16 * (b.toNat / 16) + b.toNat % 16 = b.toNat := by omega
  rw [pair?, hexValue?_hexDigit _ high, hexValue?_hexDigit _ low]
  show some (UInt8.ofNat (16 * (b.toNat / 16) + b.toNat % 16)) = some b
  rw [whole, UInt8.ofNat_toNat]

theorem decode_encodeByte (b : UInt8) (rest : List UInt8) :
    decode ((encodeByte b).map asciiByte ++ rest) = b :: decode rest := by
  simp [encodeByte, decode, pair?_hexDigit]

/-! ## Reserved characters -/

/-- Control characters of ASCII. -/
def isControl (c : Char) : Bool := c.toNat < 32 || c.toNat = 127

/-- Reserved in a query. -/
def inQuery (c : Char) : Bool :=
  isControl c || c = ' ' || c = '"' || c = '#' || c = '<' || c = '>'

/-- Reserved in a query of a web address. -/
def inWebQuery (c : Char) : Bool := inQuery c || c = '\x27'

/-- Reserved in a fragment. -/
def inFragment (c : Char) : Bool :=
  isControl c || c = ' ' || c = '"' || c = '<' || c = '>' || c = '\x60'

/-- Reserved in a path. -/
def inPath (c : Char) : Bool :=
  inFragment c || c = '#' || c = '?' || c = '\x7b' || c = '\x7d'

/-- Reserved in a user name or a password. -/
def inUser (c : Char) : Bool :=
  inPath c || c = '/' || c = ':' || c = ';' || c = '=' || c = '@' || c = '[' || c = '\\' ||
    c = ']' || c = '^' || c = '|'

end Mailroom.Url.Percent
