import Mailroom.Text.Integer
import Mailroom.Text.Split
import Mailroom.Text.Utf8
import Mailroom.Url.Domain
import Mailroom.Url.Fault
import Mailroom.Url.Percent

/-!
# Hosts

The host of a URL: a name, an IPv4 address or an IPv6 address. A name whose last label is a number
has to be an IPv4 address, whose one to four numbers may be decimal, octal (`0…`) or hexadecimal
(`0x…`); the last of them fills the bytes that are left. An IPv6 address stands in brackets.
-/

namespace Mailroom.Url

/-- The host of a URL. -/
inductive Host
  | name (text : String)
  | ipv4 (address : Nat)
  | ipv6 (pieces : List Nat)
deriving DecidableEq, Repr

namespace Host

/-! ## IPv4 -/

/-- The value of a digit in a base up to sixteen. -/
def digit? (base : Nat) (c : Char) : Option Nat :=
  (Text.hexValue? c).filter (· < base)

/-- The value of a run of digits in a base; none for an empty run. -/
def numberIn? (base : Nat) (cs : List Char) : Option Nat := do
  let digits ← cs.mapM (digit? base)
  if digits = [] then none else some (digits.foldl (fun acc d => acc * base + d) 0)

/-- The value of a number of an IPv4 address. -/
def number? : List Char → Option Nat
  | ['0', 'x'] => some 0
  | ['0', 'X'] => some 0
  | '0' :: 'x' :: r => numberIn? 16 r
  | '0' :: 'X' :: r => numberIn? 16 r
  | '0' :: c :: r => numberIn? 8 (c :: r)
  | cs => numberIn? 10 cs

/-- The labels of a name, without the empty one after a final dot. -/
def labels (cs : List Char) : List (List Char) :=
  let all := Text.split '.' cs
  if all.getLast? = some [] then all.dropLast else all

/-- Whether a name has to be an IPv4 address. -/
def endsInNumber (cs : List Char) : Bool :=
  match (labels cs).getLast? with
  | none => false
  | some last => (last ≠ [] && last.all Char.isDigit) || (number? last).isSome

/-- The address that numbers stand for, the last one filling what is left of four bytes. -/
def address? (numbers : List Nat) : Option Nat := do
  let last ← numbers.getLast?
  let others := numbers.dropLast
  let left := 8 * (4 - others.length)
  if 4 < numbers.length ∨ others.any (255 < ·) ∨ 1 <<< left ≤ last then none
  else some ((others.foldl (fun acc n => acc * 256 + n) 0) <<< left + last)

/-- The IPv4 address that a name is. -/
def ipv4? (cs : List Char) : Option Nat := ((labels cs).mapM number?).bind address?

/-! ## IPv6 -/

/-- A byte in decimal, without leading zeros. -/
def byte? (cs : List Char) : Option Nat := do
  let n ← Text.natural? cs
  if n ≤ 255 ∧ Text.digits n = cs then some n else none

/-- The two pieces that an IPv4 address stands for. -/
def dotted? (cs : List Char) : Option (List Nat) := do
  match ← (Text.split '.' cs).mapM byte? with
  | [a, b, c, d] => some [a * 256 + b, c * 256 + d]
  | _ => none

/-- A piece of up to four hexadecimal digits. -/
def piece? (cs : List Char) : Option (List Nat) :=
  if cs.length ≤ 4 then (numberIn? 16 cs).map fun n => [n] else none

/-- Pieces separated by colons; the last one may be an IPv4 address if `dotted` says so. -/
def pieces? (dotted : Bool) (cs : List Char) : Option (List Nat) :=
  if cs = [] then some []
  else
    let parts := Text.split ':' cs
    match parts.getLast? with
    | none => none
    | some last => do
        let first ← parts.dropLast.mapM piece?
        let final ← if dotted ∧ '.' ∈ last then dotted? last else piece? last
        return first.flatten ++ final

/-- What stands before and after the first double colon. -/
def gap? : List Char → Option (List Char × List Char)
  | ':' :: ':' :: r => some ([], r)
  | c :: r => (gap? r).map fun (before, after) => (c :: before, after)
  | [] => none

/-- The eight pieces of an IPv6 address; a double colon stands for as many zeros as are missing, and
for one at least. -/
def ipv6? (cs : List Char) : Option (List Nat) :=
  match gap? cs with
  | none => (pieces? true cs).filter (·.length = 8)
  | some (before, after) => do
      let first ← pieces? false before
      let last ← pieces? true after
      if first.length + last.length ≤ 7 then
        return first ++ List.replicate (8 - first.length - last.length) 0 ++ last
      else none

/-! ## Reading -/

/-- The text between brackets. -/
def bracketed? : List Char → Option (List Char)
  | '[' :: r => if r.getLast? = some ']' then some r.dropLast else none
  | _ => none

/-- Reads an IPv6 address in brackets. -/
def readAddress (cs : List Char) : Except Fault Host :=
  match (bracketed? cs).bind ipv6? with
  | some pieces => .ok (.ipv6 pieces)
  | none => .error .ipv6

/-- Reads the host of a web address. -/
def read (cs : List Char) : Except Fault Host :=
  if cs.head? = some '[' then readAddress cs
  else
    let decoded := Text.Utf8.decode (Percent.decode (Text.Utf8.encode cs))
    match Domain.toAscii? decoded with
    | none => .error .hostName
    | some [] => .error .emptyHost
    | some ascii =>
        if endsInNumber ascii then
          match ipv4? ascii with
          | some address => .ok (.ipv4 address)
          | none => .error .ipv4
        else .ok (.name (String.ofList ascii))

/-- Characters that the host of no URL may hold. -/
def isDelimiter (c : Char) : Bool :=
  c.toNat = 0 || c ∈ [' ', '#', '/', ':', '<', '>', '?', '@', '[', '\\', ']', '^', '|']

/-- Reads a host whose names mean nothing to the library. -/
def readUninterpreted (cs : List Char) : Except Fault Host :=
  if cs.head? = some '[' then readAddress cs
  else if cs.any isDelimiter then .error .hostCharacter
  else .ok (.name (String.ofList (Percent.encode Percent.isControl cs)))

/-! ## Writing -/

/-- The text of an IPv4 address. -/
def ipv4Text (address : Nat) : String :=
  ".".intercalate ([3, 2, 1, 0].map fun i => natText (address >>> (8 * i) % 256))

/-- The lower-case hexadecimal digits of a piece. -/
def pieceText (n : Nat) : String := String.ofList (Nat.toDigits 16 n)

/-- The length of the run of zeros at the front. -/
def zeros (pieces : List Nat) : Nat := (pieces.takeWhile (· = 0)).length

/-- The place and the length of the first of the longest runs of zeros. -/
def longestZeros : List Nat → Nat × Nat
  | [] => (0, 0)
  | p :: r =>
      let here := zeros (p :: r)
      let (place, length) := longestZeros r
      if length ≤ here then (0, here) else (place + 1, length)

/-- The text of an IPv6 address, its longest run of two or more zeros left out. -/
def ipv6Text (pieces : List Nat) : String :=
  let (place, length) := longestZeros pieces
  let colons (ps : List Nat) : String := ":".intercalate (ps.map pieceText)
  if length < 2 then colons pieces
  else colons (pieces.take place) ++ "::" ++ colons (pieces.drop (place + length))

/-- The text of a host. -/
def text : Host → String
  | name s => s
  | ipv4 n => ipv4Text n
  | ipv6 ps => "[" ++ ipv6Text ps ++ "]"

end Host

end Mailroom.Url
