/-!
# A place in a YAML text

What is left of a text of some size, and where it starts: how many characters, lines and columns lie
before it. Five characters break a line, and a carriage return with a line feed breaks it once.
-/

namespace Mailroom.Yaml

/-- A place in a text. -/
structure Cursor where
  rest : List Char
  size : Nat
  index : Nat
  line : Nat
  column : Nat
deriving Repr

/-- A character that breaks a line. -/
def isBreak (c : Char) : Bool :=
  c = '\n' || c = '\r' || c = '\u0085' || c = '\u2028' || c = '\u2029'

/-- A space or a tab. -/
def isGap (c : Char) : Bool := c = ' ' || c = '\t'

/-- A character of a name: an ASCII letter or digit, a hyphen or an underscore. -/
def isNameChar (c : Char) : Bool := c.isAlphanum || c = '-' || c = '_'

/-- A character that may stand in a text. -/
def isAllowed (c : Char) : Bool :=
  let n := c.toNat
  n = 9 || n = 10 || n = 13 || (0x20 ≤ n && n ≤ 0x7E) || n = 0x85 || (0xA0 ≤ n && n ≤ 0xD7FF) ||
    (0xE000 ≤ n && n ≤ 0xFFFD) || 0x10000 ≤ n

namespace Cursor

/-- The start of a text. -/
def start (s : String) : Cursor := ⟨s.toList, s.length, 0, 0, 0⟩

/-- The character `i` places on. -/
def char? (c : Cursor) (i : Nat) : Option Char := c.rest[i]?

/-- Whether the character `i` places on is `x`. -/
def isAt (c : Cursor) (i : Nat) (x : Char) : Bool := c.char? i == some x

/-- Whether a character `i` places on satisfies `p`. -/
def satisfies (c : Cursor) (i : Nat) (p : Char → Bool) : Bool := (c.char? i).any p

/-- Whether a line break or the end of the text stands `i` places on. -/
def atBreak (c : Cursor) (i : Nat) : Bool := (c.char? i).all isBreak

/-- Whether a gap, a line break or the end of the text stands `i` places on. -/
def atSpace (c : Cursor) (i : Nat) : Bool := (c.char? i).all fun x => isGap x || isBreak x

/-- One of the given characters stands `i` places on. -/
def isOneOf (c : Cursor) (i : Nat) (xs : List Char) : Bool := (c.char? i).any (· ∈ xs)

/-- Past one character of a line. -/
def skip (c : Cursor) : Cursor :=
  match c.rest with
  | [] => c
  | _ :: r => { c with rest := r, index := c.index + 1, column := c.column + 1 }

/-- Past a number of characters of a line. -/
def skipBy (c : Cursor) : Nat → Cursor
  | 0 => c
  | n + 1 => c.skip.skipBy n

/-- Past a line break, if there is one. -/
def skipLine (c : Cursor) : Cursor :=
  match c.rest with
  | '\r' :: '\n' :: r => ⟨r, c.size, c.index + 2, c.line + 1, 0⟩
  | x :: r => if isBreak x then ⟨r, c.size, c.index + 1, c.line + 1, 0⟩ else c
  | [] => c

/-- The text that a line break stands for, none where there is no line break. -/
def breakText (c : Cursor) : String :=
  match c.rest with
  | x :: _ => if x = '\u2028' ∨ x = '\u2029' then x.toString else if isBreak x then "\n" else ""
  | [] => ""

/-- Past all characters of the line that satisfy `p`. -/
def skipWhile (p : Char → Bool) (c : Cursor) : Cursor :=
  c.skipBy (c.rest.takeWhile p).length

/-- The characters that satisfy `p`. -/
def textWhile (p : Char → Bool) (c : Cursor) : List Char := c.rest.takeWhile p

/-- Past the rest of the line, the line break excluded. -/
def skipToBreak (c : Cursor) : Cursor := c.skipWhile (!isBreak ·)

/-- Whether a document marker, three of a character, stands at the start of a line. -/
def atMarker (c : Cursor) (x : Char) : Bool :=
  c.column = 0 && c.isAt 0 x && c.isAt 1 x && c.isAt 2 x && c.atSpace 3

/-- Whether either document marker stands here. -/
def atAnyMarker (c : Cursor) : Bool := c.atMarker '-' || c.atMarker '.'

end Cursor

end Mailroom.Yaml
