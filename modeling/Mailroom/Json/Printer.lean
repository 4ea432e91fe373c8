import Mailroom.Json.Basic
import Mailroom.Text.Integer

/-!
# Writing JSON

Two layouts: `compact` without any spacing, and `pretty` with two spaces per level. In both a string
escapes the quote, the backslash and the control characters below U+0020, the five common ones by
letter, and nothing else.
-/

namespace Mailroom.Json

/-- The lower-case hexadecimal digit of a number below sixteen. -/
def hexDigit (n : Nat) : Char := Char.ofNat (if n < 10 then 48 + n else 87 + n)

/-- How a character is written inside a string. -/
def escape (c : Char) : List Char :=
  if c = '"' then ['\\', '"']
  else if c = '\\' then ['\\', '\\']
  else if c = '\n' then ['\\', 'n']
  else if c = '\r' then ['\\', 'r']
  else if c = '\t' then ['\\', 't']
  else if c.toNat = 8 then ['\\', 'b']
  else if c.toNat = 12 then ['\\', 'f']
  else if c.toNat < 32 then ['\\', 'u', '0', '0', hexDigit (c.toNat / 16), hexDigit (c.toNat % 16)]
  else [c]

/-- A text escaped. -/
def quoteBody (cs : List Char) : List Char := cs.flatMap escape

/-- A text escaped, in quotes. -/
def quote (cs : List Char) : List Char := '"' :: quoteBody cs ++ ['"']

/-- A string; one without text is written empty. -/
def quoteText (s : Option String) : List Char := quote (s.getD "").toList

/-- A value without brackets. -/
def scalarText : Json → List Char
  | .null => ['n', 'u', 'l', 'l']
  | .bool true => ['t', 'r', 'u', 'e']
  | .bool false => ['f', 'a', 'l', 's', 'e']
  | .integer n => Text.ofInt n
  | .decimal negative d e =>
      (if negative then ['-'] else []) ++ Text.digits d ++ 'e' :: Text.ofInt e
  | .string s => quoteText s
  | _ => []

mutual

/-- The text without spacing. -/
def compact : Json → List Char
  | .array [] => ['[', ']']
  | .array (x :: xs) => '[' :: compact x ++ compactItems xs
  | .object [] => ['\x7b', '\x7d']
  | .object ((k, v) :: ms) => '\x7b' :: quoteText k ++ ':' :: compact v ++ compactMembers ms
  | j => scalarText j

/-- The items after the first, and the closing bracket. -/
def compactItems : List Json → List Char
  | [] => [']']
  | x :: xs => ',' :: compact x ++ compactItems xs

/-- The members after the first, and the closing brace. -/
def compactMembers : List (Option String × Json) → List Char
  | [] => ['\x7d']
  | (k, v) :: ms => ',' :: quoteText k ++ ':' :: compact v ++ compactMembers ms

end

/-- A new line, indented for its level. -/
def newLine (level : Nat) : List Char := '\n' :: List.replicate (2 * level) ' '

mutual

/-- The text with one item or member a line. -/
def pretty (level : Nat) : Json → List Char
  | .array [] => ['[', ']']
  | .array (x :: xs) =>
      '[' :: newLine (level + 1) ++ pretty (level + 1) x ++ prettyItems level xs
  | .object [] => ['\x7b', '\x7d']
  | .object ((k, v) :: ms) =>
      '\x7b' :: newLine (level + 1) ++ quoteText k ++ [':', ' '] ++ pretty (level + 1) v ++
        prettyMembers level ms
  | j => scalarText j

/-- The items after the first, each on its line, and the closing bracket. -/
def prettyItems (level : Nat) : List Json → List Char
  | [] => newLine level ++ [']']
  | x :: xs => ',' :: newLine (level + 1) ++ pretty (level + 1) x ++ prettyItems level xs

/-- The members after the first, each on its line, and the closing brace. -/
def prettyMembers (level : Nat) : List (Option String × Json) → List Char
  | [] => newLine level ++ ['\x7d']
  | (k, v) :: ms =>
      ',' :: newLine (level + 1) ++ quoteText k ++ [':', ' '] ++ pretty (level + 1) v ++
        prettyMembers level ms

end

/-- The text without spacing. -/
def render (j : Json) : String := String.ofList (compact j)

/-- The text with one item or member a line. -/
def renderPretty (j : Json) : String := String.ofList (pretty 0 j)

end Mailroom.Json
