import Mailroom.Text.Integer

/-!
# Log lines

What a run reports while it goes on. The control characters that can steer a terminal are written as
escapes, so that a line of the log shows what a message contains and nothing else.
-/

namespace Mailroom

/-- How serious a line is, the most serious first. -/
inductive LogLevel
  | error
  | warn
  | info
  | debug
  | trace
deriving DecidableEq, Repr

namespace LogLevel

/-- The name of a level. -/
def name : LogLevel → String
  | error => "ERROR"
  | warn => "WARN"
  | info => "INFO"
  | debug => "DEBUG"
  | trace => "TRACE"

/-- How much a level lets through. -/
def rank : LogLevel → Nat
  | error => 1
  | warn => 2
  | info => 3
  | debug => 4
  | trace => 5

/-- The levels from the most serious on. -/
def all : List LogLevel := [error, warn, info, debug, trace]

/-- Reads a level: its name in any case, or its rank. -/
def ofText? (s : String) : Option LogLevel :=
  let upper := String.ofList (s.toList.map Char.toUpper)
  all.find? fun l => l.name = upper || Text.unsigned? s.toList = some l.rank

end LogLevel

/-- A line of the log. -/
structure LogLine where
  level : LogLevel
  text : String
deriving DecidableEq, Repr

namespace LogLine

/-- The lower-case hexadecimal digit of a number below sixteen. -/
def hexDigit (n : Nat) : Char := Char.ofNat (if n < 10 then 48 + n else 87 + n)

/-- How a character is written in the log. -/
def escapeChar (c : Char) : List Char :=
  let n := c.toNat
  if n = 0x1B ∨ n = 0x07 ∨ n = 0x08 ∨ n = 0x0C ∨ n = 0x7F then
    ['\\', 'x', hexDigit (n / 16), hexDigit (n % 16)]
  else if 0x80 ≤ n ∧ n ≤ 0x9F then
    ['\\', 'u', '\x7b', hexDigit (n / 16), hexDigit (n % 16), '\x7d']
  else [c]

/-- The text of a line as it is written. -/
def written (l : LogLine) : String := String.ofList (l.text.toList.flatMap escapeChar)

end LogLine

end Mailroom
