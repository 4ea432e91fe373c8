import Mailroom.Text.Integer
import Mailroom.Yaml.Cursor

/-!
# Scalars in a YAML text

How the text of a scalar is read off: plain, in quotes, or as a block of lines. Line breaks inside
plain and quoted scalars are folded: one becomes a space, and of several the first is dropped.

Each reader takes the place where the scalar starts and gives its text and the place after it. The
steps are bounded by the size of the text, since every step consumes some.
-/

namespace Mailroom.Yaml

/-- What two runs of characters are joined by: the first line break between them, and the ones after
it. -/
def fold (first others : String) : String :=
  if first = "\n" then (if others = "" then " " else others) else first ++ others

/-- The gaps and line breaks between two runs of characters. -/
structure Between where
  gaps : String
  first : String
  others : String
  broken : Bool

namespace Between

/-- Nothing in between. -/
def empty : Between := ⟨"", "", "", false⟩

/-- What the runs are joined by. -/
def joint (b : Between) : String := if b.broken then fold b.first b.others else b.gaps

/-- Reads gaps and line breaks. A tab that stands where a line's indentation below `indent` should
be is refused. -/
def read (indent : Nat) : Nat → Between → Cursor → Option (Between × Cursor)
  | 0, b, c => some (b, c)
  | fuel + 1, b, c =>
      if c.satisfies 0 isGap then
        if b.broken && c.column < indent && c.isAt 0 '\t' then none
        else if b.broken then read indent fuel b c.skip
        else
          read indent fuel { b with gaps := b.gaps ++ (c.char? 0).elim "" Char.toString } c.skip
      else if c.satisfies 0 isBreak then
        if b.broken then
          read indent fuel { b with others := b.others ++ c.breakText } c.skipLine
        else read indent fuel { b with gaps := "", first := c.breakText, broken := true } c.skipLine
      else some (b, c)

end Between

/-! ## Plain scalars -/

/-- Whether a plain scalar ends before this character. -/
def endsPlain (flow : Bool) (c : Cursor) : Bool :=
  (c.isAt 0 ':' && c.atSpace 1) || (flow && c.isOneOf 0 [',', '[', ']', '\x7b', '\x7d'])

/-- A colon that an indicator of a flow collection follows. -/
def badColon (flow : Bool) (c : Cursor) : Bool :=
  flow && c.isAt 0 ':' && c.isOneOf 1 [',', '?', '[', ']', '\x7b', '\x7d']

/-- A run of characters of a plain scalar; none at a colon that may not stand there. -/
def plainRun (flow : Bool) : Nat → List Char → Cursor → Option (List Char × Cursor)
  | 0, acc, c => some (acc.reverse, c)
  | fuel + 1, acc, c =>
      if c.atSpace 0 then some (acc.reverse, c)
      else if badColon flow c then none
      else if endsPlain flow c then some (acc.reverse, c)
      else
        match c.char? 0 with
        | some x => plainRun flow fuel (x :: acc) c.skip
        | none => some (acc.reverse, c)

/-- A plain scalar on lines indented by at least `indent`. Also tells whether it ended after a line
break. -/
def plain (flow : Bool) (indent : Nat) :
    Nat → String → Between → Cursor → Option (String × Bool × Cursor)
  | 0, text, b, c => some (text, b.broken, c)
  | fuel + 1, text, b, c =>
      if c.atAnyMarker || c.isAt 0 '#' then some (text, b.broken, c)
      else
        match plainRun flow c.size [] c with
        | none => none
        | some (run, c') =>
            let (text, b) :=
              if run.isEmpty then (text, b)
              else (text ++ b.joint ++ String.ofList run, Between.empty)
            if c'.satisfies 0 fun x => isGap x || isBreak x then
              match Between.read indent c'.size b c' with
              | none => none
              | some (b, c'') =>
                  if !flow && c''.column < indent then some (text, b.broken, c'')
                  else plain flow indent fuel text b c''
            else some (text, b.broken, c')

/-! ## Quoted scalars -/

/-- What a one-letter escape stands for. -/
def escaped? : Char → Option Char
  | '0' => some '\x00'
  | 'a' => some '\x07'
  | 'b' => some '\x08'
  | 't' => some '\t'
  | '\t' => some '\t'
  | 'n' => some '\n'
  | 'v' => some '\x0b'
  | 'f' => some '\x0c'
  | 'r' => some '\r'
  | 'e' => some '\x1b'
  | ' ' => some ' '
  | '"' => some '"'
  | '/' => some '/'
  | '\\' => some '\\'
  | 'N' => some '\u0085'
  | '_' => some '\u00a0'
  | 'L' => some '\u2028'
  | 'P' => some '\u2029'
  | _ => none

/-- How many hexadecimal digits follow the letter of an escape. -/
def codeLength : Char → Nat
  | 'x' => 2
  | 'u' => 4
  | 'U' => 8
  | _ => 0

/-- The character of a code, if it is one. -/
def charOfCode? (digits : List Char) : Option Char := do
  let n ← Text.hexNumber? digits
  if (0xD800 ≤ n ∧ n ≤ 0xDFFF) ∨ 0x10FFFF < n then none else some (Char.ofNat n)

/-- An escape, after its backslash. -/
def escape? (c : Cursor) : Option (Char × Cursor) := do
  let x ← c.char? 0
  let n := codeLength x
  if n = 0 then return (← escaped? x, c.skip)
  else
    let digits := (c.skip.rest).take n
    if digits.length = n then return (← charOfCode? digits, c.skipBy (n + 1)) else none

/-- A run of characters of a quoted scalar. Also tells whether it ended with an escaped line
break. -/
def quotedRun (single : Bool) : Nat → List Char → Cursor → Option (List Char × Bool × Cursor)
  | 0, _, _ => none
  | fuel + 1, acc, c =>
      if c.atSpace 0 then some (acc.reverse, false, c)
      else if single && c.isAt 0 '\x27' && c.isAt 1 '\x27' then
        quotedRun single fuel ('\x27' :: acc) (c.skipBy 2)
      else if c.isAt 0 (if single then '\x27' else '"') then some (acc.reverse, false, c)
      else if !single && c.isAt 0 '\\' then
        if c.satisfies 1 isBreak then some (acc.reverse, true, c.skip.skipLine)
        else
          match escape? c.skip with
          | some (x, c) => quotedRun single fuel (x :: acc) c
          | none => none
      else
        match c.char? 0 with
        | some x => quotedRun single fuel (x :: acc) c.skip
        | none => none

/-- A quoted scalar, after its opening quote. -/
def quoted (single : Bool) : Nat → String → Cursor → Option (String × Cursor)
  | 0, _, _ => none
  | fuel + 1, text, c =>
      if c.atAnyMarker || c.rest.isEmpty then none
      else
        match quotedRun single (c.size + 1) [] c with
        | none => none
        | some (run, continued, c) =>
            let text := text ++ String.ofList run
            if c.isAt 0 (if single then '\x27' else '"') then some (text, c.skip)
            else
              match Between.read 0 c.size { Between.empty with broken := continued } c with
              | none => none
              | some (b, c) => quoted single fuel (text ++ b.joint) c

/-! ## Block scalars -/

/-- The line breaks and indentation before a line of a block. An indentation of zero is one to be
found: the deepest of the lines skipped, but deeper than the block around it. -/
def blockBreaks (indent : Nat) : Nat → Nat → String → Cursor → Option (Nat × String × Cursor)
  | 0, deepest, breaks, c => some (deepest, breaks, c)
  | fuel + 1, deepest, breaks, c =>
      let spaces := (c.textWhile (· = ' ')).length
      let c := c.skipBy (if indent = 0 then spaces else min spaces (indent - c.column))
      let deepest := max deepest c.column
      if (indent = 0 || c.column < indent) && c.isAt 0 '\t' then none
      else if c.satisfies 0 isBreak then
        blockBreaks indent fuel deepest (breaks ++ c.breakText) c.skipLine
      else some (deepest, breaks, c)

/-- What is read of a block: its text, the line break after its last line, the empty lines after
that, and whether the last line started with a gap. -/
structure BlockText where
  text : String
  last : String
  empty : String
  gapped : Bool

/-- The lines of a block. -/
def blockLines (literal : Bool) (indent : Nat) :
    Nat → BlockText → Cursor → Option (BlockText × Cursor)
  | 0, b, c => some (b, c)
  | fuel + 1, b, c =>
      if c.column = indent && !c.rest.isEmpty then
        let gapped := c.satisfies 0 isGap
        let joint :=
          if !literal && b.last = "\n" && !b.gapped && !gapped then
            (if b.empty = "" then " " else "")
          else b.last
        let line := String.ofList (c.textWhile (!isBreak ·))
        let c := c.skipToBreak
        let last := c.breakText
        match blockBreaks indent (c.size + 1) 0 "" c.skipLine with
        | none => none
        | some (_, empty, c) =>
            let text := b.text ++ joint ++ b.empty ++ line
            blockLines literal indent fuel ⟨text, last, empty, gapped⟩ c
      else some (b, c)

/-- What becomes of the line breaks at the end of a block. -/
inductive Chomping
  | strip
  | clip
  | keep
deriving DecidableEq, Repr

/-- The chomping sign here, if there is one. -/
def chomping? (c : Cursor) : Option Chomping :=
  if c.isAt 0 '+' then some .keep else if c.isAt 0 '-' then some .strip else none

/-- The indentation digit here, if there is one. -/
def indentation? (c : Cursor) : Option Nat :=
  (c.char? 0).bind fun x => if x.isDigit then some (x.toNat - 48) else none

/-- The header of a block: a chomping sign and an indentation digit, in either order. -/
def blockHeader (c : Cursor) : Option (Chomping × Nat × Cursor) :=
  match chomping? c with
  | some chomping =>
      match indentation? c.skip with
      | some 0 => none
      | some n => some (chomping, n, c.skipBy 2)
      | none => some (chomping, 0, c.skip)
  | none =>
      match indentation? c with
      | some 0 => none
      | some n =>
          match chomping? c.skip with
          | some chomping => some (chomping, n, c.skipBy 2)
          | none => some (.clip, n, c.skip)
      | none => some (.clip, 0, c)

/-- A block scalar, after its indicator, inside a block indented by `around` (none at top level). -/
def block (literal : Bool) (around : Option Nat) (c : Cursor) : Option (String × Cursor) := do
  let (chomping, increment, c) ← blockHeader c
  let c := c.skipWhile isGap
  let c := if c.isAt 0 '#' then c.skipToBreak else c
  if !c.atBreak 0 then none
  let c := c.skipLine
  let given := if increment = 0 then 0 else around.getD 0 + increment
  let (deepest, empty, c) ← blockBreaks given (c.size + 1) 0 "" c
  let least := around.elim 0 (· + 1)
  let indent := if given = 0 then max 1 (max deepest least) else given
  let (b, c) ← blockLines literal indent (c.size + 1) ⟨"", "", empty, false⟩ c
  return (b.text ++ (if chomping = .strip then "" else b.last) ++
    (if chomping = .keep then b.empty else ""), c)

end Mailroom.Yaml
