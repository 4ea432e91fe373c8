import Mailroom.Url.Percent
import Mailroom.Yaml.Scalar
import Mailroom.Yaml.Token

/-!
# The words of a YAML text with their layout

Reading the words of a text from start to end. The indentation of lines opens and closes blocks, and
a word turns out to be a key only when a colon follows it, on the same line and within 1024
characters. So words are only ever appended, and where a key is found to have started (and perhaps a
block of keys with it) is written down beside them; `Scan.linear` puts both together.
-/

namespace Mailroom.Yaml

/-- A word that may turn out to be a key: its place among the words and in the text, and whether it
has to be one because it starts a line of its block. -/
structure Candidate where
  position : Nat
  index : Nat
  line : Nat
  column : Nat
  required : Bool
deriving Repr

/-- Where a key starts, and whether a block of keys starts with it. -/
structure KeyStart where
  position : Nat
  opensBlock : Bool
deriving Repr

/-- The state of reading: the place in the text, the words so far in reverse and their number, the
keys found, the indentation of the blocks around (innermost first, none for the text itself), a
possible key for each level of flow collections (innermost first), and whether a key may start
here. -/
structure Scan where
  cursor : Cursor
  words : List Token
  count : Nat
  keys : List KeyStart
  indents : List Nat
  candidates : List (Option Candidate)
  keyAllowed : Bool

namespace Scan

/-- The start of a text. -/
def start (s : String) : Scan := ⟨Cursor.start s, [], 0, [], [], [none], true⟩

/-- Whether a flow collection is open. -/
def inFlow (s : Scan) : Bool := 1 < s.candidates.length

/-- Appends a word. -/
def push (s : Scan) (t : Token) : Scan := { s with words := t :: s.words, count := s.count + 1 }

/-- Takes the place after a word. -/
def moveTo (s : Scan) (c : Cursor) : Scan := { s with cursor := c }

/-- Allows or forbids a key to start here. -/
def allowKey (s : Scan) (b : Bool) : Scan := { s with keyAllowed := b }

/-! ## Candidates for keys -/

/-- Gives up the innermost candidate; one that has to be a key cannot be given up. -/
def dropCandidate (s : Scan) : Option Scan :=
  match s.candidates with
  | some c :: r => if c.required then none else some { s with candidates := none :: r }
  | _ => some s

/-- Makes the next word a candidate, if a key may start here. -/
def markCandidate (s : Scan) : Option Scan :=
  if s.keyAllowed then do
    let s ← s.dropCandidate
    let c := s.cursor
    let required := !s.inFlow && s.indents.head? == some c.column
    return { s with
      candidates := some ⟨s.count, c.index, c.line, c.column, required⟩ ::
        s.candidates.drop 1 }
  else some s

/-- Gives up the candidates that lie on an earlier line or too far back. -/
def dropStale (s : Scan) : Option Scan := do
  let candidates ← s.candidates.mapM fun
    | some c =>
        if c.line < s.cursor.line || c.index + 1024 < s.cursor.index then
          if c.required then none else some none
        else some (some c)
    | none => some none
  return { s with candidates }

/-! ## Blocks -/

/-- Whether a block indented by `column` lies inside the innermost one. -/
def isDeeper (s : Scan) (column : Nat) : Bool := s.indents.head?.all (· < column)

/-- Opens a block at a column that lies inside the innermost one. -/
def openBlock (s : Scan) (column : Nat) (t : Token) : Scan :=
  if !s.inFlow && s.isDeeper column then { s.push t with indents := column :: s.indents } else s

/-- Closes the blocks that are indented deeper than `column`; all of them without a column. -/
def closeTo (s : Scan) (column : Option Nat) : Scan :=
  if s.inFlow then s
  else
    let closed := (s.indents.takeWhile fun n => column.all (· < n)).length
    { s with
      indents := s.indents.drop closed
      words := List.replicate closed .blockEnd ++ s.words
      count := s.count + closed }

/-! ## Moving between words -/

/-- Past gaps, comments and line breaks. -/
def skipToWord : Nat → Scan → Scan
  | 0, s => s
  | fuel + 1, s =>
      let c := s.cursor
      let c := if c.column = 0 && c.isAt 0 '\uFEFF' then c.skip else c
      let c := c.skipWhile fun x => x = ' ' || ((s.inFlow || !s.keyAllowed) && x = '\t')
      let c := if c.isAt 0 '#' then c.skipToBreak else c
      if c.satisfies 0 isBreak then
        skipToWord fuel { s with cursor := c.skipLine, keyAllowed := s.keyAllowed || !s.inFlow }
      else s.moveTo c

/-! ## Single words -/

/-- The end of the text. -/
def endOfText (s : Scan) : Option Scan := do
  let s ← (s.closeTo none).dropCandidate
  return s.push .streamEnd

/-- A number of at most nine digits. -/
def versionNumber? (c : Cursor) : Option (Nat × Cursor) :=
  let ds := c.textWhile Char.isDigit
  if ds.isEmpty || 9 < ds.length then none else some (Text.value ds, c.skipBy ds.length)

/-- The handle of a tag: an exclamation mark, a name, and an exclamation mark again unless it is
none. -/
def tagHandle? (c : Cursor) : Option (String × Cursor) :=
  if c.isAt 0 '!' then
    let name := c.skip.textWhile isNameChar
    let after := c.skip.skipBy name.length
    if after.isAt 0 '!' then some (String.ofList ('!' :: name ++ ['!']), after.skip)
    else some (String.ofList ('!' :: name), after)
  else none

/-- A character that may stand in a tag; `verbatim` tags may hold some indicators as well. -/
def isTagChar (verbatim : Bool) (x : Char) : Bool :=
  isNameChar x || x ∈ [';', '/', '?', ':', '@', '&', '=', '+', '$', '.', '%', '!', '~', '*', '\x27',
    '(', ')'] || (verbatim && x ∈ [',', '[', ']'])

/-- The byte of a percent escape. -/
def escapedByte? : List Char → Option UInt8
  | '%' :: a :: b :: _ => do return UInt8.ofNat ((← Text.hexValue? a) * 16 + (← Text.hexValue? b))
  | _ => none

/-- How many bytes a character takes that starts with the given one. -/
def utf8Width? (b : UInt8) : Option Nat :=
  let n := b.toNat
  if n < 0x80 then some 1 else if n < 0xC0 then none else if n < 0xE0 then some 2
  else if n < 0xF0 then some 3 else if n < 0xF8 then some 4 else none

/-- Whether escapes of trailing bytes follow, and the text after them. -/
def trailing? : Nat → List Char → Option (List Char)
  | 0, cs => some cs
  | n + 1, cs => do
      let b ← escapedByte? cs
      if b.toNat / 64 = 2 then trailing? n (cs.drop 3) else none

/-- Whether all percent escapes in the characters of a tag spell whole characters. -/
def wellEscaped : Nat → List Char → Bool
  | 0, _ => true
  | _, [] => true
  | fuel + 1, '%' :: r =>
      match (escapedByte? ('%' :: r)).bind utf8Width? with
      | some n =>
          match trailing? (n - 1) (r.drop 2) with
          | some r => wellEscaped fuel r
          | none => false
      | none => false
  | fuel + 1, _ :: r => wellEscaped fuel r

/-- The text that the characters of a tag spell: their percent escapes are bytes of UTF-8, and a NUL
ends it. -/
def unescaped (cs : List Char) : String :=
  String.ofList
    ((Text.Utf8.decode (Url.Percent.decode (Text.Utf8.encode cs))).takeWhile (· ≠ '\x00'))

/-- The characters of a tag after its handle; they may not be missing if they are `needed`. -/
def tagText? (verbatim needed : Bool) (c : Cursor) : Option (String × Cursor) :=
  let cs := c.textWhile (isTagChar verbatim)
  if wellEscaped cs.length cs && !(needed && cs.isEmpty) then
    some (unescaped cs, c.skipBy cs.length)
  else none

/-- A directive, after its percent sign. -/
def directive (c : Cursor) : Option (Token × Cursor) := do
  let name := c.textWhile isNameChar
  let c := c.skipBy name.length
  if name.isEmpty || !c.atSpace 0 then none
  let (word, c) ←
    if name = ['Y', 'A', 'M', 'L'] then do
      let (major, c) ← versionNumber? (c.skipWhile isGap)
      if !c.isAt 0 '.' then none
      let (minor, c) ← versionNumber? c.skip
      pure (Token.version major minor, c)
    else if name = ['T', 'A', 'G'] then do
      let (handle, c) ← tagHandle? (c.skipWhile isGap)
      if handle ≠ "!" && !(2 ≤ handle.length && handle.endsWith "!") then none
      if !c.satisfies 0 isGap then none
      let (replacement, c) ← tagText? true true (c.skipWhile isGap)
      if !c.atSpace 0 then none
      pure (Token.tagDeclaration handle replacement, c)
    else none
  let c := c.skipWhile isGap
  let c := if c.isAt 0 '#' then c.skipToBreak else c
  if !c.atBreak 0 then none
  return (word, c.skipLine)

/-- A name after `&` or `*`. -/
def name? (c : Cursor) : Option (String × Cursor) :=
  let name := c.textWhile isNameChar
  let c := c.skipBy name.length
  if name.isEmpty || !(c.atSpace 0 || c.isOneOf 0 ['?', ':', ',', ']', '\x7d', '%', '@', '\x60'])
  then none
  else some (String.ofList name, c)

/-- A tag. -/
def tag? (c : Cursor) : Option (Tag × Cursor) :=
  if c.isAt 1 '<' then do
    let (suffix, c) ← tagText? true true (c.skipBy 2)
    if c.isAt 0 '>' then return (⟨"", suffix⟩, c.skip) else none
  else do
    let (handle, after) ← tagHandle? c
    if 2 ≤ handle.length && handle.endsWith "!" then
      let (suffix, c) ← tagText? false true after
      return (⟨handle, suffix⟩, c)
    else
      let (more, c) ← tagText? false false after
      let suffix := String.ofList (handle.toList.drop 1) ++ more
      return (if suffix = "" then ⟨"", "!"⟩ else ⟨"!", suffix⟩, c)

/-! ## The next word -/

/-- A document marker. -/
def marker (s : Scan) (t : Token) : Option Scan := do
  let s ← (s.closeTo none).dropCandidate
  return ((s.allowKey false).push t).moveTo (s.cursor.skipBy 3)

/-- The start of a flow collection. -/
def openFlow (s : Scan) (t : Token) : Option Scan := do
  let s ← s.markCandidate
  return ({ s.push t with candidates := none :: s.candidates }.allowKey true).moveTo s.cursor.skip

/-- The end of a flow collection. -/
def closeFlow (s : Scan) (t : Token) : Option Scan := do
  let s ← s.dropCandidate
  let candidates := if s.inFlow then s.candidates.drop 1 else s.candidates
  return ({ s.push t with candidates }.allowKey false).moveTo s.cursor.skip

/-- A comma in a flow collection. -/
def flowEntry (s : Scan) : Option Scan := do
  let s ← s.dropCandidate
  return ((s.push .flowEntry).allowKey true).moveTo s.cursor.skip

/-- An item of a block, or a hyphen out of place. -/
def blockEntry (s : Scan) : Option Scan := do
  if !s.inFlow && !s.keyAllowed then none
  let s ← (s.openBlock s.cursor.column .blockSequence).dropCandidate
  return ((s.push .entry).allowKey true).moveTo s.cursor.skip

/-- A key with a question mark. -/
def explicitKey (s : Scan) : Option Scan := do
  if !s.inFlow && !s.keyAllowed then none
  let s ← (s.openBlock s.cursor.column .blockMapping).dropCandidate
  return ((s.push .key).allowKey !s.inFlow).moveTo s.cursor.skip

/-- A value, which makes a key of the candidate before it. -/
def valueMark (s : Scan) : Option Scan :=
  match s.candidates with
  | some c :: r =>
      let opensBlock := !s.inFlow && s.isDeeper c.column
      let indents := if opensBlock then c.column :: s.indents else s.indents
      some ((({ s with
        keys := ⟨c.position, opensBlock⟩ :: s.keys, indents, candidates := none :: r }.push
          .value).allowKey false).moveTo s.cursor.skip)
  | _ =>
      if !s.inFlow && !s.keyAllowed then none
      else
        let s := s.openBlock s.cursor.column .blockMapping
        some (((s.push .value).allowKey !s.inFlow).moveTo s.cursor.skip)

/-- A node property or a scalar, which may be a key. -/
def candidateWord (s : Scan) (read : Cursor → Option (Token × Cursor)) : Option Scan := do
  let s ← s.markCandidate
  let (t, c) ← read s.cursor
  return ((s.push t).allowKey false).moveTo c

/-- A plain scalar; a key may start after it if it ended with a line. -/
def plainWord (s : Scan) : Option Scan := do
  let s ← s.markCandidate
  let indent := s.indents.head?.elim 0 (· + 1)
  let (text, broken, c) ← plain s.inFlow indent (s.cursor.size + 1) "" Between.empty s.cursor
  return ((s.push (.scalar text true)).allowKey broken).moveTo c

/-- A block scalar. -/
def blockWord (s : Scan) (literal : Bool) : Option Scan := do
  let s ← s.dropCandidate
  let (text, c) ← block literal s.indents.head? s.cursor.skip
  return ((s.push (.scalar text false)).allowKey true).moveTo c

/-- Whether a plain scalar may start here. -/
def startsPlain (s : Scan) : Bool :=
  let c := s.cursor
  !(c.atSpace 0 || c.isOneOf 0 ['-', '?', ':', ',', '[', ']', '\x7b', '\x7d', '#', '&', '*', '!',
      '|', '>', '\x27', '"', '%', '@', '\x60']) ||
    (c.isAt 0 '-' && !c.satisfies 1 isGap) ||
    (!s.inFlow && (c.isAt 0 '?' || c.isAt 0 ':') && !c.atSpace 1)

/-- Reads the next word. -/
def next (s : Scan) : Option Scan := do
  let s ← (s.skipToWord (s.cursor.size + 1)).dropStale
  let c := s.cursor
  if c.rest.isEmpty then s.endOfText
  else
    let s := s.closeTo (some c.column)
    if c.column = 0 && c.isAt 0 '%' then
      let s ← (s.closeTo none).dropCandidate
      let (t, c) ← directive c.skip
      return ((s.allowKey false).push t).moveTo c
    else if c.atMarker '-' then s.marker .documentStart
    else if c.atMarker '.' then s.marker .documentEnd
    else if c.isAt 0 '[' then s.openFlow .flowSequence
    else if c.isAt 0 '\x7b' then s.openFlow .flowMapping
    else if c.isAt 0 ']' then s.closeFlow .flowSequenceEnd
    else if c.isAt 0 '\x7d' then s.closeFlow .flowMappingEnd
    else if c.isAt 0 ',' then s.flowEntry
    else if c.isAt 0 '-' && c.atSpace 1 then s.blockEntry
    else if c.isAt 0 '?' && (s.inFlow || c.atSpace 1) then s.explicitKey
    else if c.isAt 0 ':' && (s.inFlow || c.atSpace 1) then s.valueMark
    else if c.isAt 0 '*' then
      s.candidateWord fun c => (name? c.skip).map fun (n, c) => (.alias n, c)
    else if c.isAt 0 '&' then
      s.candidateWord fun c => (name? c.skip).map fun (n, c) => (.anchor n, c)
    else if c.isAt 0 '!' then
      let flow := s.inFlow
      s.candidateWord fun c => do
        let (t, c) ← tag? c
        if c.atSpace 0 || (flow && c.isAt 0 ',') then return (.tag t, c) else none
    else if c.isAt 0 '|' && !s.inFlow then s.blockWord true
    else if c.isAt 0 '>' && !s.inFlow then s.blockWord false
    else if c.isAt 0 '\x27' || c.isAt 0 '"' then
      s.candidateWord fun c =>
        (quoted (c.isAt 0 '\x27') (c.size + 1) "" c.skip).map fun (t, c) =>
          (.scalar t false, c)
    else if s.startsPlain then s.plainWord
    else none

/-- Reads words to the end of the text. -/
def all : Nat → Scan → Option Scan
  | 0, _ => none
  | fuel + 1, s => do
      let s ← s.next
      match s.words with
      | .streamEnd :: _ => return s
      | _ => all fuel s

/-- The words from a place on, with the keys that start among them, which are in order. -/
def linearFrom : Nat → List KeyStart → List Token → List Token
  | _, _, [] => []
  | _, [], words => words
  | n, k :: ks, t :: r =>
      if k.position = n then
        (if k.opensBlock then [.blockMapping, .key] else [.key]) ++ t :: linearFrom (n + 1) ks r
      else t :: linearFrom (n + 1) (k :: ks) r

/-- The words in order. -/
def linear (s : Scan) : List Token :=
  linearFrom 0 (s.keys.mergeSort fun a b => a.position ≤ b.position) s.words.reverse

end Scan

/-- The words of a text; none if the text has characters or words that may not stand there. -/
def words? (s : String) : Option (List Token) :=
  if s.toList.all isAllowed then (Scan.all (s.length + 2) (Scan.start s)).map Scan.linear else none

end Mailroom.Yaml
