import Mailroom.Text.Direction
import Mailroom.Text.Joining
import Mailroom.Text.Normal
import Mailroom.Text.Split
import Mailroom.Url.Domain.Mapping
import Mailroom.Url.Punycode

/-!
# Domain names

A domain name in ASCII. Each character is replaced by what it stands for, and the name is
put into normal form. Then each label that is not ASCII is written in Punycode behind `xn--`, and
one that is written so has to stand for such a label.

No label may start with a mark; the two characters that control joining may only stand where they
make a difference; and where some label runs from right to left, each label has to keep to one
direction.
-/

namespace Mailroom.Url.Domain

open Mailroom.Text (Direction)

/-! ## Characters -/

/-- The normal form of a name, unless it has a character that no name may hold. -/
def normal? (name : List Char) : Option (List Char) := do
  return Text.composed (← name.mapM mapped).flatten

/-- ASCII characters that no name may hold. -/
def isDelimiter (c : Char) : Bool :=
  c.toNat ≤ 32 || c.toNat = 127 ||
    c ∈ ['%', '#', '/', ':', '<', '>', '?', '@', '[', '\\', ']', '^', '|']

/-! ## Labels -/

/-- Whether the character that keeps letters from joining stands between two that would join, the
characters before it given last first. -/
def partsLetters (before after : List Char) : Bool :=
  ((before.dropWhile Text.isTransparent).head?.any Text.joinsNext) &&
    ((after.dropWhile Text.isTransparent).head?.any Text.joinsPrevious)

/-- Whether the characters that control joining stand where they may: after a sign that silences a
vowel, or, for the one that parts letters, between two that would join. The characters before are
given last first. -/
def joinersFit : List Char → List Char → Bool
  | _, [] => true
  | before, c :: after =>
      let silenced := before.head?.any fun d => Text.combiningClass d = Text.viramaClass
      (if c = '\u200D' then silenced
        else if c = '\u200C' then silenced || partsLetters before after
        else true) && joinersFit (c :: before) after

/-- How many characters a label may have that is not ASCII. -/
def longestLabel : Nat := 1000

/-- Whether a label that is not ASCII may stand in a name. -/
def isAllowed (label : List Char) : Bool :=
  !(label.head?.any Text.isMark) && joinersFit [] label && decide (label.length ≤ longestLabel)

/-- A label as it reads and as it is sent. -/
structure Label where
  text : List Char
  ascii : List Char
deriving DecidableEq, Repr

/-- What a label in Punycode starts with. -/
def marker : List Char := ['x', 'n', '-', '-']

/-- How many characters a label in Punycode may have behind its marker. -/
def longestPunycode : Nat := 2000

/-- A label of a name in normal form. -/
def Label.of? (label : List Char) : Option Label :=
  if label.take 4 = marker then do
    let digits := label.drop 4
    if !(digits.all Punycode.isAscii) || digits.getLast?.getD '-' = '-' ||
        longestPunycode < digits.length then none
    let text ← Punycode.decode? digits
    if normal? text = some text ∧ isAllowed text then some ⟨text, label⟩ else none
  else if label.all Punycode.isAscii then some ⟨label, label⟩
  else if isAllowed label then some ⟨label, marker ++ Punycode.encode label⟩
  else none

/-! ## Direction -/

/-- Whether a character runs from right to left. -/
def isRightwards (c : Char) : Bool :=
  match Text.direction c with
  | .right => true
  | .arabicNumber => true
  | _ => false

/-- The directions of a label without the marks at its end. -/
def directions (label : List Char) : List Direction :=
  ((label.map Text.direction).reverse.dropWhile (· = .mark)).reverse

/-- Whether a label keeps to one direction: it starts with a letter, holds nothing of the other
direction and no numbers of two kinds, and ends with a letter or a digit, marks aside. -/
def keepsDirection (label : List Char) : Bool :=
  let ds := directions label
  match (label.head?).map Text.direction with
  | none => true
  | some .left =>
      ds.all (fun d => d ∉ [Direction.right, .arabicNumber]) &&
        (ds.getLast?.all fun d => d ∈ [Direction.left, .europeanNumber])
  | some .right =>
      ds.all (· ≠ .left) && !(.europeanNumber ∈ ds && .arabicNumber ∈ ds) &&
        (ds.getLast?.all fun d => d ∈ [Direction.right, .europeanNumber, .arabicNumber])
  | some _ => false

/-! ## Names -/

/-- A name in ASCII, if it is a valid one. -/
def toAscii? (name : List Char) : Option (List Char) := do
  let name ← normal? name
  if name.any isDelimiter then none
  let labels ← (Text.split '.' name).mapM Label.of?
  if labels.any (·.text.any isRightwards) && !(labels.all fun l => keepsDirection l.text) then none
  return Text.join '.' (labels.map (·.ascii))

end Mailroom.Url.Domain
