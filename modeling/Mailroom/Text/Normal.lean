import Mailroom.Text.CombiningClass
import Mailroom.Text.Composite

/-!
# Normal form

Texts that look the same have one normal form (Unicode normalization form C): composites are taken
apart, marks put into the order of their classes, and then each character takes up the marks that it
has a composite with. A mark is out of reach behind one of the same class or a higher one.
-/

namespace Mailroom.Text

/-- How many marks a composite takes up at most, with one to spare. -/
def compositeDepth : Nat := 4

/-- A character taken apart, by `depth` marks at most. -/
def takeApart : Nat → Char → List Char
  | 0, c => [c]
  | depth + 1, c =>
      match parts? c with
      | some (a, b) => takeApart depth a ++ [b]
      | none => [c]

/-- Puts a character in front of ordered ones, behind the marks of lower classes than its own. -/
def place (c : Char) : List Char → List Char
  | [] => [c]
  | d :: ds =>
      if 0 < combiningClass d ∧ combiningClass d < combiningClass c then d :: place c ds
      else c :: d :: ds

/-- Puts marks into the order of their classes. -/
def order : List Char → List Char
  | [] => []
  | c :: cs => place c (order cs)

/-- Goes on after a character that may take up marks; `skipped` are the marks after it that it has
not taken up, the last one first. -/
def takeUp (start : Char) (skipped : List Char) : List Char → List Char
  | [] => start :: skipped.reverse
  | c :: cs =>
      let reached := match skipped with
        | [] => true
        | d :: _ => combiningClass d < combiningClass c
      match if reached then composite? start c else none with
      | some joined => takeUp joined skipped cs
      | none =>
          if combiningClass c = 0 then start :: skipped.reverse ++ takeUp c [] cs
          else takeUp start (c :: skipped) cs

/-- Puts ordered characters together. -/
def putTogether : List Char → List Char
  | [] => []
  | c :: cs => if combiningClass c = 0 then takeUp c [] cs else c :: putTogether cs

/-- The normal form of a text. -/
def composed (cs : List Char) : List Char :=
  putTogether (order (cs.flatMap (takeApart compositeDepth)))

end Mailroom.Text
