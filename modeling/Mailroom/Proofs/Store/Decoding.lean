import Mailroom.Proofs.Message.Rewriting
import Mailroom.Proofs.Store.ReadBack
import Mathlib.Data.Set.List

/-!
# Reading a row of any values

Nothing keeps a row from having values of any kind in its columns. Reading one takes every
value for its text or its number, and refuses a row for three reasons only, looked for in
this order: it has another width, its labels are no JSON list of strings, or its parts are
neither `null` nor a JSON list of parts. Null in either column is no items.

Reading makes a row normal. Much is lost by it, such as the kinds of values, data beside an
attachment id, and all of the parts that is not known; but the message that is left is
written to a row that is read as this same message. Its parts are written with bodies that
the text may not have had, one bracket deeper, and there is room for them: the list of
parts is one of the 127 brackets, so an even number of levels is left for each part.
-/

namespace Mailroom

namespace Json

/-- A list of strings. -/
def IsTexts (j : Json) : Prop := ∃ ss, j = ofStrings ss

/-- `null`, or a list of message parts. -/
def IsParts (j : Json) : Prop :=
  j = .null ∨ ∃ xs, j = .array xs ∧ ∀ x ∈ xs, ∃ p, Part.ofJson? (nesting - 1) x = some p

end Json

namespace Store

namespace Row

variable {row : Row}

/-- The text in a column, if there is one, is JSON of a kind. -/
def Holds (row : Row) (c : Column) (Kind : Json → Prop) : Prop :=
  ∀ s, text? (row.get c) = some s → ∃ j, Json.parse? s = some j ∧ Kind j

/-- A row that can be read. -/
structure Readable (row : Row) : Prop where
  width : row.length = 19
  labels : row.Holds .labelIds Json.IsTexts
  parts : row.Holds .parts Json.IsParts

/-- The first reason for which a row is refused. -/
inductive Refused (row : Row) : Error → Prop
  | width (other : row.length ≠ 19) : Refused row (.rowWidth 19 row.length)
  | labels (width : row.length = 19) (broken : ¬row.Holds .labelIds Json.IsTexts) :
      Refused row (.storedJson "labelIds" (row.textOf .id))
  | parts (width : row.length = 19) (labels : row.Holds .labelIds Json.IsTexts)
      (broken : ¬row.Holds .parts Json.IsParts) :
      Refused row (.storedJson "payload__parts" (row.textOf .id))

end Row

end Store

end Mailroom
