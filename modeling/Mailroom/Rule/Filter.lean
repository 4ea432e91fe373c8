import Mailroom.Rule.Basic
import Mailroom.Sql.Moment
import Mailroom.Store.Column
import Mailroom.Text.Blank
import Mailroom.Text.Split

/-!
# Filters

A filter compares one field of a message with a value. The fields `from`, `to` and `subject` are
texts. The fields `date_received` and `date_sent` are the moment a message came, the second only for
messages sent from the account; they have no pattern operators, and their value is a moment or a
duration back from now, a number and a unit such as `2 days`.
-/

namespace Mailroom.Rule

open Mailroom.Store (Column)

/-- How a field is compared with a value. -/
inductive Operator
  | contains
  | lacks
  | equal
  | unequal
  | greater
  | less
  | atLeast
  | atMost
deriving DecidableEq, Repr

namespace Operator

/-- The operators by name. -/
def ofName? : String → Option Operator
  | "contains" => some contains
  | "ncontains" => some lacks
  | "eq" => some equal
  | "ne" => some unequal
  | "gt" => some greater
  | "lt" => some less
  | "gte" => some atLeast
  | "lte" => some atMost
  | _ => none

/-- The sign of an operator in a query. -/
def sign : Operator → String
  | contains => "LIKE"
  | lacks => "NOT LIKE"
  | equal => "="
  | unequal => "!="
  | greater => ">"
  | less => "<"
  | atLeast => ">="
  | atMost => "<="

/-- Whether the value is a pattern that may stand anywhere in the field. -/
def isPattern : Operator → Bool
  | contains => true
  | lacks => true
  | _ => false

theorem isPattern_iff (o : Operator) : o.isPattern = true ↔ o = contains ∨ o = lacks := by
  cases o <;> decide

end Operator

/-- What a filter looks at. -/
inductive Field
  | text (column : Column)
  | date (sentOnly : Bool)
deriving DecidableEq, Repr

namespace Field

/-- The fields by name. -/
def ofName? : String → Option Field
  | "from" => some (text .sender)
  | "to" => some (text .recipient)
  | "subject" => some (text .subject)
  | "date_received" => some (date false)
  | "date_sent" => some (date true)
  | _ => none

/-- Whether an operator applies to a field. -/
def admits : Field → Operator → Bool
  | text _, _ => true
  | date _, o => !o.isPattern

end Field

/-- The value of a date filter. -/
inductive DateValue
  | relative (duration : String)
  | absolute (moment : String)
deriving DecidableEq, Repr

/-- Whether a text is a duration: digits and a unit, one space between them, blanks around them. -/
def isRelativeDuration (s : String) : Bool :=
  match Text.split ' ' (Text.trim s.toList) with
  | [count, unit] =>
      !count.isEmpty && count.all Char.isDigit &&
        (Sql.Moment.Span.ofName? (String.ofList unit)).isSome
  | _ => false

/-- The value of a date filter that is not blank. -/
def DateValue.ofText (s : String) : DateValue :=
  if isRelativeDuration s then relative s else absolute s

/-- A filter. -/
inductive Filter
  | text (column : Column) (operator : Operator) (value : String)
  | date (sentOnly : Bool) (operator : Operator) (value : DateValue)
deriving DecidableEq, Repr

namespace Filter

/-- Reads a filter: first its field, then its operator, then its value. -/
def parse (f : FilterText) : Except Error Filter :=
  match Field.ofName? f.field with
  | none => .error (.filterField f.field)
  | some field =>
      match (Operator.ofName? f.operator).filter field.admits with
      | none => .error (.filterOperator f.operator f.field)
      | some operator =>
          match field with
          | .text column => .ok (.text column operator (f.value.getD ""))
          | .date sentOnly =>
              match f.value.bind nonblank? with
              | none => .error (.filterDate f.field)
              | some value => .ok (.date sentOnly operator (DateValue.ofText value))

end Filter

end Mailroom.Rule
