import Mailroom.Sql.Select
import Mailroom.Store.Basic

/-!
# Queries on the store

Running a query text with its arguments gives the selected columns of the rows of the message table
on which the condition is true, in row order.
-/

namespace Mailroom.Store

open Sql (Value Affinity Scope Condition Truth Select)

/-- What a condition sees of a row. -/
def Row.scope (row : Row) (arguments : List String) (now : Int) : Scope where
  column name :=
    match Column.ofName? name with
    | some c => (row.get c, c.affinity)
    | none => (.null, .text)
  arguments
  now

/-- Whether the condition is true on a row. -/
def Row.satisfies (row : Row) (condition : Condition) (arguments : List String) (now : Int) :
    Except Error Bool :=
  match condition.eval (row.scope arguments now) with
  | .ok t => .ok (t = .yes)
  | .error .patternTooComplex => .error (.store .patternTooComplex)

/-- The rows on which the condition is true. -/
def selectRows (condition : Option Condition) (arguments : List String) (now : Int) :
    List Row → Except Error (List Row)
  | [] => .ok []
  | row :: rows => do
      let selected ← match condition with
        | none => .ok true
        | some c => row.satisfies c arguments now
      let rest ← selectRows condition arguments now rows
      return if selected then row :: rest else rest

/-- Runs a query. -/
def run (s : Store) (query : Select) (arguments : List String) (now : Int) :
    Except Error (List Row) := do
  if query.condition.any fun c => Condition.deepest < c.depth then
    .error (.store (.tooDeep Condition.deepest))
  let t ← s.getTables query.table
  let columns ← match query.columns.mapM Column.ofName? with
    | some columns => .ok columns
    | none => .error (.store .malformedQuery)
  let rows ← selectRows query.condition arguments now t.rows
  return rows.map fun row => columns.map row.get

/-- Runs a query text. -/
def query (s : Store) (sql : String) (arguments : List String) (now : Int) :
    Except Error (List Row) :=
  match Select.ofText? sql with
  | some q => s.run q arguments now
  | none => .error (.store .malformedQuery)

end Mailroom.Store
