import Mailroom.Message.Basic
import Mailroom.Rule.Filter

/-!
# Rules as queries

A rule selects messages by a query on the message table. Each filter becomes one clause with one
placeholder, and its value becomes the argument: the text of the query depends on no value.
-/

namespace Mailroom.Rule

open Mailroom.Store (Column)

/-- A query text and its arguments. -/
structure Query where
  sql : String
  arguments : List String
deriving DecidableEq, Repr

namespace Filter

/-- The right side of a comparison with a date. -/
def DateValue.side : DateValue → String
  | .relative _ => "datetime('now', ?)"
  | .absolute _ => "?"

/-- The clause of a filter. -/
def clause : Filter → String
  | text column operator _ => column.quoted ++ " " ++ operator.sign ++ " ?"
  | date sentOnly operator value =>
      let comparison := Column.internalDate.quoted ++ " " ++ operator.sign ++ " " ++
        DateValue.side value
      if sentOnly then
        "( " ++ comparison ++ " AND " ++ Column.labelIds.quoted ++ " LIKE '%\"" ++
          Message.sentLabel ++ "\"%' )"
      else comparison

/-- The argument of a filter's placeholder. -/
def argument : Filter → String
  | text _ operator value => if operator.isPattern then "%" ++ value ++ "%" else value
  | date _ _ (.relative duration) => "-" ++ duration
  | date _ _ (.absolute moment) => moment

end Filter

/-- The query of filters in a mode. -/
def queryOf (mode : MatchMode) (filters : List Filter) : Query where
  sql := "SELECT " ++ Store.selectList ++ " FROM messages" ++
    (if filters.isEmpty then ""
      else " WHERE " ++ mode.joiner.intercalate (filters.map Filter.clause))
  arguments := filters.map Filter.argument

theorem length_arguments (mode : MatchMode) (filters : List Filter) :
    (queryOf mode filters).arguments.length = filters.length := by
  simp [queryOf]

/-- The query of a rule. -/
def compile (rule : Rule) : Except Error Query := do
  let mode ← MatchMode.parse rule.matchMode
  let filters ← rule.filters.mapM Filter.parse
  return queryOf mode filters

end Mailroom.Rule
