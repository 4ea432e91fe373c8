import Mailroom.Error
import Mailroom.Json.Record

/-!
# Rules as written

A rule has a name, a way of joining its filters, filters and actions. Fields, operators and kinds of
action are texts here and get their meaning when the rule is read further.
-/

namespace Mailroom

namespace Rule

/-- A filter as written. -/
structure FilterText where
  field : String
  operator : String
  value : Option String
deriving DecidableEq, Repr

/-- An action as written. -/
structure ActionText where
  kind : String
  value : Option String
deriving DecidableEq, Repr

end Rule

/-- A rule as written. -/
structure Rule where
  name : String
  matchMode : String
  filters : List Rule.FilterText
  actions : List Rule.ActionText
deriving DecidableEq, Repr

namespace Rule

/-- Whether all filters have to hold, or one is enough. -/
inductive MatchMode
  | all
  | any
deriving DecidableEq, Repr

namespace MatchMode

/-- The name of a mode in a rule. -/
def name : MatchMode → String
  | all => "all"
  | any => "any"

/-- Reads a mode. -/
def parse (value : String) : Except Error MatchMode :=
  if value = "all" then .ok all
  else if value = "any" then .ok any
  else .error (.matchMode value)

theorem parse_name (m : MatchMode) : parse m.name = .ok m := by cases m <;> rfl

/-- What stands between two clauses of a query. -/
def joiner : MatchMode → String
  | all => " AND "
  | any => " OR "

end MatchMode

/-! ## Rules as JSON objects -/

/-- A record without members that belong to no field. -/
def strictRecord? (names : List String) (j : Json) : Option Json.Record :=
  match j with
  | .object ms => if ms.all fun m => m.1.any (· ∈ names) then j.record? names else none
  | j => j.record? names

/-- Reads a filter. -/
def FilterText.ofJson? (j : Json) : Option FilterText := do
  let r ← strictRecord? ["field", "operator", "value"] j
  return {
    field := ← r.required "field" Json.text?
    operator := ← r.required "operator" Json.text?
    value := ← r.withDefault "value" none (Json.nullable? Json.text?) }

/-- Reads an action. -/
def ActionText.ofJson? (j : Json) : Option ActionText := do
  let r ← strictRecord? ["type", "value"] j
  return {
    kind := ← r.required "type" Json.text?
    value := ← r.withDefault "value" none (Json.nullable? Json.text?) }

/-- Reads a rule. -/
def ofJson? (j : Json) : Option Rule := do
  let r ← strictRecord? ["name", "match", "filters", "actions"] j
  return {
    name := ← r.required "name" Json.text?
    matchMode := ← r.required "match" Json.text?
    filters := ← r.withDefault "filters" [] (Json.list? FilterText.ofJson?)
    actions := ← r.withDefault "actions" [] (Json.list? ActionText.ofJson?) }

end Rule

end Mailroom
