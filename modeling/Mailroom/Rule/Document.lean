import Mailroom.Rule.Action
import Mailroom.Rule.Query
import Mailroom.Yaml.Visit

/-!
# Rules documents

A rules document is a YAML text with at most one document, a mapping with a list of rules. Its
records are mappings that name their fields, each at most once and no others. Text fields take any
scalar; a list or a mapping that is left out is empty; the value of a filter or an action may be
null. Any node may be an alias.

No rule of a document is of use unless all are valid: each needs a name, has to compile to a query,
and its actions have to parse.
-/

namespace Mailroom.Rule

open Mailroom.Yaml (Node Visit)

/-! ## Nodes as data -/

/-- The text of a scalar. -/
def readText (n : Node) : Visit String := do
  match ← Visit.reached n with
  | .scalar text _ _ => pure text
  | _ => failure

/-- The items of a sequence, each read by `read`. -/
def readList {α : Type} (read : Node → Visit α) (n : Node) : Visit (List α) := do
  match ← Visit.reached n with
  | .sequence items => items.mapM read
  | .scalar "" true _ => pure []
  | _ => failure

/-- The spellings of null. -/
def isNullText (s : String) : Bool := s = "null" || s = "Null" || s = "NULL" || s = "~"

/-- The tag of null. -/
def nullTag : String := "tag:yaml.org,2002:null"

/-- The text of a scalar that may be null: a plain scalar is if it is left out or spells null,
unless it has a tag; with the tag of null it has to spell it. -/
def nullableText? : Node → Option (Option String)
  | .scalar text true none => some (if text = "" ∨ isNullText text then none else some text)
  | .scalar text true (some tag) =>
      if tag = nullTag then (if isNullText text then some none else none) else some (some text)
  | .scalar text false _ => some (some text)
  | _ => none

/-- The text of a scalar that may be null. -/
def readNullableText (n : Node) : Visit (Option String) := do
  Visit.ofOption (nullableText? (← Visit.reached n))

/-- The fields of a mapping that has no other keys and no key twice. -/
def readFields (names : List String) (n : Node) : Visit (List (String × Node)) := do
  match ← Visit.reached n with
  | .mapping entries =>
      let fields ← entries.mapM fun (k, v) => do return (← readText k, v)
      let keys := fields.map (·.1)
      if keys.all (· ∈ names) ∧ keys.Nodup then pure fields else failure
  | .scalar "" true _ => pure []
  | _ => failure

/-- A field that must be there. -/
def requiredField {α : Type} (fields : List (String × Node)) (name : String)
    (read : Node → Visit α) : Visit α :=
  (fields.lookup name).elim failure read

/-- A field that has a default. -/
def defaultedField {α : Type} (fields : List (String × Node)) (name : String) (default : α)
    (read : Node → Visit α) : Visit α :=
  (fields.lookup name).elim (pure default) read

/-! ## Rules -/

/-- Reads a filter. -/
def FilterText.ofNode (n : Node) : Visit FilterText := do
  let fields ← readFields ["field", "operator", "value"] n
  return {
    field := ← requiredField fields "field" readText
    operator := ← requiredField fields "operator" readText
    value := ← defaultedField fields "value" none readNullableText }

/-- Reads an action. -/
def ActionText.ofNode (n : Node) : Visit ActionText := do
  let fields ← readFields ["type", "value"] n
  return {
    kind := ← requiredField fields "type" readText
    value := ← defaultedField fields "value" none readNullableText }

/-- Reads a rule. -/
def ofNode (n : Node) : Visit Rule := do
  let fields ← readFields ["name", "match", "filters", "actions"] n
  return {
    name := ← requiredField fields "name" readText
    matchMode := ← requiredField fields "match" readText
    filters := ← defaultedField fields "filters" [] (readList FilterText.ofNode)
    actions := ← defaultedField fields "actions" [] (readList ActionText.ofNode) }

/-- Reads the rules of a document, not validated. -/
def readRules (n : Node) : Visit (List Rule) := do
  let fields ← readFields ["rules"] n
  defaultedField fields "rules" [] (readList ofNode)

/-- The rules of a YAML text, not validated. -/
def ofText? (s : String) : Option (List Rule) :=
  match Yaml.documents? s with
  | some [] => some []
  | some [d] => Visit.run d readRules
  | _ => none

/-! ## Validation -/

/-- Whether a rule is of use. -/
def validate (rule : Rule) : Except Error Unit := do
  if (nonblank? rule.name).isNone then .error .blankRuleName
  let _ ← rule.compile
  let _ ← Action.parseAll rule.actions

/-- Validates rules from a number on; an error names the first rule that is of no use. -/
def validateFrom (number : Nat) : List Rule → Except Error Unit
  | [] => .ok ()
  | rule :: rules =>
      match rule.validate with
      | .ok () => validateFrom (number + 1) rules
      | .error e => .error (.ruleAt number rule.name e)

/-- The rules of a document, all of them valid. -/
def parseDocument (s : String) : Except Error (List Rule) :=
  match ofText? s with
  | none => .error .rulesText
  | some rules =>
      match validateFrom 1 rules with
      | .ok () => .ok rules
      | .error e => .error e

/-- The rules of a file, given what can be read of it. -/
def loadDocument (path : String) (content : Option String) : Except Error (List Rule) :=
  match content with
  | none => .error (.unreadableRules path)
  | some s =>
      match parseDocument s with
      | .ok rules => .ok rules
      | .error e => .error (.rulesFile path e)

end Mailroom.Rule
