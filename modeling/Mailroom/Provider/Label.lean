import Mailroom.Json.Parser
import Mailroom.Json.Record
import Mailroom.Text.Blank

/-!
# Labels

The labels of an account, with their ids. A label is looked up by its name without the blanks around
it: the first label of exactly that name, or else the first that differs from it only in the case of
ASCII letters.
-/

namespace Mailroom

/-- A label; its kind tells those of the system from those of the user. -/
structure Label where
  id : String
  name : String
  kind : Option String
deriving DecidableEq, Repr

namespace Label

/-! ## As JSON -/

/-- The object of a label. -/
def toJson (l : Label) : Json :=
  .ofMembers [("id", .ofString l.id), ("name", .ofString l.name),
    ("type", (l.kind.map Json.ofString).getD .null)]

/-- Reads a label. -/
def ofJson? (j : Json) : Option Label := do
  let r ← j.record? ["id", "name", "type"]
  return {
    id := ← r.required "id" Json.text?
    name := ← r.required "name" Json.text?
    kind := ← r.withDefault "type" none (Json.nullable? Json.text?) }

private theorem ofJson?_toJson (l : Label) : ofJson? l.toJson = some l := by
  obtain ⟨id, name, _ | kind⟩ := l <;> rfl

/-- The object that holds a list of labels. -/
def listToJson (labels : List Label) : Json := .ofMembers [("labels", .array (labels.map toJson))]

/-- Reads an object that holds a list of labels. -/
def listOfJson? (j : Json) : Option (List Label) := do
  let r ← j.record? ["labels"]
  r.withDefault "labels" [] (Json.list? ofJson?)

/-- A text with its ASCII letters in lower case. -/
def folded (s : String) : List Char := s.toList.map Char.toLower

/-- The id of the label with a name. -/
def find? (labels : List Label) (name : String) : Option String :=
  let name := trimmed name
  ((labels.find? (·.name = name)).or (labels.find? (folded ·.name = folded name))).map (·.id)

end Label

end Mailroom
