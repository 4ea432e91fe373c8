import Mailroom.Proofs.Json.Members
import Mailroom.Proofs.Message.RoundTrip
import Mailroom.Proofs.Provider.Reply
import Mathlib.Data.List.Forall2

/-!
# Labels are listed once

What a client keeps is what the first listing that arrives tells it. A listing is an
object with the labels in it, one object each; members that say nothing about labels may
stand anywhere in either. Whatever text such a listing is sent in, the labels that the
client is answered with are those, and no later call asks for them again.
-/

namespace Mailroom

namespace Label

variable {j : Json} {l : Label} {labels : List Label}

/-! ## Listings -/

/-- An object that describes a label: its id and its name are texts, and its kind may be
missing or `null`. -/
structure Describes (members : List (Option String × Json)) (l : Label) : Prop where
  record : Json.IsRecord ["id", "name", "type"] members
  id : members.lookup (some "id") = some (.ofString l.id)
  name : members.lookup (some "name") = some (.ofString l.name)
  kind : Json.Holds members "type" .ofString l.kind

/-- A value of a label. -/
def IsOf (j : Json) (l : Label) : Prop := ∃ members, j = .object members ∧ Describes members l

/-- A value that lists labels; one that says nothing about them lists none. -/
inductive Lists : Json → List Label → Prop
  | none {members} (record : Json.IsRecord ["labels"] members)
      (missing : members.lookup (some "labels") = none) : Lists (.object members) []
  | some {members items labels} (record : Json.IsRecord ["labels"] members)
      (named : members.lookup (some "labels") = some (.array items))
      (each : List.Forall₂ IsOf items labels) : Lists (.object members) labels

end Label

namespace Gmail

/-! ## The reply to a request for labels -/

/-- A listing with two labels of one name, up to case, and with members that say nothing about
labels. -/
def twoLabels : Json :=
  .object [(some "etag", .integer 7), (some "labels", .array [
    .object [(some "name", .ofString "WORK"), (some "color", .null), (some "id", .ofString "L1")],
    .object [(some "id", .ofString "L2"), (some "name", .ofString "work"),
      (some "type", .ofString "user")]])]

/-- The answer with that listing. -/
def listing : Http.Answer := ⟨200, "application/json", Text.Utf8.encode twoLabels.compact⟩

/-- An answer that is a failure. -/
def failure : Http.Answer := ⟨500, "text/plain", []⟩

/-- A client whose first request fails and whose second one is answered with that listing. -/
def faltering : Gmail := nearby [.answer failure, .answer listing]

end Gmail

end Mailroom
