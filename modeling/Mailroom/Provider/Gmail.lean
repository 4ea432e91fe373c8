import Mailroom.Http
import Mailroom.Json.Printer
import Mailroom.Message.Json
import Mailroom.Provider.Label
import Mailroom.Provider.Listing

/-!
# Gmail

The Gmail API as a provider. Each call is one request below the address of the account, with the
access token. An answer without success is an error with its status and text, whatever the text is;
an answer with success has to hold what the call expects.

The labels of the account are asked for once: the first listing that arrives is kept.
-/

namespace Mailroom

/-- A client: the address of the account, the access token, the labels once they are known, and the
server. -/
structure Gmail where
  base : String
  token : String
  labels : Option (List Label)
  server : Http.Server

namespace Gmail

/-- What the client calls itself. -/
def userAgent : String := "mailrules/0.3.0"

/-- An address without the slashes at its end. -/
def trimSlashes (s : String) : String := String.ofList (Text.dropEnd (· = '/') s.toList)

/-- A client that has made no call. -/
def client (base token : String) (server : Http.Server) : Gmail :=
  ⟨trimSlashes base, token, none, server⟩

/-! ## Requests -/

/-- The URL of a path below the address of the account. -/
def url (g : Gmail) (path : String) : Except Url.Fault Url := Url.parse (g.base ++ "/" ++ path)

/-- Sends a request and gives the text of an answer with success. -/
def exchange (path : String) (url : Except Url.Fault Url) (method : String)
    (contentType : Option String) (body : String) : Call Gmail String := fun g =>
  match url with
  | .error _ => (.error (.failed (.unanswered path)), g)
  | .ok url =>
      let request : Http.Request :=
        ⟨method, "", some ("Bearer " ++ g.token), some userAgent, contentType, body⟩
      let (reply, server) := g.server.send url request
      let result : Except Stop String := match reply with
        | .dropped => .error (.failed (.unanswered path))
        | .interrupted => .error .interrupted
        | .answer a =>
            if a.isSuccess then .ok a.text else .error (.failed (.refused a.status a.text))
      (result, { g with server })

/-- Reads the text of an answer. -/
def expect {α : Type} (path : String) (read : Json → Option α) (text : String) : Call Gmail α :=
  match (Json.parse? text).bind read with
  | some a => pure a
  | none => Call.fail (.unexpected path)

/-- Asks for what is at a path. -/
def fetch {α : Type} (path : String) (query : List (String × String)) (read : Json → Option α) :
    Call Gmail α := do
  let g ← get
  let url := (g.url path).map fun u => (u.addPairs query).dropEmptyQuery
  let text ← exchange path url "GET" none ""
  expect path read text

/-- Sends an object to a path. -/
def submit {α : Type} (path : String) (body : Json) (read : Json → Option α) : Call Gmail α := do
  let g ← get
  let text ← exchange path (g.url path) "POST" (some "application/json") body.render
  expect path read text

/-! ## Calls -/

/-- A page of message ids. -/
def list (token : Option String) (size : Nat) : Call Gmail IdPage :=
  fetch "messages"
    (("maxResults", natText size) :: (token.map fun t => ("pageToken", t)).toList) IdPage.ofJson?

/-- A message. -/
def message (id : String) : Call Gmail Message :=
  fetch ("messages/" ++ id) [("format", "full")] Message.ofJson?

/-- The account's profile. -/
def profile : Call Gmail Profile := fetch "profile" [] Profile.ofJson?

/-- The account's labels. -/
def listLabels : Call Gmail (List Label) := do
  let g ← get
  match g.labels with
  | some labels => return labels
  | none =>
      let labels ← fetch "labels" [] Label.listOfJson?
      modify fun g => { g with labels := some labels }
      return labels

theorem labels_cached {g : Gmail} {labels : List Label} (h : g.labels = some labels) :
    listLabels g = (.ok labels, g) := by
  have run : listLabels g =
      (match g.labels with
        | some labels => pure labels
        | none => do
            let labels ← fetch "labels" [] Label.listOfJson?
            modify fun g => { g with labels := some labels }
            return labels : Call Gmail (List Label)) g := rfl
  rw [run, h]
  rfl

/-- The id of a label. -/
def resolve (name : String) : Call Gmail (Option String) := do
  return Label.find? (← listLabels) name

/-- The object that asks for a change of labels. -/
def changeJson (change : Rule.LabelChange) : Json :=
  .ofMembers [("addLabelIds", .ofStrings change.add), ("removeLabelIds", .ofStrings change.remove)]

/-- Changes the labels of a message; the answer may hold any value. -/
def modifyLabels (id : String) (change : Rule.LabelChange) : Call Gmail Unit :=
  submit ("messages/" ++ id ++ "/modify") (changeJson change) fun j =>
    if j.keepable Json.nesting then some () else none

/-- Gmail as a provider. A listing that goes on after the last reply of the server goes on for
ever. -/
def provider : Provider Gmail where
  list := list
  get := message
  profile := profile
  resolve := resolve
  modify := modifyLabels
  pagesLeft g := g.server.replies.length + 1

end Gmail

end Mailroom
