import Mailroom.Error
import Mailroom.FileTree
import Mailroom.Json.Parser
import Mailroom.Json.Printer
import Mailroom.Json.Record

/-!
# Saved tokens

A token file holds an access token with what is needed to renew it. Times are milliseconds since
1970 in 64-bit words and are calculated as such.
-/

namespace Mailroom.OAuth

/-- A token as it is saved. -/
structure Token where
  access : String
  refresh : Option String
  expiresAt : Option Int64
  scopes : List String
  updatedAt : Int64
deriving DecidableEq, Repr

namespace Token

/-- Whether a token expires within a time from now. -/
def expiresWithin (t : Token) (now leeway : Int64) : Bool :=
  match t.expiresAt with
  | some expiry => expiry - now ≤ leeway
  | none => true

theorem expiresWithin_unknown {t : Token} (h : t.expiresAt = none) (now leeway : Int64) :
    t.expiresWithin now leeway = true := by
  simp [expiresWithin, h]

/-- The object of a token. -/
def toJson (t : Token) : Json :=
  .ofMembers [("access_token", .ofString t.access),
    ("refresh_token", (t.refresh.map Json.ofString).getD .null),
    ("expires_at", (t.expiresAt.map fun n => Json.integer n.toInt).getD .null),
    ("scopes", .ofStrings t.scopes), ("updated_at", .integer t.updatedAt.toInt)]

/-- Reads a token. -/
def ofJson? (j : Json) : Option Token := do
  let r ← j.record? ["access_token", "refresh_token", "expires_at", "scopes", "updated_at"]
  return {
    access := ← r.required "access_token" Json.text?
    refresh := ← r.optional "refresh_token" Json.text?
    expiresAt := ← r.optional "expires_at" Json.int64?
    scopes := ← r.withDefault "scopes" [] (Json.list? Json.text?)
    updatedAt := ← r.required "updated_at" Json.int64? }

theorem ofJson?_toJson (t : Token) : ofJson? t.toJson = some t := by
  obtain ⟨access, refresh, expiresAt, scopes, updatedAt⟩ := t
  have strings := Json.list?_ofStrings scopes
  have updated := Json.int64?_toInt updatedAt
  cases refresh <;> cases expiresAt with
  | none => simp [ofJson?, toJson, Json.ofMembers, Json.record?, Json.mapping?, Json.known,
      Json.Record.required, Json.Record.optional, Json.Record.withDefault, Json.Record.get?,
      List.lookup_cons, Json.ofString, Json.text?, Json.nullable?, strings, updated]
  | some n => simp [ofJson?, toJson, Json.ofMembers, Json.record?, Json.mapping?, Json.known,
      Json.Record.required, Json.Record.optional, Json.Record.withDefault, Json.Record.get?,
      List.lookup_cons, Json.ofString, Json.text?, Json.nullable?, strings, updated,
      Json.int64?_toInt n]

/-- The token that a text holds. -/
def parse? (s : String) : Option Token := (Json.parse? s).bind ofJson?

/-- The text of a token. -/
def render (t : Token) : String := t.toJson.renderPretty

/-- The token in a file, given what can be read of it; none where there is no file. -/
def load (path : String) (content : FileText) : Except Error (Option Token) :=
  match content with
  | .missing => .ok none
  | .unreadable => .error (.unreadableToken path)
  | .text s =>
      match parse? s with
      | some t => .ok (some t)
      | none => .error (.tokenText path)

end Token

end Mailroom.OAuth
