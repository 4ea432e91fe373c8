import Mailroom.Error
import Mailroom.FileTree
import Mailroom.Json.Parser
import Mailroom.Json.Record

/-!
# Client registrations

A credentials file holds the registration of an installed application or of a web application; if it
holds both, the installed one counts. Where a registration leaves out an endpoint, it is the
service's own.
-/

namespace Mailroom.OAuth

/-- A client registration. -/
structure Client where
  id : String
  secret : Option String
  authUri : String
  tokenUri : String
  redirectUris : List String
deriving DecidableEq, Repr

namespace Client

/-- The authorization endpoint of a registration that names none. -/
def defaultAuthUri : String := "https://accounts.google.com/o/oauth2/auth"

/-- The token endpoint of a registration that names none. -/
def defaultTokenUri : String := "https://oauth2.googleapis.com/token"

/-- The redirect address of a registration that names none. -/
def defaultRedirectUri : String := "http://localhost"

/-- Where the user is sent after consent. -/
def redirectUri (c : Client) : String := c.redirectUris.head?.getD defaultRedirectUri

/-- Reads a registration. -/
def ofJson? (j : Json) : Option Client := do
  let r ← j.record? ["client_id", "client_secret", "auth_uri", "token_uri", "redirect_uris"]
  return {
    id := ← r.required "client_id" Json.text?
    secret := ← r.withDefault "client_secret" none (Json.nullable? Json.text?)
    authUri := ← r.withDefault "auth_uri" defaultAuthUri Json.text?
    tokenUri := ← r.withDefault "token_uri" defaultTokenUri Json.text?
    redirectUris := ← r.withDefault "redirect_uris" [] (Json.list? Json.text?) }

/-- Reads the registrations in a credentials file, the installed one first. -/
def pairOfJson? (j : Json) : Option (Option Client × Option Client) := do
  let r ← j.record? ["installed", "web"]
  return (← r.optional "installed" ofJson?, ← r.optional "web" ofJson?)

/-- The registration that a credentials text holds. -/
def parse (s : String) : Except Error Client :=
  match (Json.parse? s).bind pairOfJson? with
  | none => .error .credentialsText
  | some (installed, web) =>
      match installed.or web with
      | some c => .ok c
      | none => .error .noClient

/-- The registration in a credentials file, given what can be read of it. -/
def load (path : String) (content : FileText) : Except Error Client :=
  match content with
  | .text s => parse s
  | _ => .error (.unreadableCredentials path)

end Client

end Mailroom.OAuth
