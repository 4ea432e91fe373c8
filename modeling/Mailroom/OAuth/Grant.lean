import Mailroom.Http
import Mailroom.OAuth.Client
import Mailroom.OAuth.Token
import Mailroom.Provider.Basic
import Mailroom.Text.Base64
import Mailroom.Text.Sha256

/-!
# Grants

The authorization code grant with a proof key: the user is sent to the authorization endpoint, and
the code that comes back is exchanged for tokens at the token endpoint, where the refresh token
later gets new ones.

A client with a secret authenticates by header, one without names itself in the form. An answer of
the token endpoint counts only if its status is 200 and it is JSON; what follows the value is not
looked at.
-/

namespace Mailroom.OAuth

/-! ## Services -/

/-- A registration with its endpoints. -/
structure Service where
  client : Client
  authUrl : Url
  tokenUrl : Url

/-- Reads an address of a registration. -/
def address (s : String) : Except Error Url :=
  match Url.parse s with
  | .ok url => .ok url
  | .error fault => .error (.serviceUrl fault)

/-- The service of a registration, whose addresses all have to be URLs. -/
def Service.ofClient (c : Client) : Except Error Service := do
  let authUrl ← address c.authUri
  let tokenUrl ← address c.tokenUri
  let _ ← address c.redirectUri
  return ⟨c, authUrl, tokenUrl⟩

/-! ## Consent -/

/-- The random texts of an authorization: its state and the verifier of its proof key. -/
structure Nonce where
  state : String
  verifier : String
deriving DecidableEq, Repr

namespace Nonce

/-- The texts made from random bytes. -/
def ofBytes (state verifier : List UInt8) : Nonce where
  state := String.ofList (Text.Base64.encodeUrl state)
  verifier := String.ofList (Text.Base64.encodeUrl verifier)

/-- The challenge that goes with the verifier. -/
def challenge (n : Nonce) : String :=
  String.ofList (Text.Base64.encodeUrl (Text.Sha256.digest (Text.Utf8.encode n.verifier.toList)))

end Nonce

/-- What is asked for: to read mail and to change its labels. -/
def modifyScope : String := "https://www.googleapis.com/auth/gmail.modify"

/-- Where the user gives consent. -/
def Service.consentUrl (s : Service) (n : Nonce) : Url :=
  s.authUrl.addPairs
    [("response_type", "code"), ("client_id", s.client.id), ("state", n.state),
      ("code_challenge", n.challenge), ("code_challenge_method", "S256"),
      ("redirect_uri", s.client.redirectUri), ("scope", modifyScope), ("access_type", "offline"),
      ("prompt", "consent")]

/-! ## Answers of the token endpoint -/

/-- What the token endpoint grants. -/
structure Granted where
  access : String
  expiresIn : Option UInt64
  refresh : Option String
  scopes : Option (List String)
deriving DecidableEq, Repr

namespace Granted

/-- The fields of a grant. -/
def fields : List String := ["access_token", "token_type", "expires_in", "refresh_token", "scope"]

/-- Whether all members that are no fields can be kept. -/
def extrasKeepable : Json → Bool
  | .object ms => ms.all fun m =>
      (m.1.map (fields.contains ·)).getD false || m.2.keepable (Json.nesting - 1)
  | _ => false

/-- Reads a grant; scopes are separated by spaces. -/
def ofJson? (j : Json) : Option Granted := do
  let r ← j.mapping? fields
  let _ ← r.required "token_type" Json.text?
  if !extrasKeepable j then none
  let scope ← r.withDefault "scope" none (Json.nullable? Json.text?)
  return {
    access := ← r.required "access_token" Json.text?
    expiresIn := ← r.optional "expires_in" Json.uint64?
    refresh := ← r.optional "refresh_token" Json.text?
    scopes := scope.map fun s => (Text.split ' ' s.toList).map String.ofList }

end Granted

/-- Whether a value is a refusal. -/
def isRefusal (j : Json) : Bool :=
  (do
    let r ← j.record? ["error", "error_description", "error_uri"]
    let _ ← r.required "error" Json.text?
    let _ ← r.withDefault "error_description" none (Json.nullable? Json.text?)
    r.withDefault "error_uri" none (Json.nullable? Json.text?)).isSome

/-- The value at the front of a body. -/
def bodyJson? (a : Http.Answer) : Option Json := Json.parseFrontBytes? a.content

/-- Whether an answer declares to be JSON. -/
def isDeclaredJson (a : Http.Answer) : Bool :=
  let wanted := "application/json".toList
  (a.declaredType.map Char.toLower).take wanted.length = wanted &&
    a.declaredType.all fun c => c = '\t' || (32 ≤ c.toNat && c.toNat < 127)

/-- What an answer grants. -/
def grantOf (a : Http.Answer) : Except TokenFault Granted :=
  if a.status ≠ 200 then
    if a.content = [] then .error .unusable
    else if ((bodyJson? a).map isRefusal).getD false then .error .refused
    else .error .unreadable
  else if !isDeclaredJson a ∨ a.content = [] then .error .unusable
  else
    match (bodyJson? a).bind Granted.ofJson? with
    | some g => .ok g
    | none => .error .unreadable

/-! ## Requests -/

/-- The credentials of a client with a secret. -/
def basicCredentials (id secret : String) : String :=
  "Basic " ++ String.ofList (Text.Base64.encode (Text.Utf8.encode
    (Url.Form.encode id.toList ++ ':' :: Url.Form.encode secret.toList)))

/-- Asks the token endpoint; `own` is what the client sends in any case, and `address` what it sends
after its name. -/
def Service.ask (s : Service) (own address : List (String × String)) :
    Call Http.Server (Except TokenFault Granted) := fun server =>
  let (authorization, named) := match s.client.secret with
    | some secret => (some (basicCredentials s.client.id secret), [])
    | none => (none, [("client_id", s.client.id)])
  let body := String.ofList (Url.Form.write (own ++ named ++ address))
  let request : Http.Request :=
    ⟨"POST", "", authorization, none, some "application/x-www-form-urlencoded", body⟩
  if !s.tokenUrl.isStrict then (.ok (.error .unusable), server)
  else
    let (reply, server) := server.send s.tokenUrl request
    match reply with
    | .dropped => (.ok (.error .unanswered), server)
    | .interrupted => (.error .interrupted, server)
    | .answer a => (.ok (grantOf a), server)

/-- The time at which what is granted expires; the calculation is one of 64-bit words. -/
def Granted.expiry (g : Granted) (now : Int64) : Option Int64 :=
  g.expiresIn.map fun seconds => now + Int64.ofNat (seconds.toNat * 1000)

/-- The token that an exchange brings. -/
def Granted.token (g : Granted) (refresh : String) (now : Int64) : Token where
  access := g.access
  refresh := some refresh
  expiresAt := g.expiry now
  scopes := g.scopes.getD []
  updatedAt := now

/-- The token that a renewal brings: what is not granted anew stays. -/
def Granted.renewed (g : Granted) (old : Token) (refresh : String) (now : Int64) : Token where
  access := g.access
  refresh := some (g.refresh.getD refresh)
  expiresAt := g.expiry now
  scopes := g.scopes.getD old.scopes
  updatedAt := now

/-- Exchanges an authorization code for a token, which has to come with a refresh token. -/
def Service.exchange (s : Service) (code verifier : String) (now : Int64) :
    Call Http.Server Token := do
  let answer ← s.ask
    [("grant_type", "authorization_code"), ("code", code), ("code_verifier", verifier)]
    [("redirect_uri", s.client.redirectUri)]
  match answer with
  | .error fault => Call.fail (.exchange fault)
  | .ok granted =>
      match granted.refresh with
      | some refresh => return granted.token refresh now
      | none => Call.fail .noGrantedRefreshToken

/-- Renews a token. -/
def Service.renew (s : Service) (old : Token) (now : Int64) : Call Http.Server Token := do
  match old.refresh with
  | none => Call.fail .noRefreshToken
  | some refresh => do
      let answer ← s.ask [("grant_type", "refresh_token"), ("refresh_token", refresh)] []
      match answer with
      | .error _ => Call.fail .refresh
      | .ok granted => return granted.renewed old refresh now

end Mailroom.OAuth
