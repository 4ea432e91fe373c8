import Mailroom.Machine
import Mailroom.OAuth.Code

/-!
# Access

Getting an access token: once by asking the user, and then from the token file, where it is renewed
when it has less than a minute left. The token file is written only with a token that the token
endpoint has just granted.
-/

namespace Mailroom.OAuth

/-- How long before it expires a token is renewed, in milliseconds. -/
def leeway : Int64 := 60000

/-- The service of a credentials file. -/
def loadService (credentialsFile : String) : Job Service := do
  let client ← Job.ofExcept (Client.load credentialsFile (← Job.read credentialsFile))
  Job.ofExcept (Service.ofClient client)

/-- Writes a token file. -/
def save (tokenFile : String) (t : Token) : Job Unit :=
  Job.write tokenFile t.render (.unwritableToken tokenFile)

/-- Asks the user for consent and saves the token that comes of it. -/
def authorize (credentialsFile tokenFile : String) : Job Unit := do
  let service ← loadService credentialsFile
  let m ← get
  Job.print ("Open this URL in a browser and grant access:\n\n" ++
    (service.consentUrl m.nonce).text ++ "\n")
  Job.print "Paste the authorization code (or the full redirect URL) here:"
  let code ← Job.ofExcept (Code.extract (← Job.inputLine .unreadableCode))
  let token ← Job.online (service.exchange code m.nonce.verifier (← Job.now))
  save tokenFile token
  Job.info ("Authorization complete, token saved to " ++ tokenFile)

/-- An access token that is good for a while. -/
def accessToken (credentialsFile tokenFile : String) : Job String := do
  match ← Job.ofExcept (Token.load tokenFile (← Job.read tokenFile)) with
  | none => throw (.failed (.noToken tokenFile))
  | some token =>
      if !token.expiresWithin (← Job.now) leeway then return token.access
      Job.info "Access token expired or about to expire, refreshing"
      let service ← loadService credentialsFile
      let renewed ← Job.online (service.renew token (← Job.now))
      save tokenFile renewed
      return renewed.access

end Mailroom.OAuth
