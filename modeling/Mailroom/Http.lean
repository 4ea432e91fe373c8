import Mailroom.Text.Blank
import Mailroom.Text.Utf8
import Mailroom.Url.Strict

/-!
# HTTP

A server that gives its replies in turn, one to each request that reaches it. Only a request over
plain HTTP to the address of the server reaches it, and only if its header lines can be sent; all
others come back unanswered, as one does whose connection is dropped or whose answer is broken. A
reply may also be that the run is interrupted while it waits.
-/

namespace Mailroom.Http

/-- A request as it reaches the server. -/
structure Request where
  method : String
  target : String
  authorization : Option String
  userAgent : Option String
  contentType : Option String
  body : String
deriving DecidableEq, Repr

/-- An answer to a request. The server always sends a `Content-Type`: a client takes an answer that
has none for one of JSON. -/
structure Answer where
  status : Nat
  contentType : String
  body : List UInt8
deriving DecidableEq, Repr

/-- What becomes of a request. -/
inductive Reply
  | answer (a : Answer)
  | dropped
  | interrupted
deriving DecidableEq, Repr

/-- A server: the hosts that lead to it and its `portNumber`, the replies to come, the reply to all
later requests, and the requests received so far, the last first. -/
structure Server where
  hosts : List Url.Host
  portNumber : Nat
  replies : List Reply
  fallback : Reply
  received : List Request
deriving Repr

/-- Whether a text can be sent as the value of a header line. -/
def isHeaderValue (s : String) : Bool :=
  s.toList.all fun c => c = '\t' || (32 ≤ c.toNat && c.toNat ≠ 127)

namespace Answer

/-- Whether an answer can be read: its status has three digits and is a final one, or that of a
change of protocols, and the value of its header line is one. -/
def isReadable (a : Answer) : Bool :=
  (a.status = 101 || (200 ≤ a.status && a.status ≤ 999)) && isHeaderValue a.contentType

/-- The body; some answers have none whatever was sent. -/
def content (a : Answer) : List UInt8 :=
  if a.status = 101 ∨ a.status = 204 ∨ a.status = 304 then [] else a.body

/-- The declared type of the body, without the spaces and tabs around it. -/
def declaredType (a : Answer) : List Char :=
  let isSpace (c : Char) : Bool := c = ' ' || c = '\t'
  Text.dropEnd isSpace (a.contentType.toList.dropWhile isSpace)

/-- The body as text, broken characters replaced. -/
def text (a : Answer) : String := String.ofList (Text.Utf8.decode a.content)

/-- Whether the status reports success. -/
def isSuccess (a : Answer) : Bool := 200 ≤ a.status && a.status < 300

end Answer

/-- What arrives of a reply: an answer that cannot be read is as good as none. -/
def Reply.arrived : Reply → Reply
  | .answer a => if a.isReadable then .answer a else .dropped
  | r => r

namespace Server

/-- Receives a request and gives the next reply. -/
def receive (r : Request) (s : Server) : Reply × Server :=
  match s.replies with
  | [] => (s.fallback.arrived, { s with received := r :: s.received })
  | reply :: rest => (reply.arrived, { s with replies := rest, received := r :: s.received })

/-- Whether a URL leads to the server. The server speaks plain HTTP only, so a URL of another scheme
does not; neither the text of a request nor what a client makes of an answer depends on that. -/
def isAt (url : Url) (s : Server) : Bool :=
  url.scheme = "http" && url.isStrict &&
    (url.authority.map fun a => a.host ∈ s.hosts && a.portNumber.getD 80 = s.portNumber).getD false

/-- Whether a request to a URL reaches the server. -/
def isReachable (url : Url) (r : Request) (s : Server) : Bool :=
  s.isAt url && (r.authorization.map isHeaderValue).getD true

/-- Sends a request to a URL. -/
def send (url : Url) (r : Request) (s : Server) : Reply × Server :=
  if s.isReachable url r then s.receive { r with target := url.target } else (.dropped, s)

theorem received_send {url : Url} {r : Request} {s : Server} (h : s.isReachable url r = true) :
    (s.send url r).2.received = { r with target := url.target } :: s.received := by
  simp only [send, h, if_true, receive]
  cases s.replies <;> rfl

end Server

end Mailroom.Http
