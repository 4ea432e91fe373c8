import Mailroom.Address
import Mailroom.Calendar

/-!
# Messages

A message of a mailbox: who it is (`id`, `threadId`, `historyId`), when it came (`internalDate`,
milliseconds as text), what labels it carries, and its parts. A part has a body, headers and parts
of its own. The body is kept elsewhere under an attachment id, or carried along as data, or absent;
in each case its size is known.

The envelope of a message is the projection that searching works on: the addresses in the first
`From` and `To` headers and the text of the first `Subject` header. A message read back from the
store has no headers left on its payload and carries its envelope instead.
-/

namespace Mailroom

/-- A header line of a part. -/
structure Header where
  name : String
  value : String
deriving DecidableEq, Repr

/-- The body of a part. -/
inductive Body
  | attachment (id : String) (size : Int64)
  | carried (data : String) (size : Int64)
  | absent (size : Int64)
deriving DecidableEq, Repr

namespace Body

/-- The data that is carried along. -/
def data? : Body → Option String
  | carried d _ => some d
  | _ => none

/-- The id under which the data is kept. -/
def attachmentId? : Body → Option String
  | attachment i _ => some i
  | _ => none

/-- The size of the data. -/
def size : Body → Int64
  | attachment _ n => n
  | carried _ n => n
  | absent n => n

/-- The body with these parts; an attachment id goes before data, and a missing size is zero. -/
def ofParts (data : Option String) (size : Option Int64) (attachmentId : Option String) : Body :=
  match attachmentId, data with
  | some i, _ => attachment i (size.getD 0)
  | none, some d => carried d (size.getD 0)
  | none, none => absent (size.getD 0)

@[simp] theorem ofParts_parts (b : Body) : ofParts b.data? (some b.size) b.attachmentId? = b := by
  cases b <;> rfl

end Body

/-- A part of a message. -/
structure Part where
  body : Body
  filename : String
  headers : List Header
  mimeType : String
  partId : String
  parts : List Part
deriving Repr

/-- A part of which nothing is known. -/
def Part.blank : Part := ⟨.absent 0, "", [], "", "", []⟩

/-- What searching works on. -/
structure Envelope where
  sender : Option String
  recipient : Option String
  subject : Option String
deriving DecidableEq, Repr

/-- A message of a mailbox. -/
structure Message where
  id : String
  threadId : String
  historyId : String
  internalDate : String
  labelIds : List String
  payload : Part
  raw : Option String
  sizeEstimate : Int64
  snippet : String
  storedEnvelope : Option Envelope
deriving Repr

namespace Message

/-- The label of the inbox. -/
def inboxLabel : String := "INBOX"

/-- The label of messages not read yet. -/
def unreadLabel : String := "UNREAD"

/-- The label of messages sent from the account. -/
def sentLabel : String := "SENT"

/-- The address in a header value; a value without one stands for itself. -/
def addressOf (value : String) : String :=
  (Address.parse value).address.getD (trimmed value)

/-- The value of the first header of a name. -/
def firstHeader? (name : String) (headers : List Header) : Option String :=
  (headers.find? (·.name = name)).map (·.value)

/-- The addresses and the subject of a message. -/
def envelope (m : Message) : Envelope :=
  match m.storedEnvelope with
  | some e => e
  | none =>
      let headers := m.payload.headers
      ⟨(firstHeader? "From" headers).map addressOf, (firstHeader? "To" headers).map addressOf,
        firstHeader? "Subject" headers⟩

theorem envelope_of_stored {m : Message} {e : Envelope} (h : m.storedEnvelope = some e) :
    m.envelope = e := by
  simp [envelope, h]

/-- When the message came, in UTC; none if its date is no 64-bit count of milliseconds or lies too
far off. -/
def moment? (m : Message) : Option String :=
  (int64OfText? (trimmed m.internalDate)).bind fun ms => Calendar.momentOfMillis? ms.toInt

/-- Whether the message carries a label. -/
def hasLabel (m : Message) (label : String) : Bool := m.labelIds.contains label

end Message

end Mailroom
