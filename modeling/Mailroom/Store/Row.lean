import Mailroom.Decimal.Binary64
import Mailroom.Error
import Mailroom.Message.Json
import Mailroom.Store.Column

/-!
# Rows of the message table

A message as a row of values, one per column, and a row as a message. Headers of the payload are
kept elsewhere; of them a row keeps only the envelope, and a message read from a row carries it.

Reading forgives: a value of another kind is taken for its text or its number, and null for nothing.
What it refuses is a row of another width, labels that are no JSON list of strings, and parts that
are no JSON list of parts.
-/

namespace Mailroom.Store

open Mailroom.Sql (Value)

/-- The values of a message, in the order of the columns. -/
abbrev Row := List Value

namespace Row

/-- The value in a column. -/
def get (row : Row) (c : Column) : Value := row.getD c.index .null

/-- The row with another value in a column. -/
def set (row : Row) (c : Column) (v : Value) : Row := List.set row c.index v

/-! ## Writing -/

/-- A text that may be missing. -/
def optionalText : Option String → Value
  | some s => .text s
  | none => .null

/-- The value of a message in a column. -/
def valueOf (m : Message) : Column → Value
  | .id => .text m.id
  | .threadId => .text m.threadId
  | .historyId => .text m.historyId
  | .internalDate => optionalText m.moment?
  | .internalTimestamp => .text m.internalDate
  | .sender => optionalText m.envelope.sender
  | .recipient => optionalText m.envelope.recipient
  | .subject => optionalText m.envelope.subject
  | .labelIds => .text (Json.ofStrings m.labelIds).render
  | .bodyData => optionalText m.payload.body.data?
  | .bodySize => .integer m.payload.body.size
  | .bodyAttachmentId => optionalText m.payload.body.attachmentId?
  | .filename => .text m.payload.filename
  | .mimeType => .text m.payload.mimeType
  | .partId => .text m.payload.partId
  | .parts => .text (Json.array (Part.listToJson m.payload.parts)).render
  | .raw => optionalText m.raw
  | .sizeEstimate => .integer m.sizeEstimate
  | .snippet => .text m.snippet

/-- The row of a message. -/
def encode (m : Message) : Row := Column.all.map (valueOf m)

theorem length_encode (m : Message) : (encode m).length = 19 := rfl

/-! ## Reading -/

/-- The text form of a value. -/
def text? : Value → Option String
  | .text s => some s
  | .integer n => some (intText n.toInt)
  | .real x => some (Decimal.floatText x)
  | .blob bytes => some (String.ofList (Text.Utf8.decode bytes))
  | .null => none

/-- A double cut off towards zero, the ends of the 64-bit range standing for what lies beyond. -/
def truncated (x : Float) : Int64 :=
  match Decimal.Binary64.ofFloat x with
  | .nan => 0
  | .infinite negative => if negative then Int64.minValue else Int64.maxValue
  | .finite negative v =>
      let n : Int := (v.num / v.den : Nat)
      match int64OfInt? (if negative then -n else n) with
      | some word => word
      | none => if negative then Int64.minValue else Int64.maxValue

/-- The number that a value is or spells. -/
def integer? : Value → Option Int64
  | .integer n => some n
  | .real x => some (truncated x)
  | .text s => int64OfText? (trimmed s)
  | _ => none

/-- Reads a list from the JSON text of a column; null is no items. -/
def list (row : Row) (c : Column) (read : Json → Option (List α)) : Except Error (List α) :=
  match text? (row.get c) with
  | none => .ok []
  | some s =>
      match (Json.parse? s).bind read with
      | some xs => .ok xs
      | none => .error (.storedJson c.name ((text? (row.get .id)).getD ""))

/-- Reads a list of parts, for which `null` is no parts. -/
def partList? (j : Json) : Option (List Part) :=
  (j.nullable? (Json.listWithin? Part.ofJson? Json.nesting)).map (·.getD [])

/-- The text in a column, empty if there is none. -/
def textOf (row : Row) (c : Column) : String := (text? (row.get c)).getD ""

/-- The message in a row. -/
def decode (row : Row) : Except Error Message :=
  if row.length ≠ Column.all.length then .error (.rowWidth Column.all.length row.length)
  else do
    let labelIds ← row.list .labelIds (Json.list? Json.text?)
    let parts ← row.list .parts partList?
    return {
      id := row.textOf .id
      threadId := row.textOf .threadId
      historyId := row.textOf .historyId
      internalDate := row.textOf .internalTimestamp
      labelIds
      payload := {
        body := Body.ofParts (text? (row.get .bodyData)) (integer? (row.get .bodySize))
          (text? (row.get .bodyAttachmentId))
        filename := row.textOf .filename
        headers := []
        mimeType := row.textOf .mimeType
        partId := row.textOf .partId
        parts }
      raw := text? (row.get .raw)
      sizeEstimate := (integer? (row.get .sizeEstimate)).getD 0
      snippet := row.textOf .snippet
      storedEnvelope := some {
        sender := text? (row.get .sender)
        recipient := text? (row.get .recipient)
        subject := text? (row.get .subject) } }

end Row

end Mailroom.Store
