import Mailroom.Message.Basic
import Mailroom.Json.Parser
import Mailroom.Json.Printer
import Mailroom.Json.Record

/-!
# Messages as JSON

A message, its parts and its headers are records; only a message's id and the two fields of a header
are required. A body is an object that is an attachment if it has an attachment id and a size,
otherwise carried data if it has data and a size, otherwise absent with a size that defaults to
zero. It has to be kept whole while that is decided.

What is read may nest 127 brackets deep, and each reader is told how many levels are left to it.

Writing leaves out empty lists of headers and of parts, and a missing `raw`.
-/

namespace Mailroom

/-! ## Headers -/

/-- The object of a header. -/
def Header.toJson (h : Header) : Json :=
  .ofMembers [("name", .ofString h.name), ("value", .ofString h.value)]

/-- Reads a header. -/
def Header.ofJson? : Nat → Json → Option Header
  | 0, _ => none
  | _ + 1, j => do
      let r ← j.record? ["name", "value"]
      return { name := ← r.required "name" Json.text?, value := ← r.required "value" Json.text? }

theorem Header.ofJson?_toJson (levels : Nat) (h : Header) :
    Header.ofJson? (levels + 1) h.toJson = some h := by
  obtain ⟨name, value⟩ := h
  rfl

/-! ## Bodies -/

namespace Body

/-- The object of a body. -/
def toJson : Body → Json
  | attachment i n => .ofMembers [("attachmentId", .ofString i), ("size", .integer n.toInt)]
  | carried d n => .ofMembers [("data", .ofString d), ("size", .integer n.toInt)]
  | absent n => .ofMembers [("size", .integer n.toInt)]

/-- Reads an attachment. -/
def attachment? (j : Json) : Option Body := do
  let r ← j.mapping? ["attachmentId", "size"]
  return attachment (← r.required "attachmentId" Json.text?) (← r.required "size" Json.int64?)

/-- Reads carried data. -/
def carried? (j : Json) : Option Body := do
  let r ← j.mapping? ["data", "size"]
  return carried (← r.required "data" Json.text?) (← r.required "size" Json.int64?)

/-- Reads the size of an absent body. -/
def absent? (j : Json) : Option Body := do
  let r ← j.mapping? ["size"]
  return absent (← r.withDefault "size" 0 Json.int64?)

/-- Reads a body. -/
def ofJson? (levels : Nat) (j : Json) : Option Body :=
  if j.keepable levels then attachment? j <|> carried? j <|> absent? j else none

end Body

/-! ## Parts -/

namespace Part

mutual

/-- The object of a part. -/
def toJson : Part → Json
  | ⟨body, filename, headers, mimeType, partId, parts⟩ =>
      .ofMembers
        ([("body", body.toJson), ("filename", .ofString filename)] ++
          (if headers.isEmpty then [] else [("headers", .array (headers.map Header.toJson))]) ++
          [("mimeType", .ofString mimeType), ("partId", .ofString partId)] ++
          (if parts.isEmpty then [] else [("parts", .array (listToJson parts))]))

/-- The objects of a list of parts. -/
def listToJson : List Part → List Json
  | [] => []
  | p :: ps => toJson p :: listToJson ps

end

/-- The fields of a part. -/
def fields : List String := ["body", "filename", "headers", "mimeType", "partId", "parts"]

/-- Reads a part. -/
def ofJson? : Nat → Json → Option Part
  | 0, _ => none
  | levels + 1, j => do
      let r ← j.record? fields
      return {
        body := ← r.withDefault "body" (.absent 0) (Body.ofJson? levels)
        filename := ← r.withDefault "filename" "" Json.text?
        headers := ← r.withDefault "headers" [] (Json.listWithin? Header.ofJson? levels)
        mimeType := ← r.withDefault "mimeType" "" Json.text?
        partId := ← r.withDefault "partId" "" Json.text?
        parts := ← match levels with
          | 0 => r.withDefault "parts" [] fun _ => none
          | levels + 1 => r.withDefault "parts" [] (Json.list? (ofJson? levels)) }

end Part

/-! ## Messages -/

namespace Message

/-- The object of a message. -/
def toJson (m : Message) : Json :=
  .ofMembers
    ([("id", .ofString m.id), ("threadId", .ofString m.threadId),
        ("historyId", .ofString m.historyId), ("internalDate", .ofString m.internalDate),
        ("labelIds", .ofStrings m.labelIds), ("payload", m.payload.toJson)] ++
      (match m.raw with
        | some raw => [("raw", .ofString raw)]
        | none => []) ++
      [("sizeEstimate", .integer m.sizeEstimate.toInt), ("snippet", .ofString m.snippet)])

/-- The fields of a message. -/
def fields : List String :=
  ["id", "threadId", "historyId", "internalDate", "labelIds", "payload", "raw", "sizeEstimate",
    "snippet"]

/-- Reads a message. -/
def ofJson? (j : Json) : Option Message := do
  let r ← j.record? fields
  return {
    id := ← r.required "id" Json.text?
    threadId := ← r.withDefault "threadId" "" Json.text?
    historyId := ← r.withDefault "historyId" "" Json.text?
    internalDate := ← r.withDefault "internalDate" "" Json.text?
    labelIds := ← r.withDefault "labelIds" [] (Json.list? Json.text?)
    payload := ← r.withDefault "payload" Part.blank (Part.ofJson? (Json.nesting - 1))
    raw := ← r.withDefault "raw" none (Json.nullable? Json.text?)
    sizeEstimate := ← r.withDefault "sizeEstimate" 0 Json.int64?
    snippet := ← r.withDefault "snippet" "" Json.text?
    storedEnvelope := none }

/-- The message that a text holds. -/
def parse? (s : String) : Option Message := (Json.parse? s).bind ofJson?

/-- The text of a message. -/
def render (m : Message) : String := m.toJson.render

end Message

end Mailroom
