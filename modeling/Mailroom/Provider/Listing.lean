import Mailroom.Json.Parser
import Mailroom.Json.Record
import Mailroom.Provider.Basic

/-!
# Listings and profiles as JSON

A listing names each message with its thread; a missing or null list of messages is empty, and so an
empty token of the next page means that there is none. A profile has an address and the number of
its last change; totals that are missing are zero.
-/

namespace Mailroom

namespace IdPage

/-- The id in an entry of a listing. -/
def entryId? (j : Json) : Option String := do
  let r ← j.record? ["id", "threadId"]
  let id ← r.required "id" Json.text?
  let _ ← r.required "threadId" Json.text?
  return id

/-- Reads a listing. -/
def ofJson? (j : Json) : Option IdPage := do
  let r ← j.record? ["messages", "nextPageToken", "resultSizeEstimate"]
  let ids ← r.withDefault "messages" none (Json.nullable? (Json.list? entryId?))
  let token ← r.withDefault "nextPageToken" none (Json.nullable? Json.text?)
  let _ ← r.withDefault "resultSizeEstimate" none (Json.nullable? Json.int64?)
  return ⟨ids.getD [], token.filter (· ≠ "")⟩

end IdPage

/-- Reads a profile. -/
def Profile.ofJson? (j : Json) : Option Profile := do
  let r ← j.record? ["emailAddress", "historyId", "messagesTotal", "threadsTotal"]
  return {
    emailAddress := ← r.required "emailAddress" Json.text?
    historyId := ← r.required "historyId" Json.text?
    messagesTotal := ← r.withDefault "messagesTotal" 0 Json.uint64?
    threadsTotal := ← r.withDefault "threadsTotal" 0 Json.uint64? }

end Mailroom
