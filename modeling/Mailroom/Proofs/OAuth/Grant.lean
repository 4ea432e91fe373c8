import Mailroom.OAuth.Grant
import Mailroom.Proofs.Json.Members
import Mailroom.Proofs.Json.RoundTrip

/-!
# What a reply grants

The token endpoint grants by an object, and what it grants is what the members of that object
say, wherever they stand and whatever stands between them. `Says` is the table of that, one
member at a time, and `Replies` says which object the next reply holds. Neither speaks of how
grants are read.
-/

namespace Mailroom

/-- The next reply, as it arrives. -/
def Http.Server.next (s : Http.Server) : Http.Reply :=
  (s.replies.head?.getD s.fallback).arrived

namespace OAuth

variable {members : List (Option String × Json)} {granted : Granted} {server : Http.Server}

/-! ## Members -/

/-- What the members of an object grant: the access token and the kind of it are texts,
the seconds it is good for, a refresh token and its scopes may be missing or `null`, and
any other members can be kept. -/
structure Says (members : List (Option String × Json)) (granted : Granted) : Prop where
  record : Json.IsRecord Granted.fields members
  kind : ∃ kind, members.lookup (some "token_type") = some (.ofString kind)
  access : members.lookup (some "access_token") = some (.ofString granted.access)
  expiresIn : Json.Holds members "expires_in" (fun seconds => .integer seconds.toNat)
    granted.expiresIn
  refresh : Json.Holds members "refresh_token" .ofString granted.refresh
  /-- The scopes stand in one text, with spaces between them. -/
  scopes : ∃ text, Json.Holds members "scope" .ofString text ∧
    granted.scopes = text.map fun s => (Text.split ' ' s.toList).map String.ofList
  others : ∀ m ∈ members, (∀ name ∈ Granted.fields, m.1 ≠ some name) →
    m.2.keepable (Json.nesting - 1) = true

private theorem extrasKeepable_iff : Granted.extrasKeepable (.object members) = true ↔
    ∀ m ∈ members, (∀ name ∈ Granted.fields, m.1 ≠ some name) →
      m.2.keepable (Json.nesting - 1) = true := by
  rw [Granted.extrasKeepable, List.all_eq_true]
  refine forall₂_congr fun m _ => ?_
  obtain ⟨key?, v⟩ := m
  cases key? with
  | none => simp
  | some key =>
      by_cases hKey : key ∈ Granted.fields
      · refine ⟨fun _ hOther => absurd rfl (hOther key hKey), fun _ => ?_⟩
        simp [hKey]
      · have hOther : ∀ name ∈ Granted.fields, some key ≠ some name :=
          fun name hName hSame => hKey (Option.some.inj hSame ▸ hName)
        refine ⟨fun h _ => by simpa [hKey] using h, fun h => ?_⟩
        simpa [hKey] using h hOther

/-- **What is granted** is what the members of an object say. -/
theorem Granted.ofJson?_eq_some {j : Json} : Granted.ofJson? j = some granted ↔
    ∃ members, j = .object members ∧ Says members granted := by
  have hNull : Json.text? .null = none := rfl
  have hKind : "token_type" ∈ fields := by decide
  have hAccess : "access_token" ∈ fields := by decide
  have hExpiresIn : "expires_in" ∈ fields := by decide
  have hRefresh : "refresh_token" ∈ fields := by decide
  have hScope : "scope" ∈ fields := by decide
  constructor
  · intro h
    simp only [ofJson?, Option.bind_eq_bind, Option.bind_eq_some_iff] at h
    obtain ⟨r, hObject, kind, hReadKind, h⟩ := h
    obtain ⟨members, rfl, hRecord, rfl⟩ := Json.mapping?_eq_some.1 hObject
    cases hKeep : extrasKeepable (.object members) with
    | false =>
        simp only [hKeep, Bool.not_false, if_true] at h
        cases h
    | true =>
        simp only [hKeep, Bool.not_true, Bool.false_eq_true, if_false,
          Option.bind_eq_some_iff] at h
        obtain ⟨text, hText, access, hReadAccess, seconds, hSeconds, refresh, hReadRefresh,
          hGranted⟩ := h
        cases hGranted
        exact ⟨members, rfl, {
          record := hRecord
          kind := ⟨kind, (Json.required_iff Json.reads_text hKind).1 hReadKind⟩
          access := (Json.required_iff Json.reads_text hAccess).1 hReadAccess
          expiresIn := (Json.optional_iff Json.reads_uint64 rfl hExpiresIn).1 hSeconds
          refresh := (Json.optional_iff Json.reads_text hNull hRefresh).1 hReadRefresh
          scopes := ⟨text, (Json.withDefault_iff Json.reads_text hNull hScope).1 hText, rfl⟩
          others := extrasKeepable_iff.1 hKeep }⟩
  · rintro ⟨members, rfl, h⟩
    obtain ⟨kind, hReadKind⟩ := h.kind
    obtain ⟨text, hText, hScopes⟩ := h.scopes
    have hRecord := Json.mapping?_eq_some.2 ⟨members, rfl, h.record, rfl⟩
    simp only [ofJson?, hRecord, extrasKeepable_iff.2 h.others, Option.bind_eq_bind,
      Option.bind_some, (Json.required_iff Json.reads_text hKind).2 hReadKind,
      (Json.required_iff Json.reads_text hAccess).2 h.access,
      (Json.optional_iff Json.reads_uint64 rfl hExpiresIn).2 h.expiresIn,
      (Json.optional_iff Json.reads_text hNull hRefresh).2 h.refresh,
      (Json.withDefault_iff Json.reads_text hNull hScope).2 hText, ← hScopes]
    rfl

/-! ## Replies with an object -/

/-- The next reply of the server is an answer with an object of these members: its status
is 200, it is declared to be JSON, and its body starts with that object. -/
def Replies (server : Http.Server) (members : List (Option String × Json)) : Prop :=
  ∃ a, server.next = .answer a ∧ a.status = 200 ∧ isDeclaredJson a = true ∧
    bodyJson? a = some (.object members)

private theorem bodyJson?_of_content_eq_nil {a : Http.Answer} (h : a.content = []) :
    bodyJson? a = none := by
  rw [bodyJson?, h, Json.parseFrontBytes?, List.map_nil, Text.Utf8.decodeWith]
  rfl

private theorem grantOf_eq_ok {a : Http.Answer} : grantOf a = .ok granted ↔
    a.status = 200 ∧ isDeclaredJson a = true ∧
      ∃ members, bodyJson? a = some (.object members) ∧ Says members granted := by
  have hRead : (bodyJson? a).bind Granted.ofJson? = some granted ↔
      ∃ members, bodyJson? a = some (.object members) ∧ Says members granted := by
    rw [Option.bind_eq_some_iff]
    simp only [Granted.ofJson?_eq_some]
    constructor
    · rintro ⟨_, hBody, members, rfl, hSays⟩
      exact ⟨members, hBody, hSays⟩
    · rintro ⟨members, hBody, hSays⟩
      exact ⟨_, hBody, members, rfl, hSays⟩
  rw [← hRead]
  unfold grantOf
  constructor
  · intro h
    split at h
    · split at h
      · cases h
      · split at h <;> cases h
    · rename_i hStatus
      split at h
      · cases h
      · rename_i hUsable
        split at h
        · rename_i g hGranted
          cases h
          exact ⟨by simpa using hStatus, by simpa using (not_or.1 hUsable).1, hGranted⟩
        · cases h
  · rintro ⟨hStatus, hType, hGranted⟩
    have hContent : a.content ≠ [] := fun hEmpty => by
      rw [bodyJson?_of_content_eq_nil hEmpty] at hGranted
      cases hGranted
    simp [hStatus, hType, hContent, hGranted]

/-- The next reply of the server is an answer that grants this. -/
def Grants (server : Http.Server) (granted : Granted) : Prop :=
  ∃ a, server.next = .answer a ∧ grantOf a = .ok granted

/-- **An answer grants** what the members of its object say, and nothing else does. -/
theorem grants_iff : Grants server granted ↔
    ∃ members, Replies server members ∧ Says members granted := by
  unfold Grants Replies
  simp only [grantOf_eq_ok]
  constructor
  · rintro ⟨a, hNext, hStatus, hType, members, hBody, hSays⟩
    exact ⟨members, ⟨a, hNext, hStatus, hType, hBody⟩, hSays⟩
  · rintro ⟨members, ⟨a, hNext, hStatus, hType, hBody⟩, hSays⟩
    exact ⟨a, hNext, hStatus, hType, members, hBody, hSays⟩

/-- The body of such an answer may be any text of the object. -/
theorem replies_of_layout {a : Http.Answer} {text : List Char}
    (hNext : server.next = .answer a) (hStatus : a.status = 200)
    (hType : isDeclaredJson a = true) (hBody : a.body = Text.Utf8.encode text)
    (hLayout : Json.Layout (.object members) text) : Replies server members := by
  have hContent : a.content = Text.Utf8.encode text := by
    simp [Http.Answer.content, hStatus, hBody]
  refine ⟨a, hNext, hStatus, hType, ?_⟩
  rw [bodyJson?, hContent, Json.parseFrontBytes?_of_layout hLayout]

end OAuth

end Mailroom
