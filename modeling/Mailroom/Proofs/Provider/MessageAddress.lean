import Mailroom.Proofs.Provider.Reply
import Mailroom.Proofs.Url.Below

/-!
# The addresses of messages

A client puts the id of a message behind the address of the account, as it is, and the whole is
read as a URL. An id that is the same as a path is found again in the target of the request. Any
other id is not: a part of it is taken for a query or a fragment, is dropped, counts as an
escape, or leads to another place, and the target decodes to something else. Two ids may then
have one target.
-/

namespace Mailroom.Gmail

open Url (Below EndsVisibly PathDecodes Spelled Strict.maxLength)

variable {α : Type} {g : Gmail} {home : Url}

/-- The account of a client is on a server that the client gets to, and its address is a web
address without a query or a fragment. -/
structure Serves (g : Gmail) (home : Url) : Prop where
  marks : '?' ∉ g.base.toList ∧ '#' ∉ g.base.toList
  there : g.url "" = .ok home
  reaches : g.Reaches home

/-- A call makes one request for what is at an address, unless the address is too long. -/
structure AsksFor (c : Call Gmail α) (g : Gmail) (url : Url) (request : Http.Request) : Prop where
  sent : url.text.length ≤ Strict.maxLength →
    (c g).2.server.received = { request with target := url.target } :: g.server.received
  unsent : Strict.maxLength < url.text.length → (c g).2.server = g.server

/-- A request of a client without its target. -/
def requestOf (g : Gmail) (method : String) (contentType : Option String) (body : String) :
    Http.Request :=
  ⟨method, "", some ("Bearer " ++ g.token), some userAgent, contentType, body⟩

private theorem asksFor_exchange (path : String) {url : Url} {method : String}
    {contentType : Option String} {body : String} {c : Call Gmail α}
    (hCall : (c g).2 = (exchange path (.ok url) method contentType body g).2)
    (hReach : g.Reaches url ↔ url.text.length ≤ Strict.maxLength) :
    AsksFor c g url (requestOf g method contentType body) := by
  have hServer : (c g).2.server = (g.server.send url (requestOf g method contentType body)).2 := by
    rw [hCall, exchange_ok, requestOf]
  have hThere : g.server.isReachable url (requestOf g method contentType body) = true ↔
      url.text.length ≤ Strict.maxLength := (isReachable_iff rfl).trans hReach
  refine ⟨fun hFits => ?_, fun hLong => ?_⟩
  · rw [hServer, (send_of_isReachable (hThere.2 hFits)).1]
  · rw [hServer, Http.Server.send, if_neg fun h => Nat.not_lt.2 (hThere.1 h) hLong]

/-- **What is at a path below the account** has an address there, and the client gets to it if
the address is not too long. -/
theorem Serves.below (h : g.Serves home) : ∃ front, Below home front [] home ∧
    (∀ path, ∃ url, g.url path = .ok url ∧ Below home front path.toList url) ∧
    ∀ path url, Below home front path url →
      (g.Reaches url ↔ url.text.length ≤ Strict.maxLength) := by
  obtain ⟨hAt, hToken⟩ := h.reaches
  simp only [Http.Server.isAt, Bool.and_eq_true, decide_eq_true_eq] at hAt
  obtain ⟨⟨hScheme, hStrict⟩, hHost⟩ := hAt
  have hHome : Url.parse (g.base ++ "/") = .ok home := by
    have hThere := h.there
    rwa [url, String.append_empty] at hThere
  have hWeb : Url.kindOf home.scheme = .web := by
    rw [hScheme]
    rfl
  obtain ⟨hAuthority, front, hBelow⟩ := Url.parse_below h.marks hHome hWeb
  have hSame : Below home front [] home := by
    obtain ⟨url, hUrl, hSame⟩ := hBelow ""
    rw [String.append_empty, hHome] at hUrl
    rwa [← Except.ok.inj hUrl] at hSame
  refine ⟨front, hSame, hBelow, fun path url hUrl => ?_⟩
  rw [← hSame.isStrict_iff hUrl hScheme hAuthority hStrict, Reaches, and_iff_left hToken]
  simp only [Http.Server.isAt, Bool.and_eq_true, decide_eq_true_eq, hUrl.scheme, hUrl.authority,
    hScheme, hHost, true_and, and_true]

/-! ## Ids -/

/-- The path of a message. -/
def messagePath (id : String) : String := "messages/" ++ id

/-- Where the labels of a message are changed. -/
def modifyPath (id : String) : String := messagePath id ++ "/modify"

private theorem spelled_messagePath {id : String} :
    Spelled (messagePath id).toList ↔ Spelled id.toList := by
  have hText : (messagePath id).toList = "messages".toList ++ '/' :: id.toList := by
    simp [messagePath]
  have hFixed : Spelled "messages".toList := by
    refine ⟨⟨by decide, Url.Percent.bytes_eq_iff.1 (by decide), by decide⟩, by decide, by decide⟩
  rw [hText, Url.spelled_append, and_iff_right hFixed]

private theorem endsVisibly_messagePath {id : String} :
    EndsVisibly (messagePath id).toList ↔ EndsVisibly id.toList := by
  cases h : id.toList with
  | nil => simp [messagePath, h, EndsVisibly]
  | cons c cs => simp [messagePath, h, EndsVisibly, List.getLast?_cons_cons]

private theorem spelled_modifyPath {id : String} :
    Spelled (modifyPath id).toList ↔ Spelled id.toList := by
  have hText : (modifyPath id).toList = (messagePath id).toList ++ '/' :: "modify".toList := by
    simp [modifyPath]
  have hFixed : Spelled "modify".toList := by
    refine ⟨⟨by decide, Url.Percent.bytes_eq_iff.1 (by decide), by decide⟩, by decide, by decide⟩
  rw [hText, Url.spelled_append, and_iff_left hFixed, spelled_messagePath]

/-- A change of labels is asked for behind a fixed word. -/
theorem endsVisibly_modifyPath (id : String) : EndsVisibly (modifyPath id).toList := by
  simp [modifyPath, EndsVisibly]

/-- Where a message is asked for. -/
def messageUrl (g : Gmail) (id : String) : Except Url.Fault Url :=
  g.address (messagePath id) [("format", "full")]

/-- Where a change of labels is asked for. -/
def modifyUrl (g : Gmail) (id : String) : Except Url.Fault Url := g.url (modifyPath id)

private theorem get_of_id (h : g.Serves home) (id : String) : ∃ url, g.messageUrl id = .ok url ∧
    AsksFor (provider.get id) g url (requestOf g "GET" none "") ∧
    (PathDecodes home url.target (messagePath id).toList ↔
      Spelled id.toList ∧ EndsVisibly id.toList) := by
  obtain ⟨front, hHome, hUrls, hReach⟩ := h.below
  obtain ⟨url, hUrl, hBelow⟩ := hUrls (messagePath id)
  have hFull := hBelow.addPairs [("format", "full")]
  have hAddress : g.messageUrl id = .ok (url.addPairs [("format", "full")]).dropEmptyQuery := by
    rw [messageUrl, address, hUrl]
    rfl
  refine ⟨_, hAddress, asksFor_exchange (messagePath id) ?_ (hReach _ _ hFull), ?_⟩
  · rw [← hAddress]
    exact fetch_eq _ _ _ g
  · rw [hHome.decodes_iff hFull, spelled_messagePath, endsVisibly_messagePath]

private theorem modify_of_id (h : g.Serves home) (id : String) (change : Rule.LabelChange) :
    ∃ url, g.modifyUrl id = .ok url ∧
      AsksFor (provider.modify id change) g url
        (requestOf g "POST" (some "application/json") (changeJson change).render) ∧
      (PathDecodes home url.target (modifyPath id).toList ↔ Spelled id.toList) := by
  obtain ⟨front, hHome, hUrls, hReach⟩ := h.below
  obtain ⟨url, hUrl, hBelow⟩ := hUrls (modifyPath id)
  refine ⟨url, hUrl, asksFor_exchange (modifyPath id) ?_ (hReach _ _ hBelow), ?_⟩
  · rw [← hUrl]
    exact submit_eq _ _ _ g
  · rw [hHome.decodes_iff hBelow, spelled_modifyPath, and_iff_left (endsVisibly_modifyPath id)]

private theorem messagePath_inj {id id' : String} :
    messagePath id = messagePath id' ↔ id = id' := by
  simp [messagePath]

private theorem modifyPath_inj {id id' : String} : modifyPath id = modifyPath id' ↔ id = id' := by
  simp [modifyPath, messagePath_inj]

private theorem target_ne {url url' : Url} {p q : String}
    (hp : PathDecodes home url.target p.toList) (hq : PathDecodes home url'.target q.toList) (h : p ≠ q) : url.target ≠ url'.target := by
  intro hSame
  rw [hSame] at hp
  exact h (String.toList_inj.1 (hp.unique hq))

/-- **What the targets decode to.** A message is asked for by a request whose target decodes to
its id exactly if the id is the same as a path and does not end in a blank; a change of labels is
asked for by one exactly if the id is the same as a path. Such ids have targets of their own. -/
theorem ids_of_targets (h : g.Serves home) :
    (∀ id, ∃ url, g.messageUrl id = .ok url ∧
      AsksFor (provider.get id) g url (requestOf g "GET" none "") ∧
      (PathDecodes home url.target (messagePath id).toList ↔
        Spelled id.toList ∧ EndsVisibly id.toList)) ∧
    (∀ id change, ∃ url, g.modifyUrl id = .ok url ∧
      AsksFor (provider.modify id change) g url
        (requestOf g "POST" (some "application/json") (changeJson change).render) ∧
      (PathDecodes home url.target (modifyPath id).toList ↔ Spelled id.toList)) ∧
    ∀ id id', id ≠ id' → Spelled id.toList → Spelled id'.toList →
      (EndsVisibly id.toList → EndsVisibly id'.toList →
        (g.messageUrl id).map Url.target ≠ (g.messageUrl id').map Url.target) ∧
      (g.modifyUrl id).map Url.target ≠ (g.modifyUrl id').map Url.target := by
  refine ⟨get_of_id h, modify_of_id h, fun id id' hOther hId hId' => ⟨fun hEnd hEnd' => ?_, ?_⟩⟩
  · obtain ⟨url, hUrl, -, hDecodes⟩ := get_of_id h id
    obtain ⟨url', hUrl', -, hDecodes'⟩ := get_of_id h id'
    rw [hUrl, hUrl']
    exact fun hSame => target_ne (hDecodes.2 ⟨hId, hEnd⟩) (hDecodes'.2 ⟨hId', hEnd'⟩)
      (mt messagePath_inj.1 hOther) (Except.ok.inj hSame)
  · obtain ⟨url, hUrl, -, hDecodes⟩ := modify_of_id h id Rule.LabelChange.markRead
    obtain ⟨url', hUrl', -, hDecodes'⟩ := modify_of_id h id' Rule.LabelChange.markRead
    rw [hUrl, hUrl']
    exact fun hSame => target_ne (hDecodes.2 hId) (hDecodes'.2 hId') (mt modifyPath_inj.1 hOther)
      (Except.ok.inj hSame)

/-- The address of a server on the same machine. -/
def nearbyHome : Url :=
  ⟨"http", some ⟨"", "", .ipv4 (127 <<< 24 + 1), none⟩, .segments [""], none, none⟩

private theorem serves_nearby : Serves (nearby []) nearbyHome where
  marks := by decide +kernel
  there := by decide +kernel
  reaches := by
    have hAt : (nearby []).server.isAt nearbyHome = true := by decide +kernel
    exact ⟨hAt, by decide⟩

theorem ids_of_targets_nearby : (nearby []).Serves nearbyHome ∧ Spelled "a%b c".toList ∧
    ∃ url, (nearby []).messageUrl "a%b c" = .ok url ∧
      PathDecodes nearbyHome url.target (messagePath "a%b c").toList := by
  have hSpelled : Spelled "a%b c".toList :=
    ⟨⟨by decide, Url.Percent.bytes_eq_iff.1 (by decide), by decide⟩, by decide, by decide⟩
  obtain ⟨hGet, -⟩ := ids_of_targets serves_nearby
  obtain ⟨url, hUrl, -, hDecodes⟩ := hGet "a%b c"
  exact ⟨serves_nearby, hSpelled, url, hUrl, hDecodes.2 ⟨hSpelled, by simp [EndsVisibly]⟩⟩

/-- **Two ids may share a target**, and a change of labels may go to another message: what stands
behind a `#` is not asked for, and two dots lead out of the place of an id. -/
theorem ids_share_targets :
    let asked : Http.Request :=
      ⟨"GET", "/messages/a?format=full", some "Bearer t", some userAgent, none, ""⟩
    "a#b" ≠ "a#c" ∧ (provider.get "a#b" (nearby [])).2.server.received = [asked] ∧
      (provider.get "a#c" (nearby [])).2.server.received = [asked] ∧
      (provider.modify "a/../b" Rule.LabelChange.markRead (nearby [])).2.server.received.map
        Http.Request.target = ["/messages/b/modify"] := by
  decide +kernel

end Mailroom.Gmail
