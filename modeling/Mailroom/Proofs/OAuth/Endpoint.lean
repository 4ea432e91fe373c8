import Mailroom.Proofs.OAuth.Grant
import Mailroom.Proofs.Session
import Mailroom.Proofs.Url.Form

/-!
# What the token endpoint decides

A token comes from one request and one answer of the server. The request reaches the
server if the token endpoint is there: the credentials of a client can always be sent.
If a token comes, the answer was the next reply of the server and it grants something;
everything else, a reply that does not arrive, an address that nothing can be sent to, a
status that is not 200 or a text that is not read, ends in an error and brings no token.
-/

namespace Mailroom

/-- A request that reaches the server gets the next reply. -/
theorem Http.Server.send_next {s : Http.Server} {url : Url} {r : Http.Request}
    (h : s.isReachable url r = true) : (s.send url r).1 = s.next := by
  rw [send, if_pos h, receive, next]
  cases s.replies with
  | nil => rfl
  | cons reply replies => rfl

namespace OAuth

/-! ## Requests -/

/-- The characters of base64 are visible. -/
theorem visible_encode (bytes : List UInt8) :
    ∀ c ∈ Text.Base64.encode bytes, 32 ≤ c.toNat ∧ c.toNat ≠ 127 := by
  have hDigit (n : Nat) : 32 ≤ (Text.Base64.digit n).toNat ∧
      (Text.Base64.digit n).toNat ≠ 127 := by
    have hTable : ∀ n, n < 64 → 32 ≤ (Text.Base64.digit n).toNat ∧
        (Text.Base64.digit n).toNat ≠ 127 := by decide
    by_cases hSmall : n < 64
    · exact hTable n hSmall
    · have hLast : Text.Base64.digit n = '/' := by
        unfold Text.Base64.digit
        rw [if_neg (by omega), if_neg (by omega), if_neg (by omega), if_neg (by omega)]
      rw [hLast]
      decide
  fun_induction Text.Base64.encode bytes with
  | case1 => simp
  | case2 a => simp [hDigit]
  | case3 a b => simp [hDigit]
  | case4 a b c rest ih => simpa [hDigit] using ih

/-- The credentials of a client can be sent in a header line. -/
theorem isHeaderValue_basicCredentials (id secret : String) :
    Http.isHeaderValue (basicCredentials id secret) = true := by
  rw [Http.isHeaderValue, List.all_eq_true]
  intro c hc
  rw [basicCredentials, String.toList_append, List.mem_append] at hc
  have hVisible : 32 ≤ c.toNat ∧ c.toNat ≠ 127 := by
    rcases hc with hScheme | hText
    · have hAll : ("Basic ".toList.all fun d => 32 ≤ d.toNat && d.toNat ≠ 127) = true := by
        decide
      simpa using List.all_eq_true.1 hAll c hScheme
    · rw [String.toList_ofList] at hText
      exact visible_encode _ c hText
  simp [hVisible]

/-- The request that the token endpoint is asked with. -/
def Service.request (s : Service) (own address : List (String × String)) : Http.Request :=
  let named := if s.client.secret.isSome then [] else [("client_id", s.client.id)]
  ⟨"POST", "", s.client.secret.map (basicCredentials s.client.id), none,
    some "application/x-www-form-urlencoded",
    String.ofList (Url.Form.write (own ++ named ++ address))⟩

/-- What is sent in any case stands first in the form. -/
theorem pairs_request (s : Service) (own address : List (String × String)) : ∃ rest,
    Url.Form.pairs (s.request own address).body.toList = own ++ rest := by
  rw [Service.request, String.toList_ofList, Url.Form.pairs_write, List.append_assoc]
  exact ⟨_, rfl⟩

variable {s : Service} {own address : List (String × String)} {server : Http.Server}

/-- The request reaches the server if the token endpoint is there. -/
theorem isReachable_request : server.isReachable s.tokenUrl (s.request own address) =
    server.isAt s.tokenUrl := by
  unfold Http.Server.isReachable Service.request
  cases s.client.secret with
  | none => simp
  | some secret => simp [isHeaderValue_basicCredentials]

/-- What a reply comes to. -/
def heard : Http.Reply → Except Stop (Except TokenFault Granted)
  | .dropped => .ok (.error .unanswered)
  | .interrupted => .error .interrupted
  | .answer a => .ok (grantOf a)

/-- To ask is to send the request and to hear the reply. -/
theorem ask_of_isStrict (h : s.tokenUrl.isStrict = true) : s.ask own address server =
    (heard (server.send s.tokenUrl (s.request own address)).1,
      (server.send s.tokenUrl (s.request own address)).2) := by
  unfold Service.ask Service.request
  cases s.client.secret with
  | none =>
      simp only [h, Bool.not_true, Bool.false_eq_true, if_false, Option.isSome_none,
        Option.map_none]
      generalize server.send s.tokenUrl _ = sent
      obtain ⟨_ | _ | _, server'⟩ := sent <;> rfl
  | some secret =>
      simp only [h, Bool.not_true, Bool.false_eq_true, if_false, Option.isSome_some,
        Option.map_some, if_true]
      generalize server.send s.tokenUrl _ = sent
      obtain ⟨_ | _ | _, server'⟩ := sent <;> rfl

/-- **The token endpoint answers** with the next reply, if it is there. -/
theorem ask_of_isAt (h : server.isAt s.tokenUrl = true) : s.ask own address server =
    (heard server.next, (server.send s.tokenUrl (s.request own address)).2) := by
  have hStrict : s.tokenUrl.isStrict = true := by
    simp only [Http.Server.isAt, Bool.and_eq_true] at h
    exact h.1.2
  rw [ask_of_isStrict hStrict, Http.Server.send_next (isReachable_request.trans h)]

/-- Where it is not, nothing is sent and nothing is granted. -/
theorem ask_of_not_isAt (h : ¬server.isAt s.tokenUrl = true) :
    ∃ fault, s.ask own address server = (.ok (.error fault), server) := by
  by_cases hStrict : s.tokenUrl.isStrict = true
  · have hSend : server.send s.tokenUrl (s.request own address) = (.dropped, server) := by
      rw [Http.Server.send, isReachable_request, if_neg h]
    rw [ask_of_isStrict hStrict, hSend]
    exact ⟨_, rfl⟩
  · exact ⟨.unusable, by simp [Service.ask, hStrict]⟩

/-! ## Tokens -/

variable {server' : Http.Server} {granted : Granted}

/-- What the token endpoint grants is what the next reply grants. -/
theorem ask_granted (h : s.ask own address server = (.ok (.ok granted), server')) :
    Grants server granted := by
  by_cases hThere : server.isAt s.tokenUrl = true
  · rw [ask_of_isAt hThere] at h
    have hHeard := congrArg Prod.fst h
    cases hNext : server.next with
    | answer a =>
        rw [hNext] at hHeard
        exact ⟨a, hNext, Except.ok.inj hHeard⟩
    | dropped =>
        rw [hNext] at hHeard
        cases hHeard
    | interrupted =>
        rw [hNext] at hHeard
        cases hHeard
  · obtain ⟨fault, hAsk⟩ := ask_of_not_isAt hThere
    rw [hAsk] at h
    cases h

/-- And what the next reply grants is granted, if it is there. -/
theorem ask_of_grants (own address : List (String × String))
    (hThere : server.isAt s.tokenUrl = true) (h : Grants server granted) :
    ∃ server', s.ask own address server = (.ok (.ok granted), server') := by
  obtain ⟨a, hNext, hGrant⟩ := h
  rw [ask_of_isAt hThere, hNext, heard, hGrant]
  exact ⟨_, rfl⟩

/-- **A token from an exchange** has the refresh token that was granted. -/
theorem exchange_ok {code verifier : String} {now : Int64} {t : Token}
    (h : s.exchange code verifier now server = (.ok t, server')) :
    ∃ granted refresh, Grants server granted ∧ granted.refresh = some refresh ∧
      t = granted.token refresh now := by
  obtain ⟨answer, server₁, hAsk, h⟩ := Call.bind_eq_ok h
  cases answer with
  | error fault => cases h
  | ok granted =>
      cases hRefresh : granted.refresh with
      | none =>
          simp only [hRefresh] at h
          cases h
      | some refresh =>
          simp only [hRefresh] at h
          cases h
          exact ⟨granted, refresh, ask_granted hAsk, hRefresh, rfl⟩

/-- **A token from a renewal** comes of a token with a refresh token. -/
theorem renew_ok {old t : Token} {now : Int64}
    (h : s.renew old now server = (.ok t, server')) :
    ∃ granted refresh, Grants server granted ∧ old.refresh = some refresh ∧
      t = granted.renewed old refresh now := by
  unfold Service.renew at h
  cases hRefresh : old.refresh with
  | none =>
      rw [hRefresh] at h
      cases h
  | some refresh =>
      rw [hRefresh] at h
      obtain ⟨answer, server₁, hAsk, h⟩ := Call.bind_eq_ok h
      cases answer with
      | error fault => cases h
      | ok granted =>
          cases h
          exact ⟨granted, refresh, ask_granted hAsk, rfl, rfl⟩

/-- **A token is renewed** if the token endpoint is there and grants something. -/
theorem renew_of_grants {old : Token} {refresh : String} (hHad : old.refresh = some refresh)
    (hThere : server.isAt s.tokenUrl = true) (h : Grants server granted) (now : Int64) :
    ∃ server', s.renew old now server = (.ok (granted.renewed old refresh now), server') := by
  obtain ⟨server', hAsk⟩ :=
    ask_of_grants [("grant_type", "refresh_token"), ("refresh_token", refresh)] [] hThere h
  rw [Service.renew, hHad]
  exact ⟨server', Call.bind_of_ok hAsk⟩

end OAuth

end Mailroom
