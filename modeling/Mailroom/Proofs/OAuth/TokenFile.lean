import Mailroom.OAuth.Access
import Mailroom.Proofs.Machine
import Mailroom.Proofs.Message.RoundTrip
import Mailroom.Proofs.OAuth.Endpoint

/-!
# The token file

Two kinds of call write the token file: one asks the user for consent, the other one
renews a token that is about to expire. Each of them obtains a token first and then
writes it, and ends there. A call that stops has stopped before the write or in it, and
so has left the files as they were; one that has written had a token with a refresh
token, either one that was granted or the one that the file held before. What the file
holds is what is read from it again, in the text that was written.
-/

namespace Mailroom.OAuth

/-! ## Tokens in files -/

namespace Token

private theorem plain_toJson (t : Token) : t.toJson.Plain := by
  refine Json.plain_ofMembers ?_
  have hScopes := Json.plain_ofStrings t.scopes
  cases t.refresh <;> cases t.expiresAt <;> simp [hScopes, Json.Plain.null]

/-- **A token is read from its text.** -/
theorem parse?_render (t : Token) : parse? t.render = some t := by
  rw [parse?, render, Json.parse?_renderPretty t.plain_toJson]
  exact t.ofJson?_toJson

end Token

/-- The token file holds this token. -/
def Held (files : FileTree) (tokenFile : String) (t : Token) : Prop :=
  Token.load tokenFile (files.read tokenFile) = .ok (some t)

theorem Held.unique {files : FileTree} {tokenFile : String} {t t' : Token}
    (h : Held files tokenFile t) (h' : Held files tokenFile t') : t = t' :=
  Option.some.inj (Except.ok.inj (h.symm.trans h'))

theorem held_of_read {files : FileTree} {tokenFile : String} {t : Token}
    (h : files.read tokenFile = .text t.render) : Held files tokenFile t := by
  rw [Held, h, Token.load]
  simp only [t.parse?_render]

/-- A token is saved, or nothing has happened. -/
theorem save_cases (tokenFile : String) (t : Token) (m : Machine) :
    (∃ stop, save tokenFile t m = (.error stop, m)) ∨
      ∃ files, save tokenFile t m = (.ok (), { m with files }) ∧
        Held files tokenFile t := by
  rcases Job.write_cases tokenFile t.render (.unwritableToken tokenFile) m with
    hStop | ⟨files, hWrite, hRead⟩
  · exact .inl ⟨_, hStop⟩
  · exact .inr ⟨files, hWrite, held_of_read hRead⟩

/-! ## The two calls -/

/-- How asking the user can end: with the files as they were, or with a token in
the file that was granted with a refresh token. -/
inductive Consented (tokenFile : String) (m : Machine) :
    Except Stop Unit → Machine → Prop
  | stopped {stop m'} (kept : m'.files = m.files) :
      Consented tokenFile m (.error stop) m'
  | saved {m' granted refresh} (grants : Grants m.server granted)
      (given : granted.refresh = some refresh)
      (held : Held m'.files tokenFile (granted.token refresh (Int64.ofInt m.now))) :
      Consented tokenFile m (.ok ()) m'

/-- How getting an access token can end: with nothing asked and nothing written,
or, if the token in the file is about to expire, with the files as they were or
with that token renewed. -/
inductive Accessed (tokenFile : String) (m : Machine) :
    Except Stop String → Machine → Prop
  | unasked {result m'} (alike : m.Alike m') : Accessed tokenFile m result m'
  | stopped {old stop m'} (before : Held m.files tokenFile old)
      (expiring : old.expiresWithin (Int64.ofInt m.now) leeway = true)
      (kept : m'.files = m.files) : Accessed tokenFile m (.error stop) m'
  | saved {old granted refresh m'} (before : Held m.files tokenFile old)
      (expiring : old.expiresWithin (Int64.ofInt m.now) leeway = true)
      (had : old.refresh = some refresh) (grants : Grants m.server granted)
      (held : Held m'.files tokenFile
        (granted.renewed old refresh (Int64.ofInt m.now))) :
      Accessed tokenFile m (.ok granted.access) m'

section

variable {α : Type} {tokenFile : String}

private theorem quiet_loadService (credentialsFile : String) :
    Job.Quiet (loadService credentialsFile) :=
  (Job.Quiet.read _).bind fun _ => (Job.Quiet.ofExcept _).bind fun _ => .ofExcept _

/-- A token that comes from the server is saved, and nothing goes wrong behind
that. -/
theorem saved_next {c : Call Http.Server Token} {rest : Token → Job α} {g : Token → α}
    {m : Machine} {post : Except Stop α → Machine → Prop}
    (hRest : ∀ t m, ∃ m', rest t m = (.ok (g t), m') ∧ m.Alike m')
    (hStop : ∀ stop m', m'.files = m.files → post (.error stop) m')
    (hSaved : ∀ t server m', c m.server = (.ok t, server) →
      Held m'.files tokenFile t → post (.ok (g t)) m') :
    post ((Job.online c >>= fun t => save tokenFile t >>= fun _ => rest t) m).1
      ((Job.online c >>= fun t => save tokenFile t >>= fun _ => rest t) m).2 := by
  rw [Call.bind_apply]
  cases hOnline : Job.online c m with
  | mk asked m₁ =>
      obtain ⟨hAsked, hFiles⟩ := Job.online_eq hOnline
      cases asked with
      | error stop => exact hStop stop m₁ hFiles
      | ok t =>
          rcases save_cases tokenFile t m₁ with ⟨stop, hSave⟩ | ⟨files, hSave, hHeld⟩
          · simp only [Call.bind_of_error hSave]
            exact hStop stop m₁ hFiles
          · obtain ⟨m₂, hEnd, hAlike⟩ := hRest t { m₁ with files }
            simp only [Call.bind_of_ok hSave, hEnd]
            refine hSaved t m₁.server m₂ hAsked ?_
            rw [hAlike.files]
            exact hHeld

/-- **How asking the user ends.** -/
theorem authorize_consented (credentialsFile tokenFile : String) (m : Machine) :
    Consented tokenFile m (authorize credentialsFile tokenFile m).1
      (authorize credentialsFile tokenFile m).2 := by
  have hStop (stop : Stop) (m' : Machine) (h : m.Alike m') :
      Consented tokenFile m (.error stop) m' := .stopped h.files
  rw [authorize]
  refine (quiet_loadService _).next (.refl m) hStop fun service m₁ _ h₁ => ?_
  refine Job.Quiet.get.next h₁ hStop fun random m₂ _ h₂ => ?_
  refine (Job.Quiet.print _).next h₂ hStop fun _ m₃ _ h₃ => ?_
  refine (Job.Quiet.print _).next h₃ hStop fun _ m₄ _ h₄ => ?_
  refine (Job.Quiet.inputLine _).next h₄ hStop fun line m₅ _ h₅ => ?_
  refine (Job.Quiet.ofExcept _).next h₅ hStop fun code m₆ _ h₆ => ?_
  refine Job.Quiet.now.next h₆ hStop fun now m₇ hNow h₇ => ?_
  have hTime : now = Int64.ofInt m.now := by
    cases hNow
    rw [h₆.now]
  refine saved_next (g := fun _ => ()) (fun t m => ⟨_, rfl, rfl, rfl, rfl⟩)
    (fun stop m' hFiles => .stopped (hFiles.trans h₇.files)) ?_
  intro t server m' hAsked hHeld
  obtain ⟨granted, refresh, hGrants, hGiven, rfl⟩ := exchange_ok hAsked
  rw [h₇.server] at hGrants
  rw [hTime] at hHeld
  exact .saved hGrants hGiven hHeld

/-- **How getting an access token ends.** -/
theorem accessToken_accessed (credentialsFile tokenFile : String) (m : Machine) :
    Accessed tokenFile m (accessToken credentialsFile tokenFile m).1
      (accessToken credentialsFile tokenFile m).2 := by
  have hUnasked (stop : Stop) (m' : Machine) (h : m.Alike m') :
      Accessed tokenFile m (.error stop) m' := .unasked h
  rw [accessToken]
  refine (Job.Quiet.read _).next (.refl m) hUnasked fun content m₁ hRead h₁ => ?_
  refine (Job.Quiet.ofExcept _).next h₁ hUnasked fun found m₂ hFound h₂ => ?_
  cases found with
  | none => exact hUnasked _ _ h₂
  | some old =>
      have hHeld : Held m.files tokenFile old := by
        cases hRead
        exact Job.ofExcept_eq_ok hFound
      refine Job.Quiet.now.next h₂ hUnasked fun now m₃ hNow h₃ => ?_
      have hTime : now = Int64.ofInt m.now := by
        cases hNow
        rw [h₂.now]
      by_cases hExpiring : old.expiresWithin now leeway = true
      · have hStop (stop : Stop) (m' : Machine) (h : m.Alike m') :
            Accessed tokenFile m (.error stop) m' := .unasked h
        rw [hExpiring]
        simp only [Bool.not_true, Bool.false_eq_true, if_false]
        refine (Job.Quiet.info _).next h₃ hStop fun _ m₄ _ h₄ => ?_
        refine (quiet_loadService _).next h₄ hStop fun service m₅ _ h₅ => ?_
        refine Job.Quiet.now.next h₅ hStop fun later m₆ hLater h₆ => ?_
        have hSame : later = Int64.ofInt m.now := by
          cases hLater
          rw [h₅.now]
        rw [hTime] at hExpiring
        refine saved_next (g := Token.access) (fun t m => ⟨m, rfl, .refl m⟩)
          (fun stop m' hFiles => .stopped hHeld hExpiring (hFiles.trans h₆.files)) ?_
        intro t server m' hAsked hSaved
        obtain ⟨granted, refresh, hGrants, hHad, rfl⟩ := renew_ok hAsked
        rw [h₆.server] at hGrants
        rw [hSame] at hSaved
        exact .saved hHeld hExpiring hHad hGrants hSaved
      · rw [Bool.eq_false_iff.2 hExpiring]
        exact .unasked h₃

end

/-- To load the service is to read the credentials. -/
theorem loadService_eq (credentialsFile : String) (m : Machine) :
    loadService credentialsFile m =
      Job.ofExcept ((Client.load credentialsFile (m.files.read credentialsFile)).bind
        Service.ofClient) m := by
  rw [loadService, Call.bind_apply]
  show (Job.ofExcept (Client.load credentialsFile (m.files.read credentialsFile)) >>=
    fun client => Job.ofExcept (Service.ofClient client)) m = _
  rw [Call.bind_apply]
  cases Client.load credentialsFile (m.files.read credentialsFile) <;> rfl

theorem loadService_state (credentialsFile : String) (m : Machine) :
    (loadService credentialsFile m).2 = m := by
  rw [loadService_eq]
  cases (Client.load credentialsFile (m.files.read credentialsFile)).bind Service.ofClient <;>
    rfl

/-- **A token that is due is renewed**, if the service is there and grants something and
the file can be written. -/
theorem accessToken_of_grants {credentialsFile tokenFile refresh : String} {m : Machine}
    {old : Token} {service : Service} {granted : Granted} {files : FileTree}
    (hHeld : Held m.files tokenFile old)
    (hDue : old.expiresWithin (Int64.ofInt m.now) leeway = true)
    (hHad : old.refresh = some refresh)
    (hLoads : (Client.load credentialsFile (m.files.read credentialsFile)).bind
      Service.ofClient = .ok service)
    (hThere : m.server.isAt service.tokenUrl = true) (hGrants : Grants m.server granted)
    (hFiles : m.files.write tokenFile (.file (Text.Utf8.encode
      (granted.renewed old refresh (Int64.ofInt m.now)).render.toList)) = some files) :
    (accessToken credentialsFile tokenFile m).1 = .ok granted.access ∧
      (accessToken credentialsFile tokenFile m).2.files = files := by
  obtain ⟨server, hRenew⟩ := renew_of_grants hHad hThere hGrants (Int64.ofInt m.now)
  have hRead : Job.read tokenFile m = (.ok (m.files.read tokenFile), m) := rfl
  have hFound : Job.ofExcept (Token.load tokenFile (m.files.read tokenFile)) m =
      (.ok (some old), m) := by
    rw [hHeld]
    rfl
  have hNow (m : Machine) : Job.now m = (.ok (Int64.ofInt m.now), m) := rfl
  let logged : Machine := { m with
    log := ⟨.info, "Access token expired or about to expire, refreshing"⟩ :: m.log }
  have hInfo : Job.info "Access token expired or about to expire, refreshing" m =
      (.ok (), logged) := rfl
  have hService : loadService credentialsFile logged = (.ok service, logged) := by
    rw [loadService_eq]
    show Job.ofExcept ((Client.load credentialsFile (m.files.read credentialsFile)).bind
      Service.ofClient) logged = _
    rw [hLoads]
    rfl
  have hOnline : Job.online (service.renew old (Int64.ofInt m.now)) logged =
      (.ok (granted.renewed old refresh (Int64.ofInt m.now)), { logged with server }) := by
    unfold Job.online
    rw [hRenew]
  have hSave : save tokenFile (granted.renewed old refresh (Int64.ofInt m.now))
      { logged with server } = (.ok (), { logged with server, files }) := by
    unfold save Job.write
    rw [hFiles]
  rw [accessToken, Call.bind_of_ok hRead, Call.bind_of_ok hFound]
  simp only [Call.bind_of_ok (hNow m), hDue, Bool.not_true, Bool.false_eq_true, if_false]
  rw [Call.bind_of_ok hInfo, Call.bind_of_ok hService, Call.bind_of_ok (hNow logged),
    Call.bind_of_ok hOnline, Call.bind_of_ok hSave]
  exact ⟨rfl, rfl⟩

end Mailroom.OAuth
