import Mailroom.Proofs.Provider.LabelListing

/-!
# What a client makes of a reply

Each call of a client is one request, and the next reply of the server is what it
comes to. An answer can be read if its status is a final one and its header lines
are in order; one that cannot is as good as no answer. If it reports no success, the
call fails with its status and text, whatever the text is; if it does, the text has
to hold what the call expects. `Reports` is the table of this for any call, given the
reader for what it expects, and `Answers` says that a call makes one request, if its
address leads to the server, and reports on the reply.

A client has no part in which replies come. What can stop it is therefore known from
the replies that are left, and no call adds to them: an error of the provider, or
that the run is interrupted, if a reply is that.
-/

namespace Mailroom

/-- The reply to the next request, as the server sends it. -/
def Http.Server.upcoming (s : Http.Server) : Http.Reply := s.replies.headD s.fallback

namespace Gmail

variable {α β : Type}

/-! ## A reply -/

/-- What a call gives for the reply to its request, if it expects what `read` reads. -/
inductive Reports (read : Json → Option α) : Http.Reply → Except Stop α → Prop
  | ok {a : Http.Answer} {x : α} (readable : a.isReadable = true)
      (success : 200 ≤ a.status ∧ a.status ≤ 299)
      (expected : (Json.parse? a.text).bind read = some x) :
      Reports read (.answer a) (.ok x)
  | unexpected {a : Http.Answer} {e : Error} (readable : a.isReadable = true)
      (success : 200 ≤ a.status ∧ a.status ≤ 299)
      (other : (Json.parse? a.text).bind read = none)
      (code : e.code = .httpResponseError) : Reports read (.answer a) (.error (.failed e))
  | refused {a : Http.Answer} (readable : a.isReadable = true)
      (failure : ¬(200 ≤ a.status ∧ a.status ≤ 299)) :
      Reports read (.answer a) (.error (.failed (.refused a.status a.text)))
  | unread {a : Http.Answer} {e : Error} (broken : a.isReadable = false)
      (code : e.code = .networkError) : Reports read (.answer a) (.error (.failed e))
  | dropped {e : Error} (code : e.code = .networkError) :
      Reports read .dropped (.error (.failed e))
  | interrupted : Reports read .interrupted (.error .interrupted)

/-- What is made of the value that was read changes no failure. -/
theorem Reports.map {read : Json → Option α} {reply : Http.Reply} {result : Except Stop α}
    (h : Reports read reply result) (f : α → β) :
    Reports (fun j => (read j).map f) reply (result.map f) := by
  have hRead (o : Option Json) :
      o.bind (fun j => (read j).map f) = (o.bind read).map f := (Option.map_bind).symm
  cases h with
  | ok readable success expected =>
      exact .ok readable success (by rw [hRead, expected]; rfl)
  | unexpected readable success other code =>
      exact .unexpected readable success (by rw [hRead, other]; rfl) code
  | refused readable failure => exact .refused readable failure
  | unread broken code => exact .unread broken code
  | dropped code => exact .dropped code
  | interrupted => exact .interrupted

/-- What stops a call: an error of the provider, or that the run is interrupted. -/
theorem Reports.stop {read : Json → Option α} {reply : Http.Reply} {stop : Stop}
    (h : Reports read reply (.error stop)) :
    (∃ e, stop = .failed e ∧ e.isProvider = true) ∨
      (stop = .interrupted ∧ reply = .interrupted) := by
  cases h with
  | unexpected _ _ _ code => exact .inl ⟨_, rfl, by rw [Error.isProvider, code]; rfl⟩
  | refused _ _ => exact .inl ⟨_, rfl, rfl⟩
  | unread _ code => exact .inl ⟨_, rfl, by rw [Error.isProvider, code]; rfl⟩
  | dropped code => exact .inl ⟨_, rfl, by rw [Error.isProvider, code]; rfl⟩
  | interrupted => exact .inr ⟨rfl, rfl⟩

/-- The text that a request on a path gives, by what has arrived. -/
def heard (path : String) : Http.Reply → Except Stop String
  | .dropped => .error (.failed (.unanswered path))
  | .interrupted => .error .interrupted
  | .answer a =>
      if a.isSuccess then .ok a.text else .error (.failed (.refused a.status a.text))

private theorem isSuccess_iff {a : Http.Answer} :
    a.isSuccess = true ↔ 200 ≤ a.status ∧ a.status ≤ 299 := by
  simp [Http.Answer.isSuccess]
  omega

/-- **The text is read**, and this is what the call reports. -/
theorem reports_heard (path : String) (read : Json → Option α) (reply : Http.Reply)
    (g : Gmail) :
    Reports read reply
      ((heard path reply.arrived).bind fun text => (expect path read text g).1) := by
  cases reply with
  | dropped => exact .dropped rfl
  | interrupted => exact .interrupted
  | answer a =>
      cases hReadable : a.isReadable with
      | false =>
          simp only [Http.Reply.arrived, hReadable]
          exact .unread hReadable rfl
      | true =>
          simp only [Http.Reply.arrived, hReadable, if_true, heard]
          by_cases hSuccess : a.isSuccess = true
          · rw [if_pos hSuccess]
            have hStatus := isSuccess_iff.1 hSuccess
            simp only [Except.bind, expect]
            cases hRead : (Json.parse? a.text).bind read with
            | some x => exact .ok hReadable hStatus hRead
            | none => exact .unexpected hReadable hStatus hRead rfl
          · rw [if_neg hSuccess]
            exact .refused hReadable fun hStatus => hSuccess (isSuccess_iff.2 hStatus)

/-! ## A request -/

/-- A request to this address gets to the server: it is there, and the access token can
be sent. -/
def Reaches (g : Gmail) (url : Url) : Prop :=
  g.server.isAt url = true ∧ Http.isHeaderValue ("Bearer " ++ g.token) = true

/-- The address that is asked for what is at a path. -/
def address (g : Gmail) (path : String) (query : List (String × String)) :
    Except Url.Fault Url :=
  (g.url path).map fun u => (u.addPairs query).dropEmptyQuery

/-- A call to an address makes one request there and reports on the reply, unless the
address does not lead to the server; then it fails. -/
inductive Answers (read : Json → Option α) (target : Except Url.Fault Url)
    (c : Call Gmail α) (g : Gmail) : Prop
  | unsent {e : Error} (astray : ∀ url, target = .ok url → ¬g.Reaches url)
      (result : (c g).1 = .error (.failed e)) (code : e.code = .networkError)
      (server : (c g).2.server = g.server)
  | sent {url : Url} {request : Http.Request} (there : target = .ok url)
      (reaches : g.Reaches url) (asks : request.target = url.target)
      (received : (c g).2.server.received = request :: g.server.received)
      (reports : Reports read g.server.upcoming (c g).1)

theorem isReachable_iff {g : Gmail} {url : Url} {request : Http.Request}
    (hToken : request.authorization = some ("Bearer " ++ g.token)) :
    g.server.isReachable url request = true ↔ g.Reaches url := by
  simp [Http.Server.isReachable, hToken, Reaches]

/-- A request that reaches the server is received and gets the next reply. -/
theorem send_of_isReachable {s : Http.Server} {url : Url} {request : Http.Request}
    (hReach : s.isReachable url request = true) :
    (s.send url request).2.received =
        { request with target := url.target } :: s.received ∧
      (s.send url request).1 = s.upcoming.arrived := by
  refine ⟨Http.Server.received_send hReach, ?_⟩
  rw [Http.Server.send, if_pos hReach, Http.Server.receive, Http.Server.upcoming]
  cases s.replies with
  | nil => rfl
  | cons reply replies => rfl

/-- What a request gives is what is heard of its reply. -/
theorem exchange_ok (path : String) (url : Url) (method : String)
    (contentType : Option String) (body : String) (g : Gmail) :
    let sent := g.server.send url
      ⟨method, "", some ("Bearer " ++ g.token), some userAgent, contentType, body⟩
    exchange path (.ok url) method contentType body g =
      (heard path sent.1, { g with server := sent.2 }) := rfl

/-- What a text is read as has nothing to do with the client. -/
theorem expect_result (path : String) (read : Json → Option α) (text : String)
    (g g' : Gmail) : (expect path read text g).1 = (expect path read text g').1 := by
  unfold expect
  cases (Json.parse? text).bind read with
  | some x => rfl
  | none => rfl

/-- What a call gives is what it reads of the text. -/
theorem bind_expect_result (path : String) (read : Json → Option α) (x : Call Gmail String)
    (g : Gmail) : ((x >>= expect path read) g).1 =
      (x g).1.bind fun text => (expect path read text g).1 := by
  rw [Call.bind_apply]
  cases x g with
  | mk result g₁ =>
      cases result with
      | ok text => exact expect_result path read text g₁ g
      | error stop => rfl

/-- **A request and its reply.** -/
theorem answers_exchange (path : String) (target : Except Url.Fault Url) (method : String)
    (contentType : Option String) (body : String) (read : Json → Option α) (g : Gmail) :
    Answers read target
      (exchange path target method contentType body >>= expect path read) g := by
  have hState := bind_expect_state path read (exchange path target method contentType body) g
  have hResult :=
    bind_expect_result path read (exchange path target method contentType body) g
  cases target with
  | error fault =>
      exact .unsent (fun url h => by cases h) hResult rfl (congrArg Gmail.server hState)
  | ok url =>
      rw [exchange_ok] at hState hResult
      have hServer := congrArg Gmail.server hState
      let request : Http.Request :=
        ⟨method, "", some ("Bearer " ++ g.token), some userAgent, contentType, body⟩
      by_cases hReach : g.Reaches url
      · have hThere : g.server.isReachable url request = true :=
          (isReachable_iff rfl).2 hReach
        obtain ⟨hReceived, hReply⟩ := send_of_isReachable hThere
        rw [hReply] at hResult
        refine .sent rfl hReach rfl
          ((congrArg Http.Server.received hServer).trans hReceived) ?_
        rw [hResult]
        exact reports_heard path read g.server.upcoming g
      · have hSend : g.server.send url request = (.dropped, g.server) := by
          rw [Http.Server.send, if_neg fun h => hReach ((isReachable_iff rfl).1 h)]
        rw [hSend] at hServer hResult
        refine .unsent (fun url' hSame => ?_) hResult rfl hServer
        rwa [← Except.ok.inj hSame]

private theorem Answers.congr {read : Json → Option α} {target : Except Url.Fault Url}
    {c d : Call Gmail α} {g : Gmail} (h : Answers read target d g) (hSame : c g = d g) :
    Answers read target c g := by
  cases h with
  | unsent astray result code server =>
      exact .unsent astray (by rw [hSame, result]) code (by rw [hSame, server])
  | sent there reaches asks received reports =>
      exact .sent there reaches asks (by rw [hSame, received]) (by rw [hSame]; exact reports)

/-- To fetch is to make a request and to read its answer. -/
theorem fetch_apply (path : String) (query : List (String × String))
    (read : Json → Option α) (g : Gmail) : fetch path query read g =
      (exchange path (g.address path query) "GET" none "" >>= expect path read) g := by
  have hGet : (get : Call Gmail Gmail) g = (.ok g, g) := rfl
  rw [fetch, Call.bind_of_ok hGet]
  rfl

theorem answers_fetch (path : String) (query : List (String × String))
    (read : Json → Option α) (g : Gmail) :
    Answers read (g.address path query) (fetch path query read) g :=
  (answers_exchange path _ _ _ _ read g).congr (fetch_apply path query read g)

private theorem answers_submit (path : String) (body : Json) (read : Json → Option α)
    (g : Gmail) : Answers read (g.url path) (submit path body read) g := by
  have hGet : (get : Call Gmail Gmail) g = (.ok g, g) := rfl
  have hSubmit : submit path body read g = (exchange path (g.url path) "POST"
      (some "application/json") body.render >>= expect path read) g := by
    rw [submit, Call.bind_of_ok hGet]
  exact (answers_exchange path _ _ _ _ read g).congr hSubmit

/-! ## The five calls -/

section

variable {g : Gmail} (h : g.labels = none) (name : String)
include h

private theorem result_resolve : (resolve name g).1 =
    (fetch "labels" [] Label.listOfJson? g).1.map (Label.find? · name) := by
  rw [resolve_unlisted h name, fetch_labels]

private theorem server_resolve : (resolve name g).2.server =
    (fetch "labels" [] Label.listOfJson? g).2.server := by
  rw [resolve_unlisted h name, fetch_labels]

/-- A look-up without labels asks for them and then finds one. -/
theorem answers_resolve :
    Answers (fun j => (Label.listOfJson? j).map (Label.find? · name))
      (g.address "labels" []) (resolve name) g := by
  have hResult := result_resolve h name
  have hServer := server_resolve h name
  cases answers_fetch "labels" [] Label.listOfJson? g with
  | unsent astray result code server =>
      rw [result] at hResult
      exact .unsent astray hResult code (hServer.trans server)
  | sent there reaches asks received reports =>
      refine .sent there reaches asks (by rw [hServer, received]) ?_
      rw [hResult]
      exact reports.map (Label.find? · name)

end

/-- What the calls of a client are to their replies. -/
structure CallsAnswer (g : Gmail) : Prop where
  list : ∀ token size, Answers IdPage.ofJson?
    (g.address "messages"
      (("maxResults", natText size) :: (token.map fun t => ("pageToken", t)).toList))
    (provider.list token size) g
  get : ∀ id, Answers Message.ofJson? (g.address ("messages/" ++ id) [("format", "full")])
    (provider.get id) g
  profile : Answers Profile.ofJson? (g.address "profile" []) provider.profile g
  resolve : g.labels = none → ∀ name,
    Answers (fun j => (Label.listOfJson? j).map (Label.find? · name))
      (g.address "labels" []) (provider.resolve name) g
  listed : ∀ labels, g.labels = some labels → ∀ name,
    provider.resolve name g = (.ok (Label.find? labels name), g)
  /-- The answer to a change of labels may be any value. -/
  modify : ∀ id change, Answers (fun j => if j.keepable Json.nesting then some () else none)
    (g.url ("messages/" ++ id ++ "/modify")) (provider.modify id change) g

/-- **The five calls** answer to their replies. -/
theorem calls_answer (g : Gmail) : CallsAnswer g where
  list _ _ := answers_fetch _ _ _ g
  get _ := answers_fetch _ _ _ g
  profile := answers_fetch _ _ _ g
  resolve h name := answers_resolve h name
  listed _ h name := resolve_listed h name
  modify _ _ := answers_submit _ _ _ g

/-! ## A client of a server on the same machine -/

/-- A client of a server on the same machine, with these replies to come. -/
def nearby (replies : List Http.Reply) : Gmail :=
  client "http://127.0.0.1:80" "t" ⟨[.ipv4 (127 <<< 24 + 1)], 80, replies, .dropped, []⟩

/-- A request for the profile reaches the server, and this is what comes of it. -/
theorem profile_nearby (replies : List Http.Reply) :
    (∃ request, (profile (nearby replies)).2.server.received = [request]) ∧
      (profile (nearby replies)).1 =
        (heard "profile" (nearby replies).server.upcoming.arrived).bind fun text =>
          (expect "profile" Profile.ofJson? text (nearby replies)).1 := by
  have hThere : (Url.parse "http://127.0.0.1:80/profile").toOption.any (fun url =>
      (nearby []).server.isAt (url.addPairs []).dropEmptyQuery) = true := by decide +kernel
  have hHeader : Http.isHeaderValue "Bearer t" = true := by decide
  have hUrl : (nearby replies).url "profile" = Url.parse "http://127.0.0.1:80/profile" := by
    have hPath : trimSlashes "http://127.0.0.1:80" ++ "/" ++ "profile" =
        "http://127.0.0.1:80/profile" := by decide +kernel
    exact congrArg Url.parse hPath
  rw [profile, fetch_apply, bind_expect_state, bind_expect_result, address, hUrl]
  cases hParsed : Url.parse "http://127.0.0.1:80/profile" with
  | error fault =>
      rw [hParsed] at hThere
      cases hThere
  | ok url =>
      rw [hParsed] at hThere
      have hReach : (nearby replies).server.isReachable (url.addPairs []).dropEmptyQuery
          ⟨"GET", "", some ("Bearer " ++ "t"), some userAgent, none, ""⟩ = true :=
        Bool.and_eq_true_iff.2 ⟨hThere, hHeader⟩
      obtain ⟨hReceived, hReply⟩ := send_of_isReachable hReach
      rw [Except.map, exchange_ok]
      exact ⟨⟨_, hReceived⟩, by rw [← hReply]; rfl⟩

/-- The text of an answer without success is not always what was sent: an answer that is
not the last one counts as none, and one that has no body by its status has no text. -/
theorem profile_loses_body :
    let early : Http.Answer := ⟨100, "application/json", Text.Utf8.encode "early".toList⟩
    let gone : Http.Answer := ⟨101, "application/json", Text.Utf8.encode "gone".toList⟩
    ((∃ request, (profile (nearby [.answer early])).2.server.received = [request]) ∧
      (profile (nearby [.answer early])).1 = .error (.failed (.unanswered "profile")) ∧
      (profile (nearby [.answer early])).1 ≠ .error (.failed (.refused 100 "early"))) ∧
    (∃ request, (profile (nearby [.answer gone])).2.server.received = [request]) ∧
      (profile (nearby [.answer gone])).1 = .error (.failed (.refused 101 "")) ∧
      (profile (nearby [.answer gone])).1 ≠ .error (.failed (.refused 101 "gone")) := by
  intro early gone
  have hEarly : (profile (nearby [.answer early])).1 =
      .error (.failed (.unanswered "profile")) := (profile_nearby [.answer early]).2
  have hGone : (profile (nearby [.answer gone])).1 = .error (.failed (.refused 101 "")) := by
    have hArrived : (nearby [.answer gone]).server.upcoming.arrived = .answer gone := by decide
    have hText : gone.text = "" := by decide +kernel
    rw [(profile_nearby _).2, hArrived, ← hText]
    rfl
  have hOther : Error.unanswered "profile" ≠ .refused 100 "early" := by decide
  have hLost : Error.refused 101 "" ≠ .refused 101 "gone" := by decide
  refine ⟨⟨(profile_nearby _).1, hEarly, ?_⟩, (profile_nearby _).1, hGone, ?_⟩
  · rw [hEarly]
    exact fun h => hOther (Stop.failed.inj (Except.error.inj h))
  · rw [hGone]
    exact fun h => hLost (Stop.failed.inj (Except.error.inj h))

/-! ## The replies that are left -/

/-- The replies that a client may still get. -/
def script (g : Gmail) : List Http.Reply := g.server.fallback :: g.server.replies

private theorem upcoming_mem_script (g : Gmail) : g.server.upcoming ∈ g.script := by
  unfold script Http.Server.upcoming
  cases g.server.replies with
  | nil => exact List.mem_cons_self
  | cons reply replies => simp

private theorem script_send (s : Http.Server) (url : Url) (request : Http.Request) :
    (s.send url request).2.fallback :: (s.send url request).2.replies ⊆
      s.fallback :: s.replies := by
  unfold Http.Server.send
  split
  · unfold Http.Server.receive
    cases s.replies with
    | nil => exact List.Subset.refl _
    | cons reply replies => exact List.cons_subset_cons _ (List.subset_cons_self _ _)
  · exact List.Subset.refl _

private theorem script_exchange (path : String) (url : Except Url.Fault Url) (method : String)
    (contentType : Option String) (body : String) (g : Gmail) :
    (exchange path url method contentType body g).2.script ⊆ g.script := by
  cases url with
  | error fault => exact List.Subset.refl _
  | ok url =>
      rw [exchange_ok]
      exact script_send g.server url _

/-- **No call adds to the replies.** -/
theorem script_step (g : Gmail) (call : Request) :
    (provider.step g call).script ⊆ g.script := by
  have hFetch (path : String) (query : List (String × String)) {β : Type}
      (read : Json → Option β) : (fetch path query read g).2.script ⊆ g.script := by
    rw [fetch_eq]
    exact script_exchange _ _ _ _ _ g
  cases call with
  | list token size => exact hFetch _ _ _
  | get id => exact hFetch _ _ _
  | profile => exact hFetch _ _ _
  | label name =>
      show (resolve name g).2.script ⊆ g.script
      cases hLabels : g.labels with
      | none =>
          have hAsked := hFetch "labels" [] Label.listOfJson?
          rw [script] at hAsked ⊢
          rwa [server_resolve hLabels]
      | some labels =>
          rw [resolve_listed hLabels]
          exact List.Subset.refl _
  | modify id change =>
      show (submit _ _ _ g).2.script ⊆ g.script
      rw [submit_eq]
      exact script_exchange _ _ _ _ _ g

theorem script_after (g : Gmail) (calls : List Request) :
    (provider.after calls g).script ⊆ g.script := by
  induction calls generalizing g with
  | nil => exact List.Subset.refl _
  | cons call calls ih =>
      exact List.Subset.trans (ih (provider.step g call)) (script_step g call)

/-- What stops a client in its requests. -/
theorem Answers.stop {read : Json → Option α} {target : Except Url.Fault Url}
    {c : Call Gmail α} {g : Gmail} (h : Answers read target c g) {stop : Stop}
    (hStop : (c g).1 = .error stop) :
    (∃ e, stop = .failed e ∧ e.isProvider = true) ∨
      (stop = .interrupted ∧ .interrupted ∈ g.script) := by
  cases h with
  | unsent _ result code _ =>
      rw [hStop] at result
      cases result
      exact .inl ⟨_, rfl, by rw [Error.isProvider, code]; rfl⟩
  | sent _ _ _ _ reports =>
      rw [hStop] at reports
      rcases reports.stop with hFailed | ⟨rfl, hReply⟩
      · exact .inl hFailed
      · exact .inr ⟨rfl, hReply ▸ upcoming_mem_script g⟩

/-- **What stops a client at a call** is no error of the store. -/
theorem stop?_cases {g : Gmail} {call : Request} {stop : Stop}
    (h : provider.stop? g call = some stop) :
    (∃ e, stop = .failed e ∧ e.isStore = false) ∨
      (stop = .interrupted ∧ .interrupted ∈ g.script) := by
  have hCalls := calls_answer g
  have hAnswers {β : Type} {read : Json → Option β} {target : Except Url.Fault Url}
      {c : Call Gmail β} (hAnswer : Answers read target c g) (hStop : stopOf (c g).1 = some stop) :
      (∃ e, stop = .failed e ∧ e.isStore = false) ∨
        (stop = .interrupted ∧ .interrupted ∈ g.script) := by
    have hError : (c g).1 = .error stop := by
      cases hResult : (c g).1 with
      | ok a =>
          rw [hResult] at hStop
          cases hStop
      | error stop' =>
          rw [hResult] at hStop
          cases hStop
          rfl
    rcases hAnswer.stop hError with ⟨e, rfl, hProvider⟩ | hInterrupted
    · exact .inl ⟨e, rfl, Error.not_isStore_of_isProvider hProvider⟩
    · exact .inr hInterrupted
  cases call with
  | list token size => exact hAnswers (hCalls.list token size) h
  | get id => exact hAnswers (hCalls.get id) h
  | profile => exact hAnswers hCalls.profile h
  | modify id change => exact hAnswers (hCalls.modify id change) h
  | label name =>
      simp only [Provider.stop?] at h
      cases hResolve : (provider.resolve name g).1 with
      | ok id? =>
          rw [hResolve] at h
          cases id? with
          | some id => cases h
          | none =>
              cases h
              exact .inl ⟨_, rfl, rfl⟩
      | error stop' =>
          rw [hResolve] at h
          cases h
          cases hLabels : g.labels with
          | none => exact hAnswers (hCalls.resolve hLabels name) (by rw [hResolve]; rfl)
          | some labels =>
              rw [hCalls.listed labels hLabels name] at hResolve
              cases hResolve

end Gmail

end Mailroom
