import Mailroom.Proofs.OAuth.Redirect
import Mailroom.Proofs.OAuth.TokenFile

/-!
# Empty codes

A blank line is refused, so a code that is pasted alone is never empty. An address is not checked
that way: if nothing is written for the value of its code, that is the code. A code that is found
goes to the token endpoint as it is, in the one request that an authorization makes, so an empty
one is sent like any other.
-/

namespace Mailroom

namespace OAuth

/-! ## What is found -/

namespace Code

variable {input : String}

/-- A query in which nothing is written for the value of the code. -/
def Valueless (query : List Char) : Prop :=
  ∃ piece, Url.Form.IsFirst "code" query piece ∧ (Text.cut '=' piece).2 = []

/-- Such a query is one with an empty code. -/
theorem lookup_eq_empty {query : List Char} :
    (Url.Form.pairs query).lookup "code" = some "" ↔ Valueless query := by
  rw [Url.Form.lookup_pairs]
  exact exists_congr fun piece => and_congr_right fun _ => Url.Form.decode_eq_empty

/-- **An empty code** is found in an address only, where nothing is written for its value. -/
theorem extract_eq_empty : extract input = .ok "" ↔ isAddress (trimmed input) = true ∧
    ∃ url, Url.parse (trimmed input) = .ok url ∧ Valueless (url.query.getD "").toList := by
  have hValue : ofAddress (trimmed input) = .ok "" ↔
      ∃ url, Url.parse (trimmed input) = .ok url ∧ Valueless (url.query.getD "").toList := by
    rw [ofAddress_eq_ok]
    exact exists_congr fun url => and_congr_right fun _ => lookup_eq_empty
  rw [extract_eq_ok, ← hValue]
  constructor
  · rintro ⟨hFilled, hAddress | ⟨-, hBlank⟩⟩
    · exact hAddress
    · exact absurd hBlank hFilled
  · intro hAddress
    have hFilled : trimmed input ≠ "" := fun hBlank => by
      rw [hBlank] at hAddress
      exact absurd hAddress.1 (by decide +kernel)
    exact ⟨hFilled, .inl hAddress⟩

end Code

/-! ## What is sent -/

variable {s : Service} {server : Http.Server}

/-- What an exchange asks with. -/
def codeRequest (s : Service) (code verifier : String) : Http.Request :=
  { s.request [("grant_type", "authorization_code"), ("code", code), ("code_verifier", verifier)]
      [("redirect_uri", s.client.redirectUri)] with target := s.tokenUrl.target }

/-- The code of a request for a token. -/
def codeOf? (request : Http.Request) : Option String :=
  (Url.Form.pairs request.body.toList).lookup "code"

private theorem codeOf?_codeRequest (s : Service) (code verifier : String) :
    codeOf? (codeRequest s code verifier) = some code := by
  obtain ⟨rest, hPairs⟩ := pairs_request s
    [("grant_type", "authorization_code"), ("code", code), ("code_verifier", verifier)]
    [("redirect_uri", s.client.redirectUri)]
  rw [codeOf?, codeRequest]
  dsimp only
  rw [hPairs]
  rfl

/-- **An exchange** asks the token endpoint once, if it is there. -/
theorem received_exchange (s : Service) (code verifier : String) (now : Int64)
    (server : Http.Server) : (s.exchange code verifier now server).2.received =
      if server.isAt s.tokenUrl = true then codeRequest s code verifier :: server.received
      else server.received := by
  have hServer : (s.exchange code verifier now server).2 = (s.ask
      [("grant_type", "authorization_code"), ("code", code), ("code_verifier", verifier)]
      [("redirect_uri", s.client.redirectUri)] server).2 := by
    rw [Service.exchange, Call.bind_apply]
    generalize s.ask _ _ server = asked
    obtain ⟨answer, after⟩ := asked
    cases answer with
    | error stop => rfl
    | ok answer =>
        cases answer with
        | error fault => rfl
        | ok granted =>
            dsimp only
            cases granted.refresh <;> rfl
  rw [hServer]
  by_cases hThere : server.isAt s.tokenUrl = true
  · rw [if_pos hThere, ask_of_isAt hThere,
      Http.Server.received_send (isReachable_request.trans hThere), codeRequest]
  · obtain ⟨fault, hAsk⟩ := ask_of_not_isAt hThere
    rw [if_neg hThere, hAsk]

/-! ## Authorizations -/

/-- The line that is typed, if it is a text. -/
def typed? (input : List UInt8) : Option String :=
  (Text.Utf8.decode? (Job.cutLine input).1).map String.ofList

private theorem inputLine_eq (e : Error) (m : Machine) : Job.inputLine e m =
    ((typed? m.input).elim (.error (.failed e)) .ok,
      { m with input := (Job.cutLine m.input).2 }) := by
  unfold Job.inputLine typed?
  dsimp only
  cases Text.Utf8.decode? (Job.cutLine m.input).1 <;> rfl

/-- Saving a token does not change what the server has received. -/
theorem server_of_saved {c : Call Http.Server Token} {tokenFile text : String} {m : Machine} :
    ((Job.online c >>= fun t => save tokenFile t >>= fun _ => Job.info text) m).2.server =
      (c m.server).2 := by
  rw [Call.bind_apply]
  cases hOnline : Job.online c m with
  | mk result m₁ =>
      obtain ⟨hAsked, -⟩ := Job.online_eq hOnline
      rw [hAsked]
      cases result with
      | error stop => rfl
      | ok t =>
          rcases save_cases tokenFile t m₁ with ⟨stop, hSave⟩ | ⟨files, hSave, -⟩
          · simp only [Call.bind_of_error hSave]
          · simp only [Call.bind_of_ok hSave]
            rfl

/-- What an authorization does with the line that is typed. -/
def redeem (service : Service) (verifier tokenFile : String) : Job Unit := do
  let code ← Job.ofExcept (Code.extract (← Job.inputLine .unreadableCode))
  let token ← Job.online (service.exchange code verifier (← Job.now))
  save tokenFile token
  Job.info ("Authorization complete, token saved to " ++ tokenFile)

/-- Until a line is typed, an authorization only prints. -/
theorem authorize_eq {credentialsFile : String} (tokenFile : String) {m : Machine}
    {service : Service} (h : (loadService credentialsFile m).1 = .ok service) : ∃ printed,
      authorize credentialsFile tokenFile m =
        redeem service m.nonce.verifier tokenFile { m with printed } := by
  have hLoad : loadService credentialsFile m = (.ok service, m) :=
    Prod.ext h (loadService_state credentialsFile m)
  rw [authorize, Call.bind_of_ok hLoad]
  exact ⟨_, rfl⟩

/-- Where no code is typed, nothing is sent. -/
theorem server_redeem_of_no_code {service : Service} {verifier tokenFile : String} {m : Machine}
    (h : ∀ line code, typed? m.input = some line → Code.extract line ≠ .ok code) :
    (redeem service verifier tokenFile m).2.server = m.server := by
  rw [redeem, Call.bind_apply, inputLine_eq]
  cases hTyped : typed? m.input with
  | none => rfl
  | some line =>
      dsimp only [Option.elim]
      rw [Call.bind_apply]
      cases hCode : Code.extract line with
      | error e => rfl
      | ok code => exact absurd hCode (h line code hTyped)

/-- **A code that is typed** is sent, if the token endpoint is there. -/
theorem received_redeem (service : Service) (verifier tokenFile : String) {m : Machine}
    {line code : String} (hTyped : typed? m.input = some line)
    (hCode : Code.extract line = .ok code) :
    (redeem service verifier tokenFile m).2.server.received =
      if m.server.isAt service.tokenUrl = true then
        codeRequest service code verifier :: m.server.received
      else m.server.received := by
  let typed : Machine := { m with input := (Job.cutLine m.input).2 }
  have hLine : Job.inputLine .unreadableCode m = (.ok line, typed) := by
    rw [inputLine_eq, hTyped]
    rfl
  have hFound : Job.ofExcept (Code.extract line) typed = (.ok code, typed) := by
    rw [hCode]
    rfl
  have hNow : Job.now typed = (.ok (Int64.ofInt m.now), typed) := rfl
  rw [redeem, Call.bind_of_ok hLine, Call.bind_of_ok hFound, Call.bind_of_ok hNow,
    server_of_saved, received_exchange]

/-- What reaches the token endpoint in an authorization: one request with the code that was typed,
or nothing, where there is no code, or no service that can be reached. -/
inductive Asks (credentialsFile : String) (m : Machine) : List Http.Request → Prop
  | code {service line code request} (loads : (loadService credentialsFile m).1 = .ok service)
      (typed : typed? m.input = some line) (found : Code.extract line = .ok code)
      (there : m.server.isAt service.tokenUrl = true) (carries : codeOf? request = some code) :
      Asks credentialsFile m (request :: m.server.received)
  | nothing (missing : ∀ service line code, (loadService credentialsFile m).1 = .ok service →
      typed? m.input = some line → Code.extract line = .ok code →
        m.server.isAt service.tokenUrl = false) : Asks credentialsFile m m.server.received

/-- **What reaches the token endpoint.** -/
theorem authorize_asks (credentialsFile tokenFile : String) (m : Machine) :
    Asks credentialsFile m (authorize credentialsFile tokenFile m).2.server.received := by
  cases hLoads : (loadService credentialsFile m).1 with
  | error stop =>
      have hLoad : loadService credentialsFile m = (.error stop, m) :=
        Prod.ext hLoads (loadService_state credentialsFile m)
      rw [authorize, Call.bind_of_error hLoad]
      refine .nothing fun service line code hService => ?_
      rw [hLoads] at hService
      cases hService
  | ok service =>
      obtain ⟨printed, hAuthorize⟩ := authorize_eq tokenFile hLoads
      rw [hAuthorize]
      by_cases hCode : ∃ line code, typed? m.input = some line ∧ Code.extract line = .ok code
      · obtain ⟨line, code, hTyped, hFound⟩ := hCode
        have hSent := received_redeem service m.nonce.verifier tokenFile (m := { m with printed })
          hTyped hFound
        rw [hSent]
        by_cases hThere : m.server.isAt service.tokenUrl = true
        · rw [if_pos hThere]
          exact .code hLoads hTyped hFound hThere (codeOf?_codeRequest _ _ _)
        · rw [if_neg hThere]
          refine .nothing fun service' line' code' hService _ _ => ?_
          rw [hLoads] at hService
          cases hService
          exact Bool.eq_false_iff.2 hThere
      · rw [server_redeem_of_no_code (m := { m with printed }) fun line code hTyped hFound =>
          hCode ⟨line, code, hTyped, hFound⟩]
        exact .nothing fun _ line code _ hTyped hFound => absurd ⟨line, code, hTyped, hFound⟩ hCode

/-- **Where an empty code comes from.** A line has an empty code if and only if it is an address
whose first parameter with the name of the code has nothing written for its value. An authorization
sends one request with the code of the line that is typed, whatever that is, if there is one and
the token endpoint can be reached, and none otherwise. -/
theorem empty_codes (input credentialsFile tokenFile : String) (m : Machine) :
    (Code.extract input = .ok "" ↔ Code.isAddress (trimmed input) = true ∧
      ∃ url, Url.parse (trimmed input) = .ok url ∧
        Code.Valueless (url.query.getD "").toList) ∧
    Asks credentialsFile m (authorize credentialsFile tokenFile m).2.server.received :=
  ⟨Code.extract_eq_empty, authorize_asks credentialsFile tokenFile m⟩

/-! ## A redirect without a code -/

/-- A machine with the credentials of a client without a secret, whose token endpoint is on the
same machine, where this line is typed. -/
def consenting (line : String) : Machine :=
  let credentials := "\x7b\"installed\": \x7b\"client_id\": \"c\", " ++
    "\"auth_uri\": \"http://127.0.0.1/auth\", \"token_uri\": \"http://127.0.0.1/token\"\x7d\x7d"
  { files := FileTree.empty.put ["client.json"] (.file (Text.Utf8.encode credentials.toList))
    server := ⟨[.ipv4 (127 <<< 24 + 1)], 80, [], .dropped, []⟩
    now := 0
    nonce := ⟨"s", "v"⟩
    input := Text.Utf8.encode line.toList
    log := []
    printed := [] }

/-- **An empty code is sent.** The address that is typed has a parameter for the code with nothing
in it. -/
theorem empty_code_sent :
    Code.extract "http://localhost/?code=" = .ok "" ∧
      (authorize "client.json" "token.json"
          (consenting "http://localhost/?code=\n")).2.server.received =
        [⟨"POST", "/token", none, none, some "application/x-www-form-urlencoded",
          "grant_type=authorization_code&code=&code_verifier=v&client_id=c" ++
            "&redirect_uri=http%3A%2F%2Flocalhost"⟩] := by
  decide +kernel

end OAuth

end Mailroom
