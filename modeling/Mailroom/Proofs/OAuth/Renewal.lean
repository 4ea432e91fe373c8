import Mailroom.Proofs.OAuth.TokenFile
import Mathlib.Data.List.Basic

/-!
# The refresh token is kept

Without a refresh token the user has to be asked for consent again, so the token file
must not lose it. The server, the time and what is typed may be different at each call,
so the replies are any replies. One call leaves the file alone or puts a token with a
refresh token into it, and which token that is can be told from the object that the
token endpoint answers with and from the token before it. By induction a refresh token
outlasts any number of calls.
-/

namespace Mailroom.OAuth

/-! ## Calls one after the other -/

/-- What is wanted of the token file. -/
inductive Errand
  | access
  | consent
deriving DecidableEq, Repr

/-- A call with what it finds: where the credentials are, a server with its
replies, the time, random texts, and what is typed. -/
structure Occasion where
  errand : Errand
  credentialsFile : String
  server : Http.Server
  now : Int
  nonce : Nonce
  input : List UInt8

namespace Occasion

/-- The machine that the call runs on. -/
def machine (o : Occasion) (files : FileTree) : Machine :=
  ⟨files, o.server, o.now, o.nonce, o.input, [], []⟩

/-- Makes the call. -/
def make (o : Occasion) (tokenFile : String) (files : FileTree) :
    Except Stop Unit × Machine :=
  match o.errand with
  | .access =>
      let made := accessToken o.credentialsFile tokenFile (o.machine files)
      (made.1.map fun _ => (), made.2)
  | .consent => authorize o.credentialsFile tokenFile (o.machine files)

end Occasion

/-- The files after calls, one after the other. -/
def afterwards (tokenFile : String) (files : FileTree) : List Occasion → FileTree
  | [] => files
  | o :: later => afterwards tokenFile (o.make tokenFile files).2.files later

/-- The token file holds a token with a refresh token. -/
def Refreshable (files : FileTree) (tokenFile : String) : Prop :=
  ∃ t refresh, Held files tokenFile t ∧ t.refresh = some refresh

/-- When something ends that is good for some seconds from now, as a word. -/
def endsAfter (now : Int) (seconds : UInt64) : Int64 := Int64.ofInt (now + 1000 * seconds.toNat)

/-- This token is what the call has put into the token file, by the object that the
token endpoint has answered with. A token from consent has the refresh token in the
object. A renewed one has the refresh token in the object, or else the one of the
token before it, and the same of its scopes. The access token and the expiry are
those in the object. -/
inductive Brings (tokenFile : String) (files : FileTree) (o : Occasion) (t : Token) : Prop
  | consent {members : List (Option String × Json)} {granted : Granted} {refresh : String}
      (errand : o.errand = .consent) (replies : Replies o.server members)
      (said : Says members granted) (given : granted.refresh = some refresh)
      (brought : t = {
        access := granted.access
        refresh := some refresh
        expiresAt := granted.expiresIn.map (endsAfter o.now)
        scopes := granted.scopes.getD []
        updatedAt := Int64.ofInt o.now })
  | renewal {old : Token} {members : List (Option String × Json)} {granted : Granted}
      {refresh : String} (errand : o.errand = .access) (before : Held files tokenFile old)
      (had : old.refresh = some refresh) (replies : Replies o.server members)
      (said : Says members granted)
      (brought : t = {
        access := granted.access
        refresh := some (granted.refresh.getD refresh)
        expiresAt := granted.expiresIn.map (endsAfter o.now)
        scopes := granted.scopes.getD old.scopes
        updatedAt := Int64.ofInt o.now })

/-- The token in the file has no expiry, or it expires within a minute. What is
compared is a difference of words; with any time that a clock shows, which is one
from 1970 on that fits a word, that is a difference of times. -/
def Due (files : FileTree) (tokenFile : String) (now : Int) : Prop :=
  ∃ t, Held files tokenFile t ∧
    (t.expiresAt = none ∨ ∃ expiry, t.expiresAt = some expiry ∧
      expiry - Int64.ofInt now ≤ leeway ∧
      (0 ≤ now → now ≤ Int64.maxValue.toInt → expiry.toInt ≤ now + 60000))

private theorem Brings.refreshable {tokenFile : String} {files : FileTree} {o : Occasion}
    {t : Token} (h : Brings tokenFile files o t) : ∃ refresh, t.refresh = some refresh := by
  cases h with
  | consent errand replies said given brought => exact ⟨_, congrArg Token.refresh brought⟩
  | renewal errand before had replies said brought =>
      exact ⟨_, congrArg Token.refresh brought⟩

/-- The expiry of what is granted does not depend on where the words are cut off. -/
theorem expiry_ofInt (granted : Granted) (now : Int) :
    granted.expiry (Int64.ofInt now) = granted.expiresIn.map (endsAfter now) := by
  refine congrArg (Option.map · granted.expiresIn) (funext fun seconds => ?_)
  rw [endsAfter, Int64.ofInt_add, Int.mul_comm]
  rfl

/-- The difference of an expiry and a time from 1970 on can only wrap where the
token has expired long ago. -/
theorem le_of_sub_le {expiry : Int64} {now : Int} (hLow : 0 ≤ now)
    (hHigh : now ≤ Int64.maxValue.toInt) (h : expiry - Int64.ofInt now ≤ leeway) :
    expiry.toInt ≤ now + 60000 := by
  have hLeast := Int64.minValue_le_toInt expiry
  have hMost := Int64.toInt_le expiry
  have hMin : Int64.minValue.toInt = -2 ^ 63 := by decide
  have hMax : Int64.maxValue.toInt = 2 ^ 63 - 1 := by decide
  have hLeeway : leeway.toInt = 60000 := by decide
  have hNow : (Int64.ofInt now).toInt = now :=
    Int64.toInt_ofInt_of_le (by omega) (by omega)
  rw [Int64.le_iff_toInt_le, Int64.toInt_sub, hNow, hLeeway] at h
  by_cases hWraps : expiry.toInt - now < -2 ^ 63
  · omega
  · rw [Int.bmod_eq_of_le (by omega) (by omega)] at h
    omega

private theorem due_of_expiresWithin {files : FileTree} {tokenFile : String} {t : Token}
    {now : Int} (hHeld : Held files tokenFile t)
    (h : t.expiresWithin (Int64.ofInt now) leeway = true) :
    Due files tokenFile now := by
  refine ⟨t, hHeld, ?_⟩
  unfold Token.expiresWithin at h
  cases hExpiry : t.expiresAt with
  | none => exact .inl rfl
  | some expiry =>
      rw [hExpiry] at h
      have hWithin : expiry - Int64.ofInt now ≤ leeway := by simpa using h
      exact .inr ⟨expiry, rfl, hWithin, fun hLow hHigh => le_of_sub_le hLow hHigh hWithin⟩

/-- How a call can end: with nothing asked and nothing written, with an error and
the files as they were, or with a token in the file that the call brings. -/
inductive Ended (tokenFile : String) (files : FileTree) (o : Occasion) :
    Except Stop Unit → Machine → Prop
  | unasked {result m'} (errand : o.errand = .access)
      (alike : (o.machine files).Alike m') : Ended tokenFile files o result m'
  | stopped {stop m'} (due : o.errand = .access → Due files tokenFile o.now)
      (kept : m'.files = files) : Ended tokenFile files o (.error stop) m'
  | saved {t m'} (due : o.errand = .access → Due files tokenFile o.now)
      (held : Held m'.files tokenFile t) (brings : Brings tokenFile files o t) :
      Ended tokenFile files o (.ok ()) m'

/-- **How a call ends.** -/
theorem make_ended (tokenFile : String) (files : FileTree) (o : Occasion) :
    Ended tokenFile files o (o.make tokenFile files).1 (o.make tokenFile files).2 := by
  unfold Occasion.make
  cases hErrand : o.errand with
  | access =>
      have hCall := accessToken_accessed o.credentialsFile tokenFile (o.machine files)
      simp only
      generalize accessToken o.credentialsFile tokenFile (o.machine files) = made at hCall
      obtain ⟨result, m'⟩ := made
      cases hCall with
      | unasked alike => exact .unasked hErrand alike
      | stopped before expiring kept =>
          exact .stopped (fun _ => due_of_expiresWithin before expiring) kept
      | @saved old granted refresh _ before expiring had grants held =>
          obtain ⟨members, hReplies, hSays⟩ := grants_iff.1 grants
          refine .saved (fun _ => due_of_expiresWithin before expiring) held
            (.renewal hErrand before had hReplies hSays ?_)
          rw [← expiry_ofInt]
          rfl
  | consent =>
      have hCall := authorize_consented o.credentialsFile tokenFile (o.machine files)
      have hOther : o.errand = .access → Due files tokenFile o.now := by
        intro hAccess
        rw [hErrand] at hAccess
        cases hAccess
      simp only
      generalize authorize o.credentialsFile tokenFile (o.machine files) = made at hCall
      obtain ⟨result, m'⟩ := made
      cases hCall with
      | stopped kept => exact .stopped hOther kept
      | @saved _ granted refresh grants given held =>
          obtain ⟨members, hReplies, hSays⟩ := grants_iff.1 grants
          refine .saved hOther held (.consent hErrand hReplies hSays given ?_)
          rw [← expiry_ofInt]
          rfl

/-- A call keeps what is refreshable. -/
theorem refreshable_make {tokenFile : String} {files : FileTree}
    (h : Refreshable files tokenFile) (o : Occasion) :
    Refreshable (o.make tokenFile files).2.files tokenFile := by
  have hEnded := make_ended tokenFile files o
  cases hMade : o.make tokenFile files with
  | mk result m' =>
      rw [hMade] at hEnded
      cases hEnded with
      | unasked errand alike =>
          have hSame : m'.files = files := alike.files
          rwa [← hSame] at h
      | stopped due kept =>
          have hSame : m'.files = files := kept
          rwa [← hSame] at h
      | saved due held brings =>
          obtain ⟨refresh, hRefresh⟩ := brings.refreshable
          exact ⟨_, refresh, held, hRefresh⟩

/-- **The refresh token is never lost.** A call that ends with an error leaves the
files as they were. One that ends well has asked and written nothing, or it has put a
token into the token file by the object that the token endpoint answered with: with the
refresh token in that object or, if a token was renewed and there is none in it, the one
of the token before it, and the same of its scopes. Getting an access token asks the
server and writes the file only if the token there has no expiry or expires within a
minute. So once the file holds a refresh token, it holds one after any further calls.
Any text of an object can be the answer, and it grants what the members of the object
say. -/
theorem refresh_token_kept (tokenFile : String) :
    (∀ (files : FileTree) (o : Occasion),
      (∀ stop, (o.make tokenFile files).1 = .error stop →
        (o.make tokenFile files).2.files = files) ∧
      ((o.make tokenFile files).1 = .ok () →
        (o.errand = .access ∧ (o.make tokenFile files).2.files = files ∧
          (o.make tokenFile files).2.server = o.server) ∨
        ∃ t, Held (o.make tokenFile files).2.files tokenFile t ∧
          Brings tokenFile files o t) ∧
      (o.errand = .access → ¬Due files tokenFile o.now →
        (o.make tokenFile files).2.files = files ∧
          (o.make tokenFile files).2.server = o.server)) ∧
    (∀ (files : FileTree) (occasions : List Occasion), Refreshable files tokenFile →
      Refreshable (afterwards tokenFile files occasions) tokenFile) ∧
    ∀ (server : Http.Server) (a : Http.Answer) (members : List (Option String × Json))
      (text : List Char) (granted : Granted), server.next = .answer a → a.status = 200 →
      isDeclaredJson a = true → Json.Layout (.object members) text →
      a.body = Text.Utf8.encode text → Says members granted →
        Replies server members ∧ Grants server granted := by
  refine ⟨?_, ?_, ?_⟩
  · intro files o
    have hEnded := make_ended tokenFile files o
    generalize o.make tokenFile files = made at hEnded
    obtain ⟨result, m'⟩ := made
    cases hEnded with
    | unasked errand alike =>
        exact ⟨fun _ _ => alike.files, fun _ => .inl ⟨errand, alike.files, alike.server⟩,
          fun _ _ => ⟨alike.files, alike.server⟩⟩
    | stopped due kept =>
        refine ⟨fun _ _ => kept, ?_, ?_⟩
        · intro hOk
          cases hOk
        · intro hAccess hNot
          exact absurd (due hAccess) hNot
    | saved due held brings =>
        refine ⟨?_, fun _ => .inr ⟨_, held, brings⟩, ?_⟩
        · intro stop hStop
          cases hStop
        · intro hAccess hNot
          exact absurd (due hAccess) hNot
  · intro files occasions hFirst
    induction occasions generalizing files with
    | nil => exact hFirst
    | cons o later ih => exact ih _ (refreshable_make hFirst o)
  · intro server a members text granted hNext hStatus hType hLayout hBody hSaid
    have hReplies := replies_of_layout hNext hStatus hType hBody hLayout
    exact ⟨hReplies, grants_iff.2 ⟨members, hReplies, hSaid⟩⟩

/-! ## A token for an hour -/

/-- A token that is good for an hour, from 1970 on, and can be renewed. -/
def hourLong : Token := ⟨"a", some "r", some 3600000, ["s"], 0⟩

/-- The credentials of a client without a secret, whose token endpoint is on the same
machine. -/
def nearbyCredentials : String :=
  "\x7b\"installed\": \x7b\"client_id\": \"c\", \"auth_uri\": \"http://127.0.0.1/auth\", " ++
    "\"token_uri\": \"http://127.0.0.1/token\"\x7d\x7d"

/-- A working directory with these credentials. -/
def credentialsOnly : FileTree :=
  FileTree.empty.put ["client.json"] (.file (Text.Utf8.encode nearbyCredentials.toList))

/-- A working directory with these credentials and the file of a token. -/
def filesOf (t : Token) : FileTree :=
  credentialsOnly.put ["token.json"] (.file (Text.Utf8.encode t.render.toList))

private theorem write_credentialsOnly (t : Token) :
    credentialsOnly.write "token.json" (.file (Text.Utf8.encode t.render.toList)) =
      some (filesOf t) := by
  have hPlace : credentialsOnly.place? "token.json" = some ["token.json"] := by decide +kernel
  have hFree : credentialsOnly.isDirectory ["token.json"] = false := by decide
  rw [FileTree.write, hPlace, Option.bind_eq_bind, Option.bind_some, hFree]
  rfl

private theorem held_filesOf (t : Token) : Held (filesOf t) "token.json" t :=
  held_of_read (FileTree.read_of_write (write_credentialsOnly t))

/-- One token is written over the other. -/
theorem write_filesOf (t t' : Token) :
    (filesOf t).write "token.json" (.file (Text.Utf8.encode t'.render.toList)) =
      some (filesOf t') := by
  have hPlace : (filesOf t).place? "token.json" = some ["token.json"] :=
    FileTree.place?_of_write (write_credentialsOnly t) (by decide +kernel)
  have hFree : (filesOf t).isDirectory ["token.json"] = false := rfl
  rw [FileTree.write, hPlace, Option.bind_eq_bind, Option.bind_some, hFree]
  rfl

/-- The credentials stay. -/
theorem read_client_filesOf (t : Token) :
    (filesOf t).read "client.json" = .text nearbyCredentials := by
  have hPlace : (filesOf t).place? "client.json" = some ["client.json"] :=
    FileTree.place?_of_write (write_credentialsOnly t) (by decide +kernel)
  have hNode : (filesOf t).node? ["client.json"] =
      some (.file (Text.Utf8.encode nearbyCredentials.toList)) := rfl
  simp [FileTree.read, FileTree.find?, hPlace, hNode, FileText.ofBytes,
    Text.Utf8.decode?_encode]

/-- A call for access at this time, with these replies to come. -/
def accessAt (now : Int) (replies : List Http.Reply) : Occasion :=
  ⟨.access, "client.json", ⟨[.ipv4 (127 <<< 24 + 1)], 80, replies, .dropped, []⟩, now,
    ⟨"", ""⟩, []⟩

/-- The token endpoint is there for such a call. -/
theorem loads_accessAt (now : Int) (replies : List Http.Reply) : ∃ service,
    (Client.load "client.json" (.text nearbyCredentials)).bind Service.ofClient = .ok service ∧
      (accessAt now replies).server.isAt service.tokenUrl = true := by
  have hThere : ((Client.load "client.json" (.text nearbyCredentials)).bind
      Service.ofClient).toOption.any (fun service =>
        (accessAt 0 []).server.isAt service.tokenUrl) = true := by decide +kernel
  cases hLoads : (Client.load "client.json" (.text nearbyCredentials)).bind
    Service.ofClient with
  | ok service =>
      rw [hLoads] at hThere
      exact ⟨service, rfl, hThere⟩
  | error e =>
      rw [hLoads] at hThere
      cases hThere

/-- A token that is due is renewed by such a call. -/
theorem make_accessAt {t : Token} {now : Int} {replies : List Http.Reply} {refresh : String}
    {granted : Granted} (hDue : t.expiresWithin (Int64.ofInt now) leeway = true)
    (hHad : t.refresh = some refresh) (hGrants : Grants (accessAt now replies).server granted) :
    ((accessAt now replies).make "token.json" (filesOf t)).1 = .ok () ∧
      ((accessAt now replies).make "token.json" (filesOf t)).2.files =
        filesOf (granted.renewed t refresh (Int64.ofInt now)) := by
  obtain ⟨service, hLoads, hThere⟩ := loads_accessAt now replies
  rw [← read_client_filesOf t] at hLoads
  obtain ⟨hResult, hFiles⟩ := accessToken_of_grants
    (m := (accessAt now replies).machine (filesOf t)) (held_filesOf t) hDue hHad hLoads
    hThere hGrants (write_filesOf t _)
  exact ⟨congrArg (Except.map fun _ => ()) hResult, hFiles⟩

/-- A call that ends well with another token in the file has brought it. -/
private theorem brings_of_make {o : Occasion} {t t' : Token} (hOther : t ≠ t')
    (hOk : (o.make "token.json" (filesOf t)).1 = .ok ())
    (hFiles : (o.make "token.json" (filesOf t)).2.files = filesOf t') :
    Brings "token.json" (filesOf t) o t' := by
  have hEnded := make_ended "token.json" (filesOf t) o
  generalize o.make "token.json" (filesOf t) = made at hEnded hOk hFiles
  obtain ⟨result, m'⟩ := made
  have hHeld : Held m'.files "token.json" t' := by
    rw [show m'.files = filesOf t' from hFiles]
    exact held_filesOf t'
  cases hEnded with
  | unasked errand alike =>
      have hSame : m'.files = filesOf t := alike.files
      rw [hSame] at hHeld
      exact absurd ((held_filesOf t).unique hHeld) hOther
  | stopped due kept => cases hOk
  | saved due held brings => rwa [hHeld.unique held]

private theorem not_due_hourLong : ¬Due (filesOf hourLong) "token.json" 0 := by
  rintro ⟨t, hHeld, hExpires⟩
  obtain rfl := (held_filesOf hourLong).unique hHeld
  rcases hExpires with hUnknown | ⟨expiry, hExpiry, hWithin, -⟩
  · cases hUnknown
  · cases hExpiry
    exact absurd hWithin (by decide)

/-- An answer with an object of these members. -/
def answering (members : List (Option String × Json)) : Http.Answer :=
  ⟨200, "application/json", Text.Utf8.encode (Json.compact (.object members))⟩

/-- Members without a refresh token and without scopes. -/
def plainGrant : List (Option String × Json) :=
  [(some "access_token", .ofString "b"), (some "token_type", .ofString "Bearer"),
    (some "expires_in", .integer 3600)]

/-- Members with another refresh token and scopes, and something else between them. -/
def rotatedGrant : List (Option String × Json) :=
  [(some "scope", .ofString "s t"), (some "id", .array [.integer 1]),
    (some "access_token", .ofString "c"), (some "refresh_token", .ofString "r2"),
    (some "token_type", .ofString "Bearer"), (some "expires_in", .null)]

private theorem says_plainGrant : Says plainGrant ⟨"b", some 3600, none, none⟩ where
  record := by decide
  kind := ⟨"Bearer", rfl⟩
  access := rfl
  expiresIn := .value rfl
  refresh := .missing rfl
  scopes := ⟨none, .missing rfl, rfl⟩
  others := by decide

private theorem says_rotatedGrant : Says rotatedGrant ⟨"c", none, some "r2", some ["s", "t"]⟩ where
  record := by decide
  kind := ⟨"Bearer", rfl⟩
  access := rfl
  expiresIn := .null rfl
  refresh := .value rfl
  scopes := ⟨some "s t", .value rfl, by decide⟩
  others := by decide +kernel

private theorem layout_plainGrant :
    Json.Layout (.object plainGrant) (Json.compact (.object plainGrant)) := by
  refine Json.Plain.layout_compact (.object (by decide) ?_)
  simp [plainGrant]

private theorem layout_rotatedGrant :
    Json.Layout (.object rotatedGrant) (Json.compact (.object rotatedGrant)) := by
  have hItems : (Json.array [.integer 1]).Plain :=
    .array (List.forall_mem_singleton.2 (.integer 1))
  refine Json.Plain.layout_compact (.object (by decide) ?_)
  simp [rotatedGrant, Json.ofString, Json.Plain.string, Json.Plain.null, hItems]

/-- The hour is over, and the token is renewed twice: the first reply keeps its refresh token and
its scopes, the second one brings others, which a dropped connection does not take away. -/
theorem refresh_token_kept_rotated :
    let first := accessAt 3600000 [.answer (answering plainGrant)]
    let second := accessAt 7200000 [.answer (answering rotatedGrant)]
    let third := accessAt 7200000 []
    let kept : Token := ⟨"b", some "r", some 7200000, ["s"], 3600000⟩
    let rotated : Token := ⟨"c", some "r2", none, ["s", "t"], 7200000⟩
    ¬Due (filesOf hourLong) "token.json" 0 ∧
      ((accessAt 0 []).make "token.json" (filesOf hourLong)).2.files = filesOf hourLong ∧
      Brings "token.json" (filesOf hourLong) first kept ∧
      Brings "token.json" (filesOf kept) second rotated ∧
      Refreshable (filesOf hourLong) "token.json" ∧
      Held (afterwards "token.json" (filesOf hourLong) [first, second]) "token.json" rotated ∧
      Refreshable (afterwards "token.json" (filesOf hourLong) [first, second, third])
        "token.json" := by
  intro first second third kept rotated
  obtain ⟨hCall, hCalls, hText⟩ := refresh_token_kept "token.json"
  have hStart : Refreshable (filesOf hourLong) "token.json" :=
    ⟨hourLong, "r", held_filesOf hourLong, rfl⟩
  have hPlainGrant := hText first.server (answering plainGrant) _ _ _ rfl rfl (by decide)
    layout_plainGrant rfl says_plainGrant
  have hRotatedGrant := hText second.server (answering rotatedGrant) _ _ _ rfl rfl (by decide)
    layout_rotatedGrant rfl says_rotatedGrant
  obtain ⟨hFirst, hKept⟩ := make_accessAt (t := hourLong) (by decide) rfl hPlainGrant.2
  obtain ⟨hSecond, hRotated⟩ := make_accessAt (t := kept) (by decide) rfl hRotatedGrant.2
  have hPlain : Granted.renewed ⟨"b", some 3600, none, none⟩ hourLong "r"
      (Int64.ofInt 3600000) = kept := by decide
  have hScoped : Granted.renewed ⟨"c", none, some "r2", some ["s", "t"]⟩ kept "r"
      (Int64.ofInt 7200000) = rotated := by decide
  rw [hPlain] at hKept
  rw [hScoped] at hRotated
  have hLater : afterwards "token.json" (filesOf hourLong) [first, second] =
      filesOf rotated := by
    rw [afterwards, afterwards, afterwards]
    exact (congrArg (fun files => (second.make "token.json" files).2.files) hKept).trans hRotated
  obtain ⟨hRests, -⟩ := (hCall (filesOf hourLong) (accessAt 0 [])).2.2 rfl
    not_due_hourLong
  have hHeld : Held (afterwards "token.json" (filesOf hourLong) [first, second]) "token.json"
      rotated := by
    rw [hLater]
    exact held_filesOf rotated
  exact ⟨not_due_hourLong, hRests, brings_of_make (by decide) hFirst hKept,
    brings_of_make (by decide) hSecond hRotated, hStart, hHeld, hCalls _ _ hStart⟩

end Mailroom.OAuth
