import Mailroom.Proofs.OAuth.Renewal
import Mathlib.Algebra.Group.Nat.Defs
import Mathlib.Algebra.Ring.Int.Defs
import Mathlib.Data.UInt

/-!
# When a token expires

Times are words of 64 bits, and nothing is checked where they are calculated. A token has expired
if what is left of it is not more than the leeway. What is left is the distance from now to the
expiry. That is right unless the expiry lies more than 2⁶³ milliseconds back: then the distance
comes out positive, and a token that expired long ago counts as good. No expiry from 1970 on lies
that far back, and a token with one has expired for good once it has.

The expiry of a granted token is the time of the reply with the granted seconds put behind it, a
thousand milliseconds each, as far as that fits a word. Of what does not fit the high bits are cut
off, so a token for a very long time may expire at once.
-/

namespace Mailroom.OAuth

variable {t : Token} {expiry now later margin : Int64} {seconds : UInt64}

/-! ## What counts as expired -/

/-- The expiry lies so far back that no word is as small as the distance to it. -/
def LongPast (expiry now : Int64) : Prop := expiry.toInt < now.toInt - 2 ^ 63

/-- The distance from now to an expiry is right, or it is taken for one that lies ahead. -/
theorem toInt_distance (expiry : Int64) (hNow : 0 ≤ now.toInt) :
    (¬LongPast expiry now → (expiry - now).toInt = expiry.toInt - now.toInt) ∧
      (LongPast expiry now → (expiry - now).toInt = expiry.toInt - now.toInt + 2 ^ 64) := by
  have hLeast := Int64.le_toInt expiry
  have hMost := Int64.toInt_lt expiry
  have hLast := Int64.toInt_lt now
  unfold LongPast
  rw [Int64.toInt_sub, Int.bmod_def]
  omega

private theorem expiresWithin_eq (h : t.expiresAt = some expiry) :
    t.expiresWithin now margin = true ↔ (expiry - now).toInt ≤ margin.toInt := by
  simp [Token.expiresWithin, h, Int64.le_iff_toInt_le]

/-- **What counts as expired**: a token whose expiry is not later than the leeway allows, unless
it lies so far back that the distance to it is wrong. -/
theorem expiresWithin_iff (h : t.expiresAt = some expiry) (hNow : 0 ≤ now.toInt)
    (margin : Int64) :
    (¬LongPast expiry now →
        (t.expiresWithin now margin = true ↔ expiry.toInt ≤ now.toInt + margin.toInt)) ∧
      (LongPast expiry now →
        (t.expiresWithin now margin = true ↔
          expiry.toInt + 2 ^ 64 ≤ now.toInt + margin.toInt)) := by
  obtain ⟨hNear, hFar⟩ := toInt_distance expiry hNow
  rw [expiresWithin_eq h]
  constructor
  · intro hNot
    rw [hNear hNot]
    omega
  · intro hPast
    rw [hFar hPast]
    omega

/-- No expiry from 1970 on lies too far back. -/
theorem not_longPast (hExpiry : 0 ≤ expiry.toInt) (now : Int64) : ¬LongPast expiry now := by
  have hLast := Int64.toInt_lt now
  unfold LongPast
  omega

/-- **What has expired stays so**, as long as its expiry does not lie too far back. -/
theorem expiresWithin_later (h : t.expiresAt = some expiry) (hNow : 0 ≤ now.toInt)
    (hLater : now.toInt ≤ later.toInt) (hNot : ¬LongPast expiry later)
    (hExpired : t.expiresWithin now margin = true) : t.expiresWithin later margin = true := by
  have hBefore : ¬LongPast expiry now := by
    unfold LongPast at hNot ⊢
    omega
  rw [(expiresWithin_iff h hNow margin).1 hBefore] at hExpired
  rw [(expiresWithin_iff h (by omega) margin).1 hNot]
  omega

/-! ## The expiry of what is granted -/

/-- The millisecond that something ends at which is granted for some seconds from now. -/
def endOf (now : Int64) (seconds : UInt64) : Int := now.toInt + 1000 * seconds.toNat

/-- **The expiry of what is granted** is the end of it, as a word. -/
theorem toInt_expiry (granted : Granted) (now : Int64) :
    (granted.expiry now).map Int64.toInt =
      granted.expiresIn.map fun seconds => (endOf now seconds).bmod (2 ^ 64) := by
  have hWord (seconds : UInt64) : (now + Int64.ofNat (seconds.toNat * 1000)).toInt =
      (endOf now seconds).bmod (2 ^ 64) := by
    show _ = (now.toInt + 1000 * (seconds.toNat : Int)).bmod (2 ^ 64)
    rw [Int64.toInt_add, Int64.toInt_ofNat', Int64.size, Int.add_bmod_bmod, Int.natCast_mul,
      Int.mul_comm]
    rfl
  rw [Granted.expiry, Option.map_map]
  exact congrArg (Option.map · granted.expiresIn) (funext hWord)

/-- The word is exact if the end fits one. -/
theorem bmod_endOf_iff (hNow : 0 ≤ now.toInt) :
    (endOf now seconds).bmod (2 ^ 64) = endOf now seconds ↔ endOf now seconds < 2 ^ 63 := by
  have hFirst : 0 ≤ endOf now seconds := by
    unfold endOf
    omega
  rw [Int.bmod_def]
  omega

/-- The service gives a token, for a code or for a token before it. -/
inductive Issues (s : Service) (server : Http.Server) (now : Int64) (t : Token) : Prop
  | exchange {code verifier server'}
      (given : s.exchange code verifier now server = (.ok t, server'))
  | renew {old server'} (given : s.renew old now server = (.ok t, server'))

/-- A token that is issued has the expiry of what the server grants. -/
theorem Issues.expiresAt {s : Service} {server : Http.Server} (h : Issues s server now t) :
    ∃ granted, Grants server granted ∧ t.expiresAt.map Int64.toInt =
      granted.expiresIn.map fun seconds => (endOf now seconds).bmod (2 ^ 64) := by
  cases h with
  | exchange given =>
      obtain ⟨granted, refresh, hGrants, -, rfl⟩ := exchange_ok given
      exact ⟨granted, hGrants, toInt_expiry granted now⟩
  | renew given =>
      obtain ⟨granted, refresh, hGrants, -, rfl⟩ := renew_ok given
      exact ⟨granted, hGrants, toInt_expiry granted now⟩

/-- **Expiry in words.** From 1970 on, a token without an expiry has expired. One with an expiry
has expired exactly if the expiry is not later than the leeway allows, and stays so, unless the
expiry lies more than 2⁶³ milliseconds back: then 2⁶⁴ milliseconds are added to it. The expiry of
a token that the service gives is the time of the reply and a thousand milliseconds for each
second that the server grants, less a multiple of 2⁶⁴; it is exact if and only if it is below
2⁶³. -/
theorem expiry_in_words (now margin : Int64) (hNow : 0 ≤ now.toInt) :
    (∀ t : Token, t.expiresAt = none → t.expiresWithin now margin = true) ∧
    (∀ (t : Token) (expiry : Int64), t.expiresAt = some expiry →
      (¬LongPast expiry now →
        (t.expiresWithin now margin = true ↔ expiry.toInt ≤ now.toInt + margin.toInt)) ∧
      (LongPast expiry now →
        (t.expiresWithin now margin = true ↔
          expiry.toInt + 2 ^ 64 ≤ now.toInt + margin.toInt)) ∧
      ∀ later : Int64, now.toInt ≤ later.toInt → ¬LongPast expiry later →
        t.expiresWithin now margin = true → t.expiresWithin later margin = true) ∧
    (∀ (s : Service) (server : Http.Server) (t : Token), Issues s server now t →
      ∃ granted, Grants server granted ∧ t.expiresAt.map Int64.toInt =
        granted.expiresIn.map fun seconds => (endOf now seconds).bmod (2 ^ 64)) ∧
    ∀ seconds : UInt64,
      (endOf now seconds).bmod (2 ^ 64) = endOf now seconds ↔ endOf now seconds < 2 ^ 63 := by
  refine ⟨fun t h => Token.expiresWithin_unknown h now margin, fun t expiry h => ?_,
    fun s server t h => h.expiresAt, fun seconds => bmod_endOf_iff hNow⟩
  obtain ⟨hNear, hFar⟩ := expiresWithin_iff h hNow margin
  exact ⟨hNear, hFar, fun later => expiresWithin_later h hNow⟩

/-! ## Tokens of a server on the same machine -/

/-- The token endpoint of a server on the same machine, for a client without a secret. -/
def nearbyEndpoint : Service :=
  let authority : Url.Authority := ⟨"", "", .ipv4 (127 <<< 24 + 1), none⟩
  let url : Url := ⟨"http", some authority, .segments ["token"], none, none⟩
  ⟨⟨"c", none, "", "", []⟩, url, url⟩

/-- A server on the same machine that grants a token for some seconds. -/
def grantingServer (seconds : Nat) : Http.Server :=
  let body := "\x7b\"access_token\": \"b\", \"token_type\": \"bearer\", \"expires_in\": " ++
    natText seconds ++ "\x7d"
  let reply : Http.Answer := ⟨200, "application/json", Text.Utf8.encode body.toList⟩
  ⟨[.ipv4 (127 <<< 24 + 1)], 80, [.answer reply], .dropped, []⟩

/-- The hour of a token is over, and it is renewed for another one. -/
theorem expiry_in_words_hours :
    0 ≤ (3600000 : Int64).toInt ∧ ¬LongPast 3600000 3600000 ∧
      hourLong.expiresWithin 3600000 leeway = true ∧
      Issues nearbyEndpoint (grantingServer 3600) 3600000
        ⟨"b", some "r", some 7200000, ["s"], 3600000⟩ ∧
      ∃ granted, Grants (grantingServer 3600) granted ∧ some 7200000 =
        granted.expiresIn.map fun seconds => (endOf 3600000 seconds).bmod (2 ^ 64) := by
  have hNow : 0 ≤ (3600000 : Int64).toInt := by decide
  have hNot : ¬LongPast 3600000 3600000 := not_longPast (by decide) _
  have hRenewed : (nearbyEndpoint.renew hourLong 3600000 (grantingServer 3600)).1 =
      .ok ⟨"b", some "r", some 7200000, ["s"], 3600000⟩ := by decide +kernel
  have hIssues : Issues nearbyEndpoint (grantingServer 3600) 3600000
      ⟨"b", some "r", some 7200000, ["s"], 3600000⟩ := .renew (Prod.ext hRenewed rfl)
  obtain ⟨-, hExpired, hIssued, -⟩ := expiry_in_words 3600000 leeway hNow
  obtain ⟨hNear, -, -⟩ := hExpired hourLong 3600000 rfl
  exact ⟨hNow, hNot, (hNear hNot).2 (by decide), hIssues, hIssued _ _ _ hIssues⟩

/-- **Expiry wraps.** A token in a file whose expiry is the least of all words counts as good
from the first millisecond of 1970 on, and the token that is granted for 2⁶¹ seconds then expires
at once. -/
theorem expiry_wraps :
    let old : Token := ⟨"a", some "r", some Int64.minValue, [], 0⟩
    Token.load "token.json" (.text old.render) = .ok (some old) ∧
      Int64.minValue.toInt ≤ (1 : Int64).toInt + leeway.toInt ∧
      old.expiresWithin 1 leeway = false ∧
      (nearbyEndpoint.renew old 1 (grantingServer (2 ^ 61))).1 =
        .ok ⟨"b", some "r", some 1, [], 1⟩ ∧
      (1 : Int64).toInt ≠ endOf 1 (2 ^ 61) := by
  decide +kernel

end Mailroom.OAuth
