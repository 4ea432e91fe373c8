import Mailroom.Proofs.Rule.Failure
import Mailroom.Proofs.Run.Reading
import Mailroom.Proofs.Run.RuleLoop

/-!
# Documents that are refused

A run reads its document after the sync and before the first rule. If a rule of
it is of no use, the run ends there: what has been asked of the provider are the
profile, listings and messages, and nothing has changed since the sync. So a bad
rule does not leave the good ones before it half applied.

The rules of a document that is accepted do not fail for what they say. One that
fails later fails as the provider or the store does, or has a move to a label
that the provider does not know, which is not looked up before.
-/

namespace Mailroom.Run

open Session (Keeps)

variable {σ : Type}

/-- If the document is refused, a run is a sync, if that is due, and the error. -/
theorem run_of_refused {p : Provider σ} {o : Options} (hSkip : o.skipRules = false)
    {text : String} {e : Error} (hRefused : Rule.parseDocument text = .error e) :
    run p o (some text) = (syncIfNeeded p o >>= fun _ =>
      Session.ofExcept (.error (.rulesFile o.rulesFile e))) := by
  have hLoad : Rule.loadDocument o.rulesFile (some text) =
      .error (.rulesFile o.rulesFile e) := by
    simp only [Rule.loadDocument, hRefused]
  simp only [run, hSkip, hLoad, Bool.false_eq_true, if_false]
  rfl

/-- **A document is refused or its rules are sound.** If a rule of it is of no
use, no label is asked for and none is changed, and a run that has synced ends
with the error of the first such rule and leaves all as the sync did. If it is
accepted, no rule of it fails with an error of a rule, and none with an error of
an action unless the provider has no label of the name that a move has. -/
theorem refuses_or_accepts (p : Provider σ) (o : Options) (text : String) :
    (∀ rules, Rule.ofText? text = some rules → (∃ rule ∈ rules, rule.Unusable) →
      o.skipRules = false → ∀ w : World (Traced σ),
        OnlyRead w.remote.calls (run p.traced o (some text) w).2.remote ∧
        ∀ synced w₁, syncIfNeeded p.traced o w = (.ok synced, w₁) →
          ∃ k rule cause e, rules[k]? = some rule ∧ rule.Unusable ∧
            (∀ earlier ∈ rules.take k, ¬earlier.Unusable) ∧
            rule.validate = .error cause ∧ e.code = .invalidRulesFile ∧
            e = .rulesFile o.rulesFile (.ruleAt (k + 1) rule.name cause) ∧
            run p.traced o (some text) w = (.error (.failed e), w₁)) ∧
    ∀ rules, Rule.parseDocument text = .ok rules → p.Candid → ∀ rule ∈ rules,
      ∀ (w w' : World σ) (e : Error), rule.apply p w = (.error (.failed e), w') →
        e.code ≠ .invalidRule ∧
          (e.code = .invalidAction → Rule.Unresolved p rule e w'.remote) := by
  constructor
  · intro rules hRead hBad hSkip w
    obtain ⟨k, rule, cause, hAt, hHere, hBefore, hCause, hNamed⟩ :=
      Rule.validateFrom_of_unusable hBad 1
    rw [Nat.add_comm] at hNamed
    have hRefused : Rule.parseDocument text =
        .error (.ruleAt (k + 1) rule.name cause) := by
      simp only [Rule.parseDocument, hRead, hNamed]
    rw [run_of_refused hSkip hRefused]
    constructor
    · have hKeeps : Keeps (Upheld (OnlyRead w.remote.calls))
          (syncIfNeeded p.traced o >>= fun _ => (Session.ofExcept (.error
            (.rulesFile o.rulesFile (.ruleAt (k + 1) rule.name cause))) :
              Session (Traced σ) Summary)) :=
        (keeps_syncIfNeeded (onlyRead_traced p _) o).bind fun _ => .ofExcept _
      exact hKeeps.apply ⟨[], rfl, by simp⟩
    · intro synced w₁ hSync
      refine ⟨k, rule, cause, _, hAt, hHere, hBefore, hCause, rfl, rfl, ?_⟩
      rw [Call.bind_of_ok hSync]
      rfl
  · intro rules hAccepted hCandid rule hMem w w' e hApply
    exact (Rule.apply_blames hCandid (Rule.validate_of_parseDocument hAccepted rule hMem)
      hApply).code

/-- A document with a second rule that does not compile. -/
def badRules : String :=
  "rules:\n- name: seen\n  match: all\n  actions:\n  - type: read\n" ++
    "- name: bad\n  match: none\n"

/-- Its second rule. -/
def bad : Rule := ⟨"bad", "none", [], []⟩

private theorem ofText?_badRules : Rule.ofText? badRules = some [seen, bad] := by
  rw [Rule.ofText?, Yaml.documents?, Yaml.words?, Yaml.Scan.linear_eq]
  decide +kernel

/-- A store that has the message of the mailbox, before any call. -/
def untouched : World (Traced Mailbox) where
  remote := ⟨(noted [] []).remote, []⟩
  store := (noted [] []).store
  now := 0
  log := []

section

open Mailbox (provider)

/-- A document is refused for its second rule, and a rule of another one that is
accepted fails for want of a label. -/
theorem refuses_or_accepts_second :
    Rule.ofText? badRules = some [seen, bad] ∧ Rule.Unusable bad ∧
    OnlyRead [] (run provider.traced withRules (some badRules) untouched).2.remote ∧
    (∃ w, syncIfNeeded provider.traced withRules untouched = (.ok none, w) ∧
      run provider.traced withRules (some badRules) untouched =
        (.error (.failed (.rulesFile "rules.yaml"
          (.ruleAt 2 "bad" (.matchMode "none")))), w)) ∧
    Rule.parseDocument twoRules = .ok [lost, seen] ∧ provider.Candid ∧
      ∃ w, lost.apply provider (noted [] []) =
          (.error (.failed (.unknownLabel "X")), w) ∧
        Rule.Unresolved provider lost (.unknownLabel "X") w.remote := by
  have hBad : Rule.Unusable bad := .query (e := .matchMode "none") rfl
  have hSync : (syncIfNeeded provider.traced withRules untouched).1 = .ok none := by
    decide +kernel
  obtain ⟨hRefused, -⟩ := refuses_or_accepts provider withRules badRules
  obtain ⟨hOnly, hNamed⟩ := hRefused _ ofText?_badRules ⟨bad, by simp, hBad⟩ rfl untouched
  obtain ⟨k, rule, cause, e, hAt, hHere, hBefore, hCause, -, hError, hRun⟩ :=
    hNamed none _ (Prod.ext hSync rfl)
  have hSecond : k = 1 ∧ rule = bad ∧ cause = .matchMode "none" := by
    rcases k with _ | _ | k
    · cases hAt
      exact absurd hHere (Rule.not_unusable_iff.2 rfl)
    · cases hAt
      cases hCause
      exact ⟨rfl, rfl, rfl⟩
    · cases hAt
  obtain ⟨rfl, rfl, rfl⟩ := hSecond
  subst hError
  have hNoRows : ∀ row ∈ ([] : List Store.Row), row.length = Store.Column.all.length := by
    simp
  obtain ⟨log, hLost⟩ := apply_lost [] hNoRows
  obtain ⟨-, hAccepted⟩ := refuses_or_accepts provider withRules twoRules
  obtain ⟨-, hMissing⟩ := hAccepted _ parseDocument_twoRules Mailbox.candid_mailbox lost (by simp)
    _ _ _ hLost
  exact ⟨ofText?_badRules, hBad, hOnly, ⟨_, Prod.ext hSync rfl, hRun⟩, parseDocument_twoRules,
    Mailbox.candid_mailbox, _, hLost, hMissing rfl⟩

end

end Mailroom.Run
