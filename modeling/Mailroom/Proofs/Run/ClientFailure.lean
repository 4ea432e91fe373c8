import Mailroom.Proofs.Provider.Reply
import Mailroom.Proofs.Rule.Trace
import Mailroom.Proofs.Rule.Validity
import Mailroom.Proofs.Run.RuleLoop

/-!
# A client never ends the rules of a run

The loop over the rules ends early for errors of the store alone, and whatever a
server replies, what stops a client is no such error. So a rule of a run over a
client that ends the loop has failed in the store: its query had no answer, or a row
that it gave cannot be read. The other way to end early is that the run is
interrupted while it waits for a reply.
-/

namespace Mailroom

variable {σ : Type}

namespace Rule

/-- The rule fails in the store, with this error: its query has no answer, or a row that
it gives cannot be read. -/
def FailsInStore (rule : Rule) (w : World σ) (e : Error) : Prop :=
  ∃ query, rule.compile = .ok query ∧
    (w.store.query query.sql query.arguments w.now = .error e ∨
      ∃ rows, w.store.query query.sql query.arguments w.now = .ok rows ∧
        ∃ row ∈ rows, row.decode = .error e)

section

variable {p : Provider σ} {rule : Rule} {w : World σ} (hValid : rule.validate = .ok ())
include hValid

/-- A valid rule changes the provider by calls alone, and it stops in the store or at a
call. -/
theorem ends_of_valid :
    (∃ calls, (rule.apply p w).2.remote = p.after calls w.remote) ∧
      ∀ stop, (rule.apply p w).1 = .error stop →
        (∃ e, stop = .failed e ∧ rule.FailsInStore w e) ∨
          ∃ calls call, p.stop? (p.after calls w.remote) call = some stop := by
  obtain ⟨-, ⟨query, hCompile⟩, actions, hActions⟩ := validate_eq_ok_iff.1 hValid
  cases hQuery : w.store.query query.sql query.arguments w.now with
  | error e =>
      rw [apply_of_query_error hCompile hActions hQuery]
      refine ⟨⟨[], rfl⟩, fun stop hStop => ?_⟩
      cases hStop
      exact .inl ⟨e, rfl, query, hCompile, .inl hQuery⟩
  | ok rows =>
      obtain ⟨⟨calls, hMade⟩, hStop⟩ := apply_ends (p := p) hCompile hActions hQuery
      refine ⟨⟨calls, hMade.remote⟩, fun stop hResult => ?_⟩
      rcases hStop stop hResult with ⟨row, hRow, e, hDecode, rfl⟩ | hCall
      · exact .inl ⟨e, rfl, query, hCompile, .inr ⟨rows, hQuery, row, hRow, hDecode⟩⟩
      · exact .inr hCall

end

end Rule

namespace Run

open Gmail (provider script_after CallsAnswer)

/-! ## Rules over a client -/

section

variable {rule : Rule} {w : World Gmail} (hValid : rule.validate = .ok ())
include hValid

/-- No rule adds to the replies. -/
theorem script_apply : (rule.apply provider w).2.remote.script ⊆ w.remote.script := by
  obtain ⟨⟨calls, hAfter⟩, -⟩ := Rule.ends_of_valid (p := provider) (w := w) hValid
  rw [hAfter]
  exact script_after w.remote calls

/-- **What stops a rule over a client** so that the loop ends. -/
theorem stop_of_apply {stop : Stop} (hStop : (rule.apply provider w).1 = .error stop)
    (hHalts : Halts (.error stop)) :
    (∃ e, stop = .failed e ∧ e.isStore = true ∧ rule.FailsInStore w e) ∨
      (stop = .interrupted ∧ .interrupted ∈ w.remote.script) := by
  obtain ⟨-, hEnds⟩ := Rule.ends_of_valid (p := provider) (w := w) hValid
  rcases hEnds stop hStop with ⟨e, rfl, hStore⟩ | ⟨calls, call, hCall⟩
  · exact .inl ⟨e, rfl, halts_failed_iff.1 hHalts, hStore⟩
  · rcases Gmail.stop?_cases hCall with ⟨e, rfl, hRemote⟩ | ⟨rfl, hReply⟩
    · rw [halts_failed_iff, hRemote] at hHalts
      cases hHalts
    · exact .inr ⟨rfl, script_after w.remote calls hReply⟩

end

private theorem script_afterRules {rules : List Rule} {w : World Gmail}
    (hValid : ∀ rule ∈ rules, rule.validate = .ok ()) :
    (afterRules provider rules w).remote.script ⊆ w.remote.script := by
  induction rules generalizing w with
  | nil => exact List.Subset.refl _
  | cons rule rules ih =>
      obtain ⟨hFirst, hRest⟩ := List.forall_mem_cons.1 hValid
      exact List.Subset.trans (ih hRest) (script_apply hFirst)

/-! ## The loop -/

/-- An outcome is that of a rule, applied to what the rules before it have left. -/
theorem outcome_eq {p : Provider σ} {rules : List Rule} {w : World σ} {k : Nat}
    {outcome : Except Stop Rule.Report} (h : (outcomes p rules w)[k]? = some outcome) :
    ∃ rule, rules[k]? = some rule ∧
      outcome = (rule.apply p (afterRules p (rules.take k) w)).1 := by
  induction rules generalizing w k with
  | nil => cases h
  | cons rule rules ih =>
      cases k with
      | zero => exact ⟨rule, rfl, (Option.some.inj h).symm⟩
      | succ k => exact ih h

/-- Either none of the outcomes halts, or one is the first. -/
theorem first_halt (os : List (Except Stop Rule.Report)) :
    (∀ outcome ∈ os, ¬Halts outcome) ∨
      ∃ k stop, os[k]? = some (.error stop) ∧ Halts (.error stop) ∧
        ∀ outcome ∈ os.take k, ¬Halts outcome := by
  induction os with
  | nil => exact .inl fun outcome h => by cases h
  | cons outcome os ih =>
      by_cases hHalts : Halts outcome
      · cases outcome with
        | ok report => exact absurd hHalts id
        | error stop => exact .inr ⟨0, stop, rfl, hHalts, fun outcome h => by cases h⟩
      · rcases ih with hNone | ⟨k, stop, hHere, hHalt, hBefore⟩
        · exact .inl (List.forall_mem_cons.2 ⟨hHalts, hNone⟩)
        · refine .inr ⟨k + 1, stop, hHere, hHalt, ?_⟩
          rw [List.take_succ_cons]
          exact List.forall_mem_cons.2 ⟨hHalts, hBefore⟩

/-- A document without rules ends a run well. -/
theorem run_of_no_rules {p : Provider σ} {o : Options} (hSkip : o.skipRules = false)
    {text : String} (hRules : Rule.parseDocument text = .ok []) {w w₁ : World σ}
    {synced : Option Sync.Report} (hSync : syncIfNeeded p o w = (.ok synced, w₁)) :
    (run p o (some text) w).1 = .ok ⟨synced, 0, 0⟩ := by
  have hLoad : Rule.loadDocument o.rulesFile (some text) = .ok [] := by
    simp only [Rule.loadDocument, hRules]
  rw [run, Call.bind_of_ok hSync]
  simp only [hSkip, hLoad, Bool.false_eq_true, if_false]
  rfl

/-- How a run over a client ends that has synced and left this world: well, or with a
rule that failed in the store, or it was interrupted by a reply. -/
inductive LoopEnds (rules : List Rule) (w : World Gmail) : Except Stop Summary → Prop
  | well (summary : Summary) : LoopEnds rules w (.ok summary)
  | store {k : Nat} {rule : Rule} {e : Error} (here : rules[k]? = some rule)
      (code : e.isStore = true)
      (fails : rule.FailsInStore (afterRules provider (rules.take k) w) e) :
      LoopEnds rules w (.error (.failed e))
  | interrupted (reply : .interrupted ∈ w.remote.script) :
      LoopEnds rules w (.error .interrupted)

/-- **The failures of a client stay with it.** Each call of a client reports on the
reply to its request: it goes through for an answer with success that holds what the
call expects, and otherwise fails with an error of the provider, which for an answer
without success has its status and text. And whatever the replies are, once a run
has synced, it ends well, or with a rule that failed in the store. -/
theorem client_failures :
    (∀ g : Gmail, CallsAnswer g) ∧
      ∀ {o : Options} {text : String} {rules : List Rule} {w w₁ : World Gmail}
        {synced : Option Sync.Report}, o.skipRules = false →
          Rule.parseDocument text = .ok rules →
            syncIfNeeded provider o w = (.ok synced, w₁) →
              LoopEnds rules w₁ (run provider o (some text) w).1 := by
  refine ⟨Gmail.calls_answer, fun {o text rules w w₁ synced} hSkip hRules hSync => ?_⟩
  have hValid := Rule.validate_of_parseDocument hRules
  by_cases hSome : rules = []
  · subst hSome
    rw [run_of_no_rules hSkip hRules hSync]
    exact .well _
  obtain ⟨w₂, hSame, hRun⟩ := run_of_rules hSkip hRules hSome hSync
  rw [hRun]
  rcases first_halt (outcomes provider rules w₁) with
    hNone | ⟨k, stop, hHere, hHalts, hBefore⟩
  · obtain ⟨w', -, hAll⟩ := applyAll_of_none hSame hNone
    rw [Call.bind_of_ok hAll]
    exact .well _
  · obtain ⟨w', -, hLoop⟩ := applyAll_of_halts hSame hHere hHalts hBefore
    obtain ⟨rule, hRule, hOutcome⟩ := outcome_eq hHere
    rw [Call.bind_of_error hLoop]
    have hThis := hValid rule (List.mem_of_getElem? hRule)
    rcases stop_of_apply hThis hOutcome.symm hHalts with
      ⟨e, rfl, hCode, hFails⟩ | ⟨rfl, hReply⟩
    · exact .store hRule hCode hFails
    · refine .interrupted (script_afterRules (fun rule hMem => ?_) hReply)
      exact hValid rule (List.mem_of_mem_take hMem)

/-- An account with the history id of the noted message. -/
def accountText : String := "\x7b\"emailAddress\":\"a\",\"historyId\":\"1000\"\x7d"

/-- A store with one message, and a server that has an account, then an error, and then
no answer. -/
def faltering : World Gmail where
  remote := Gmail.nearby [.answer ⟨200, "application/json",
    Text.Utf8.encode accountText.toList⟩, .answer ⟨500, "text/plain", []⟩, .dropped]
  store := (noted [] []).store
  now := 0
  log := []

private theorem profile_faltering :
    (provider.profile faltering.remote).1 = .ok ⟨"a", "1000", 0, 0⟩ := by
  have hHeard : Gmail.heard "profile" faltering.remote.server.upcoming.arrived =
      .ok accountText := by decide +kernel
  have hRead : (Json.parse? accountText).bind Profile.ofJson? =
      some ⟨"a", "1000", 0, 0⟩ := by decide +kernel
  have hProfile := (Gmail.profile_nearby faltering.remote.server.replies).2
  rw [show Gmail.nearby faltering.remote.server.replies = faltering.remote from rfl, hHeard,
    Except.bind, Gmail.expect, hRead] at hProfile
  exact hProfile

/-- The account is the same, so that the rules are applied, over the other replies. -/
theorem client_failures_faltering :
    Rule.parseDocument twoRules = .ok [lost, seen] ∧
      ∃ w₁, syncIfNeeded provider withRules faltering = (.ok none, w₁) ∧
        LoopEnds [lost, seen] w₁ (run provider withRules (some twoRules) faltering).1 := by
  have hStats : faltering.store.stats = .ok ⟨some "1000", 1⟩ := by decide +kernel
  have hSync : (syncIfNeeded provider withRules faltering).1 = .ok none := by
    have hProfile : Session.remote provider.profile faltering = (.ok ⟨"a", "1000", 0, 0⟩, _) :=
      Prod.ext profile_faltering rfl
    rw [syncIfNeeded, Call.bind_of_ok (Session.read_ok hStats), Call.bind_of_ok hProfile]
    rfl
  exact ⟨parseDocument_twoRules, _, Prod.ext hSync rfl,
    client_failures.2 rfl parseDocument_twoRules (Prod.ext hSync rfl)⟩

end Run

end Mailroom
