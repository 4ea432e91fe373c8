import Mailroom.Proofs.Rule.Mirror
import Mailroom.Proofs.Sorting
import Mailroom.Proofs.Store.ReadBack
import Mailroom.Run

/-!
# The rules of a run

A run applies its rules in their order. What a rule leaves is what the next one
finds, whether the rule went through or failed on the way, so `afterRules` is
told without a word about how rules end. `outcomes` lists how they end, and an
outcome that halts is where the run ends, with that outcome; the rules behind it
are not looked at.

The loop writes lines into the log between the rules. Rules do not see them:
`unswayed_apply` says that a rule ends in the same way whatever has been logged,
and all worlds here are compared without their logs. Everything else is
compared, the state of the provider too, and if that is one that keeps the
calls, then the calls.

## Main results

* `applyAll_of_none`: rules of which none halts.
* `applyAll_of_halts`: rules of which one halts.
* `run_applies_rules`: the same of a run.
-/

namespace Mailroom.Rule

open Session (Unswayed)

variable {σ : Type} (p : Provider σ)

private theorem unswayed_applyActions (id : String) (actions : List Action) :
    Unswayed (applyActions p id actions) := by
  induction actions with
  | nil => exact .pure ()
  | cons action actions ih =>
      rw [applyActions, applyAction]
      have hAction := (Unswayed.remote (action.labelChange p)).bind fun change =>
        (Unswayed.remote (p.modify id change)).bind fun _ =>
          (Unswayed.remote (p.get id)).bind fun fresh => .write (·.replace fresh)
      exact hAction.bind fun _ => ih

private theorem unswayed_applyToRows (rule : Rule) (actions : List Action)
    (rows : List Store.Row) : Unswayed (applyToRows p rule actions rows) := by
  induction rows with
  | nil => exact .pure 0
  | cons row rows ih =>
      rw [applyToRows]
      exact (Unswayed.ofExcept _).bind fun m => (Unswayed.log _ _).bind fun _ =>
        (unswayed_applyActions p m.id actions).bind fun _ => ih.bind fun n => .pure _

/-- **A rule ends in the same way** whatever has been logged. -/
theorem unswayed_apply (rule : Rule) : Unswayed (rule.apply p) := by
  rw [apply]
  exact (Unswayed.ofExcept _).bind fun query => (Unswayed.ofExcept _).bind fun actions =>
    (Unswayed.read _).bind fun rows => (unswayed_applyToRows p rule actions rows).bind
      fun matched => (Unswayed.log _ _).bind fun _ => .pure _

end Mailroom.Rule

namespace Mailroom.Run

open Session (Ends)

variable {σ : Type} {p : Provider σ}

/-! ## One rule after the other -/

/-- The world after rules, each applied to what the one before it has left. -/
def afterRules (p : Provider σ) (rules : List Rule) (w : World σ) : World σ :=
  rules.foldl (fun w rule => (rule.apply p w).2) w

/-- How the rules end, each applied to what the one before it has left. -/
def outcomes (p : Provider σ) :
    List Rule → World σ → List (Except Stop Rule.Report)
  | [], _ => []
  | rule :: rules, w =>
      (rule.apply p w).1 :: outcomes p rules (rule.apply p w).2

private theorem length_outcomes (rules : List Rule) (w : World σ) :
    (outcomes p rules w).length = rules.length := by
  induction rules generalizing w with
  | nil => rfl
  | cons rule rules ih => simp [outcomes, ih]

/-- The outcome ends a run: the store has failed, or the rule did not even end
with an error. -/
def Halts : Except Stop Rule.Report → Prop
  | .ok _ => False
  | .error (.failed e) => e.code = .storeFailed ∨ e.code = .alreadyExists
  | .error _ => True

theorem halts_failed_iff {e : Error} :
    Halts (.error (.failed e)) ↔ e.isStore = true := by
  simp [Halts, Error.isStore, ErrorCode.isStore]

/-- The numbers of rules applied and of rules failed, with one rule more. -/
def tally : Except Stop Rule.Report → Nat × Nat → Nat × Nat
  | .ok _, n => (n.1 + 1, n.2)
  | .error _, n => (n.1, n.2 + 1)

private theorem foldr_tally (os : List (Except Stop Rule.Report)) :
    (os.foldr tally (0, 0)).1 = os.countP (·.isOk) ∧
      (os.foldr tally (0, 0)).1 + (os.foldr tally (0, 0)).2 = os.length := by
  induction os with
  | nil => exact ⟨rfl, rfl⟩
  | cons outcome os ih =>
      obtain ⟨hApplied, hBoth⟩ := ih
      rw [List.foldr_cons, List.length_cons, List.countP_cons]
      cases outcome with
      | ok report =>
          refine ⟨congrArg (· + 1) hApplied, ?_⟩
          simp only [tally]
          omega
      | error stop =>
          refine ⟨hApplied, ?_⟩
          simp only [tally]
          omega

section Step

variable {rule : Rule} (rules : List Rule) {w v v₁ : World σ}
  (hSame : w.unlogged = v.unlogged)
include hSame

/-- Trying a rule after a line of the log is trying it without. -/
theorem attempt_apply {result : Except Stop Rule.Report}
    (hApply : rule.apply p v = (result, v₁)) (line : String) :
    ∃ w₁, w₁.unlogged = v₁.unlogged ∧
      ∀ {β : Type} (f : Except Stop Rule.Report → Session σ β),
        (Session.info line >>= fun _ => Session.attempt (rule.apply p) >>= f) w =
          f result w₁ := by
  let started : World σ := { w with log := ⟨.info, line⟩ :: w.log }
  obtain ⟨hResult, hNext⟩ := Rule.unswayed_apply p rule started v hSame
  rw [hApply] at hResult hNext
  have hInfo : Session.info line w = (.ok (), started) := rfl
  have hAttempt : Session.attempt (rule.apply p) started =
      (.ok result, (rule.apply p started).2) := by
    rw [Session.run_attempt, hResult]
  refine ⟨(rule.apply p started).2, hNext, fun f => ?_⟩
  rw [Call.bind_of_ok hInfo, Call.bind_of_ok hAttempt]

/-- After a rule that does not halt the loop goes on with what it left. -/
theorem applyAll_cons_of_not_halts {result : Except Stop Rule.Report}
    (hApply : rule.apply p v = (result, v₁)) (hGoes : ¬Halts result) :
    ∃ w₁, w₁.unlogged = v₁.unlogged ∧
      applyAll p (rule :: rules) w =
        (applyAll p rules >>= fun n => pure (tally result n)) w₁ := by
  obtain ⟨w₁, hNext, hStep⟩ :=
    attempt_apply hSame hApply ("Applying rule '" ++ rule.name ++ "'")
  cases result with
  | ok report =>
      refine ⟨w₁, hNext, ?_⟩
      rw [applyAll, hStep]
      rfl
  | error stop =>
      cases stop with
      | failed e =>
          have hRemote : e.isStore = false := by
            simpa [halts_failed_iff] using hGoes
          let line : LogLine :=
            ⟨.error, "Rule '" ++ rule.name ++ "' failed: " ++ e.message⟩
          refine ⟨{ w₁ with log := line :: w₁.log }, hNext, ?_⟩
          rw [applyAll, hStep]
          simp only [hRemote, Bool.false_eq_true, if_false]
          rfl
      | interrupted => exact absurd trivial hGoes
      | unending => exact absurd trivial hGoes

/-- A rule that halts is the last one. -/
theorem applyAll_cons_of_halts {stop : Stop}
    (hApply : rule.apply p v = (.error stop, v₁)) (hHalts : Halts (.error stop)) :
    ∃ w₁, w₁.unlogged = v₁.unlogged ∧
      applyAll p (rule :: rules) w = (.error stop, w₁) := by
  obtain ⟨w₁, hNext, hStep⟩ :=
    attempt_apply hSame hApply ("Applying rule '" ++ rule.name ++ "'")
  refine ⟨w₁, hNext, ?_⟩
  rw [applyAll, hStep]
  cases stop with
  | failed e =>
      simp only [halts_failed_iff.1 hHalts, if_true]
      rfl
  | interrupted => rfl
  | unending => rfl

end Step

/-! ## All rules -/

/-- **Rules of which none halts** are all applied, each to what the one before
it has left. -/
theorem applyAll_of_none {rules : List Rule} {w v : World σ}
    (hSame : w.unlogged = v.unlogged)
    (hNone : ∀ outcome ∈ outcomes p rules v, ¬Halts outcome) :
    ∃ w', w'.unlogged = (afterRules p rules v).unlogged ∧
      applyAll p rules w =
        (.ok ((outcomes p rules v).foldr tally (0, 0)), w') := by
  induction rules generalizing w v with
  | nil => exact ⟨w, hSame, rfl⟩
  | cons rule rules ih =>
      obtain ⟨hFirst, hRest⟩ := List.forall_mem_cons.1 hNone
      obtain ⟨w₁, hNext, hStep⟩ :=
        applyAll_cons_of_not_halts rules hSame rfl hFirst
      obtain ⟨w', hEnd, hAll⟩ := ih hNext hRest
      refine ⟨w', hEnd, ?_⟩
      rw [hStep, Call.bind_of_ok hAll]
      rfl

/-- **Rules of which one halts** are applied up to the first that does, and this
is how the loop ends. -/
theorem applyAll_of_halts {rules : List Rule} {w v : World σ}
    (hSame : w.unlogged = v.unlogged) {k : Nat} {stop : Stop}
    (hOutcome : (outcomes p rules v)[k]? = some (.error stop))
    (hHalts : Halts (.error stop))
    (hBefore : ∀ outcome ∈ (outcomes p rules v).take k, ¬Halts outcome) :
    ∃ w', w'.unlogged = (afterRules p (rules.take (k + 1)) v).unlogged ∧
      applyAll p rules w = (.error stop, w') := by
  induction rules generalizing w v k with
  | nil => cases hOutcome
  | cons rule rules ih =>
      rw [outcomes] at hOutcome hBefore
      cases k with
      | zero =>
          have hFirst : (rule.apply p v).1 = .error stop := Option.some.inj hOutcome
          exact applyAll_cons_of_halts rules hSame (Prod.ext hFirst rfl) hHalts
      | succ k =>
          rw [List.take_succ_cons, List.forall_mem_cons] at hBefore
          obtain ⟨hFirst, hRest⟩ := hBefore
          obtain ⟨w₁, hNext, hStep⟩ :=
            applyAll_cons_of_not_halts rules hSame rfl hFirst
          obtain ⟨w', hEnd, hLoop⟩ := ih hNext hOutcome hRest
          refine ⟨w', hEnd, ?_⟩
          rw [hStep, Call.bind_of_error hLoop]

/-! ## A run -/

/-- With rules to apply, a run is a sync, if that is due, and then the rules. -/
theorem run_of_rules {o : Options} (hSkip : o.skipRules = false) {text : String}
    {rules : List Rule} (hRules : Rule.parseDocument text = .ok rules)
    (hSome : rules ≠ []) {w w₁ : World σ} {synced : Option Sync.Report}
    (hSync : syncIfNeeded p o w = (.ok synced, w₁)) :
    ∃ w₂, w₂.unlogged = w₁.unlogged ∧ run p o (some text) w =
      (applyAll p rules >>= fun n => Session.info ("Rules finished: " ++
        natText n.1 ++ " applied, " ++ natText n.2 ++ " failed") >>= fun _ =>
          pure ⟨synced, n.1, n.2⟩) w₂ := by
  have hLoad : Rule.loadDocument o.rulesFile (some text) = .ok rules := by
    simp only [Rule.loadDocument, hRules]
  have hEmpty : rules.isEmpty = false := by simpa using hSome
  let line : LogLine := ⟨.info,
    "Loaded " ++ natText rules.length ++ " rules from " ++ o.rulesFile⟩
  refine ⟨{ w₁ with log := line :: w₁.log }, rfl, ?_⟩
  have hRead : (Session.ofExcept (.ok rules) : Session σ (List Rule)) w₁ =
      (.ok rules, w₁) := rfl
  have hInfo : Session.info line.text w₁ = (.ok (), { w₁ with log := line :: w₁.log }) :=
    rfl
  rw [run, Call.bind_of_ok hSync]
  simp only [hSkip, hLoad, Bool.false_eq_true, if_false]
  rw [Call.bind_of_ok hRead, Call.bind_of_ok hInfo]
  simp only [hEmpty, Bool.false_eq_true, if_false]

/-- **A run applies its rules** in their order. Once the sync has gone through
and the document has given rules, either no rule halts; then the run ends well
with what all of them have left, and its summary counts those that went through
and those that failed. Or one does; then the run ends as the first of these did,
with what the rules up to it have left. -/
theorem run_applies_rules {p : Provider σ} {o : Options}
    (hSkip : o.skipRules = false) {text : String} {rules : List Rule}
    (hRules : Rule.parseDocument text = .ok rules) (hSome : rules ≠ [])
    {w w₁ : World σ} {synced : Option Sync.Report}
    (hSync : syncIfNeeded p o w = (.ok synced, w₁)) :
    ((∀ outcome ∈ outcomes p rules w₁, ¬Halts outcome) →
      ∃ applied failed w', run p o (some text) w = (.ok ⟨synced, applied, failed⟩, w') ∧
        w'.unlogged = (afterRules p rules w₁).unlogged ∧
        applied + failed = rules.length ∧
        applied = (outcomes p rules w₁).countP (·.isOk)) ∧
    ∀ k stop, (outcomes p rules w₁)[k]? = some (.error stop) →
      Halts (.error stop) →
      (∀ outcome ∈ (outcomes p rules w₁).take k, ¬Halts outcome) →
        ∃ w', run p o (some text) w = (.error stop, w') ∧
          w'.unlogged = (afterRules p (rules.take (k + 1)) w₁).unlogged := by
  obtain ⟨w₂, hSame, hRun⟩ := run_of_rules hSkip hRules hSome hSync
  constructor
  · intro hNone
    obtain ⟨w', hEnd, hAll⟩ := applyAll_of_none hSame hNone
    obtain ⟨hApplied, hBoth⟩ := foldr_tally (outcomes p rules w₁)
    rw [length_outcomes] at hBoth
    rw [hRun, Call.bind_of_ok hAll]
    exact ⟨_, _, _, rfl, hEnd, hBoth, hApplied⟩
  · intro k stop hOutcome hHalts hBefore
    obtain ⟨w', hEnd, hLoop⟩ := applyAll_of_halts hSame hOutcome hHalts hBefore
    exact ⟨w', by rw [hRun, Call.bind_of_error hLoop], hEnd⟩

/-- A document of two rules. -/
def twoRules : String :=
  "rules:\n- name: lost\n  match: all\n  actions:\n  - type: move\n    value: X\n" ++
    "- name: seen\n  match: all\n  actions:\n  - type: read\n"

/-- Its first rule, which moves all messages to a label that there is not. -/
def lost : Rule := ⟨"lost", "all", [], [⟨"move", some "X"⟩]⟩

/-- Its second rule, which marks all messages read. -/
def seen : Rule := ⟨"seen", "all", [], [⟨"read", none⟩]⟩

/-- A run with rules. -/
def withRules : Options := ⟨⟨500, 0⟩, false, false, "rules.yaml"⟩

/-- A message with the history id of the account. -/
def note : Message := { bareMessage "a" "0" ["UNREAD"] with historyId := "1000" }

/-- A store that has the message of the mailbox, and these rows behind it. -/
def noted (rows : List Store.Row) (log : List LogLine) : World Mailbox where
  remote := Mailbox.empty.put "a" note
  store := ⟨some ⟨Store.Row.encode note :: rows, []⟩⟩
  now := 0
  log := log

/-- A row with labels that cannot be read. -/
def brokenRow : Store.Row :=
  (Store.Row.encode (bareMessage "b" "0" [])).set .labelIds (.text "INBOX")

/-- A rule without filters ends as it goes through all rows. -/
theorem apply_of_every {rule : Rule} {actions : List Rule.Action}
    (hCompile : rule.compile = .ok (Rule.queryOf .all []))
    (hActions : Rule.Action.parseAll rule.actions = .ok actions) {w w₁ : World σ}
    {t : Store.Tables} (hTables : w.store.tables = some t)
    (hWidth : ∀ row ∈ t.rows, row.length = Store.Column.all.length)
    {result : Except Stop Nat}
    (hRows : Rule.applyToRows p rule actions t.rows w = (result, w₁)) :
    ∃ log, rule.apply p w =
      (result.map fun n => ⟨n, n * actions.length⟩, { w₁ with log }) := by
  have hQuery := Store.query_selectAll hTables hWidth w.now
  rw [← Store.sql_queryOf_nil] at hQuery
  obtain ⟨line, hApply⟩ := Rule.apply_of_query (p := p) hCompile hActions hQuery
  rw [hApply, Call.bind_apply, hRows]
  cases result with
  | ok n => exact ⟨_, rfl⟩
  | error stop => exact ⟨_, rfl⟩

section Noted

open Mailbox (provider)

variable {rows : List Store.Row} (log : List LogLine)
  (hWidth : ∀ row ∈ rows, row.length = Store.Column.all.length)

private theorem tables_noted : (noted rows log).store.tables =
    some ⟨Store.Row.encode note :: rows, []⟩ := rfl

include hWidth

private theorem length_noted : ∀ row ∈ Store.Row.encode note :: rows,
    row.length = Store.Column.all.length :=
  List.forall_mem_cons.2 ⟨rfl, hWidth⟩

/-- The first rule stops at the first message, for want of its label. -/
theorem apply_lost :
    ∃ log', lost.apply provider (noted rows log) =
      (.error (.failed (.unknownLabel "X")), noted rows log') := by
  have hRow : (Store.Row.encode note).decode = .ok note.asStored :=
    Store.decode_encode (by simp [note, bareMessage, Part.blank])
  have hRows : Ends (Rule.applyToRows provider lost [.move "X"]
      (Store.Row.encode note :: rows)) (noted rows log)
      (.error (.failed (.unknownLabel "X")))
      (noted rows log).remote (noted rows log).store := by
    refine (Ends.ofExcept hRow _).bind fun w₁ hRemote₁ hStore₁ _ => ?_
    refine (Ends.log .info (Rule.matchLine lost _) w₁).bind
      fun w₂ hRemote₂ hStore₂ _ => ?_
    rw [← hStore₁, ← hStore₂]
    refine Ends.stop (Ends.stop (Ends.stop (Ends.remote ?_)))
    rw [hRemote₂, hRemote₁]
    rfl
  obtain ⟨lines, hRows⟩ := hRows
  have hCompile : lost.compile = .ok (Rule.queryOf .all []) := rfl
  have hActions : Rule.Action.parseAll lost.actions = .ok [.move "X"] := rfl
  exact apply_of_every hCompile hActions (tables_noted log) (length_noted hWidth) hRows

/-- How the two rules end, if this is how the second one goes through the rows. -/
theorem outcomes_noted {result : Except Stop Nat}
    (hRows : (Rule.applyToRows provider seen [.markRead]
      (Store.Row.encode note :: rows) (noted rows [])).1 = result) :
    outcomes provider [lost, seen] (noted rows log) =
      [.error (.failed (.unknownLabel "X")), result.map fun n => ⟨n, n * 1⟩] := by
  obtain ⟨log', hLost⟩ := apply_lost log hWidth
  have hCompile : seen.compile = .ok (Rule.queryOf .all []) := rfl
  have hActions : Rule.Action.parseAll seen.actions = .ok [.markRead] := rfl
  cases hAll : Rule.applyToRows provider seen [.markRead]
      (Store.Row.encode note :: rows) (noted rows log') with
  | mk last w =>
      have hLast : last = result := by
        have hSame := Rule.unswayed_applyToRows provider seen [.markRead]
          (Store.Row.encode note :: rows) (noted rows log') (noted rows []) rfl
        rw [← hRows, ← hSame.1, hAll]
      subst hLast
      obtain ⟨lines, hSeen⟩ := apply_of_every hCompile hActions (tables_noted log')
        (length_noted hWidth) hAll
      rw [outcomes, outcomes, outcomes, hLost, hSeen]
      rfl

end Noted

private theorem syncIfNeeded_noted (rows : List Store.Row) {n : Nat}
    (hStats : (noted rows []).store.stats = .ok ⟨some "1000", n⟩) :
    ∃ log, syncIfNeeded Mailbox.provider withRules (noted rows []) =
      (.ok none, noted rows log) := by
  rw [syncIfNeeded, Call.bind_of_ok (Session.read_ok hStats)]
  exact ⟨_, rfl⟩

theorem parseDocument_twoRules : Rule.parseDocument twoRules = .ok [lost, seen] := by
  have hText : Rule.ofText? twoRules = some [lost, seen] := by
    rw [Rule.ofText?, Yaml.documents?, Yaml.words?, Yaml.Scan.linear_eq]
    decide +kernel
  rw [Rule.parseDocument, hText]
  rfl

section

open Mailbox (provider)

/-- The first rule is passed over. The second one goes through, or it comes to a
row that cannot be read, and then the run ends with that. -/
theorem run_applies_rules_two :
    Rule.parseDocument twoRules = .ok [lost, seen] ∧
      (∃ w w', syncIfNeeded provider withRules (noted [] []) = (.ok none, w) ∧
        run provider withRules (some twoRules) (noted [] []) =
          (.ok ⟨none, 1, 1⟩, w') ∧
            w'.unlogged = (afterRules provider [lost, seen] w).unlogged) ∧
      ∃ w w', syncIfNeeded provider withRules (noted [brokenRow] []) =
          (.ok none, w) ∧
        run provider withRules (some twoRules) (noted [brokenRow] []) =
          (.error (.failed (.storedJson "labelIds" "b")), w') ∧
            w'.unlogged = (afterRules provider [lost, seen] w).unlogged := by
  have hRules := parseDocument_twoRules
  have hSome : [lost, seen] ≠ [] := List.cons_ne_nil _ _
  refine ⟨hRules, ?_, ?_⟩
  · obtain ⟨log, hSync⟩ := syncIfNeeded_noted [] (n := 1) (by decide +kernel)
    have hRows : (Rule.applyToRows provider seen [.markRead]
        [Store.Row.encode note] (noted [] [])).1 = .ok 1 := by decide +kernel
    have hOutcomes : outcomes provider [lost, seen] (noted [] log) =
        [.error (.failed (.unknownLabel "X")), .ok ⟨1, 1⟩] :=
      outcomes_noted log (by simp) hRows
    obtain ⟨hNone, -⟩ := run_applies_rules rfl hRules hSome hSync
    obtain ⟨applied, failed, w', hRun, hEnd, hBoth, hApplied⟩ := hNone (by
      rw [hOutcomes]
      simp [Halts, Error.code])
    have hOne : applied = 1 := by rw [hApplied, hOutcomes]; rfl
    have hOther : failed = 1 := by
      simp only [List.length_cons, List.length_nil] at hBoth
      omega
    rw [hOne, hOther] at hRun
    exact ⟨_, w', hSync, hRun, hEnd⟩
  · obtain ⟨log, hSync⟩ :=
      syncIfNeeded_noted [brokenRow] (n := 2) (by decide +kernel)
    have hRows : (Rule.applyToRows provider seen [.markRead]
        [Store.Row.encode note, brokenRow] (noted [brokenRow] [])).1 =
          .error (.failed (.storedJson "labelIds" "b")) := by decide +kernel
    have hBroken : ∀ row ∈ [brokenRow], row.length = Store.Column.all.length := by
      rw [List.forall_mem_singleton]
      rfl
    have hOutcomes : outcomes provider [lost, seen] (noted [brokenRow] log) =
        [.error (.failed (.unknownLabel "X")),
          .error (.failed (.storedJson "labelIds" "b"))] :=
      outcomes_noted log hBroken hRows
    obtain ⟨-, hHalts⟩ := run_applies_rules rfl hRules hSome hSync
    obtain ⟨w', hRun, hEnd⟩ := hHalts 1 (.failed (.storedJson "labelIds" "b"))
      (by rw [hOutcomes]; rfl) (.inl rfl) (by
        rw [hOutcomes]
        simp [Halts, Error.code])
    exact ⟨_, w', hSync, hRun, hEnd⟩

end

end Mailroom.Run
