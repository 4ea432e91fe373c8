import Mailroom.Proofs.Rule.Mirror
import Mailroom.Proofs.Rule.Validity
import Mailroom.Provider.Gmail

/-!
# Why a rule fails

Applying a rule begins with the steps that validation has taken, so a valid rule
does not fail in them. What is left are the query, the rows and the writes,
which fail as the store does; the calls, which fail as the provider does; and
one error of the rules themselves, for a move to a label that there is not.
`Blame` has a case for each of these three.

What a provider may fail with is its own affair, and `Candid` is the promise
that providers make: an error of a call is an error of the remote mailbox. The
two providers here keep it.

## Main results

* `candid_mailbox`, `candid_gmail`: the mailbox in memory and Gmail are candid.
* `apply_blames`: what a valid rule fails with.
-/

namespace Mailroom

variable {σ α β : Type}

/-! ## Errors of the provider -/

/-- An error of the call is an error in talking to the remote mailbox. -/
def Call.Candid (c : Call σ α) : Prop :=
  ∀ s s' e, c s = (.error (.failed e), s') → e.isProvider = true

namespace Call.Candid

private theorem bind {c : Call σ α} {f : α → Call σ β} (first : c.Candid)
    (second : ∀ a, (f a).Candid) : Call.Candid (c >>= f) := by
  intro s s' e h
  rw [bind_apply] at h
  cases hc : c s with
  | mk result s₁ =>
      rw [hc] at h
      cases result with
      | ok a => exact second a s₁ s' e h
      | error stop =>
          cases h
          exact first s s' e hc

private theorem pure (a : α) : Call.Candid (Pure.pure a : Call σ α) := by
  intro s s' e h
  cases h

private theorem fail {e : Error} (h : e.isProvider = true) :
    Call.Candid (Call.fail e : Call σ α) := by
  intro s s' e' he
  cases he
  exact h

private theorem get : Call.Candid (MonadState.get : Call σ σ) := by
  intro s s' e h
  cases h

end Call.Candid

/-- Whatever the provider is asked for, it fails with errors in talking to the
remote mailbox. -/
structure Provider.Candid (p : Provider σ) : Prop where
  list : ∀ token size, (p.list token size).Candid
  get : ∀ id, (p.get id).Candid
  profile : p.profile.Candid
  resolve : ∀ name, (p.resolve name).Candid
  modify : ∀ id change, (p.modify id change).Candid

namespace Mailbox

private theorem candid_call {kind : CallKind} {id : String}
    {answer : Mailbox → Except Error (α × Mailbox)}
    (h : ∀ b e, answer b = .error e → e.isProvider = true) :
    (call kind id answer).Candid := by
  intro b b' e hCall
  unfold call at hCall
  split at hCall
  · cases hCall
    rfl
  · split at hCall
    · cases hCall
    · rename_i hAnswer
      cases hCall
      exact h b e hAnswer

/-- A call that has an answer fails only if it was made to. -/
theorem candid_answered (kind : CallKind) (id : String)
    (answer : Mailbox → α × Mailbox) :
    (call kind id fun b => .ok (answer b)).Candid :=
  candid_call fun _ _ h => by cases h

/-- **The mailbox in memory is candid.** -/
theorem candid_mailbox : provider.Candid where
  list token size := candid_answered _ _ fun b => (b.page token size, b)
  get id := candid_call fun b e h => by
    split at h
    · cases h
    · cases h
      rfl
  profile := candid_answered _ _ fun b => (b.profile, b)
  resolve name := candid_answered _ _ fun b => (b.labels.lookup name, b)
  modify id change := candid_answered _ _ fun b => ((), b.changeLabels id change)

end Mailbox

namespace Gmail

private theorem candid_exchange (path : String) (url : Except Url.Fault Url)
    (method : String) (contentType : Option String) (body : String) :
    (exchange path url method contentType body).Candid := by
  intro g g' e h
  unfold exchange at h
  split at h
  · cases h
    rfl
  · simp only at h
    split at h
    · cases h
      rfl
    · cases h
    · split at h
      · cases h
      · cases h
        rfl

private theorem candid_expect (path : String) (read : Json → Option α) (text : String) :
    (expect path read text).Candid := by
  unfold expect
  split
  · exact .pure _
  · exact .fail rfl

private theorem candid_fetch (path : String) (query : List (String × String))
    (read : Json → Option α) : (fetch path query read).Candid :=
  Call.Candid.get.bind fun _ => (candid_exchange _ _ _ _ _).bind fun text =>
    candid_expect path read text

private theorem candid_submit (path : String) (body : Json) (read : Json → Option α) :
    (submit path body read).Candid :=
  Call.Candid.get.bind fun _ => (candid_exchange _ _ _ _ _).bind fun text =>
    candid_expect path read text

private theorem candid_listLabels : listLabels.Candid := by
  refine Call.Candid.get.bind fun g => ?_
  cases g.labels with
  | some labels => exact .pure labels
  | none =>
      refine (candid_fetch _ _ _).bind fun labels => ?_
      intro g g' e h
      cases h

/-- **Gmail is candid.** -/
theorem candid_gmail : provider.Candid where
  list _ _ := candid_fetch _ _ _
  get _ := candid_fetch _ _ _
  profile := candid_fetch _ _ _
  resolve _ := candid_listLabels.bind fun _ => .pure _
  modify _ _ := candid_submit _ _ _

end Gmail

/-! ## Errors of the store -/

namespace Store

/-- An error of this is an error of the store. -/
def Owns (x : Except Error α) : Prop := ∀ e, x = .error e → e.isStore = true

namespace Owns

private theorem ok (a : α) : Owns (.ok a) := fun e h => by cases h

private theorem error {e : Error} (h : e.isStore = true) : Owns (.error e : Except Error α) := by
  intro e' he
  cases he
  exact h

private theorem bind {x : Except Error α} {f : α → Except Error β} (first : Owns x)
    (second : ∀ a, Owns (f a)) : Owns (x >>= f) := by
  intro e h
  cases x with
  | ok a => exact second a e h
  | error e' =>
      cases h
      exact first e rfl

end Owns

private theorem isStore_store (fault : StoreFault) : (Error.store fault).isStore = true := by
  cases fault <;> rfl

private theorem owns_getTables (s : Store) (table : String) : Owns (s.getTables table) := by
  unfold getTables
  split
  · exact .ok _
  · exact .error (isStore_store _)

private theorem owns_selectRows (condition : Option Sql.Condition) (arguments : List String)
    (now : Int) (rows : List Row) :
    Owns (selectRows condition arguments now rows) := by
  induction rows with
  | nil => exact .ok []
  | cons row rows ih =>
      have hSatisfies (c : Sql.Condition) : Owns (row.satisfies c arguments now) := by
        unfold Row.satisfies
        split
        · exact .ok _
        · exact .error (isStore_store _)
      cases condition with
      | none => exact ih.bind fun rest => .ok _
      | some c => exact (hSatisfies c).bind fun selected => ih.bind fun rest => .ok _

/-- **A query** fails in the store. -/
theorem owns_query (s : Store) (sql : String) (arguments : List String) (now : Int) :
    Owns (s.query sql arguments now) := by
  unfold query
  split
  · unfold run
    simp only
    split
    · exact .error (isStore_store _)
    · refine (owns_getTables s _).bind fun t => ?_
      split
      · exact (owns_selectRows _ _ _ _).bind fun rows => .ok _
      · exact .error (isStore_store _)
  · exact .error (isStore_store _)

private theorem owns_list (row : Row) (c : Column) (read : Json → Option (List α)) :
    Owns (row.list c read) := by
  unfold Row.list
  split
  · exact .ok []
  · split
    · exact .ok _
    · exact .error rfl

/-- **Reading a row** fails in the store. -/
theorem owns_decode (row : Row) : Owns row.decode := by
  unfold Row.decode
  split
  · exact .error rfl
  · exact (owns_list _ _ _).bind fun labelIds => (owns_list _ _ _).bind fun parts =>
      .ok _

/-- **Writing a message** fails in the store. -/
theorem owns_replace (s : Store) (m : Message) : Owns (s.replace m) := by
  refine (owns_getTables s "headers").bind fun t => Owns.bind ?_ fun t => .ok _
  unfold Tables.insert
  split
  · exact .error rfl
  · exact .ok _

end Store

/-! ## Errors of a rule -/

namespace Rule

open Session (Contract)

/-- The error is that of a move to a label that there is not: the provider is as
the call that looked for the label has left it. -/
def Unresolved (p : Provider σ) (rule : Rule) (e : Error) (r : σ) : Prop :=
  ∃ a ∈ rule.actions, ∃ label, Action.parse a = .ok (.move label) ∧
    e = .unknownLabel label ∧ ∃ before, p.resolve label before = (.ok none, r)

/-- Where an error comes from that ended a rule and left the provider like
this. -/
inductive Blame (p : Provider σ) (rule : Rule) (e : Error) (r : σ) : Prop
  | provider (code : e.isProvider = true)
  | store (code : e.isStore = true)
  | label (missing : Unresolved p rule e r)

/-- If the session fails, this is why. -/
def Blames (p : Provider σ) (rule : Rule) (x : Session σ α) : Prop :=
  Contract (fun _ => True) x (fun _ _ => True)
    fun stop w => ∀ e, stop = .failed e → Blame p rule e w.remote

section

variable {p : Provider σ} {rule : Rule}

private theorem Blames.bind {x : Session σ α} {f : α → Session σ β} (first : Blames p rule x)
    (second : ∀ a, Blames p rule (f a)) : Blames p rule (x >>= f) :=
  Contract.bind first second

private theorem Blames.pure (a : α) : Blames p rule (Pure.pure a) :=
  Contract.pure fun _ _ => trivial

private theorem Blames.log (level : LogLevel) (text : String) :
    Blames p rule (Session.log level text) :=
  Contract.log fun _ _ => trivial

private theorem Blames.ofExcept {x : Except Error α} (h : Store.Owns x) :
    Blames p rule (Session.ofExcept x) :=
  Contract.ofExcept (fun _ _ _ _ => trivial) fun e hx _ _ e' he => by
    cases he
    exact .store (h e hx)

private theorem Blames.read {f : Store → Int → Except Error α}
    (h : ∀ s now, Store.Owns (f s now)) : Blames p rule (Session.read f) :=
  Contract.read (fun _ _ _ _ => trivial) fun w e _ hRead e' he => by
    cases he
    exact .store (h w.store w.now e hRead)

private theorem Blames.remote {c : Call σ α} (h : c.Candid) :
    Blames p rule (Session.remote c) :=
  Contract.remote (fun _ _ _ _ _ => trivial) fun w stop r _ hCall e he => by
    subst he
    exact .provider (h w.remote r e hCall)

private theorem blames_labelChange (hCandid : p.Candid) {a : ActionText} {action : Action}
    (hMem : a ∈ rule.actions) (hParse : Action.parse a = .ok action) :
    Blames p rule (Session.remote (action.labelChange p)) := by
  refine Contract.remote (fun _ _ _ _ _ => trivial) fun w stop r _ hCall e he => ?_
  subst he
  cases action with
  | move label =>
      rw [Action.labelChange, Call.bind_apply] at hCall
      cases hResolve : p.resolve label w.remote with
      | mk result r₁ =>
          rw [hResolve] at hCall
          cases result with
          | error stop =>
              cases hCall
              exact .provider (hCandid.resolve label w.remote r e hResolve)
          | ok id? =>
              cases id? with
              | some id => cases hCall
              | none =>
                  cases hCall
                  exact .label ⟨a, hMem, label, hParse, rfl, w.remote, hResolve⟩
  | markRead => cases hCall
  | markUnread => cases hCall

private theorem blames_applyAction (hCandid : p.Candid) {a : ActionText} {action : Action}
    (hMem : a ∈ rule.actions) (hParse : Action.parse a = .ok action) (id : String) :
    Blames p rule (applyAction p id action) := by
  rw [applyAction]
  refine (blames_labelChange hCandid hMem hParse).bind fun change =>
    (Blames.remote (hCandid.modify id change)).bind fun _ =>
      (Blames.remote (hCandid.get id)).bind fun fresh => ?_
  refine Contract.write (fun _ _ _ _ => trivial) fun w e _ hWrite e' he => ?_
  cases he
  exact .store (Store.owns_replace w.store fresh e hWrite)

private theorem blames_applyActions (hCandid : p.Candid) {actions : List Action}
    (hActions : ∀ action ∈ actions, ∃ a ∈ rule.actions, Action.parse a = .ok action)
    (id : String) : Blames p rule (applyActions p id actions) := by
  induction actions with
  | nil => exact .pure ()
  | cons action actions ih =>
      obtain ⟨⟨a, hMem, hParse⟩, hRest⟩ := List.forall_mem_cons.1 hActions
      rw [applyActions]
      exact (blames_applyAction hCandid hMem hParse id).bind fun _ => ih hRest

private theorem blames_applyToRows (hCandid : p.Candid) {actions : List Action}
    (hActions : ∀ action ∈ actions, ∃ a ∈ rule.actions, Action.parse a = .ok action)
    (rows : List Store.Row) : Blames p rule (applyToRows p rule actions rows) := by
  induction rows with
  | nil => exact .pure 0
  | cons row rows ih =>
      rw [applyToRows]
      exact (Blames.ofExcept (Store.owns_decode row)).bind fun m =>
        (Blames.log _ _).bind fun _ =>
          (blames_applyActions hCandid hActions m.id).bind fun _ =>
            ih.bind fun n => .pure _

/-- **What a valid rule fails with.** -/
theorem apply_blames (hCandid : p.Candid) (hValid : rule.validate = .ok ())
    {w w' : World σ} {e : Error} (h : rule.apply p w = (.error (.failed e), w')) :
    Blame p rule e w'.remote := by
  obtain ⟨-, ⟨query, hCompile⟩, actions, hActions⟩ := validate_eq_ok_iff.1 hValid
  have hRead : ∀ action ∈ actions, ∃ a ∈ rule.actions, Action.parse a = .ok action :=
    fun action ha => exists_of_map (map_of_mapM hActions) ha
  have hRest : Blames p rule (Session.read (fun s now =>
      s.query query.sql query.arguments now) >>= fun rows =>
        applyToRows p rule actions rows >>= fun matched =>
          Session.info ("Rule '" ++ rule.name ++ "' done: " ++ natText matched ++
            " matched, " ++ natText (matched * actions.length) ++
              " actions applied") >>= fun _ =>
            pure (⟨matched, matched * actions.length⟩ : Report)) :=
    (Blames.read fun s now => Store.owns_query s _ _ now).bind fun rows =>
      (blames_applyToRows hCandid hRead rows).bind fun matched =>
        (Blames.log _ _).bind fun _ => .pure _
  rw [apply, hCompile, hActions, Call.bind_of_ok (Session.ofExcept_apply _ _),
    Call.bind_of_ok (Session.ofExcept_apply _ _)] at h
  exact (hRest w trivial).2 _ w' h e rfl

/-- It is no error of a rule, and an error of an action only if a label is
missing. -/
theorem Blame.code {e : Error} {r : σ} (h : Blame p rule e r) :
    e.code ≠ .invalidRule ∧ (e.code = .invalidAction → Unresolved p rule e r) := by
  cases h with
  | provider code =>
      refine ⟨fun hCode => ?_, fun hCode => ?_⟩
      all_goals
        rw [Error.isProvider, hCode] at code
        cases code
  | store code =>
      refine ⟨fun hCode => ?_, fun hCode => ?_⟩
      all_goals
        rw [Error.isStore, hCode] at code
        cases code
  | label missing =>
      refine ⟨fun hCode => ?_, fun _ => missing⟩
      obtain ⟨a, -, label, -, rfl, -⟩ := missing
      cases hCode

end

end Rule

end Mailroom
