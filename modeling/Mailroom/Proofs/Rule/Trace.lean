import Mailroom.Proofs.Provider.Performance
import Mailroom.Proofs.Rule.Mirror
import Mailroom.Proofs.Store.ReadBack

/-!
# The calls of a rule

Which calls a rule makes is settled before the first of them: for each row that its
query gave and each action, in this order, the label is looked up if the action is a
move, the labels are changed, and the message is fetched. `trace` lists these calls;
the answer to a look-up is what the change after it depends on, so the list is
followed on the provider. The loop writes the rows anew that it goes through, but
what it goes through is the answer to the query and no longer the table.

A rule performs its calls: it makes all of them, or those up to one that stops, and
puts each message that it fetches in the place of its row. Each session that a rule is
made of does so with its own part of the list.

What the store holds while a call is made is what it is left with if that call is
stopped. A schedule that stops the call has no part in the calls before it, so they
are the same, and the messages that they gave are in the place of their rows by then.

## Main results

* `performs_applyAction`, `performs_applyToRows`: one action, all rows.
* `apply_stopping`: what a call finds.
* `apply_trace`: a whole rule, however it ends.
-/

namespace Mailroom

variable {σ : Type}

namespace Rule

open Session (Made Performed Performs)
open Store (Row)

/-! ## The calls -/

/-- The calls that work out what an action comes down to. -/
def Action.lookups : Action → List Request
  | .move label => [.label label]
  | .markRead => []
  | .markUnread => []

/-- The change that an action comes down to; none if its label is not found. -/
def Action.changeAt (p : Provider σ) (r : σ) (action : Action) : LabelChange :=
  match (action.labelChange p r).1 with
  | .ok change => change
  | .error _ => ⟨[], []⟩

/-- The calls of an action on a message. -/
def Action.calls (p : Provider σ) (r : σ) (id : String) (action : Action) : List Request :=
  action.lookups ++ [.modify id (action.changeAt p r), .get id]

/-- The calls of actions on messages, one after the other. -/
def trace (p : Provider σ) : List (String × Action) → σ → List Request
  | [], _ => []
  | (id, action) :: rest, r =>
      action.calls p r id ++ trace p rest (p.after (action.calls p r id) r)

/-- Each row's message with each action, row by row. -/
def jobs (actions : List Action) (rows : List Row) : List (String × Action) :=
  rows.flatMap fun row => actions.map (row.textOf .id, ·)

/-- Each row is that of a message. -/
def Readable (rows : List Row) : Prop := ∀ row ∈ rows, ∃ m, row.decode = .ok m

private theorem first_unreadable {rows : List Row} (h : ¬Readable rows) :
    ∃ front row back e, rows = front ++ row :: back ∧ Readable front ∧
      row.decode = .error e := by
  induction rows with
  | nil => exact absurd (fun row hRow => by cases hRow) h
  | cons row rows ih =>
      cases hRow : row.decode with
      | error e => exact ⟨[], row, rows, e, rfl, fun row hRow => (by cases hRow), hRow⟩
      | ok m =>
          have hLater : ¬Readable rows := fun hRead =>
            h (List.forall_mem_cons.2 ⟨⟨m, hRow⟩, hRead⟩)
          obtain ⟨front, bad, back, e, rfl, hFront, hBad⟩ := ih hLater
          exact ⟨row :: front, bad, back, e, rfl,
            List.forall_mem_cons.2 ⟨⟨m, hRow⟩, hFront⟩, hBad⟩

private theorem trace_append (p : Provider σ) (first later : List (String × Action)) (r : σ) :
    trace p (first ++ later) r =
      trace p first r ++ trace p later (p.after (trace p first r) r) := by
  induction first generalizing r with
  | nil => rfl
  | cons job first ih =>
      obtain ⟨id, action⟩ := job
      simp only [List.cons_append, trace, ih, List.append_assoc, p.after_append]

/-- Fewer rows are a first part of the calls. -/
theorem trace_jobs_append (p : Provider σ) (actions : List Action)
    (front back : List Row) (r : σ) :
    trace p (jobs actions front) r <+: trace p (jobs actions (front ++ back)) r := by
  rw [jobs, jobs, List.flatMap_append, trace_append]
  exact List.prefix_append _ _

/-! ## What is performed -/

/-- A move comes down to the label that is found. -/
theorem labelChange_move (p : Provider σ) (label : String) (r : σ) :
    (Action.move label).labelChange p r =
      ((p.resolve label r).1.bind fun
        | some id => .ok (.moveTo id)
        | none => .error (.failed (.unknownLabel label)), (p.resolve label r).2) := by
  rw [Action.labelChange, Call.bind_apply]
  cases p.resolve label r with
  | mk answer r =>
      cases answer with
      | error stop => rfl
      | ok id? => cases id? <;> rfl

/-- Working out a change looks a label up for a move, and for nothing else. -/
theorem performs_labelChange (p : Provider σ) (action : Action) (w : World σ) :
    Performs p action.lookups (Session.remote (action.labelChange p)) w := by
  cases action with
  | markRead => exact Session.performs_nil rfl
  | markUnread => exact Session.performs_nil rfl
  | move label =>
      refine Session.performs_call ?_ ?_ rfl
      · rw [labelChange_move, Provider.step]
      · rw [labelChange_move, Provider.stop?]
        cases (p.resolve label w.remote).1 with
        | error stop => rfl
        | ok id? => cases id? <;> rfl

section

variable {p : Provider σ} {w : World σ}

/-- **One action.** -/
theorem performs_applyAction (hTables : w.store.tables.isSome) (id : String)
    (action : Action) :
    Performs p (action.calls p w.remote id) (applyAction p id action) w := by
  refine (performs_labelChange p action w).bind fun change w₁ hChange hMade => ?_
  have hIs : action.changeAt p w.remote = change := by
    rw [Action.changeAt, Session.remote_eq hChange]
  have hModify : Performs p [.modify id change]
      (Session.remote (p.modify id change)) w₁ := Session.performs_call rfl rfl rfl
  rw [hIs]
  show Performs p ([.modify id change] ++ [.get id]) _ w₁
  exact hModify.bind fun _ w₂ _ hMade₂ =>
    Session.performs_fetch (hMade₂.tables (hMade.tables hTables)) id

/-- All actions on one message. -/
theorem performs_applyActions (hTables : w.store.tables.isSome) (id : String)
    (actions : List Action) :
    Performs p (trace p (actions.map (id, ·)) w.remote) (applyActions p id actions) w := by
  induction actions generalizing w with
  | nil => exact Session.performs_nil rfl
  | cons action actions ih =>
      refine (performs_applyAction hTables id action).bind fun _ w₁ _ hMade => ?_
      rw [← hMade.remote]
      exact ih (hMade.tables hTables)

/-- **All actions on all messages**, if each row can be read. -/
theorem performs_applyToRows (rule : Rule) (actions : List Action)
    (hTables : w.store.tables.isSome) {rows : List Row}
    (hRead : ∀ row ∈ rows, ∃ m, row.decode = .ok m) :
    Performs p (trace p (jobs actions rows) w.remote)
      (applyToRows p rule actions rows) w := by
  induction rows generalizing w with
  | nil => exact Session.performs_nil rfl
  | cons row rows ih =>
      obtain ⟨⟨m, hRow⟩, hLater⟩ := List.forall_mem_cons.1 hRead
      have hDecode : (Session.ofExcept row.decode : Session σ Message) w = (.ok m, w) := by
        rw [Session.ofExcept_apply, hRow]
      rw [jobs, List.flatMap_cons, trace_append, ← id_of_decode_row hRow]
      refine Performs.bind_nil (Session.performs_nil hDecode)
        fun m' w₁ hSame hMade => ?_
      rw [hDecode] at hSame
      cases hSame
      refine Performs.bind_nil (Session.performs_nil rfl)
        fun _ w₁ _ hMade => ?_
      have hRemote : w₁.remote = w.remote := hMade.remote
      have hTables₁ := hMade.tables hTables
      rw [← hRemote]
      refine (performs_applyActions hTables₁ m.id actions).bind fun _ w₂ _ hMade₂ => ?_
      rw [← List.append_nil (trace p _ _), ← hMade₂.remote]
      exact (ih (hMade₂.tables hTables₁) hLater).bind fun n w₃ _ _ =>
        Session.performs_nil rfl

/-- Going through rows is going through the first ones and then the others. -/
theorem applyToRows_append (p : Provider σ) (rule : Rule) (actions : List Action)
    (front back : List Row) :
    applyToRows p rule actions (front ++ back) =
      applyToRows p rule actions front >>= fun n =>
        applyToRows p rule actions back >>= fun k => pure (k + n) := by
  induction front with
  | nil => simp [applyToRows]
  | cons row front ih =>
      simp only [List.cons_append, applyToRows, ih, bind_assoc, pure_bind, Nat.add_assoc]

/-- The rows are counted. -/
theorem count_applyToRows {rule : Rule} {actions : List Action} {rows : List Row}
    {n : Nat} {w' : World σ} (h : applyToRows p rule actions rows w = (.ok n, w')) :
    n = rows.length := by
  induction rows generalizing w n with
  | nil =>
      cases h
      rfl
  | cons row rows ih =>
      obtain ⟨m, w₁, -, h⟩ := Call.bind_eq_ok h
      obtain ⟨_, w₂, -, h⟩ := Call.bind_eq_ok h
      obtain ⟨_, w₃, -, h⟩ := Call.bind_eq_ok h
      obtain ⟨n', w₄, hLater, h⟩ := Call.bind_eq_ok h
      cases h
      rw [ih hLater, List.length_cons]

/-! ## A whole rule -/

section

variable {rule : Rule} {query : Query} {actions : List Action} {rows : List Row}

/-- A rule makes the calls of its rows, if each can be read. -/
theorem performs_apply (hCompile : rule.compile = .ok query)
    (hActions : Action.parseAll rule.actions = .ok actions)
    (hQuery : w.store.query query.sql query.arguments w.now = .ok rows)
    (hRead : Readable rows) :
    Performs p (trace p (jobs actions rows) w.remote) (rule.apply p) w := by
  obtain ⟨line, hApply⟩ := apply_of_query (p := p) hCompile hActions hQuery
  have hTables := tables_of_query hCompile hQuery
  unfold Performs
  rw [hApply, ← List.append_nil (trace p _ _)]
  refine (performs_applyToRows rule actions hTables hRead).bind fun n w₁ _ _ => ?_
  exact Session.performs_nil rfl

/-- The report of a rule that goes through. -/
theorem report_apply (hCompile : rule.compile = .ok query)
    (hActions : Action.parseAll rule.actions = .ok actions)
    (hQuery : w.store.query query.sql query.arguments w.now = .ok rows)
    {report : Report} {w' : World σ} (h : rule.apply p w = (.ok report, w')) :
    report = ⟨rows.length, rows.length * actions.length⟩ := by
  obtain ⟨line, hApply⟩ := apply_of_query (p := p) hCompile hActions hQuery
  rw [hApply] at h
  obtain ⟨n, w₁, hRows, h⟩ := Call.bind_eq_ok h
  obtain ⟨_, w₂, -, h⟩ := Call.bind_eq_ok h
  cases h
  rw [count_applyToRows hRows]

/-- A rule makes the calls of the rows before one that cannot be read, and ends
there, if not before. -/
theorem apply_unreadable (hCompile : rule.compile = .ok query)
    (hActions : Action.parseAll rule.actions = .ok actions)
    {front back : List Row} {row : Row} {e : Error}
    (hQuery : w.store.query query.sql query.arguments w.now =
      .ok (front ++ row :: back))
    (hRead : Readable front) (hRow : row.decode = .error e) :
    ∃ stop, (rule.apply p w).1 = .error stop ∧
      ((stop = .failed e ∧ p.Passes (trace p (jobs actions front) w.remote) w.remote ∧
          Made p (trace p (jobs actions front) w.remote) w (rule.apply p w).2) ∨
        Performed (α := Report) p (trace p (jobs actions front) w.remote) w (.error stop)
          (rule.apply p w).2) := by
  obtain ⟨line, hApply⟩ := apply_of_query (p := p) hCompile hActions hQuery
  have hFront := performs_applyToRows (p := p) rule actions
    (tables_of_query hCompile hQuery) hRead
  unfold Performs at hFront
  rw [hApply, applyToRows_append, bind_assoc]
  cases hRun : applyToRows p rule actions front w with
  | mk result w₁ =>
      rw [hRun] at hFront
      cases hFront with
      | all hPasses hMade =>
          have hStop : applyToRows p rule actions (row :: back) w₁ =
              (.error (.failed e), w₁) := by
            refine Call.bind_of_error ?_
            rw [Session.ofExcept_apply, hRow]
          rw [Call.bind_of_ok hRun, bind_assoc, Call.bind_of_error hStop]
          exact ⟨_, rfl, .inl ⟨rfl, hPasses, hMade⟩⟩
      | stopped hSplit hPasses hStops hMade =>
          rw [Call.bind_of_error hRun]
          exact ⟨_, rfl, .inr (.stopped hSplit hPasses hStops hMade)⟩

/-- A query without an answer ends the rule. -/
theorem apply_of_query_error (hCompile : rule.compile = .ok query)
    (hActions : Action.parseAll rule.actions = .ok actions) {e : Error}
    (hQuery : w.store.query query.sql query.arguments w.now = .error e) :
    rule.apply p w = (.error (.failed e), w) := by
  have hRead : (Session.read fun s now => s.query query.sql query.arguments now :
      Session σ (List Row)) w = (.error (.failed e), w) := Session.read_error hQuery
  simp [Rule.apply, Call.bind_apply, hCompile, hActions, hRead]

/-- However a rule ends whose query has an answer, it has made calls, and if it has
stopped, then at a row that cannot be read or at a call. -/
theorem apply_ends (hCompile : rule.compile = .ok query)
    (hActions : Action.parseAll rule.actions = .ok actions)
    (hQuery : w.store.query query.sql query.arguments w.now = .ok rows) :
    (∃ calls, Made p calls w (rule.apply p w).2) ∧
      ∀ stop, (rule.apply p w).1 = .error stop →
        (∃ row ∈ rows, ∃ e, row.decode = .error e ∧ stop = .failed e) ∨
          ∃ calls call, p.stop? (p.after calls w.remote) call = some stop := by
  by_cases hRead : Readable rows
  · have hPerforms := performs_apply (p := p) hCompile hActions hQuery hRead
    unfold Performs at hPerforms
    generalize (rule.apply p w).1 = result, (rule.apply p w).2 = w' at hPerforms ⊢
    cases hPerforms with
    | all _ hMade => exact ⟨⟨_, hMade⟩, fun stop hStop => (by cases hStop)⟩
    | stopped _ _ hStops hMade =>
        refine ⟨⟨_, hMade⟩, fun stop hStop => ?_⟩
        cases hStop
        exact .inr ⟨_, _, hStops⟩
  · obtain ⟨front, row, back, e, rfl, hFront, hRow⟩ := first_unreadable hRead
    obtain ⟨stop, hStop, hEnd⟩ :=
      apply_unreadable (p := p) hCompile hActions hQuery hFront hRow
    rw [hStop]
    rcases hEnd with ⟨rfl, -, hMade⟩ | hStopped
    · refine ⟨⟨_, hMade⟩, fun stop hSame => ?_⟩
      cases hSame
      exact .inl ⟨row, by simp, e, hRow, rfl⟩
    · cases hStopped with
      | stopped _ _ hStops hMade =>
          refine ⟨⟨_, hMade⟩, fun stop hSame => ?_⟩
          cases hSame
          exact .inr ⟨_, _, hStops⟩

/-- **A rule that goes through** has read all its rows and made all their calls. -/
theorem made_of_apply {report : Report} {w' : World σ}
    (h : rule.apply p w = (.ok report, w')) :
    ∃ query actions rows, rule.compile = .ok query ∧
      Action.parseAll rule.actions = .ok actions ∧
        w.store.query query.sql query.arguments w.now = .ok rows ∧
          p.Passes (trace p (jobs actions rows) w.remote) w.remote ∧
            Made p (trace p (jobs actions rows) w.remote) w w' := by
  rcases apply_before_calls p rule w with
    ⟨e, hStop⟩ | ⟨query, actions, rows, hCompile, hActions, hQuery⟩
  · rw [h] at hStop
    cases hStop
  refine ⟨query, actions, rows, hCompile, hActions, hQuery, ?_⟩
  by_cases hRead : Readable rows
  · have hPerforms := performs_apply (p := p) hCompile hActions hQuery hRead
    unfold Performs at hPerforms
    rw [h] at hPerforms
    cases hPerforms with
    | all hPasses hMade => exact ⟨hPasses, hMade⟩
  · obtain ⟨front, row, back, e, rfl, hFront, hRow⟩ := first_unreadable hRead
    obtain ⟨stop, hStop, -⟩ :=
      apply_unreadable (p := p) hCompile hActions hQuery hFront hRow
    rw [h] at hStop
    cases hStop

end

end

/-! ## Calls written down -/

/-- What an action comes down to depends on how its label is looked up, and on nothing else. -/
theorem changeAt_congr {τ : Type} {p : Provider σ} {q : Provider τ} {r : σ} {t : τ}
    (h : ∀ label, (q.resolve label t).1 = (p.resolve label r).1) (action : Action) :
    action.changeAt q t = action.changeAt p r := by
  cases action with
  | markRead => rfl
  | markUnread => rfl
  | move label => rw [Action.changeAt, Action.changeAt, labelChange_move, labelChange_move, h]

private theorem trace_traced (p : Provider σ) (list : List (String × Action)) (t : Traced σ) :
    trace p.traced list t = trace p list t.state := by
  induction list generalizing t with
  | nil => rfl
  | cons job list ih =>
      obtain ⟨id, action⟩ := job
      have hChange : action.changeAt p.traced t = action.changeAt p t.state :=
        changeAt_congr (r := t.state) (t := t) (fun _ => rfl) action
      rw [trace, trace, ih, Action.calls, Action.calls, hChange, p.after_traced]

/-- Calls were made and written down, the last one perhaps in vain, and each message
that one of them gave was put in the place of the one with its id. -/
structure Recorded (p : Provider σ) (calls : List Request)
    (w w' : World (Traced σ)) : Prop where
  written : w'.remote.calls = calls.reverse ++ w.remote.calls
  remote : w'.remote.state = p.after calls w.remote.state
  store : w'.store = w.store.after ((p.fetched calls w.remote.state).map .replace)
  now : w'.now = w.now

private theorem recorded_of_made {p : Provider σ} {calls : List Request}
    {w w' : World (Traced σ)} (h : Made p.traced calls w w') : Recorded p calls w w' where
  written := by rw [h.remote, p.after_traced]
  remote := by rw [h.remote, p.after_traced]
  store := by rw [h.store, p.fetched_traced]
  now := h.now

/-! ## Between the calls -/

/-- The schedule that stops a later call. -/
theorem stopAfter_add (n k : Nat) (stop : Stop) :
    stopAfter (n + k) stop = List.replicate n none ++ stopAfter k stop := by
  rw [stopAfter, stopAfter, ← List.append_assoc, List.replicate_append_replicate]

/-- The calls of an action are the same up to the one that is stopped. -/
theorem calls_scheduled (p : Provider σ) (r : σ) (id : String) (action : Action) (n : Nat)
    (stop : Stop) :
    (action.calls p r id).take (n + 1) <+:
        action.calls p.scheduled ⟨r, stopAfter n stop⟩ id ∧
      ((action.calls p r id).length ≤ n →
        action.calls p.scheduled ⟨r, stopAfter n stop⟩ id = action.calls p r id) := by
  cases action with
  | markRead => exact ⟨List.take_prefix _ _, fun _ => rfl⟩
  | markUnread => exact ⟨List.take_prefix _ _, fun _ => rfl⟩
  | move label =>
      cases n with
      | zero => exact ⟨⟨_, rfl⟩, fun h => absurd h (Nat.not_succ_le_zero _)⟩
      | succ n =>
          have hSame : (Action.move label).calls p.scheduled ⟨r, stopAfter (n + 1) stop⟩ id =
              (Action.move label).calls p r id := by
            have hChange : (Action.move label).changeAt p.scheduled ⟨r, stopAfter (n + 1) stop⟩ =
                (Action.move label).changeAt p r :=
              changeAt_congr (q := p.scheduled) (r := r) (t := ⟨r, stopAfter (n + 1) stop⟩)
                (fun _ => rfl) _
            exact congrArg (fun change => [Request.label label, .modify id change, .get id])
              hChange
          rw [hSame]
          exact ⟨List.take_prefix _ _, fun _ => rfl⟩

/-- The calls of a rule are the same up to the one that is stopped. -/
theorem trace_scheduled (p : Provider σ) (list : List (String × Action)) (r : σ) (n : Nat)
    (stop : Stop) :
    (trace p list r).take (n + 1) <+: trace p.scheduled list ⟨r, stopAfter n stop⟩ := by
  induction list generalizing r n with
  | nil => exact List.nil_prefix
  | cons job list ih =>
      obtain ⟨id, action⟩ := job
      obtain ⟨hFirst, hWhole⟩ := calls_scheduled p r id action n stop
      rw [trace, trace]
      by_cases hOwn : n < (action.calls p r id).length
      · rw [List.take_append_of_le_length hOwn]
        exact hFirst.trans (List.prefix_append _ _)
      · obtain ⟨k, rfl⟩ := Nat.exists_eq_add_of_le (Nat.le_of_not_lt hOwn)
        rw [hWhole (Nat.le_of_not_lt hOwn), stopAfter_add, p.after_scheduled, Nat.add_assoc,
          List.take_length_add_append]
        exact (List.prefix_append_right_inj _).2 (ih _ k)

/-- The world with a provider that stops the call after `n` others. -/
def stopping (w : World (Traced σ)) (n : Nat) (stop : Stop) :
    World (Traced (Scheduled σ)) :=
  ⟨⟨⟨w.remote.state, stopAfter n stop⟩, w.remote.calls⟩, w.store, w.now, w.log⟩

/-! ## A whole rule -/

/-- How a rule ends that does not go through: at a call that stops, in the rows before
the first one that cannot be read, or at that row. -/
inductive CutShort (p : Provider σ) (actions : List Action) (rows : List Row)
    (w : World (Traced σ)) : Except Stop Report → World (Traced σ) → Prop
  | call {front back : List Row} {before : List Request} {call : Request} {stop : Stop}
      {w' : World (Traced σ)} (split : rows = front ++ back) (readable : Readable front)
      (calls : before ++ [call] <+: trace p (jobs actions front) w.remote.state)
      (passes : p.Passes before w.remote.state)
      (stops : p.stop? (p.after before w.remote.state) call = some stop)
      (recorded : Recorded p (before ++ [call]) w w') :
      CutShort p actions rows w (.error stop) w'
  | row {front back : List Row} {row : Row} {e : Error} {w' : World (Traced σ)}
      (split : rows = front ++ row :: back) (readable : Readable front)
      (unreadable : row.decode = .error e)
      (passes : p.Passes (trace p (jobs actions front) w.remote.state) w.remote.state)
      (recorded : Recorded p (trace p (jobs actions front) w.remote.state) w w') :
      CutShort p actions rows w (.error (.failed e)) w'

/-- What becomes of a rule once its query has given rows. It makes all calls of the
rows if each row can be read and no call stops; else it ends early. The calls of
fewer rows are a first part of those of all. When a call is made, the messages that
the calls before it gave are in the place of their rows, and nothing more is done: so
it is found if the call is stopped. -/
structure Follows (p : Provider σ) (rule : Rule) (actions : List Action) (rows : List Row)
    (w : World (Traced σ)) : Prop where
  whole : Readable rows →
    p.Passes (trace p (jobs actions rows) w.remote.state) w.remote.state →
      (rule.apply p.traced w).1 = .ok ⟨rows.length, rows.length * actions.length⟩ ∧
        Recorded p (trace p (jobs actions rows) w.remote.state) w (rule.apply p.traced w).2
  cut : ¬(Readable rows ∧
      p.Passes (trace p (jobs actions rows) w.remote.state) w.remote.state) →
    CutShort p actions rows w (rule.apply p.traced w).1 (rule.apply p.traced w).2
  initial : ∀ front back, rows = front ++ back →
    trace p (jobs actions front) w.remote.state <+:
      trace p (jobs actions rows) w.remote.state
  between : Readable rows → ∀ before call later stop,
    trace p (jobs actions rows) w.remote.state = before ++ call :: later →
      p.Passes before w.remote.state →
        ∃ w', rule.apply p.scheduled.traced (stopping w before.length stop) =
            (.error stop, w') ∧
          w'.remote.calls = (before ++ [call]).reverse ++ w.remote.calls ∧
            w'.store = w.store.after ((p.fetched before w.remote.state).map .replace)

/-- What a call finds, once the calls before it have passed. -/
theorem apply_stopping (p : Provider σ) {rule : Rule} {w : World (Traced σ)}
    {query : Query} {actions : List Action} {rows : List Row}
    (hCompile : rule.compile = .ok query)
    (hActions : Action.parseAll rule.actions = .ok actions)
    (hQuery : w.store.query query.sql query.arguments w.now = .ok rows)
    (hRead : Readable rows) {before later : List Request} {call : Request} (stop : Stop)
    (hSplit : trace p (jobs actions rows) w.remote.state = before ++ call :: later)
    (hPasses : p.Passes before w.remote.state) :
    ∃ w', rule.apply p.scheduled.traced (stopping w before.length stop) =
        (.error stop, w') ∧
      w'.remote.calls = (before ++ [call]).reverse ++ w.remote.calls ∧
        w'.store = w.store.after ((p.fetched before w.remote.state).map .replace) := by
  let r : Scheduled σ := ⟨w.remote.state, stopAfter before.length stop⟩
  have hAfter : p.scheduled.after before r = ⟨p.after before w.remote.state, [some stop]⟩ :=
    p.after_scheduled before _ _
  obtain ⟨hStops, hNothing⟩ :=
    p.stopped_scheduled (p.after before w.remote.state) stop [] call
  rw [← hAfter] at hStops hNothing
  have hPasses' : p.scheduled.Passes before r := (p.passes_scheduled before _ _).2 hPasses
  obtain ⟨rest, hCalls⟩ : before ++ [call] <+: trace p.scheduled (jobs actions rows) r := by
    have hTake : (before ++ call :: later).take (before.length + 1) = before ++ [call] := by
      rw [List.take_length_add_append]
      rfl
    have hInitial := trace_scheduled p (jobs actions rows) w.remote.state before.length stop
    rwa [hSplit, hTake] at hInitial
  rw [List.append_assoc, List.singleton_append] at hCalls
  have hPerformed := performs_apply (p := p.scheduled.traced)
    (w := stopping w before.length stop) hCompile hActions hQuery hRead
  unfold Performs at hPerformed
  rw [trace_traced] at hPerformed
  cases hRun : rule.apply p.scheduled.traced (stopping w before.length stop) with
  | mk result w' =>
      rw [hRun] at hPerformed
      cases hPerformed with
      | all hAll _ =>
          rw [p.scheduled.passes_traced] at hAll
          exact absurd hAll (p.scheduled.not_passes_of_stop hCalls.symm hStops)
      | stopped hSplit' hBefore hStop hMade =>
          rw [p.scheduled.passes_traced] at hBefore
          rw [p.scheduled.after_traced, p.scheduled.stop?_traced] at hStop
          obtain ⟨rfl, rfl, rfl⟩ := p.scheduled.stop_unique
            (hCalls.trans hSplit') hPasses' hStops hBefore hStop
          have hRecorded := recorded_of_made hMade
          refine ⟨w', rfl, hRecorded.written, ?_⟩
          have hSame : p.scheduled.fetched before r = p.fetched before w.remote.state :=
            p.fetched_scheduled before _ _
          have hFetched : p.scheduled.fetched (before ++ [call]) r =
              p.fetched before w.remote.state := by
            rw [p.scheduled.fetched_append, hSame]
            simp [Provider.fetched, hNothing]
          rw [← hFetched]
          exact hRecorded.store

/-- What was made of the calls of some first rows, as it was written down. -/
theorem cutShort_of_performed {p : Provider σ} {actions : List Action}
    {rows front back : List Row} {w w' : World (Traced σ)} {stop : Stop}
    (hSplit : rows = front ++ back) (hRead : Readable front)
    (h : Performed (α := Report) p.traced (trace p (jobs actions front) w.remote.state) w
      (.error stop) w') : CutShort p actions rows w (.error stop) w' := by
  cases h with
  | @stopped before later call _ _ hCalls hPasses hStops hMade =>
      rw [p.passes_traced] at hPasses
      rw [p.after_traced, p.stop?_traced] at hStops
      refine .call hSplit hRead ⟨later, ?_⟩ hPasses hStops (recorded_of_made hMade)
      rw [hCalls, List.append_assoc, List.singleton_append]

/-- What becomes of a rule whose query has an answer. -/
theorem follows_of_query (p : Provider σ) {rule : Rule} {w : World (Traced σ)}
    {query : Query} {actions : List Action} {rows : List Row}
    (hCompile : rule.compile = .ok query)
    (hActions : Action.parseAll rule.actions = .ok actions)
    (hQuery : w.store.query query.sql query.arguments w.now = .ok rows) :
    Follows p rule actions rows w := by
  have hPerforms := performs_apply (p := p.traced) hCompile hActions hQuery
  unfold Performs at hPerforms
  rw [trace_traced] at hPerforms
  refine ⟨fun hRead hPasses => ?_, fun hNot => ?_, ?_, ?_⟩
  · have hPerformed := hPerforms hRead
    cases hRun : rule.apply p.traced w with
    | mk result w' =>
        rw [hRun] at hPerformed
        cases hPerformed with
        | all _ hMade =>
            have hReport := report_apply hCompile hActions hQuery hRun
            exact ⟨congrArg Except.ok hReport, recorded_of_made hMade⟩
        | stopped hSplit _ hStops _ =>
            rw [p.after_traced, p.stop?_traced] at hStops
            exact absurd hPasses (p.not_passes_of_stop hSplit hStops)
  · by_cases hRead : Readable rows
    · have hPerformed := hPerforms hRead
      generalize (rule.apply p.traced w).1 = result,
        (rule.apply p.traced w).2 = w' at hPerformed ⊢
      cases result with
      | ok report =>
          cases hPerformed with
          | all hPasses _ =>
              rw [p.passes_traced] at hPasses
              exact absurd ⟨hRead, hPasses⟩ hNot
      | error stop =>
          exact cutShort_of_performed (List.append_nil rows).symm hRead hPerformed
    · obtain ⟨front, row, back, e, rfl, hFront, hRow⟩ := first_unreadable hRead
      obtain ⟨stop, hStop, hEnd⟩ :=
        apply_unreadable (p := p.traced) hCompile hActions hQuery hFront hRow
      rw [trace_traced] at hEnd
      rw [hStop]
      rcases hEnd with ⟨rfl, hPasses, hMade⟩ | hStopped
      · rw [p.passes_traced] at hPasses
        exact .row rfl hFront hRow hPasses (recorded_of_made hMade)
      · exact cutShort_of_performed rfl hFront hStopped
  · rintro front back rfl
    exact trace_jobs_append p actions front back w.remote.state
  · intro hRead before call later stop hSplit hPasses
    exact apply_stopping p hCompile hActions hQuery hRead stop hSplit hPasses

/-- **The calls of a rule**, with any provider and any store. A rule that cannot be
compiled, or has an action that cannot be read, or whose query has no answer, ends
with that error, makes no call and leaves the store as it was. Else the rows that
the query gave are gone through, and they settle the calls: if each can be read and
no call stops, those are made and the report counts rows and applied actions;
otherwise the calls are made up to the one that stops, or up to the first row that
cannot be read, and the rule ends with that error. Each message that was fetched has
replaced its row before the next call, and nothing else has changed the store. -/
theorem apply_trace (p : Provider σ) (rule : Rule) (w : World (Traced σ)) :
    match rule.compile, Action.parseAll rule.actions with
    | .error e, _ => rule.apply p.traced w = (.error (.failed e), w)
    | .ok _, .error e => rule.apply p.traced w = (.error (.failed e), w)
    | .ok query, .ok actions =>
        match w.store.query query.sql query.arguments w.now with
        | .error e => rule.apply p.traced w = (.error (.failed e), w)
        | .ok rows => Follows p rule actions rows w := by
  cases hCompile : rule.compile with
  | error e => simp [Rule.apply, Call.bind_apply, hCompile]
  | ok query =>
      cases hActions : Action.parseAll rule.actions with
      | error e => simp [Rule.apply, Call.bind_apply, hCompile, hActions]
      | ok actions =>
          simp only
          cases hQuery : w.store.query query.sql query.arguments w.now with
          | error e => exact apply_of_query_error hCompile hActions hQuery
          | ok rows =>
              exact follows_of_query p hCompile hActions hQuery

/-- A message with two header lines that has not been read. -/
def titled : Message :=
  Store.headed "a" [Message.unreadLabel] [⟨"From", "ann"⟩, ⟨"Subject", "hello"⟩]

/-- A rule that marks all messages as read and files them. -/
def filing : Rule := ⟨"filing", "all", [], [⟨"read", none⟩, ⟨"move", some "Work"⟩]⟩

/-- A mailbox with that message, a label for it and a store with its row. -/
def titledWorld : World (Traced Mailbox) where
  remote := ⟨{ Mailbox.empty with messages := [("a", titled)], labels := [("Work", "L1")] }, []⟩
  store := Store.ofMessages [titled]
  now := 0
  log := []

/-- The message is read, looked up again, filed and looked up again, and each time its row and its
two header lines are put into the store anew. -/
theorem apply_trace_titled :
    let calls : List Request := [.modify "a" ⟨[], [Message.unreadLabel]⟩, .get "a",
      .label "Work", .modify "a" (.moveTo "L1"), .get "a"]
    ∃ w', filing.apply Mailbox.provider.traced titledWorld = (.ok ⟨1, 2⟩, w') ∧
      w'.remote.calls.reverse = calls ∧ w'.store.tables.map (·.headers) =
        some [⟨"a", "From", "ann"⟩, ⟨"a", "Subject", "hello"⟩] := by
  intro calls
  have hFollows {rule : Rule} {w : World (Traced Mailbox)} {query : Query}
      {actions : List Action} {rows : List Row} (hCompile : rule.compile = .ok query)
      (hActions : Action.parseAll rule.actions = .ok actions)
      (hQuery : w.store.query query.sql query.arguments w.now = .ok rows) :
      Follows Mailbox.provider rule actions rows w := by
    have hTrace := apply_trace Mailbox.provider rule w
    rw [hCompile, hActions] at hTrace
    simpa only [hQuery] using hTrace
  have hQuery : titledWorld.store.query (queryOf .all []).sql (queryOf .all []).arguments
      titledWorld.now = .ok [Row.encode titled] := by
    have hDepth : ∀ c ∈ conditionOf .all [], c.depth ≤ Sql.Condition.deepest := by decide
    exact query_queryOf (s := titledWorld.store) rfl
      (fun _ => Store.Tables.length_of_mem_ofMessages) (by simp) hDepth 0
  have hReadable : Readable [Row.encode titled] := by
    intro row hRow
    rw [List.mem_singleton.1 hRow]
    exact ⟨_, Store.decode_encode (by simp [titled, Store.headed, Part.blank])⟩
  have hCalls : Follows Mailbox.provider filing [.markRead, .move "Work"] [Row.encode titled]
      titledWorld := hFollows rfl rfl hQuery
  obtain ⟨hReport, hRecorded⟩ := hCalls.whole hReadable
    ⟨rfl, rfl, rfl, rfl, rfl, trivial⟩
  have hTrace : trace Mailbox.provider (jobs [.markRead, .move "Work"] [Row.encode titled])
      titledWorld.remote.state = calls := rfl
  generalize filing.apply Mailbox.provider.traced titledWorld = ended at hReport hRecorded
  obtain ⟨result, w'⟩ := ended
  obtain rfl : result = .ok ⟨1, 2⟩ := hReport
  refine ⟨w', rfl, ?_, ?_⟩
  · rw [hRecorded.written, hTrace]
    rfl
  · rw [hRecorded.store, hTrace]
    rfl

end Rule

end Mailroom
