import Mailroom.Proofs.Rule.Repetition
import Mailroom.Proofs.Rule.Trace
import Mailroom.Proofs.Sync.Listing

/-!
# The order of the rows after a rule

Each action on a message takes its row out of the table and puts a new one at the
end. What that comes to for a whole rule is a stable partition: the rows that its
query did not give keep their places, and behind them come those that it gave, in
the order in which it gave them, each once, however many actions there are.

What is fetched for a row decides where a new row goes, so this takes a provider
that gives each message under its own id. It is read off the calls: they fetch the
message of each row once for each action, and of several messages of one id that are
put in place of each other the last one is left.

## Main results

* `ids_fetched`: which messages the calls of a rule fetch.
* `after_keyed`: the tables of a store have a key.
* `apply_partitions_rows`: the tables after a rule.
* `Mailbox.faithful`: a mailbox in memory is such a provider.
-/

namespace Mailroom

variable {σ : Type}

/-! ## Messages under their own ids -/

/-- Whatever calls are made, what is fetched has the id that was asked for. -/
def Provider.Faithful (p : Provider σ) (r : σ) : Prop :=
  ∀ calls id m r', p.get id (p.after calls r) = (.ok m, r') → m.id = id

private theorem Provider.Faithful.after {p : Provider σ} {r : σ} (h : p.Faithful r)
    (calls : List Request) : p.Faithful (p.after calls r) := by
  intro later id m r' hGet
  rw [← p.after_append] at hGet
  exact h _ id m r' hGet

namespace Mailbox

/-- A call changes at most the labels of a message. -/
theorem step_cases (b : Mailbox) (call : Request) :
    provider.step b call = b ∨
      ∃ id change, provider.step b call = b.changeLabels id change := by
  cases call with
  | list token size =>
      exact .inl (list_cases (Prod.eta (provider.list token size b)).symm).1
  | get id => exact .inl (get_cases (Prod.eta (provider.get id b)).symm).1
  | profile => exact .inl (profile_cases (Prod.eta (provider.profile b)).symm).1
  | label name => exact .inl (resolve_cases (Prod.eta (provider.resolve name b)).symm)
  | modify id change =>
      rcases modify_cases (Prod.eta (provider.modify id change b)).symm with
        ⟨-, -, hSame⟩ | ⟨-, hChanged⟩
      · exact .inl hSame
      · exact .inr ⟨id, change, hChanged⟩

private theorem Keyed.step {b : Mailbox} (h : b.Keyed) (call : Request) :
    (provider.step b call).Keyed := by
  rcases step_cases b call with hSame | ⟨id, change, hChanged⟩
  · rwa [hSame]
  · rw [hChanged]
    exact h.changeLabels id change

/-- **A mailbox in memory is faithful** if each message is kept under its id. -/
theorem faithful {b : Mailbox} (h : b.Keyed) : provider.Faithful b := by
  intro calls id m b' hGet
  have hKeyed : (provider.after calls b).Keyed := by
    induction calls generalizing b with
    | nil => exact h
    | cons call calls ih => exact ih (h.step call) hGet
  exact hKeyed id m ((get_cases hGet).2 m rfl)

end Mailbox

/-! ## Tables with a key -/

namespace Store

/-- What a message table always is: its rows have full width, their ids are texts, and
no id is there twice. -/
structure Tables.Keyed (t : Tables) : Prop where
  width : ∀ row ∈ t.rows, row.length = Column.all.length
  text : ∀ row ∈ t.rows, row.get .id = .text (row.textOf .id)
  nodup : (t.rows.map (·.textOf .id)).Nodup

theorem Holds.keyed {s : Store} {ms : List Message} (h : s.Holds ms) :
    (Tables.ofMessages ms).Keyed := by
  refine ⟨fun row => Tables.length_of_mem_ofMessages, ?_, ?_⟩
  · intro row hRow
    obtain ⟨m, -, rfl⟩ := List.mem_map.1 hRow
    simp [Row.valueOf]
  · simpa [Tables.ofMessages, Function.comp_def] using h.nodup

/-- The tables of every store that operations make of a fresh one have a key. -/
theorem after_keyed (ops : List Operation) : ∀ t ∈ (fresh.after ops).tables, t.Keyed := by
  intro t ht
  rcases after_holds ops with hNone | ⟨ms, hHolds⟩
  · rw [hNone] at ht
    cases ht
  · rw [hHolds.tables] at ht
    cases ht
    exact hHolds.keyed

/-- A row is one of some rows if its id is among theirs. -/
theorem Tables.Keyed.any_hasId {t : Tables} (h : t.Keyed) (matched : Row → Bool)
    {row : Row} (hRow : row ∈ t.rows) :
    ((t.rows.filter matched).map (·.textOf .id)).any row.hasId = matched row := by
  have hHasId (id : String) : row.hasId id = decide (row.textOf .id = id) :=
    Tables.hasId_of_get (h.text row hRow) id
  rw [Bool.eq_iff_iff, List.any_eq_true]
  constructor
  · rintro ⟨id, hId, hHas⟩
    obtain ⟨other, hOther, rfl⟩ := List.mem_map.1 hId
    obtain ⟨hMem, hMatched⟩ := List.mem_filter.1 hOther
    rw [hHasId, decide_eq_true_eq] at hHas
    rwa [List.inj_on_of_nodup_map h.nodup hRow hMem hHas]
  · intro hMatched
    refine ⟨row.textOf .id, List.mem_map_of_mem ?_, by rw [hHasId]; simp⟩
    exact List.mem_filter.2 ⟨hRow, hMatched⟩

private theorem Tables.without_congr (t : Tables) {ids ids' : List String}
    (h : ∀ id, id ∈ ids ↔ id ∈ ids') : t.without ids = t.without ids' := by
  have hAny (row : Row) : ids.any row.hasId = ids'.any row.hasId := by
    rw [Bool.eq_iff_iff, List.any_eq_true, List.any_eq_true]
    simp only [h]
  simp only [Tables.without, hAny, h]

end Store

namespace Rule

open Mailroom.Mailbox (provider)
open Mailroom.Store (Row Tables headerRows)

/-! ## What the calls of a rule fetch -/

section

variable {p : Provider σ} {r : σ}

/-- The calls of an action fetch the message once. -/
theorem fetched_calls {id : String} {action : Action}
    (hPasses : p.Passes (action.calls p r id) r) :
    ∃ m, p.fetched (action.calls p r id) r = [m] ∧
      ∃ calls r', p.get id (p.after calls r) = (.ok m, r') := by
  have hLookups : p.fetched action.lookups r = [] := by
    cases action <;> rfl
  let change := action.changeAt p r
  have hCalls : action.calls p r id = (action.lookups ++ [.modify id change]) ++ [.get id] := by
    simp [Action.calls, change]
  rw [hCalls] at hPasses ⊢
  have hStop := ((p.passes_append _ _ r).1 hPasses).2.1
  have hGet : ∃ m r', p.get id (p.after (action.lookups ++ [.modify id change]) r) =
      (.ok m, r') := by
    simp only [Provider.stop?] at hStop
    cases hResult : p.get id (p.after (action.lookups ++ [.modify id change]) r) with
    | mk result r' =>
        cases result with
        | ok m => exact ⟨m, r', rfl⟩
        | error stop => simp [hResult, stopOf] at hStop
  obtain ⟨m, r', hGet⟩ := hGet
  refine ⟨m, ?_, _, r', hGet⟩
  rw [p.fetched_append, p.fetched_append, hLookups]
  simp [Provider.fetched, Provider.message?, hGet, Except.toOption]

/-- **What is fetched** is the message of each row for each action. -/
theorem ids_fetched {list : List (String × Action)} (hFaithful : p.Faithful r)
    (hPasses : p.Passes (trace p list r) r) :
    (p.fetched (trace p list r) r).map (·.id) = list.map (·.1) := by
  induction list generalizing r with
  | nil => rfl
  | cons job list ih =>
      obtain ⟨id, action⟩ := job
      rw [trace, p.passes_append] at hPasses
      obtain ⟨m, hFetched, calls, r', hGet⟩ := fetched_calls hPasses.1
      rw [trace, p.fetched_append, hFetched, List.singleton_append, List.map_cons,
        hFaithful calls id m r' hGet, ih (hFaithful.after _) hPasses.2, List.map_cons]

end

/-- However many actions there are, each row is gone through once. -/
theorem dedup_map_jobs {actions : List Action} (hSome : actions ≠ []) {rows : List Row}
    (hNodup : (rows.map (·.textOf .id)).Nodup) :
    ((jobs actions rows).map (·.1)).dedup = rows.map (·.textOf .id) := by
  have hRepeated (id : String) (ids : List String) (h : id ∉ ids) :
      (actions.map (fun _ => id) ++ ids).dedup = id :: ids.dedup := by
    induction actions with
    | nil => exact absurd rfl hSome
    | cons action actions ih =>
        cases actions with
        | nil => exact List.dedup_cons_of_notMem h
        | cons action' actions =>
            rw [List.map_cons, List.cons_append, List.dedup_cons_of_mem (by simp)]
            exact ih (by simp)
  induction rows with
  | nil => rfl
  | cons row rows ih =>
      obtain ⟨hNew, hNodup⟩ := List.nodup_cons.1 hNodup
      have hLater := ih hNodup
      have hSplit : (jobs actions (row :: rows)).map (·.1) =
          actions.map (fun _ => row.textOf .id) ++ (jobs actions rows).map (·.1) := by
        simp [jobs, Function.comp_def]
      have hFree : row.textOf .id ∉ (jobs actions rows).map (·.1) := by
        rwa [← List.mem_dedup, hLater]
      rw [hSplit, hRepeated _ _ hFree, hLater, List.map_cons]

/-! ## The tables afterwards -/

/-- Tables before and after a rule: first what its query did not give, as it was, and
then, written anew, what it gave, both in their order. -/
structure PartitionsRows (rule : Rule) (w : World σ) (t t' : Tables)
    (matched : Row → Bool) (fresh : List Message) : Prop where
  query : ∃ query, rule.compile = .ok query ∧
    w.store.query query.sql query.arguments w.now = .ok (t.rows.filter matched)
  ids : fresh.map (·.id) = (t.rows.filter matched).map (·.textOf .id)
  rows : t'.rows = t.rows.filter (!matched ·) ++ fresh.map Row.encode
  headers : t'.headers = t.headers.filter (·.messageId ∉ fresh.map (·.id)) ++
    fresh.flatMap headerRows

/-- **A rule partitions the rows**: after a rule with actions that has gone through,
the rows that its query gave stand behind the others, each once, and both groups
are in their old order, and so are the header lines. The tables that operations make
of a fresh store have a key (`after_keyed`). -/
theorem apply_partitions_rows {p : Provider σ} {rule : Rule} {w w' : World σ}
    {t : Tables} {report : Report} (hFaithful : p.Faithful w.remote)
    (hTables : w.store.tables = some t) (hKeyed : t.Keyed) (hSome : rule.actions ≠ [])
    (hApply : rule.apply p w = (.ok report, w')) :
    ∃ t' matched fresh, w'.store.tables = some t' ∧
      PartitionsRows rule w t t' matched fresh := by
  obtain ⟨query, actions, rows, hCompile, hActions, hQuery, hPasses, hMade⟩ :=
    made_of_apply hApply
  obtain ⟨mode, filters, -, -, rfl⟩ := compile_eq_ok hCompile
  obtain ⟨-, -, hRows⟩ := (query_queryOf_iff hTables hKeyed.width).1 hQuery
  generalize mode.chosen filters w.now = matched at hRows
  subst hRows
  let list := jobs actions (t.rows.filter matched)
  let messages := p.fetched (trace p list w.remote) w.remote
  have hNodup : ((t.rows.filter matched).map (·.textOf .id)).Nodup :=
    hKeyed.nodup.sublist (List.filter_sublist.map _)
  have hFetched : messages.map (·.id) = list.map (·.1) := ids_fetched hFaithful hPasses
  have hFresh : (Tables.lastOfEach messages).map (·.id) =
      (t.rows.filter matched).map (·.textOf .id) := by
    rw [Tables.map_id_lastOfEach, hFetched, dedup_map_jobs (ne_nil_of_mapM hActions hSome) hNodup]
  have hIds : ∀ id, id ∈ messages.map (·.id) ↔
      id ∈ (t.rows.filter matched).map (·.textOf .id) := by
    intro id
    rw [← hFresh, Tables.map_id_lastOfEach, List.mem_dedup]
  have hStore : w'.store.tables = some ((t.without
      ((t.rows.filter matched).map (·.textOf .id))).append
        (Tables.lastOfEach messages)) := by
    rw [hMade.store, Store.after_replaces hTables, Tables.foldl_replaced,
      t.without_congr hIds]
  refine ⟨_, matched, _, hStore, ⟨_, hCompile, hQuery⟩, hFresh, ?_, ?_⟩
  · refine congrArg (· ++ _) (List.filter_congr fun row hRow => ?_)
    rw [hKeyed.any_hasId matched hRow]
  · rw [hFresh]
    rfl

theorem holds_inStep : inStep.store.Holds [unreadSent, received] := ⟨rfl, by decide⟩

/-- The rule goes through there. -/
theorem apply_inStep : ∃ w', contrary.apply provider inStep = (.ok ⟨1, 3⟩, w') := by
  have hFound : ∀ m ∈ [unreadSent], inStep.remote.Found m.id := by
    intro m hm
    rw [List.mem_singleton.1 hm]
    exact ⟨unreadSent, rfl, rfl⟩
  obtain ⟨log, hApply⟩ := applies_contrary.ends holds_inStep (by decide) hFound
  exact ⟨_, hApply⟩

/-- The one message that the rule is about goes behind the other, though it is written
three times. -/
theorem apply_partitions_rows_contrary :
    provider.Faithful inStep.remote ∧ contrary.actions ≠ [] ∧
      ∃ t, inStep.store.tables = some t ∧ t.Keyed ∧
        ∃ w', contrary.apply provider inStep = (.ok ⟨1, 3⟩, w') ∧
          ∃ t' matched fresh, w'.store.tables = some t' ∧
            PartitionsRows contrary inStep t t' matched fresh := by
  have hFaithful : provider.Faithful inStep.remote :=
    Mailbox.faithful ((Mailbox.keyed_empty.put unreadSent).put received)
  have hSome : contrary.actions ≠ [] := by decide
  have hTables := holds_inStep.tables
  have hKeyed := holds_inStep.keyed
  obtain ⟨w', hApply⟩ := apply_inStep
  exact ⟨hFaithful, hSome, _, hTables, hKeyed, w', hApply,
    apply_partitions_rows hFaithful hTables hKeyed hSome hApply⟩

end Rule

end Mailroom
