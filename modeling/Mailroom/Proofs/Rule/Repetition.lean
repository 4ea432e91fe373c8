import Mailroom.Proofs.Rule.Effect
import Mailroom.Proofs.Rule.Stability
import Mathlib.Data.List.Forall2

/-!
# Applying a rule again

A rule that has gone through goes through again, selects the same messages in
the same order, and leaves every set of labels as it was. Three things come
together. A row that was selected stays selected under the rule's own changes,
since no action takes off the one label that a query may ask for, and a row that
was not selected has not changed. The selected rows have gone behind the others,
in their order, so the second query meets them in that order. And changes made
twice leave the set of labels that they leave when made once, also where actions
contradict each other; the lists may differ in their order.
-/

namespace Mailroom

/-- The same message, its labels perhaps in another order. -/
structure Message.Alike (m m' : Message) : Prop where
  same : m' = { m with labelIds := m'.labelIds }
  labels : ∀ l, l ∈ m'.labelIds ↔ l ∈ m.labelIds

private theorem Message.Alike.refl (m : Message) : m.Alike m := ⟨rfl, fun _ => Iff.rfl⟩

namespace Store.Row

/-- The labels in a row. -/
def labels (row : Row) : Except Error (List String) :=
  row.list .labelIds (Json.list? Json.text?)

/-- Rows that differ at most in the order of the labels. -/
structure Alike (row row' : Row) : Prop where
  same : ∀ c, c ≠ Column.labelIds → row'.get c = row.get c
  labels : ∃ ls ls', row.labels = .ok ls ∧ row'.labels = .ok ls' ∧
    ∀ l, l ∈ ls' ↔ l ∈ ls

end Store.Row

namespace Rule

open Mailroom.Mailbox (provider SameAccount Found)
open Mailroom.Session (Ends)
open Mailroom.Store (Row Column)

/-! ## Messages and rows -/

/-- Apart from its labels, a message's row does not depend on them. -/
theorem valueOf_labels (m : Message) (labels : List String) {c : Column}
    (hc : c ≠ .labelIds) :
    Row.valueOf { m with labelIds := labels } c = Row.valueOf m c := by
  cases c with
  | labelIds => exact absurd rfl hc
  | _ => rfl

private theorem alike_encode {m m' : Message} (h : m.Alike m') :
    (Row.encode m).Alike (Row.encode m') where
  same c hc := by
    rw [Store.get_encode, Store.get_encode, h.same, valueOf_labels m _ hc]
  labels := ⟨_, _, Store.list_labelIds m, Store.list_labelIds m', h.labels⟩

/-- Messages with one row have the same labels. -/
theorem labelIds_of_encode_eq {m m' : Message}
    (h : Row.encode m = Row.encode m') : m.labelIds = m'.labelIds := by
  have hLabels := Store.list_labelIds m
  rw [h, Store.list_labelIds] at hLabels
  exact (Except.ok.inj hLabels).symm

/-- Whether a row can be read does not depend on its labels. -/
theorem reads_of_same {m m' : Message}
    (h : ∀ c, c ≠ Column.labelIds → Row.valueOf m' c = Row.valueOf m c)
    (hReads : ∃ x, (Row.encode m).decode = .ok x) :
    ∃ x, (Row.encode m').decode = .ok x := by
  have hParts (m : Message) : (∃ x, (Row.encode m).decode = .ok x) ↔
      ∃ ps, (Row.encode m).list .parts Row.partList? = .ok ps := by
    have hWidth : ¬(Row.encode m).length ≠ Column.all.length := not_not_intro rfl
    rw [Row.decode, if_neg hWidth, Store.list_labelIds]
    cases (Row.encode m).list .parts Row.partList? with
    | error e => simp [bind, Except.bind]
    | ok ps => simp [bind, Except.bind, pure, Except.pure]
  have hSame : (Row.encode m').list .parts Row.partList? =
      (Row.encode m).list .parts Row.partList? := by
    simp only [Row.list, Store.get_encode, h .parts (by decide),
      h .id (by decide)]
  rw [hParts] at hReads ⊢
  rwa [hSame]

/-! ## What a rule leaves of a message -/

/-- The mailbox has a message with the row of this one. -/
def Reflects (b : Mailbox) (m : Message) : Prop :=
  ∃ x, b.find? m.id = some x ∧ Row.encode m = Row.encode x

/-- The messages of a store in step with a mailbox are reflected there. -/
theorem reflects_of_mirror {w : World Mailbox} {ms : List Message}
    (hHolds : w.store.Holds ms)
    (hMirror : ∀ t ∈ w.store.tables, ∀ row ∈ t.rows,
      ∃ m, w.remote.find? m.id = some m ∧ row = Row.encode m)
    {m : Message} (hm : m ∈ ms) : Reflects w.remote m := by
  obtain ⟨x, hFind, hRow⟩ := hMirror _ hHolds.tables _ (List.mem_map_of_mem hm)
  exact ⟨x, by rw [id_of_encode_eq hRow, hFind], hRow⟩

theorem Reflects.found {b : Mailbox} {m : Message} (h : Reflects b m) :
    b.Found m.id := by
  obtain ⟨x, hFind, hRow⟩ := h
  exact ⟨x, hFind, (id_of_encode_eq hRow).symm⟩

/-- No action takes off a label that is not incidental. -/
theorem mem_incidental_of_removed {b : Mailbox} {actions : List Action}
    {c : LabelChange} (hc : c ∈ changesOn b actions) {l : String}
    (hl : l ∈ c.remove) : l ∈ incidental := by
  obtain ⟨action, -, rfl⟩ := List.mem_map.1 hc
  rcases changeOn_cases b action with h | ⟨id, h⟩ | h | h
  · rw [h] at hl
    cases hl
  · rw [h, LabelChange.moveTo] at hl
    split at hl
    · cases hl
    · rw [List.mem_singleton.1 hl]
      decide
  · rw [h] at hl
    rw [List.mem_singleton.1 hl]
    decide
  · rw [h] at hl
    cases hl

/-- **What a rule leaves of a selected message**: labels have been added, and
incidental ones perhaps removed. -/
theorem Reflects.grown {b : Mailbox} {m : Message} (h : Reflects b m)
    {ids : List String} (hId : m.id ∈ ids) (actions : List Action) :
    ∃ x : Message, (b.relabel ids (changesOn b actions)).find? m.id =
        some (x.relabel (changesOn b actions)) ∧
      Grown m (x.relabel (changesOn b actions)) := by
  obtain ⟨x, hFind, hRow⟩ := h
  refine ⟨x, by rw [Mailbox.find?_relabel, hFind, Option.map_some, if_pos hId],
    fun c hc => ?_, fun l hl hNot => ?_⟩
  · rw [Message.relabel, valueOf_labels x _ hc, ← Store.get_encode,
      ← Store.get_encode, hRow]
  · rw [labelIds_of_encode_eq hRow] at hl
    exact LabelChange.mem_applyAll_of_mem hl fun c hc hRemoved =>
      hNot (mem_incidental_of_removed hc hRemoved)

/-! ## The second time -/

section

variable {rule : Rule} {w w₁ : World Mailbox} {ms sel : List Message}
  {actions : List Action}

/-- The messages that a rule has put behind the others. -/
def relabelled (b : Mailbox) (actions : List Action) (sel : List Message) :
    List Message :=
  (sel.map (·.id)).filterMap
    (b.relabel (sel.map (·.id)) (changesOn b actions)).find?

theorem mem_relabelled {b : Mailbox} {y : Message}
    (hReflects : ∀ m ∈ sel, Reflects b m) (hy : y ∈ relabelled b actions sel) :
    ∃ m ∈ sel, y.id = m.id ∧ Grown m y := by
  obtain ⟨id, hId, hFind⟩ := List.mem_filterMap.1 hy
  obtain ⟨m, hm, rfl⟩ := List.mem_map.1 hId
  obtain ⟨x, hFresh, hGrown⟩ := (hReflects m hm).grown hId actions
  rw [hFresh] at hFind
  cases hFind
  refine ⟨m, hm, ?_, hGrown⟩
  have hSame := hGrown.same .id (by decide)
  simpa [Row.valueOf] using hSame

/-- The rows that a query selects are told by their ids. -/
theorem chosen_iff_mem (hHolds : w.store.Holds ms) (hSub : sel.Sublist ms)
    {p : Row → Bool} (hSelected : sel.map Row.encode = (ms.map Row.encode).filter p)
    {m : Message} (hm : m ∈ ms) :
    p (Row.encode m) = true ↔ m.id ∈ sel.map (·.id) := by
  constructor
  · intro hChosen
    have hRow : Row.encode m ∈ sel.map Row.encode := by
      rw [hSelected]
      exact List.mem_filter.2 ⟨List.mem_map_of_mem hm, hChosen⟩
    obtain ⟨m', hm', hSame⟩ := List.mem_map.1 hRow
    exact List.mem_map.2 ⟨m', hm', id_of_encode_eq hSame⟩
  · intro hId
    obtain ⟨m', hm', hSame⟩ := List.mem_map.1 hId
    have hOne := hHolds.eq_of_id (hSub.subset hm') hm hSame
    subst hOne
    have hRow : Row.encode m' ∈ (ms.map Row.encode).filter p := by
      rw [← hSelected]
      exact List.mem_map_of_mem hm'
    exact (List.mem_filter.1 hRow).2

/-- No other row is selected. -/
theorem filter_others (hHolds : w.store.Holds ms) (hSub : sel.Sublist ms)
    {p : Row → Bool}
    (hSelected : sel.map Row.encode = (ms.map Row.encode).filter p) :
    ((ms.filter (·.id ∉ sel.map (·.id))).map Row.encode).filter p = [] := by
  rw [List.filter_eq_nil_iff]
  intro row hRow hIs
  obtain ⟨m, hm, rfl⟩ := List.mem_map.1 hRow
  obtain ⟨hm, hNot⟩ := List.mem_filter.1 hm
  rw [decide_eq_true_eq] at hNot
  exact hNot ((chosen_iff_mem hHolds hSub hSelected hm).1 hIs)

/-- The second query gives the messages that the first one gave, as the rule has
left them. -/
theorem query_again {query : Query} (hCompile : rule.compile = .ok query)
    (hHolds : w.store.Holds ms) (hSub : sel.Sublist ms)
    (hReflects : ∀ m ∈ sel, Reflects w.remote m)
    (hQuery : w.store.query query.sql query.arguments w.now =
      .ok (sel.map Row.encode)) {s₁ : Store}
    (hHolds₁ : s₁.Holds (rebuilt (w.remote.relabel (sel.map (·.id))
      (changesOn w.remote actions)) (sel.map (·.id)) ms)) :
    s₁.query query.sql query.arguments w.now =
      .ok ((relabelled w.remote actions sel).map Row.encode) := by
  obtain ⟨mode, filters, -, hFilters, rfl⟩ := compile_eq_ok hCompile
  have hSound := sound_of_map_parse hFilters
  have hSelected := selected_of_query hHolds hQuery
  have hFresh : ∀ y ∈ relabelled w.remote actions sel,
      mode.selection filters w.now (Row.encode y) = .ok true := by
    intro y hy
    obtain ⟨m, hm, -, hGrown⟩ := mem_relabelled hReflects hy
    refine hGrown.selection hSound (Row.chosen_eq_true.1 ?_)
    exact (chosen_iff_mem hHolds hSub hSelected (hSub.subset hm)).2
      (List.mem_map_of_mem hm)
  have hThese : ((relabelled w.remote actions sel).map Row.encode).filter
      (mode.chosen filters w.now) =
        (relabelled w.remote actions sel).map Row.encode := by
    rw [List.filter_eq_self]
    intro row hRow
    obtain ⟨y, hy, rfl⟩ := List.mem_map.1 hRow
    exact Row.chosen_eq_true.2 (hFresh y hy)
  have hAnswer := query_after hHolds hQuery (fun y hy => ⟨true, hFresh y hy⟩) hHolds₁
  rwa [filter_others hHolds hSub hSelected, hThese, List.nil_append] at hAnswer

private theorem map_id_relabelled {b : Mailbox} (hReflects : ∀ m ∈ sel, Reflects b m) :
    (relabelled b actions sel).map (·.id) = sel.map (·.id) := by
  refine map_id_of_found fun id hId => ?_
  obtain ⟨m, hm, rfl⟩ := List.mem_map.1 hId
  exact (hReflects m hm).found.relabel _ _

/-- A rule with actions goes through on the messages as it has left them. -/
theorem Applies.relabelled (h : Applies rule w actions sel)
    (hHolds : w.store.Holds ms) (hSub : sel.Sublist ms)
    (hReflects : ∀ m ∈ sel, Reflects w.remote m)
    (hRemote : w₁.remote =
      w.remote.relabel (sel.map (·.id)) (changesOn w.remote actions))
    (hHolds₁ : w₁.store.Holds (rebuilt w₁.remote (sel.map (·.id)) ms))
    (hNow : w₁.now = w.now) :
    Applies rule w₁ actions (relabelled w.remote actions sel) where
  parsed := h.parsed
  query := by
    obtain ⟨query, hCompile, hQuery⟩ := h.query
    refine ⟨query, hCompile, ?_⟩
    rw [hRemote] at hHolds₁
    rw [hNow]
    exact query_again hCompile hHolds hSub hReflects hQuery hHolds₁
  reads y hy := by
    obtain ⟨m, hm, -, hGrown⟩ := mem_relabelled hReflects hy
    exact reads_of_same hGrown.same (h.reads m hm)
  goes y hy action ha := by
    obtain ⟨m, hm, hId, -⟩ := mem_relabelled hReflects hy
    rw [hId, hRemote]
    exact (h.goes m hm action ha).congr (Mailbox.sameAccount_relabel _ _ _)

private theorem holds_left (hHolds : w.store.Holds ms) (hSub : sel.Sublist ms)
    {b : Mailbox} (hFound : ∀ m ∈ sel, b.Found m.id) :
    (Store.ofMessages (left b actions (sel.map (·.id)) ms)).Holds
      (left b actions (sel.map (·.id)) ms) := by
  unfold left
  split
  · exact ⟨rfl, hHolds.nodup⟩
  · refine holds_rebuilt hHolds (hHolds.nodup.sublist (hSub.map _)) ?_
    intro id hId
    obtain ⟨m, hm, rfl⟩ := List.mem_map.1 hId
    exact hFound m hm

/-- **A rule that goes through goes through again**, on the same messages. -/
theorem Applies.again (h : Applies rule w actions sel)
    (hHolds : w.store.Holds ms) (hSub : sel.Sublist ms)
    (hReflects : ∀ m ∈ sel, Reflects w.remote m)
    (hRemote : w₁.remote =
      w.remote.relabel (sel.map (·.id)) (changesOn w.remote actions))
    (hStore : w₁.store = .ofMessages (left w₁.remote actions (sel.map (·.id)) ms))
    (hNow : w₁.now = w.now) :
    ∃ sel₁, Applies rule w₁ actions sel₁ ∧
      sel₁.map (·.id) = sel.map (·.id) := by
  by_cases hNone : actions = []
  · rw [left, if_pos hNone, ← hHolds.eq_ofMessages] at hStore
    obtain ⟨query, hCompile, hQuery⟩ := h.query
    refine ⟨sel, ⟨h.parsed, ⟨query, hCompile, by rwa [hStore, hNow]⟩, h.reads, ?_⟩,
      rfl⟩
    rw [hNone]
    exact fun m _ => List.forall_mem_nil _
  · have hHolds₁ : w₁.store.Holds (left w₁.remote actions (sel.map (·.id)) ms) := by
      rw [hStore]
      refine holds_left hHolds hSub fun m hm => ?_
      rw [hRemote]
      exact (hReflects m hm).found.relabel _ _
    rw [left, if_neg hNone] at hHolds₁
    exact ⟨_, h.relabelled hHolds hSub hReflects hRemote hHolds₁ hNow,
      map_id_relabelled hReflects⟩

/-- Its two queries give the same messages in the same order. -/
theorem Applies.matched {sel₁ : List Message} (h : Applies rule w actions sel)
    (hAgain : Applies rule w₁ actions sel₁)
    (hIds : sel₁.map (·.id) = sel.map (·.id)) :
    ∃ query rows rows₁, rule.compile = .ok query ∧
      w.store.query query.sql query.arguments w.now = .ok rows ∧
        w₁.store.query query.sql query.arguments w₁.now = .ok rows₁ ∧
          rows₁.map (·.get .id) = rows.map (·.get .id) := by
  obtain ⟨query, hCompile, hQuery⟩ := h.query
  obtain ⟨query₁, hCompile₁, hQuery₁⟩ := hAgain.query
  rw [hCompile] at hCompile₁
  cases hCompile₁
  have hRowIds (sel : List Message) : (sel.map Row.encode).map (·.get .id) =
      (sel.map (·.id)).map .text := by
    simp [Row.valueOf]
  refine ⟨query, _, _, hCompile, hQuery, hQuery₁, ?_⟩
  rw [hRowIds, hRowIds, hIds]

/-- It ends with the report of the first time, and makes the same changes. -/
theorem Applies.ends_again {ms₁ sel₁ : List Message}
    (hAgain : Applies rule w₁ actions sel₁)
    (hIds : sel₁.map (·.id) = sel.map (·.id)) (hHolds₁ : w₁.store.Holds ms₁)
    (hNodup : (sel.map (·.id)).Nodup)
    (hFound : ∀ m ∈ sel, w₁.remote.Found m.id)
    (hSame : SameAccount w.remote w₁.remote) :
    Ends (rule.apply provider) w₁ (.ok ⟨sel.length, sel.length * actions.length⟩)
      (w₁.remote.relabel (sel.map (·.id)) (changesOn w.remote actions))
      (.ofMessages (left (w₁.remote.relabel (sel.map (·.id))
        (changesOn w.remote actions)) actions (sel.map (·.id)) ms₁)) := by
  have hFoundAgain : ∀ m ∈ sel₁, w₁.remote.Found m.id := by
    intro m hm
    have hId := List.mem_map_of_mem (f := (·.id)) hm
    rw [hIds] at hId
    obtain ⟨m', hm', hSame⟩ := List.mem_map.1 hId
    rw [← hSame]
    exact hFound m' hm'
  have hLength : sel₁.length = sel.length := by
    simpa using congrArg List.length hIds
  have hEnds := hAgain.ends hHolds₁ (hIds ▸ hNodup) hFoundAgain
  rw [hIds, hSame.changesOn, hLength] at hEnds
  exact hEnds

end

/-! ## What the second time leaves -/

private theorem alike_relabel (m : Message) (changes : List LabelChange) :
    (m.relabel changes).Alike ((m.relabel changes).relabel changes) :=
  ⟨rfl, fun _ => LabelChange.mem_applyAll_applyAll⟩

/-- The same changes made again leave a mailbox of the same messages. -/
theorem alike_messages (b : Mailbox) (ids : List String)
    (changes : List LabelChange) :
    List.Forall₂ (fun p q => p.1 = q.1 ∧ p.2.Alike q.2)
      (b.relabel ids changes).messages
      ((b.relabel ids changes).relabel ids changes).messages := by
  have hEach : ∀ p ∈ (b.relabel ids changes).messages,
      p.2.Alike (if p.1 ∈ ids then p.2.relabel changes else p.2) := by
    intro p hp
    obtain ⟨q, -, rfl⟩ := List.mem_map.1 hp
    by_cases h : q.1 ∈ ids
    · simpa [h] using alike_relabel q.2 changes
    · simpa [h] using Message.Alike.refl q.2
  show List.Forall₂ _ _ (List.map _ (b.relabel ids changes).messages)
  rw [List.forall₂_map_right_iff, List.forall₂_same]
  exact fun p hp => ⟨rfl, hEach p hp⟩

/-- And so do the messages of a store that follows it. -/
theorem alike_rebuilt {b : Mailbox} {ids : List String}
    (hFound : ∀ id ∈ ids, b.Found id) (changes : List LabelChange)
    (ms : List Message) :
    List.Forall₂ Message.Alike (rebuilt (b.relabel ids changes) ids ms)
      (rebuilt ((b.relabel ids changes).relabel ids changes) ids ms) := by
  have hOthers : List.Forall₂ Message.Alike (ms.filter (·.id ∉ ids))
      (ms.filter (·.id ∉ ids)) :=
    List.forall₂_same.2 fun m _ => Message.Alike.refl m
  have hThese : ∀ some : List String, (∀ id ∈ some, id ∈ ids) →
      List.Forall₂ Message.Alike
        (some.filterMap (b.relabel ids changes).find?)
        (some.filterMap ((b.relabel ids changes).relabel ids changes).find?) := by
    intro some hSome
    induction some with
    | nil => exact .nil
    | cons id some ih =>
        obtain ⟨hId, hRest⟩ := List.forall_mem_cons.1 hSome
        obtain ⟨m, hFind, -⟩ := hFound id hId
        have hOnce : (b.relabel ids changes).find? id =
            .some (m.relabel changes) := by
          rw [Mailbox.find?_relabel, hFind, Option.map_some, if_pos hId]
        have hTwice : ((b.relabel ids changes).relabel ids changes).find? id =
            .some ((m.relabel changes).relabel changes) := by
          rw [Mailbox.find?_relabel, hOnce, Option.map_some, if_pos hId]
        rw [List.filterMap_cons_some hOnce, List.filterMap_cons_some hTwice]
        exact .cons (alike_relabel m changes) (ih hRest)
  exact List.rel_append hOthers (hThese ids fun _ h => h)

private theorem alike_left {b : Mailbox} {ids : List String}
    (hFound : ∀ id ∈ ids, b.Found id) (actions : List Action)
    (changes : List LabelChange) (ms : List Message) :
    List.Forall₂ Message.Alike (left (b.relabel ids changes) actions ids ms)
      (left ((b.relabel ids changes).relabel ids changes) actions ids
        (left (b.relabel ids changes) actions ids ms)) := by
  unfold left
  split
  · exact List.forall₂_same.2 fun m _ => Message.Alike.refl m
  · rw [rebuilt_rebuilt fun id hId => (hFound id hId).relabel _ _]
    exact alike_rebuilt hFound changes ms

private theorem alike_rows {ms ms' : List Message} (h : List.Forall₂ Message.Alike ms ms') :
    List.Forall₂ Row.Alike (Store.Tables.ofMessages ms).rows
      (Store.Tables.ofMessages ms').rows := by
  show List.Forall₂ Row.Alike (ms.map Row.encode) (ms'.map Row.encode)
  rw [List.forall₂_map_left_iff, List.forall₂_map_right_iff]
  exact h.imp fun _ _ => alike_encode

/-- What applying a rule a second time leaves, in the world `w₂`, of what the
first time left, in `w₁`. The two queries give the same messages in the same
order; the mailbox and the store have the same messages in the same order, each
with the same set of labels. -/
structure Repeats (rule : Rule) (w w₁ w₂ : World Mailbox) : Prop where
  clock : w₁.now = w.now
  matched : ∃ query rows rows₁, rule.compile = .ok query ∧
    w.store.query query.sql query.arguments w.now = .ok rows ∧
      w₁.store.query query.sql query.arguments w₁.now = .ok rows₁ ∧
        rows₁.map (·.get .id) = rows.map (·.get .id)
  remote : List.Forall₂ (fun p q => p.1 = q.1 ∧ p.2.Alike q.2)
    w₁.remote.messages w₂.remote.messages
  stored : ∃ t₁ t₂, w₁.store.tables = some t₁ ∧ w₂.store.tables = some t₂ ∧
    List.Forall₂ Row.Alike t₁.rows t₂.rows

/-- **A rule applied again** goes through with the same report and changes no
set of labels. -/
theorem apply_repeats (ops : List Store.Operation) {w : World Mailbox}
    (hStore : w.store = Store.fresh.after ops)
    (hMirror : ∀ t ∈ w.store.tables, ∀ row ∈ t.rows,
      ∃ m, w.remote.find? m.id = some m ∧ row = Row.encode m)
    {rule : Rule} {report : Report} {w₁ : World Mailbox}
    (hApply : rule.apply provider w = (.ok report, w₁)) :
    ∃ w₂, rule.apply provider w₁ = (.ok report, w₂) ∧ Repeats rule w w₁ w₂ := by
  rcases Store.after_holds ops with hNone | ⟨ms, hHolds⟩
  · obtain ⟨t, hTables⟩ := tables_of_apply hApply
    rw [hStore, hNone] at hTables
    cases hTables
  rw [← hStore] at hHolds
  obtain ⟨actions, sel, hSub, hApplies⟩ := exists_applies hHolds hApply
  have hReflects : ∀ m ∈ sel, Reflects w.remote m := fun m hm =>
    reflects_of_mirror hHolds hMirror (hSub.subset hm)
  have hNodup : (sel.map (·.id)).Nodup := hHolds.nodup.sublist (hSub.map _)
  have hFound : ∀ m ∈ sel, w.remote.Found m.id := fun m hm => (hReflects m hm).found
  obtain ⟨rfl, hRemote, hStore₁, hNow⟩ :=
    hApplies.result hHolds hNodup hFound hApply
  obtain ⟨sel₁, hAgain, hIds⟩ :=
    hApplies.again hHolds hSub hReflects hRemote hStore₁ hNow
  have hFound₁ : ∀ m ∈ sel, w₁.remote.Found m.id := by
    intro m hm
    rw [hRemote]
    exact (hFound m hm).relabel _ _
  have hHolds₁ : w₁.store.Holds (left w₁.remote actions (sel.map (·.id)) ms) := by
    rw [hStore₁]
    exact holds_left hHolds hSub hFound₁
  have hSame : SameAccount w.remote w₁.remote := by
    rw [hRemote]
    exact Mailbox.sameAccount_relabel _ _ _
  obtain ⟨log, hEnds⟩ := hAgain.ends_again hIds hHolds₁ hNodup hFound₁ hSame
  refine ⟨_, hEnds, hNow, hApplies.matched hAgain hIds, ?_, ?_⟩
  · rw [hRemote]
    exact alike_messages _ _ _
  · have hFoundIds : ∀ id ∈ sel.map (·.id), w.remote.Found id := by
      intro id hId
      obtain ⟨m, hm, rfl⟩ := List.mem_map.1 hId
      exact hFound m hm
    refine ⟨_, _, hHolds₁.tables, rfl, ?_⟩
    rw [hRemote]
    exact alike_rows (alike_left hFoundIds actions _ ms)

/-- A rule about sent messages whose first two actions contradict each other. -/
def contrary : Rule :=
  ⟨"contrary", "all", [⟨"date_sent", "gte", some "2 days"⟩],
    [⟨"read", none⟩, ⟨"unread", none⟩, ⟨"move", some "Receipts"⟩]⟩

/-- A sent message that has not been read. -/
def unreadSent : Message :=
  bareMessage "a" "0" [Message.unreadLabel, Message.sentLabel]

/-- A message that was not sent. -/
def received : Message := bareMessage "b" "0" [Message.inboxLabel]

/-- A store that holds what the mailbox has. -/
def inStep : World Mailbox where
  remote := { Mailbox.empty with messages := [("a", unreadSent), ("b", received)] }
  store := Store.ofMessages [unreadSent, received]
  now := 0
  log := []

/-- The rule goes through on the sent message. -/
theorem applies_contrary :
    Applies contrary inStep [.markRead, .markUnread, .move "Receipts"]
      [unreadSent] where
  parsed := rfl
  query := by
    let filters : List Filter := [.date true .atLeast (.relative "2 days")]
    have hFits : ∀ f ∈ filters, f.Fits := by
      simp [filters, Filter.Fits, Operator.isPattern]
    have hDepth : ∀ c ∈ conditionOf .all filters,
        c.depth ≤ Sql.Condition.deepest := by
      decide
    have hSent : MatchMode.all.satisfied filters 0 (Row.encode unreadSent) = true :=
      by decide +kernel
    have hOther : MatchMode.all.satisfied filters 0 (Row.encode received) = false :=
      by decide +kernel
    refine ⟨queryOf .all filters, rfl, ?_⟩
    have hQuery := query_queryOf (s := inStep.store) rfl
      (fun _ => Store.Tables.length_of_mem_ofMessages) hFits hDepth 0
    show inStep.store.query _ _ 0 = _
    simpa [Store.Tables.ofMessages, hSent, hOther] using hQuery
  reads m hm := by
    rw [List.mem_singleton.1 hm]
    exact ⟨_, Store.decode_encode (by simp [unreadSent, bareMessage, Part.blank])⟩
  goes m hm action ha := by
    rw [List.mem_singleton.1 hm]
    simp only [List.mem_cons, List.not_mem_nil, or_false] at ha
    rcases ha with rfl | rfl | rfl
    all_goals exact ⟨rfl, rfl, rfl⟩

/-- The sent message is selected twice; the label of messages not read goes to
the end of its labels. -/
theorem apply_repeats_contrary :
    (∀ t ∈ inStep.store.tables, ∀ row ∈ t.rows,
      ∃ m, inStep.remote.find? m.id = some m ∧ row = Row.encode m) ∧
    ∃ w₁, contrary.apply provider inStep = (.ok ⟨1, 3⟩, w₁) ∧
      ∃ w₂, contrary.apply provider w₁ = (.ok ⟨1, 3⟩, w₂) ∧
        Repeats contrary inStep w₁ w₂ := by
  have hHolds : inStep.store.Holds [unreadSent, received] := ⟨rfl, by decide⟩
  have hFind : ∀ m ∈ [unreadSent, received], inStep.remote.find? m.id = some m := by
    intro m hm
    simp only [List.mem_cons, List.not_mem_nil, or_false] at hm
    rcases hm with rfl | rfl
    · rfl
    · rfl
  have hMirror : ∀ t ∈ inStep.store.tables, ∀ row ∈ t.rows,
      ∃ m, inStep.remote.find? m.id = some m ∧ row = Row.encode m := by
    intro t ht row hRow
    cases ht
    obtain ⟨m, hm, rfl⟩ := List.mem_map.1 hRow
    exact ⟨m, hFind m hm, rfl⟩
  have hFound : ∀ m ∈ [unreadSent], inStep.remote.Found m.id :=
    fun m hm => ⟨m, hFind m (by simp [List.mem_singleton.1 hm]), rfl⟩
  obtain ⟨log, hApply⟩ := applies_contrary.ends hHolds (by decide) hFound
  have hStore : inStep.store = Store.fresh.after
      [.ensureSchema, .insert unreadSent, .insert received] := by
    have hAfter := Store.holds_of_nodup [unreadSent, received] (by decide)
    exact (hHolds.eq_ofMessages).trans hAfter.eq_ofMessages.symm
  exact ⟨hMirror, _, hApply, apply_repeats _ hStore hMirror hApply⟩

end Rule

end Mailroom
