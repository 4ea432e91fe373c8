import Mailroom.Proofs.Rule.Selection

/-!
# The store as an ordered map

Seen from outside, a store with tables is a list of messages with ids of their
own, in the order in which they were added. `Operation.onMessages` says what an
operation does to such a list and how it answers, without a word about tables;
`Represents` says what can be seen of a store that stands for a list: the ids,
the numbers, the rows of a query without a condition, and the header lines.

The store of a list answers each operation as the list does and turns into the
store of the list that comes out, so the two stay in step along any sequence of
operations, those that fail included.

## Main results

* `perform_ofMessages`: one operation, on the store and on the list.
* `after_ofMessages`: many of them.
* `after_represents`: what can be seen of a store after any of them.
-/

namespace Mailroom.Store

variable {ms : List Message}

/-! ## Operations on lists -/

/-- What an operation does to messages in order. A message whose id is there is
not added; one that replaces another goes to the end. -/
def Operation.onMessages (ms : List Message) :
    Operation → Except ErrorCode (List Message)
  | ensureSchema => .ok ms
  | insert m =>
      if m.id ∈ ms.map (·.id) then .error .alreadyExists else .ok (ms ++ [m])
  | remove id => .ok (ms.filter (·.id ≠ id))
  | replace m => .ok (ms.filter (·.id ≠ m.id) ++ [m])

/-- The messages after an operation; one that fails leaves them as they were. -/
def stepMessages (ms : List Message) (op : Operation) : List Message :=
  match op.onMessages ms with
  | .ok ms' => ms'
  | .error _ => ms

/-- The messages after operations on none, one after the other. -/
def messagesAfter (ops : List Operation) : List Message :=
  ops.foldl stepMessages []

/-! ## The store of a list -/

theorem holds_ofMessages (h : (ms.map (·.id)).Nodup) :
    (ofMessages ms).Holds ms := ⟨rfl, h⟩

/-- **One operation**: the store of a list answers as the list does, and what
comes out is the store of what comes out there. -/
theorem perform_ofMessages (h : (ms.map (·.id)).Nodup) (op : Operation) :
    (op.perform (ofMessages ms)).mapError Error.code =
      (op.onMessages ms).map ofMessages := by
  have hHolds := holds_ofMessages h
  cases op with
  | ensureSchema => rfl
  | insert m =>
      rw [Operation.perform, Operation.onMessages]
      by_cases hOld : m.id ∈ ms.map (·.id)
      · rw [hHolds.insert_duplicate hOld, if_pos hOld]
        rfl
      · obtain ⟨s, hInsert, hAfter⟩ := hHolds.insert hOld
        rw [hInsert, if_neg hOld, hAfter.eq_ofMessages]
        rfl
  | remove id =>
      obtain ⟨s, hRemove, hAfter⟩ := hHolds.remove id
      rw [Operation.perform, hRemove, hAfter.eq_ofMessages]
      rfl
  | replace m =>
      obtain ⟨s, hReplace, hAfter⟩ := hHolds.replace m
      rw [Operation.perform, hReplace, hAfter.eq_ofMessages]
      rfl

/-- An operation that succeeds on messages with ids of their own keeps them so. -/
theorem nodup_stepMessages (h : (ms.map (·.id)).Nodup) (op : Operation) :
    ((stepMessages ms op).map (·.id)).Nodup := by
  have hHolds := holds_ofMessages h
  unfold stepMessages
  cases op with
  | ensureSchema => exact h
  | insert m =>
      by_cases hOld : m.id ∈ ms.map (·.id)
      · simpa only [Operation.onMessages, if_pos hOld] using h
      · obtain ⟨s, -, hAfter⟩ := hHolds.insert hOld
        simpa only [Operation.onMessages, if_neg hOld] using hAfter.nodup
  | remove id => exact Holds.filter h _
  | replace m =>
      obtain ⟨s, -, hAfter⟩ := hHolds.replace m
      exact hAfter.nodup

/-- The store follows the list, also when an operation fails. -/
theorem step_ofMessages (h : (ms.map (·.id)).Nodup) (op : Operation) :
    (ofMessages ms).step op = ofMessages (stepMessages ms op) := by
  have hPerform := perform_ofMessages h op
  unfold step stepMessages
  cases hStore : op.perform (ofMessages ms) with
  | ok s =>
      cases hList : op.onMessages ms with
      | ok ms' =>
          rw [hStore, hList] at hPerform
          exact Except.ok.inj hPerform
      | error e =>
          rw [hStore, hList] at hPerform
          cases hPerform
  | error e =>
      cases hList : op.onMessages ms with
      | ok ms' =>
          rw [hStore, hList] at hPerform
          cases hPerform
      | error e => rfl

/-- **Many operations**: starting with tables that are empty, the store is that
of the list all along. -/
theorem after_ofMessages (ops : List Operation) :
    fresh.ensureSchema.after ops = ofMessages (messagesAfter ops) ∧
      ((messagesAfter ops).map (·.id)).Nodup := by
  have hRun : ∀ (ops : List Operation) (ms : List Message),
      (ms.map (·.id)).Nodup →
      (ofMessages ms).after ops = ofMessages (ops.foldl stepMessages ms) ∧
        ((ops.foldl stepMessages ms).map (·.id)).Nodup := by
    intro ops
    induction ops with
    | nil => exact fun ms h => ⟨rfl, h⟩
    | cons op ops ih =>
        intro ms h
        rw [after, List.foldl_cons, List.foldl_cons, step_ofMessages h]
        exact ih _ (nodup_stepMessages h op)
  exact hRun ops [] List.nodup_nil

/-! ## What can be seen of a store -/

/-- The query of all messages, as a text. -/
def selectAll : String := "SELECT " ++ selectList ++ " FROM messages"

/-- What can be seen of a store that stands for messages in this order: their
ids, their number and the latest of their history ids, their rows, and their
header lines, those of each message together and none besides. -/
structure Represents (s : Store) (ms : List Message) : Prop where
  unique : (ms.map (·.id)).Nodup
  ids : s.ids = .ok (ms.map (·.id))
  stats : s.stats =
    .ok ⟨HistoryId.latest? (ms.map (·.historyId)), ms.length⟩
  rows : ∀ now, s.query selectAll [] now = .ok (ms.map Row.encode)
  headers : s.tables.map (·.headers) = some (ms.flatMap fun m =>
    m.payload.headers.map fun line => ⟨m.id, line.name, line.value⟩)

/-- This is the query of a rule without filters. -/
theorem sql_queryOf_nil : (Rule.queryOf .all []).sql = selectAll := by
  rw [Rule.queryOf, selectAll, List.isEmpty_nil, if_pos rfl, String.append_empty]

/-- A query without a condition gives the rows of full width as they are. -/
theorem query_selectAll {s : Store} {t : Tables} (hTables : s.tables = some t)
    (hWidth : ∀ row ∈ t.rows, row.length = Column.all.length) (now : Int) :
    s.query selectAll [] now = .ok t.rows := by
  have hFits : ∀ f ∈ ([] : List Rule.Filter), f.Fits := by simp
  have hDepth : ∀ c ∈ Rule.conditionOf .all [],
      c.depth ≤ Sql.Condition.deepest := by
    simp [Rule.conditionOf]
  have hQuery := Rule.query_queryOf hTables hWidth hFits hDepth now
  have hArguments : (Rule.queryOf .all []).arguments = [] := rfl
  have hEvery : t.rows.filter (Rule.MatchMode.all.satisfied [] now) = t.rows :=
    List.filter_eq_self.2 fun row _ => rfl
  rw [sql_queryOf_nil, hArguments, hEvery] at hQuery
  exact hQuery

private theorem Holds.represents {s : Store} (h : s.Holds ms) : Represents s ms where
  unique := h.nodup
  ids := h.ids
  stats := h.stats
  rows := query_selectAll h.tables fun _ => Tables.length_of_mem_ofMessages
  headers := by
    rw [h.tables]
    rfl

/-- **The store is an ordered map.** After any operations on a store whose
tables have just been made, what can be seen of it is the list that they make of
no messages, and the next operation answers as it does on that list and leaves
the store of the outcome. -/
theorem after_represents (ops : List Operation) :
    let s := fresh.ensureSchema.after ops
    let ms := messagesAfter ops
    Represents s ms ∧ ∀ op : Operation,
      (op.perform s).mapError Error.code = (op.onMessages ms).map ofMessages ∧
        Represents (s.step op) (stepMessages ms op) := by
  intro s ms
  obtain ⟨hStore, hNodup⟩ : s = ofMessages ms ∧ (ms.map (·.id)).Nodup :=
    after_ofMessages ops
  rw [hStore]
  refine ⟨(holds_ofMessages hNodup).represents, fun op => ⟨?_, ?_⟩⟩
  · exact perform_ofMessages hNodup op
  · rw [step_ofMessages hNodup]
    exact (holds_ofMessages (nodup_stepMessages hNodup op)).represents

/-- A message of which only its labels and its header lines are known. -/
def headed (id : String) (labelIds : List String) (headers : List Header) : Message :=
  { bareMessage id "0" labelIds with payload := { Part.blank with headers } }

/-- A message with two header lines is added, not added again, and replaced: it goes behind the
other one, and so do its lines, each of them once. -/
theorem after_represents_headed :
    let first := headed "a" [] [⟨"From", "ann"⟩, ⟨"Subject", "hello"⟩]
    let second := headed "b" [] [⟨"From", "bob"⟩]
    let ops : List Operation := [.insert first, .insert second, .insert first, .replace first]
    let s := fresh.ensureSchema.after ops
    Represents s [second, first] ∧
      s.tables.map (·.headers) =
        some [⟨"b", "From", "bob"⟩, ⟨"a", "From", "ann"⟩, ⟨"a", "Subject", "hello"⟩] ∧
      ((Operation.insert first).perform s).mapError Error.code = .error .alreadyExists := by
  intro first second ops s
  obtain ⟨hRepresents, hNext⟩ := after_represents ops
  have hMessages : messagesAfter ops = [second, first] := rfl
  obtain ⟨hAnswer, -⟩ := hNext (.insert first)
  rw [hMessages] at hRepresents hAnswer
  exact ⟨hRepresents, hRepresents.headers, hAnswer⟩

end Mailroom.Store
