import Mailroom.Proofs.Store.StoredRow
import Mathlib.Data.List.Nodup

/-!
# The store as a list of messages

Two tables that are written together hold no more than a list of messages: the
rows are their rows, and the header lines are those of the first message, then
those of the second, and so on. `Tables.ofMessages` makes the tables of a list,
and each operation on the tables is an operation on the list: adding appends,
removing filters, and replacing does both.

`Holds` says that a store holds such a list, no id twice. Every store that the
operations reach from a fresh one does, once its tables are made; so what is
proved of stores that hold messages is proved of all stores there are.
-/

namespace Mailroom

/-- A message of which only its labels and the time it came are known. -/
def bareMessage (id internalDate : String) (labelIds : List String) : Message :=
  ⟨id, "", "", internalDate, labelIds, Part.blank, none, 0, "", none⟩

end Mailroom

namespace Mailroom.Store

open Sql (Value)

/-- What is computed in two parts is computed if both are. -/
theorem bind_eq_ok_iff {α β : Type} {x : Except Error α}
    {f : α → Except Error β} {b : β} :
    x >>= f = .ok b ↔ ∃ a, x = .ok a ∧ f a = .ok b := by
  cases x with
  | error e => simp [bind, Except.bind]
  | ok a => simp [bind, Except.bind]

/-! ## Tables of messages -/

namespace Tables

/-- The tables of messages, in their order. -/
def ofMessages (ms : List Message) : Tables :=
  ⟨ms.map Row.encode, ms.flatMap headerRows⟩

/-- The rows of messages have full width. -/
theorem length_of_mem_ofMessages {ms : List Message} {row : Row}
    (h : row ∈ (ofMessages ms).rows) : row.length = Column.all.length := by
  obtain ⟨m, -, rfl⟩ := List.mem_map.1 h
  exact Row.length_encode m

private theorem any_hasId_encode (ms : List Message) (id : String) :
    (ms.map Row.encode).any (·.hasId id) = decide (id ∈ ms.map (·.id)) := by
  induction ms with
  | nil => rfl
  | cons m ms ih =>
      rw [List.map_cons, List.any_cons, ih, hasId_encode]
      by_cases h : m.id = id
      · simp [h]
      · have hne : id ≠ m.id := fun heq => h heq.symm
        simp [h, hne]

/-- Adding a message appends it, unless its id is there. -/
theorem insert_ofMessages (ms : List Message) (m : Message) :
    (ofMessages ms).insert m =
      if m.id ∈ ms.map (·.id) then .error (.store .duplicateId)
      else .ok (ofMessages (ms ++ [m])) := by
  have hAny := any_hasId_encode ms m.id
  unfold insert
  by_cases h : m.id ∈ ms.map (·.id)
  · rw [if_pos h, if_pos (by simpa [ofMessages, h] using hAny)]
  · rw [if_neg h, if_neg (by simpa [ofMessages, h] using hAny)]
    simp [ofMessages]

/-- The header lines of a message all have its id. -/
theorem filter_headerRows (m : Message) (p : String → Prop) [DecidablePred p] :
    (headerRows m).filter (fun h => p h.messageId) =
      if p m.id then headerRows m else [] := by
  by_cases h : p m.id
  · simp [headerRows, h]
  · simp [headerRows, h]

/-- Removing an id filters the messages. -/
theorem remove_ofMessages (ms : List Message) (id : String) :
    (ofMessages ms).remove id = ofMessages (ms.filter (·.id ≠ id)) := by
  induction ms with
  | nil => rfl
  | cons m ms ih =>
      simp only [remove, ofMessages, Tables.mk.injEq] at ih ⊢
      obtain ⟨hRows, hHeaders⟩ := ih
      have hOwn := filter_headerRows m (· ≠ id)
      rw [List.map_cons, List.filter_cons, List.flatMap_cons, List.filter_append, hOwn,
        hRows, hHeaders, List.filter_cons]
      by_cases h : m.id = id
      · simp [h]
      · simp [h]

/-- The rows and header lines of some ids. -/
def restrict (t : Tables) (ids : List String) : Tables :=
  ⟨t.rows.filter fun row => ids.any row.hasId,
    t.headers.filter (·.messageId ∈ ids)⟩

/-- The rows and header lines of messages, behind those that are there. -/
def append (t : Tables) (ms : List Message) : Tables :=
  ⟨t.rows ++ ms.map Row.encode, t.headers ++ ms.flatMap headerRows⟩

theorem append_ofMessages (ms ms' : List Message) :
    (ofMessages ms).append ms' = ofMessages (ms ++ ms') := by
  simp [append, ofMessages]

/-- Whether a message has one of some ids. -/
theorem any_hasId_ids (m : Message) (ids : List String) :
    ids.any (Row.encode m).hasId = decide (m.id ∈ ids) := by
  rw [List.any_eq, decide_eq_decide]
  simp [hasId_encode]

/-- Restricting tables restricts the messages. -/
theorem restrict_ofMessages (ms : List Message) (ids : List String) :
    (ofMessages ms).restrict ids = ofMessages (ms.filter (·.id ∈ ids)) := by
  induction ms with
  | nil => rfl
  | cons m ms ih =>
      simp only [restrict, ofMessages, Tables.mk.injEq] at ih ⊢
      obtain ⟨hRows, hLines⟩ := ih
      rw [List.map_cons, List.filter_cons, List.flatMap_cons, List.filter_append,
        any_hasId_ids, filter_headerRows, hRows, hLines, List.filter_cons]
      by_cases h : m.id ∈ ids
      · simp [h]
      · simp [h]

theorem texts_map_text (column : Column) (ss : List String) :
    texts column (ss.map .text) = .ok ss := by
  induction ss with
  | nil => rfl
  | cons s ss ih =>
      unfold texts at ih ⊢
      rw [List.map_cons, List.mapM_cons, ih]
      rfl

/-- The ids of the tables of messages are the ids of the messages. -/
theorem ids_ofMessages (ms : List Message) :
    (ofMessages ms).ids = .ok (ms.map (·.id)) := by
  have hValues : (ofMessages ms).rows.map (·.get .id) =
      (ms.map (·.id)).map Value.text := by
    simp [ofMessages, Row.valueOf]
  have hSome : ∀ ss : List String,
      (ss.map Value.text).filter isNull = [] ∧
        (ss.map Value.text).filter (!isNull ·) = ss.map Value.text := by
    intro ss
    constructor
    · simp [isNull]
    · simp [isNull]
  unfold ids
  simp only [hValues, hSome, List.nil_append, texts_map_text]

/-- The history ids of the tables of messages are those of the messages. -/
theorem historyIds_ofMessages (ms : List Message) :
    (ofMessages ms).historyIds = .ok (ms.map (·.historyId)) := by
  have hValues : ((ofMessages ms).rows.map (·.get .historyId)).filter
      (!isNull ·) = (ms.map (·.historyId)).map Value.text := by
    simp [ofMessages, Row.valueOf, Function.comp_def, isNull]
  rw [historyIds, hValues, texts_map_text]

end Tables

/-! ## Stores that hold messages -/

/-- The store of messages. -/
def ofMessages (ms : List Message) : Store := ⟨some (Tables.ofMessages ms)⟩

/-- The store holds the messages, in this order, and no id twice. -/
structure Holds (s : Store) (ms : List Message) : Prop where
  tables : s.tables = some (Tables.ofMessages ms)
  nodup : (ms.map (·.id)).Nodup

namespace Holds

variable {s : Store} {ms : List Message}

/-- What a store holds determines it. -/
theorem eq_ofMessages (h : s.Holds ms) : s = ofMessages ms := by
  obtain ⟨tables⟩ := s
  exact congrArg Store.mk h.tables

private theorem getTables (h : s.Holds ms) (table : String) :
    s.getTables table = .ok (Tables.ofMessages ms) := by
  simp [Store.getTables, h.tables]

theorem ids (h : s.Holds ms) : s.ids = .ok (ms.map (·.id)) := by
  simp [Store.ids, h.getTables, bind, Except.bind, Tables.ids_ofMessages]

theorem stats (h : s.Holds ms) :
    s.stats = .ok ⟨HistoryId.latest? (ms.map (·.historyId)), ms.length⟩ := by
  have hLength : (Tables.ofMessages ms).rows.length = ms.length :=
    List.length_map _
  simp [Store.stats, h.getTables, Tables.historyIds_ofMessages, hLength, bind,
    Except.bind, pure, Except.pure]

/-- An id belongs to one message. -/
theorem eq_of_id (h : s.Holds ms) {m m' : Message} (hm : m ∈ ms)
    (hm' : m' ∈ ms) (hId : m.id = m'.id) : m = m' :=
  List.inj_on_of_nodup_map h.nodup hm hm' hId

/-- No two rows share an id. -/
theorem pairwise_rows (h : s.Holds ms) :
    (Tables.ofMessages ms).rows.Pairwise fun a b => a.get .id ≠ b.get .id := by
  rw [Tables.ofMessages, List.pairwise_map]
  refine (List.pairwise_map.1 h.nodup).imp ?_
  intro a b hne heq
  simp [Row.valueOf] at heq
  exact hne heq

theorem insert (h : s.Holds ms) {m : Message} (hNew : m.id ∉ ms.map (·.id)) :
    ∃ s', s.insert m = .ok s' ∧ s'.Holds (ms ++ [m]) := by
  refine ⟨⟨some (Tables.ofMessages (ms ++ [m]))⟩, ?_, rfl, ?_⟩
  · simp [Store.insert, h.getTables, Tables.insert_ofMessages, hNew, bind,
      Except.bind, pure, Except.pure]
  · rw [List.map_append, List.nodup_append]
    refine ⟨h.nodup, by simp, ?_⟩
    intro a ha b hb hab
    rw [hab, List.mem_singleton.1 hb] at ha
    exact hNew ha

theorem insert_duplicate (h : s.Holds ms) {m : Message}
    (hOld : m.id ∈ ms.map (·.id)) :
    s.insert m = .error (.store .duplicateId) := by
  simp [Store.insert, h.getTables, Tables.insert_ofMessages, hOld, bind,
    Except.bind]

theorem filter (h : (ms.map (·.id)).Nodup) (p : Message → Bool) :
    ((ms.filter p).map (·.id)).Nodup :=
  h.sublist (List.Sublist.map _ List.filter_sublist)

theorem remove (h : s.Holds ms) (id : String) :
    ∃ s', s.remove id = .ok s' ∧ s'.Holds (ms.filter (·.id ≠ id)) := by
  refine ⟨⟨some (Tables.ofMessages (ms.filter (·.id ≠ id)))⟩, ?_, rfl,
    filter h.nodup _⟩
  simp [Store.remove, h.getTables, Tables.remove_ofMessages, bind, Except.bind,
    pure, Except.pure]

private theorem not_mem_filter (ms : List Message) (id : String) :
    id ∉ (ms.filter (·.id ≠ id)).map (·.id) := by
  simp

/-- Replacing always succeeds: the id is free once it has been removed. -/
theorem replace (h : s.Holds ms) (m : Message) :
    ∃ s', s.replace m = .ok s' ∧
      s'.Holds (ms.filter (·.id ≠ m.id) ++ [m]) := by
  have hFree := not_mem_filter ms m.id
  have hRemoved : Holds ⟨some (Tables.ofMessages (ms.filter (·.id ≠ m.id)))⟩
      (ms.filter (·.id ≠ m.id)) := ⟨rfl, filter h.nodup _⟩
  obtain ⟨s', hInsert, hs'⟩ := hRemoved.insert hFree
  refine ⟨s', ?_, hs'⟩
  rw [← hInsert]
  unfold Store.replace Store.insert
  rw [h.getTables, hRemoved.getTables]
  simp only [bind, Except.bind, Tables.remove_ofMessages]

end Holds

/-! ## What the operations reach -/

/-- A change of the store. -/
inductive Operation
  | ensureSchema
  | insert (m : Message)
  | remove (id : String)
  | replace (m : Message)

/-- Makes a change. -/
def Operation.perform (s : Store) : Operation → Except Error Store
  | ensureSchema => .ok s.ensureSchema
  | insert m => s.insert m
  | remove id => s.remove id
  | replace m => s.replace m

/-- The store after a change; a change that fails leaves it as it was. -/
def step (s : Store) (op : Operation) : Store :=
  match op.perform s with
  | .ok s' => s'
  | .error _ => s

/-- The store after changes, one after the other. -/
def after (s : Store) (ops : List Operation) : Store := ops.foldl step s

theorem after_append (s : Store) (ops later : List Operation) :
    s.after (ops ++ later) = (s.after ops).after later := List.foldl_append

private theorem ensureSchema_of_holds {s : Store} {ms : List Message}
    (h : s.Holds ms) : s.ensureSchema.Holds ms :=
  ⟨by simp [ensureSchema, h.tables], h.nodup⟩

/-- What a store with tables holds, each change turns into what it holds
afterwards. -/
theorem step_holds {s : Store} {ms : List Message} (h : s.Holds ms)
    (op : Operation) : ∃ ms', (s.step op).Holds ms' := by
  unfold step
  cases op with
  | ensureSchema => exact ⟨ms, ensureSchema_of_holds h⟩
  | insert m =>
      by_cases hOld : m.id ∈ ms.map (·.id)
      · refine ⟨ms, ?_⟩
        simpa [Operation.perform, h.insert_duplicate hOld] using h
      · obtain ⟨s', hInsert, hs'⟩ := h.insert hOld
        refine ⟨ms ++ [m], ?_⟩
        simpa only [Operation.perform, hInsert] using hs'
  | remove id =>
      obtain ⟨s', hRemove, hs'⟩ := h.remove id
      refine ⟨ms.filter (·.id ≠ id), ?_⟩
      simpa only [Operation.perform, hRemove] using hs'
  | replace m =>
      obtain ⟨s', hReplace, hs'⟩ := h.replace m
      refine ⟨ms.filter (·.id ≠ m.id) ++ [m], ?_⟩
      simpa only [Operation.perform, hReplace] using hs'

/-- Before its tables are made, a store is changed by making them only. -/
theorem step_of_none {s : Store} (h : s.tables = none) (op : Operation) :
    (s.step op).tables = none ∨ (s.step op).Holds [] := by
  cases op with
  | ensureSchema =>
      refine .inr ⟨?_, by simp⟩
      simp [step, Operation.perform, ensureSchema, h, Tables.ofMessages]
  | insert m =>
      left
      simp [step, Operation.perform, Store.insert, getTables, h, bind,
        Except.bind]
  | remove id =>
      left
      simp [step, Operation.perform, Store.remove, getTables, h, bind,
        Except.bind]
  | replace m =>
      left
      simp [step, Operation.perform, Store.replace, getTables, h, bind,
        Except.bind]

/-- **A store that the operations reach either has no tables yet or holds
messages.** -/
theorem after_holds (ops : List Operation) :
    (fresh.after ops).tables = none ∨ ∃ ms, (fresh.after ops).Holds ms := by
  have hRun : ∀ (ops : List Operation) (s : Store),
      (s.tables = none ∨ ∃ ms, s.Holds ms) →
      ((s.after ops).tables = none ∨ ∃ ms, (s.after ops).Holds ms) := by
    intro ops
    induction ops with
    | nil => exact fun s h => h
    | cons op ops ih =>
        intro s h
        refine ih (s.step op) ?_
        rcases h with h | ⟨ms, h⟩
        · rcases step_of_none h op with hNone | hEmpty
          · exact .inl hNone
          · exact .inr ⟨[], hEmpty⟩
        · exact .inr (step_holds h op)
  exact hRun ops fresh (.inl rfl)

/-- Messages added one after the other are held behind those that were there. -/
theorem after_inserts {s : Store} {old : List Message} (h : s.Holds old)
    (ms : List Message) (hNodup : ((old ++ ms).map (·.id)).Nodup) :
    (s.after (ms.map .insert)).Holds (old ++ ms) := by
  induction ms generalizing s old with
  | nil => simpa [after] using h
  | cons m ms ih =>
      have hSplit : old ++ m :: ms = old ++ [m] ++ ms := by simp
      have hNew : m.id ∉ old.map (·.id) := by
        rw [List.map_append, List.nodup_append] at hNodup
        exact fun hOld => hNodup.2.2 m.id hOld m.id (by simp) rfl
      obtain ⟨s', hInsert, hs'⟩ := h.insert hNew
      have hStep : s.step (.insert m) = s' := by
        simp only [step, Operation.perform, hInsert]
      have hRest := ih hs' (by rwa [← hSplit])
      rw [List.map_cons, after, List.foldl_cons, hStep, hSplit]
      exact hRest

/-- Any messages with ids of their own are what some store holds. -/
theorem holds_of_nodup (ms : List Message) (hNodup : (ms.map (·.id)).Nodup) :
    (fresh.after (.ensureSchema :: ms.map .insert)).Holds ms := by
  have hEmpty : fresh.ensureSchema.Holds [] := ⟨rfl, List.nodup_nil⟩
  exact after_inserts hEmpty ms hNodup

end Mailroom.Store
