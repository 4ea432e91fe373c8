import Mailroom.Proofs.Store.Contents
import Mathlib.Data.Set.List

/-!
# Tables with rows of any kind

A table may hold rows that were never written as messages, or whose values were
overwritten. Of such a table the ids can still be read if all of them are texts,
and the statistics if no history id is anything but a text or null. Adding a
message and removing an id keep both, and do to the list of ids what they do to
the table.
-/

namespace Mailroom.Store

open Sql (Value)

namespace Tables

/-! ## Columns of texts -/

theorem texts_eq_ok {c : Column} {values : List Value} {ss : List String} :
    texts c values = .ok ss ↔ values = ss.map .text := by
  constructor
  · intro h
    induction values generalizing ss with
    | nil =>
        cases h
        rfl
    | cons v values ih =>
        rw [texts, List.mapM_cons, ← texts] at h
        cases v with
        | text s =>
            cases hRest : texts c values with
            | error e =>
                rw [hRest] at h
                cases h
            | ok rest =>
                rw [hRest] at h
                cases h
                rw [ih hRest, List.map_cons]
        | _ => cases h
  · rintro rfl
    exact texts_map_text c ss

/-- The ids can be read if they are texts, and then they come in the order of
the rows. -/
theorem ids_eq_ok {t : Tables} {ids : List String} :
    t.ids = .ok ids ↔ t.rows.map (·.get .id) = ids.map .text := by
  rw [Tables.ids]
  generalize t.rows.map (·.get .id) = values
  simp only [texts_eq_ok]
  have hTexts (ss : List String) : (ss.map Value.text).filter isNull = [] ∧
      (ss.map Value.text).filter (!isNull ·) = ss.map Value.text := by
    simp [isNull]
  constructor
  · intro h
    have hNone : values.filter isNull = [] := by
      rw [List.eq_nil_iff_forall_not_mem]
      intro v hv
      have hText : v ∈ ids.map Value.text := by
        rw [← h]
        exact List.mem_append_left _ hv
      obtain ⟨s, -, rfl⟩ := List.mem_map.1 hText
      exact absurd (List.mem_filter.1 hv).2 Bool.false_ne_true
    have hAll : values.filter (!isNull ·) = values := by
      rw [List.filter_eq_self]
      intro v hv
      have hSome := List.filter_eq_nil_iff.1 hNone v hv
      simpa using hSome
    rwa [hNone, hAll, List.nil_append] at h
  · rintro rfl
    rw [(hTexts ids).1, (hTexts ids).2, List.nil_append]

theorem hasId_of_get {row : Row} {s : String} (h : row.get .id = .text s)
    (id : String) : row.hasId id = decide (s = id) := by
  rw [Row.hasId, h]

private theorem ids_insert {t t' : Tables} {m : Message} {ids : List String}
    (h : t.ids = .ok ids) (hInsert : t.insert m = .ok t') :
    t'.ids = .ok (ids ++ [m.id]) := by
  unfold insert at hInsert
  split at hInsert
  · cases hInsert
  · cases hInsert
    rw [ids_eq_ok] at h ⊢
    rw [List.map_append, h, stored_encode, List.map_append]
    simp [Row.valueOf]

private theorem ids_remove {t : Tables} {ids : List String} (h : t.ids = .ok ids)
    (id : String) : (t.remove id).ids = .ok (ids.filter (· ≠ id)) := by
  rw [ids_eq_ok] at h ⊢
  rw [remove]
  simp only
  generalize t.rows = rows at h ⊢
  induction rows generalizing ids with
  | nil =>
      rw [List.map_nil] at h
      rw [List.map_eq_nil_iff.1 h.symm]
      rfl
  | cons row rows ih =>
      cases ids with
      | nil => cases h
      | cons s ids =>
          obtain ⟨hFirst, hRest⟩ := List.cons.inj h
          rw [List.filter_cons, List.filter_cons, hasId_of_get hFirst]
          by_cases hSame : s = id
          · simpa [hSame] using ih hRest
          · simpa [hSame, hFirst] using ih hRest

/-! ## History ids -/

/-- No history id is anything but a text or null. -/
def Counted (t : Tables) : Prop :=
  ∀ row ∈ t.rows, isNull (row.get .historyId) = false →
    ∃ s, row.get .historyId = .text s

theorem counted_iff {t : Tables} : t.Counted ↔ ∃ ss, t.historyIds = .ok ss := by
  rw [historyIds]
  simp only [texts_eq_ok]
  constructor
  · intro h
    have hRange : (t.rows.map (·.get .historyId)).filter (!isNull ·) ∈
        Set.range (List.map Value.text) := by
      rw [Set.range_list_map]
      intro v hv
      obtain ⟨hRow, hSome⟩ := List.mem_filter.1 hv
      obtain ⟨row, hMem, rfl⟩ := List.mem_map.1 hRow
      obtain ⟨s, hText⟩ := h row hMem (by simpa using hSome)
      exact ⟨s, hText.symm⟩
    obtain ⟨ss, hss⟩ := hRange
    exact ⟨ss, hss.symm⟩
  · rintro ⟨ss, hss⟩ row hRow hSome
    have hText : row.get .historyId ∈ ss.map Value.text := by
      rw [← hss]
      exact List.mem_filter.2 ⟨List.mem_map_of_mem hRow, by simp [hSome]⟩
    obtain ⟨s, -, hs⟩ := List.mem_map.1 hText
    exact ⟨s, hs.symm⟩

private theorem Counted.insert {t t' : Tables} {m : Message} (h : t.Counted)
    (hInsert : t.insert m = .ok t') : t'.Counted := by
  unfold Tables.insert at hInsert
  split at hInsert
  · cases hInsert
  · cases hInsert
    intro row hRow
    rcases List.mem_append.1 hRow with hRow | hRow
    · exact h row hRow
    · rw [List.mem_singleton.1 hRow, stored_encode, get_encode]
      exact fun _ => ⟨m.historyId, rfl⟩

private theorem Counted.remove {t : Tables} (h : t.Counted) (id : String) :
    (t.remove id).Counted :=
  fun row hRow => h row (List.mem_filter.1 hRow).1

end Tables

/-! ## Stores -/

theorem getTables_eq_ok {s : Store} {table : String} {t : Tables} :
    s.getTables table = .ok t ↔ s.tables = some t := by
  unfold getTables
  cases s.tables with
  | none => simp
  | some t' => simp

/-- What the ids of a store are, and that its statistics can be read. -/
structure Legible (s : Store) (ids : List String) : Prop where
  ids : s.ids = .ok ids
  stats : ∃ stats, s.stats = .ok stats

namespace Legible

private theorem iff_tables {s : Store} {ids : List String} : s.Legible ids ↔
    ∃ t, s.tables = some t ∧ t.ids = .ok ids ∧ t.Counted := by
  constructor
  · rintro ⟨hIds, stats, hStats⟩
    obtain ⟨t, hTables, hIds⟩ := bind_eq_ok_iff.1 hIds
    obtain ⟨t', hTables', hStats⟩ := bind_eq_ok_iff.1 hStats
    obtain ⟨historyIds, hHistory, -⟩ := bind_eq_ok_iff.1 hStats
    cases hTables.symm.trans hTables'
    exact ⟨t, getTables_eq_ok.1 hTables, hIds,
      Tables.counted_iff.2 ⟨historyIds, hHistory⟩⟩
  · rintro ⟨t, hTables, hIds, hCounted⟩
    obtain ⟨historyIds, hHistory⟩ := Tables.counted_iff.1 hCounted
    have hFound (table : String) : s.getTables table = .ok t :=
      getTables_eq_ok.2 hTables
    refine ⟨?_, ⟨HistoryId.latest? historyIds, t.rows.length⟩, ?_⟩
    · exact bind_eq_ok_iff.2 ⟨t, hFound _, hIds⟩
    · exact bind_eq_ok_iff.2 ⟨t, hFound _, bind_eq_ok_iff.2 ⟨_, hHistory, rfl⟩⟩

variable {s s' : Store} {ids : List String}

/-- Adding a message puts its id behind the others. -/
theorem insert (h : s.Legible ids) {m : Message} (hInsert : s.insert m = .ok s') :
    s'.Legible (ids ++ [m.id]) := by
  obtain ⟨t, hTables, hIds, hCounted⟩ := iff_tables.1 h
  obtain ⟨t₁, hFound, hInsert⟩ := bind_eq_ok_iff.1 hInsert
  obtain ⟨t', hAdded, hStore⟩ := bind_eq_ok_iff.1 hInsert
  cases hTables.symm.trans (getTables_eq_ok.1 hFound)
  cases hStore
  exact iff_tables.2 ⟨t', rfl, Tables.ids_insert hIds hAdded,
    hCounted.insert hAdded⟩

/-- Removing an id takes it away from the others. -/
theorem remove (h : s.Legible ids) {id : String} (hRemove : s.remove id = .ok s') :
    s'.Legible (ids.filter (· ≠ id)) := by
  obtain ⟨t, hTables, hIds, hCounted⟩ := iff_tables.1 h
  obtain ⟨t₁, hFound, hStore⟩ := bind_eq_ok_iff.1 hRemove
  cases hTables.symm.trans (getTables_eq_ok.1 hFound)
  cases hStore
  exact iff_tables.2 ⟨t.remove id, rfl, Tables.ids_remove hIds id,
    hCounted.remove id⟩

end Legible

end Mailroom.Store
