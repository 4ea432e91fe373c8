import Mailroom.Proofs.Store.AnyRows
import Mathlib.Data.List.Dedup

/-!
# Messages put in the place of others

Replacing takes the row and the header lines of an id out and puts those of a
message at the end. The id is free by then, so once there are tables nothing can
go wrong. Replacements one after the other leave what has none of the ids that are
written, as it was, and behind it the messages, those alone that no later one with
the same id has replaced: the last write of an id wins, and has the place.
-/

namespace Mailroom.Store

namespace Tables

/-! ## One replacement -/

/-- The tables with a message in the place of the one with its id, at the end. -/
def replaced (t : Tables) (m : Message) : Tables :=
  ⟨t.rows.filter (!·.hasId m.id) ++ [Row.encode m],
    t.headers.filter (·.messageId ≠ m.id) ++ headerRows m⟩

/-- An id that was removed is free. -/
theorem insert_remove (t : Tables) (m : Message) :
    (t.remove m.id).insert m = .ok (t.replaced m) := by
  have hFree : (t.remove m.id).rows.any (·.hasId m.id) = false := by
    simp [remove]
  rw [insert, hFree]
  simp [remove, replaced]

/-! ## Replacements one after the other -/

/-- The tables without the rows and header lines of some ids. -/
def without (t : Tables) (ids : List String) : Tables :=
  ⟨t.rows.filter fun row => !ids.any row.hasId, t.headers.filter (·.messageId ∉ ids)⟩

/-- Of messages, the last one of each id. -/
def lastOfEach (ms : List Message) : List Message := ms.pwFilter (·.id ≠ ·.id)

/-- No id is lost, and each is left once. -/
theorem map_id_lastOfEach (ms : List Message) :
    (lastOfEach ms).map (·.id) = (ms.map (·.id)).dedup :=
  (List.pwFilter_map (R := (· ≠ ·)) (·.id) ms).symm

private theorem lastOfEach_cons (m : Message) (ms : List Message) :
    lastOfEach (m :: ms) =
      if m.id ∈ ms.map (·.id) then lastOfEach ms else m :: lastOfEach ms := by
  have hIds : m.id ∈ ms.map (·.id) ↔ m.id ∈ (lastOfEach ms).map (·.id) := by
    rw [map_id_lastOfEach, List.mem_dedup]
  have hFirst : (∀ x ∈ lastOfEach ms, m.id ≠ x.id) ↔ m.id ∉ ms.map (·.id) := by
    rw [hIds, List.mem_map]
    constructor
    · rintro hNone ⟨x, hx, hSame⟩
      exact hNone x hx hSame.symm
    · intro hNone x hx hSame
      exact hNone ⟨x, hx, hSame.symm⟩
  unfold lastOfEach at hFirst ⊢
  by_cases hLater : m.id ∈ ms.map (·.id)
  · rw [if_pos hLater, List.pwFilter_cons_of_neg fun h => hFirst.1 h hLater]
  · rw [if_neg hLater, List.pwFilter_cons_of_pos (hFirst.2 hLater)]

private theorem without_cons (t : Tables) (id : String) (ids : List String) :
    (t.without [id]).without ids = t.without (id :: ids) := by
  simp only [without, List.filter_filter, Tables.mk.injEq]
  constructor
  · refine List.filter_congr fun row _ => ?_
    simp [Bool.and_comm]
  · refine List.filter_congr fun line _ => ?_
    simp [Bool.and_comm]

private theorem without_append (t : Tables) (ms : List Message) (ids : List String) :
    (t.append ms).without ids =
      (t.without ids).append (ms.filter (·.id ∉ ids)) := by
  simp only [append, without, List.filter_append, Tables.mk.injEq,
    List.append_cancel_left_eq]
  constructor
  · rw [List.filter_map]
    refine congrArg (List.map Row.encode) (List.filter_congr fun m _ => ?_)
    simp [any_hasId_ids]
  · have hLines (m : Message) : (headerRows m).filter (·.messageId ∉ ids) =
        if m.id ∉ ids then headerRows m else [] := filter_headerRows m (· ∉ ids)
    rw [List.filter_flatMap]
    simp only [hLines]
    induction ms with
    | nil => rfl
    | cons m ms ih =>
        rw [List.flatMap_cons, ih, List.filter_cons]
        by_cases h : m.id ∈ ids
        · simp [h]
        · simp [h]

private theorem replaced_eq (t : Tables) (m : Message) :
    t.replaced m = (t.without [m.id]).append [m] := by
  simp [replaced, without, append]

/-- **Replacements one after the other** take the ids out and put the last message
of each at the end. -/
theorem foldl_replaced (t : Tables) (ms : List Message) :
    ms.foldl replaced t = (t.without (ms.map (·.id))).append (lastOfEach ms) := by
  induction ms generalizing t with
  | nil => simp [without, append, lastOfEach]
  | cons m ms ih =>
      have hOnce : [m].filter (·.id ∉ ms.map (·.id)) ++ lastOfEach ms =
          lastOfEach (m :: ms) := by
        rw [lastOfEach_cons, List.filter_cons]
        by_cases h : m.id ∈ ms.map (·.id)
        · simp only [h, not_true, decide_false, if_true, List.filter_nil,
            List.nil_append, Bool.false_eq_true, if_false]
        · simp only [h, not_false_eq_true, decide_true, if_true, List.filter_nil,
            List.singleton_append, if_false]
      have hAppend (t : Tables) (ms ms' : List Message) :
          (t.append ms).append ms' = t.append (ms ++ ms') := by
        simp [append]
      rw [List.foldl_cons, ih, replaced_eq, without_append, without_cons, hAppend,
        hOnce, List.map_cons]

end Tables

/-! ## Stores -/

variable {s : Store} {t : Tables}

/-- **Replacing always goes through** once there are tables. -/
theorem replace_eq (h : s.tables = some t) (m : Message) :
    s.replace m = .ok ⟨some (t.replaced m)⟩ := by
  have hFound : s.getTables "headers" = .ok t := getTables_eq_ok.2 h
  simp [replace, hFound, Tables.insert_remove, bind, Except.bind, pure, Except.pure]

theorem after_replaces (h : s.tables = some t) (ms : List Message) :
    s.after (ms.map .replace) = ⟨some (ms.foldl Tables.replaced t)⟩ := by
  induction ms generalizing s t with
  | nil =>
      obtain ⟨tables⟩ := s
      exact congrArg Store.mk h
  | cons m ms ih =>
      have hStep : s.step (.replace m) = ⟨some (t.replaced m)⟩ := by
        simp only [step, Operation.perform, replace_eq h]
      rw [List.map_cons, after, List.foldl_cons, hStep]
      exact ih rfl

end Mailroom.Store
