import Mailroom.FileTree
import Mailroom.Proofs.Text.Utf8RoundTrip

/-!
# What was written is found

A write replaces what is at one place, which is not a directory. A path is walked
through directories only, so it leads where it led before, also if it goes past
the place that was written, and the place written is where it ends.
-/

namespace Mailroom.FileTree

variable {t t' : FileTree} {place other : Place} {n : Node}

private theorem lookup_append_self (nodes : List (Place × Node)) :
    (nodes.filter (·.1 ≠ place) ++ [(place, n)]).lookup place = some n := by
  have hNone : (nodes.filter (·.1 ≠ place)).lookup place = none := by
    rw [List.lookup_eq_none_iff]
    intro p hp
    have hOther : p.1 ≠ place := by simpa using (List.mem_filter.1 hp).2
    simpa using Ne.symm hOther
  rw [List.lookup_append, hNone]
  simp

private theorem lookup_append_ne (h : other ≠ place) (nodes : List (Place × Node)) :
    (nodes.filter (·.1 ≠ place) ++ [(place, n)]).lookup other = nodes.lookup other := by
  have hOther : (other == place) = false := beq_false_of_ne h
  induction nodes with
  | nil => simp [List.lookup_cons, hOther]
  | cons p nodes ih =>
      obtain ⟨k, x⟩ := p
      by_cases hSame : k = place
      · rw [List.filter_cons_of_neg (by simpa using hSame), ih, List.lookup_cons,
          hSame, hOther]
      · rw [List.filter_cons_of_pos (by simpa using hSame), List.cons_append,
          List.lookup_cons, List.lookup_cons, ih]

/-- Somewhere else nothing changes. -/
theorem node?_put_ne (h : other ≠ place) :
    (t.put place n).node? other = t.node? other := by
  unfold node? put
  split
  · rfl
  · exact lookup_append_ne h t.nodes

/-- Where there was no directory, there is now what was put there. -/
theorem node?_put_self (h : t.isDirectory place = false) :
    (t.put place n).node? place = some n := by
  by_cases hRoot : place = ["/"] ∨ place.all (· = "..") = true
  · rw [isDirectory, node?, if_pos hRoot] at h
    cases h
  · rw [node?, if_neg hRoot]
    exact lookup_append_self t.nodes

/-- A walk goes where it went, since it never went through that place. -/
theorem walk_put (h : t.isDirectory place = false) {start finish : Place}
    {names : List String} (hWalk : t.walk start names = some finish) :
    (t.put place n).walk start names = some finish := by
  induction names generalizing start with
  | nil => exact hWalk
  | cons name names ih =>
      rw [walk] at hWalk ⊢
      split at hWalk
      · rename_i hStep
        have hOther : start ≠ place := by
          rintro rfl
          rw [h] at hStep
          cases hStep.1
        have hThere : (t.put place n).isDirectory start = true := by
          rw [isDirectory, node?_put_ne hOther]
          exact hStep.1
        rw [if_pos ⟨hThere, hStep.2⟩]
        exact ih hWalk
      · cases hWalk

/-- What a write did. -/
theorem write_eq_some {path : String} (h : t.write path n = some t') :
    ∃ place, t.place? path = some place ∧ t.isDirectory place = false ∧
      t' = t.put place n := by
  obtain ⟨place, hPlace, hWrite⟩ := Option.bind_eq_some_iff.1 h
  split at hWrite
  · cases hWrite
  · rename_i hFree
    cases hWrite
    exact ⟨place, hPlace, Bool.eq_false_iff.2 hFree, rfl⟩

/-- **A write moves no path.** -/
theorem place?_of_write {path other : String} {place : Place}
    (h : t.write path n = some t') (hPlace : t.place? other = some place) :
    t'.place? other = some place := by
  obtain ⟨written, -, hFree, rfl⟩ := write_eq_some h
  unfold place? at hPlace ⊢
  split
  · rename_i hLong
    rw [if_pos hLong] at hPlace
    cases hPlace
  · rename_i hShort
    rw [if_neg hShort] at hPlace
    exact walk_put hFree hPlace

/-- **What was written is found.** -/
theorem find?_of_write {path : String} (h : t.write path n = some t') :
    t'.find? path = some n := by
  obtain ⟨place, hPlace, hFree, hPut⟩ := write_eq_some h
  rw [find?, place?_of_write h hPlace, Option.bind_some, hPut]
  exact node?_put_self hFree

/-- **A text that was written is read.** -/
theorem read_of_write {path text : String}
    (h : t.write path (.file (Text.Utf8.encode text.toList)) = some t') :
    t'.read path = .text text := by
  simp [read, find?_of_write h, FileText.ofBytes, Text.Utf8.decode?_encode]

end Mailroom.FileTree
