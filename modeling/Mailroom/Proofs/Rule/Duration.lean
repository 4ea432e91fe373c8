import Mailroom.Proofs.Store.StoredRow
import Mailroom.Proofs.Text.Splitting
import Mailroom.Rule.Filter

/-!
# Durations

The value of a date filter is a duration if, without the blanks around it, it is digits,
one space and the name of a unit. Such a value goes into the query with a minus sign in
front, as a number of units to go back, and there it is read again. This module says
which values are durations, and of how many units, and that the query reads the same
number of the same units.
-/

namespace Mailroom.Rule

open Mailroom.Sql.Moment (Span modifier?)

/-! ## Values that are durations -/

/-- Without the blanks around it, the value is digits for a number, a space and the name
of a unit. -/
def Spells (value : String) (n : Nat) (span : Span) : Prop :=
  ∃ count unit : String, trimmed value = count ++ " " ++ unit ∧
    Text.natural? count.toList = some n ∧ Span.ofName? unit = some span

private theorem space_notMem_unit {unit : String} {span : Span}
    (h : Span.ofName? unit = some span) : ' ' ∉ unit.toList := by
  unfold Span.ofName? at h
  split at h
  all_goals first
    | decide
    | cases h

theorem isDigit_of_natural? {cs : List Char} {n : Nat} (h : Text.natural? cs = some n) :
    cs ≠ [] ∧ ∀ c ∈ cs, c.isDigit = true := by
  unfold Text.natural? at h
  split at h
  · next hDigits => exact ⟨hDigits.1, List.all_eq_true.1 hDigits.2⟩
  · cases h

private theorem space_notMem_count {cs : List Char} {n : Nat} (h : Text.natural? cs = some n) :
    ' ' ∉ cs := by
  intro hSpace
  have hDigit := (isDigit_of_natural? h).2 ' ' hSpace
  revert hDigit
  decide

/-- **Which values are durations.** -/
theorem isRelativeDuration_iff {value : String} :
    isRelativeDuration value = true ↔ ∃ n span, Spells value n span := by
  constructor
  · intro h
    unfold isRelativeDuration at h
    split at h
    · next count unit hSplit =>
      simp only [Bool.and_eq_true, Bool.not_eq_true', List.isEmpty_eq_false_iff,
        Option.isSome_iff_exists] at h
      obtain ⟨⟨hSome, hDigits⟩, span, hSpan⟩ := h
      have hJoin := Text.join_split ' ' (Text.trim value.toList)
      rw [hSplit] at hJoin
      refine ⟨Text.value count, span, String.ofList count, String.ofList unit, ?_, ?_,
        hSpan⟩
      · rw [trimmed, ← hJoin, ← String.toList_inj]
        simp [Text.join]
      · rw [String.toList_ofList, Text.natural?, if_pos ⟨hSome, hDigits⟩]
    · cases h
  · rintro ⟨n, span, count, unit, hValue, hCount, hSpan⟩
    have hTrim : Text.trim value.toList = count.toList ++ ' ' :: unit.toList := by
      have hList := congrArg String.toList hValue
      simpa [trimmed] using hList
    obtain ⟨hSome, hDigits⟩ := isDigit_of_natural? hCount
    unfold isRelativeDuration
    rw [hTrim, Text.split_append (space_notMem_count hCount),
      Text.split_of_notMem (space_notMem_unit hSpan)]
    simpa [hSome, hSpan] using hDigits

/-- A value that has a dash after its first digits is no duration. -/
theorem not_isRelativeDuration_of_dash {value : String} {ds tail : List Char}
    (hDigits : ∀ c ∈ ds, c.isDigit = true)
    (hTrim : Text.trim value.toList = ds ++ '-' :: tail) :
    isRelativeDuration value = false := by
  rw [Bool.eq_false_iff, Ne, isRelativeDuration_iff]
  rintro ⟨n, span, count, unit, hValue, hCount, -⟩
  have hList := congrArg String.toList hValue
  rw [trimmed, String.toList_ofList, hTrim] at hList
  -- What follows the first digits is a dash on one side and a space on the other.
  have hRest := congrArg (List.dropWhile Char.isDigit) hList
  have hCountDigits := (isDigit_of_natural? hCount).2
  simp only [String.toList_append, List.append_assoc] at hRest
  rw [List.dropWhile_append_of_pos hDigits, List.dropWhile_append_of_pos hCountDigits]
    at hRest
  simp at hRest

/-- **What the query makes of a duration**: the number of units to go back. -/
theorem Spells.modifier? {value : String} {n : Nat} {span : Span}
    (h : Spells value n span) : modifier? ("-" ++ trimmed value) = some (n, span) := by
  obtain ⟨count, unit, hValue, hCount, hSpan⟩ := h
  have hList : ("-" ++ trimmed value).toList =
      '-' :: (count.toList ++ ' ' :: unit.toList) := by
    rw [hValue]
    simp
  have hFront : ∀ c ∈ count.toList, decide (c ≠ ' ') = true := by
    intro c hc
    rw [decide_eq_true_eq]
    rintro rfl
    exact space_notMem_count hCount hc
  unfold Sql.Moment.modifier?
  rw [hList]
  simp only [List.takeWhile_append_of_pos hFront, List.dropWhile_append_of_pos hFront]
  simp [hCount, hSpan]

end Mailroom.Rule
