import Mailroom.Proofs.Text.Utf8Order
import Mailroom.Sql.Value

/-!
# Comparing texts

A table compares texts by code points, which is the order of their UTF-8 bytes, and byte
strings byte by byte. So a text is compared as the string of its bytes.
-/

namespace Mailroom.Sql

variable {s t : String}

theorem compareText_of_lt (h : s < t) : compareText s t = .lt := if_pos h

theorem compareText_of_gt (h : t < s) : compareText s t = .gt := by
  rw [compareText, if_neg (String.lt_asymm h), if_pos h]

@[simp] theorem compareText_self (s : String) : compareText s s = .eq := by
  rw [compareText, if_neg (String.lt_irrefl s), if_neg (String.lt_irrefl s)]

theorem compareText_eq_gt : compareText s t = .gt ↔ t < s := by
  refine ⟨fun h => ?_, compareText_of_gt⟩
  unfold compareText at h
  split at h
  · cases h
  · split at h
    · assumption
    · cases h

private theorem compareBytes_self (bytes : List UInt8) : compareBytes bytes bytes = .eq := by
  induction bytes with
  | nil => rfl
  | cons b bytes ih =>
      rw [compareBytes, if_neg (UInt8.lt_irrefl b), if_neg (UInt8.lt_irrefl b), ih]

/-- The byte strings that come first are those that are less. -/
theorem compareBytes_of_lt {as bs : List UInt8} (h : as < bs) :
    compareBytes as bs = .lt ∧ compareBytes bs as = .gt := by
  induction as generalizing bs with
  | nil =>
      cases bs with
      | nil => exact absurd h (List.lt_irrefl [])
      | cons b bs => exact ⟨rfl, rfl⟩
  | cons a as ih =>
      cases bs with
      | nil => exact absurd h (List.not_lt_nil _)
      | cons b bs =>
          rcases List.cons_lt_cons_iff.1 h with hFirst | ⟨rfl, hRest⟩
          · rw [compareBytes, if_pos hFirst, compareBytes, if_neg (UInt8.lt_asymm hFirst),
              if_pos hFirst]
            exact ⟨rfl, rfl⟩
          · have hSame := UInt8.lt_irrefl a
            rw [compareBytes, if_neg hSame, if_neg hSame, compareBytes, if_neg hSame,
              if_neg hSame]
            exact ih hRest

/-- **Texts are compared byte by byte.** -/
theorem compareText_eq_compareBytes (s t : String) :
    compareText s t =
      compareBytes (Text.Utf8.encode s.toList) (Text.Utf8.encode t.toList) := by
  by_cases hLt : s < t
  · rw [compareText_of_lt hLt, (compareBytes_of_lt (Text.Utf8.encode_lt_iff.2 hLt)).1]
  · by_cases hGt : t < s
    · rw [compareText_of_gt hGt, (compareBytes_of_lt (Text.Utf8.encode_lt_iff.2 hGt)).2]
    · have hSame : s = t :=
        String.le_antisymm (String.not_lt.1 hGt) (String.not_lt.1 hLt)
      rw [hSame, compareText_self, compareBytes_self]

end Mailroom.Sql
