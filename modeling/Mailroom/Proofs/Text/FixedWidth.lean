import Mailroom.Text.Integer
import Mathlib.Algebra.Group.Nat.Defs

/-!
# Numbers written with a fixed width

A number that has no more digits than a width is written with just as many characters,
and two such numbers are ordered as their texts. The induction is on the width, and takes
the last digit off: what is in front of it is the tenth part of the number, written with
one character less.
-/

namespace Mailroom.Text

/-- Of texts that start with equally long parts, these parts decide. -/
theorem append_lt_append {a b : List Char} (hLength : a.length = b.length) (h : a < b)
    (c d : List Char) : a ++ c < b ++ d := by
  induction a generalizing b with
  | nil =>
      rw [List.eq_nil_of_length_eq_zero hLength.symm] at h
      exact absurd h (List.lt_irrefl [])
  | cons x a ih =>
      cases b with
      | nil => exact absurd h (List.not_lt_nil _)
      | cons y b =>
          rw [List.cons_append, List.cons_append, List.cons_lt_cons_iff]
          rcases List.cons_lt_cons_iff.1 h with hFirst | ⟨rfl, hRest⟩
          · exact .inl hFirst
          · exact .inr ⟨rfl, ih (Nat.succ.inj hLength) hRest⟩

/-- Of texts with a common front, the rest decides. -/
theorem append_cons_lt (front : List Char) (c : Char) {a b : List Char} (h : a < b) :
    front ++ c :: a < front ++ c :: b :=
  List.append_left_lt (List.cons_lt_cons_iff.2 (.inr ⟨rfl, h⟩))

private theorem digitChar_lt_digitChar : ∀ n, n < 10 → ∀ m, m < n → digitChar m < digitChar n := by
  decide

/-- The last digit, and in front of it the tenth part of the number. -/
theorem padded_succ {w : Nat} (hw : w ≠ 0) (n : Nat) :
    padded (w + 1) n = padded w (n / 10) ++ [digitChar (n % 10)] := by
  by_cases hOne : n < 10
  · have hDigits : digits n = [digitChar n] := by rw [digits, if_pos hOne]
    have hFront : n / 10 = 0 := by omega
    have hZero : digits 0 = ['0'] := by rw [digits]; rfl
    obtain ⟨v, rfl⟩ := Nat.exists_eq_succ_of_ne_zero hw
    simp [padded, hDigits, hFront, hZero, Nat.mod_eq_of_lt hOne, List.replicate_succ']
  · have hDigits : digits n = digits (n / 10) ++ [digitChar (n % 10)] := by
      rw [digits, if_neg hOne]
    simp [padded, hDigits]

/-- **The width**: a number that fits is written with as many characters. -/
theorem length_padded {w n : Nat} (hw : w ≠ 0) (hn : n < 10 ^ w) :
    (padded w n).length = w := by
  induction w generalizing n with
  | zero => exact absurd rfl hw
  | succ w ih =>
      by_cases hOne : w = 0
      · subst hOne
        have hDigits : digits n = [digitChar n] := by rw [digits, if_pos (by omega)]
        simp [padded, hDigits]
      · rw [Nat.pow_succ] at hn
        rw [padded_succ hOne, List.length_append, ih hOne (by omega), List.length_singleton]

/-- **The order of numbers is that of their texts**, if they have a common width. -/
theorem padded_lt_padded {w m n : Nat} (hw : w ≠ 0) (hn : n < 10 ^ w) (h : m < n) :
    padded w m < padded w n := by
  induction w generalizing m n with
  | zero => exact absurd rfl hw
  | succ w ih =>
      by_cases hOne : w = 0
      · subst hOne
        have hDigits (k : Nat) (hk : k < 10) : padded 1 k = [digitChar k] := by
          have : digits k = [digitChar k] := by rw [digits, if_pos hk]
          simp [padded, this]
        rw [hDigits m (by omega), hDigits n (by omega), List.cons_lt_cons_iff]
        exact .inl (digitChar_lt_digitChar n (by omega) m h)
      · rw [Nat.pow_succ] at hn
        rw [padded_succ hOne, padded_succ hOne]
        rcases Nat.lt_or_ge (m / 10) (n / 10) with hFront | hFront
        · refine append_lt_append ?_ (ih hOne (by omega) hFront) _ _
          rw [length_padded hOne (by omega), length_padded hOne (by omega)]
        · have hSame : m / 10 = n / 10 := by omega
          rw [hSame]
          refine List.append_left_lt (List.cons_lt_cons_iff.2 (.inl ?_))
          exact digitChar_lt_digitChar _ (Nat.mod_lt _ (by decide)) _ (by omega)

/-- What follows numbers of a common width does not matter. -/
theorem padded_append_lt {w m n : Nat} (hw : w ≠ 0) (hn : n < 10 ^ w) (h : m < n)
    (c d : List Char) : padded w m ++ c < padded w n ++ d := by
  refine append_lt_append ?_ (padded_lt_padded hw hn h) c d
  rw [length_padded hw (Nat.lt_trans h hn), length_padded hw hn]

end Mailroom.Text
