import Mailroom.Proofs.Text.FixedWidth
import Mathlib.Data.List.Induction
import Mathlib.Data.String.Basic

/-!
# Numerals

A number has one numeral: digits, with no zero in front of them, and `0` for zero. So
the number and its numeral determine each other, and numbers can be compared without
reading them, by the length of their numerals and then by the order of texts.

That the longer numeral is the greater number follows from the widths of `FixedWidth`:
a numeral is its number written with as many characters as it has.
-/

namespace Mailroom.Text

/-- Digits, with no zero in front of them unless it is the only one. -/
structure Canonical (cs : List Char) : Prop where
  nonempty : cs ≠ []
  digits : ∀ c ∈ cs, c.isDigit = true
  front : cs.head? = some '0' → cs = ['0']

/-! ## The numeral of a number -/

private theorem digitChar_digitValue {c : Char} (h : c.isDigit = true) :
    digitValue c < 10 ∧ digitChar (digitValue c) = c := by
  obtain ⟨hLow, hHigh⟩ := Char.isDigit_iff_toNat.1 h
  have hZero : '0'.toNat = 48 := rfl
  have hNine : '9'.toNat = 57 := rfl
  rw [hZero] at hLow
  rw [hNine] at hHigh
  have hSame : 48 + (c.toNat - 48) = c.toNat := by omega
  refine ⟨?_, ?_⟩
  · rw [digitValue]
    omega
  · rw [digitChar, digitValue, hSame, Char.ofNat_toNat]

private theorem value_append_singleton (cs : List Char) (c : Char) :
    value (cs ++ [c]) = 10 * value cs + digitValue c := by
  simp [value]

/-- **A number has one numeral.** The induction takes the last digit off. -/
theorem digits_value {cs : List Char} (h : Canonical cs) : digits (value cs) = cs := by
  induction cs using List.reverseRecOn with
  | nil => exact absurd rfl h.nonempty
  | append_singleton cs c ih =>
      have hDigit := h.digits c (by simp)
      obtain ⟨hLess, hChar⟩ := digitChar_digitValue hDigit
      rw [value_append_singleton]
      by_cases hOne : cs = []
      · subst hOne
        have hValue : 10 * value [] + digitValue c = digitValue c := by simp [value]
        rw [hValue, digits, if_pos hLess, hChar, List.nil_append]
      · have hFront : cs.head? ≠ some '0' := by
          intro hZero
          have hAll := h.front (by rw [List.head?_append_of_ne_nil _ hOne, hZero])
          have hLength := congrArg List.length hAll
          rw [List.length_append, List.length_singleton, List.length_singleton] at hLength
          exact hOne (List.eq_nil_of_length_eq_zero (by omega))
        have hRest := ih ⟨hOne, fun d hd => h.digits d (by simp [hd]),
          fun hZero => absurd hZero hFront⟩
        have hPos : value cs ≠ 0 := by
          intro hZero
          rw [hZero, digits, if_pos (by decide)] at hRest
          rw [← hRest] at hFront
          exact hFront rfl
        have hMany : ¬10 * value cs + digitValue c < 10 := by omega
        have hDiv : (10 * value cs + digitValue c) / 10 = value cs := by omega
        have hMod : (10 * value cs + digitValue c) % 10 = digitValue c := by omega
        rw [digits, if_neg hMany, hDiv, hMod, hRest, hChar]

/-- Zeros in front do not change the value. -/
theorem value_padded (width n : Nat) : value (padded width n) = n := by
  have hZeros (k : Nat) : value (List.replicate k '0') = 0 := by
    induction k with
    | zero => rfl
    | succ k ih => rw [List.replicate_succ', value_append_singleton, ih]; rfl
  have hFront : value (padded width n) =
      (digits n).foldl (fun acc c => 10 * acc + digitValue c)
        (value (List.replicate (width - (digits n).length) '0')) := List.foldl_append
  rw [hFront, hZeros]
  exact value_digits n

/-! ## The order of numerals -/

private theorem lt_pow_length_digits (n : Nat) : n < 10 ^ (digits n).length := by
  induction n using Nat.strongRecOn with
  | ind n ih =>
      rw [digits]
      by_cases hOne : n < 10
      · rw [if_pos hOne]
        exact hOne
      · have hFront := ih (n / 10) (by omega)
        rw [if_neg hOne, List.length_append, List.length_singleton, Nat.pow_succ]
        omega

private theorem length_digits_le {w n : Nat} (hw : w ≠ 0) (hn : n < 10 ^ w) :
    (digits n).length ≤ w := by
  have hWidth := length_padded hw hn
  rw [padded, List.length_append, List.length_replicate] at hWidth
  omega

private theorem length_digits_ne_zero (n : Nat) : (digits n).length ≠ 0 :=
  fun h => digits_ne_nil n (List.eq_nil_of_length_eq_zero h)

/-- **A greater number has no shorter numeral.** -/
theorem length_digits_le_of_le {m n : Nat} (h : m ≤ n) :
    (digits m).length ≤ (digits n).length :=
  length_digits_le (length_digits_ne_zero n) (Nat.lt_of_le_of_lt h (lt_pow_length_digits n))

private theorem padded_length_digits (n : Nat) : padded (digits n).length n = digits n := by
  simp [padded]

/-- **Of numerals with one length, the greater number has the later one.** -/
theorem digits_lt_digits {m n : Nat} (hLength : (digits m).length = (digits n).length)
    (h : m < n) : digits m < digits n := by
  have hLess := padded_lt_padded (length_digits_ne_zero n) (lt_pow_length_digits n) h
  rwa [padded_length_digits, ← hLength, padded_length_digits] at hLess

/-! ## Numerals as texts -/

theorem toList_natText (n : Nat) : (natText n).toList = digits n := String.toList_ofList

theorem unsigned?_natText (n : Nat) : unsigned? (natText n).toList = some n := by
  rw [toList_natText]
  unfold unsigned?
  split
  · rename_i r hDigits
    have hPlus := isDigit_of_mem_digits n '+' (by rw [hDigits]; simp)
    exact absurd hPlus (by decide)
  · exact natural?_digits n

/-- A digit takes up one byte. -/
theorem size_of_digits {cs : List Char} (h : ∀ c ∈ cs, c.isDigit = true) :
    (String.ofList cs).utf8ByteSize = cs.length := by
  rw [String.utf8ByteSize_ofList]
  induction cs with
  | nil => rfl
  | cons c cs ih =>
      have hDigit := h c List.mem_cons_self
      have hOne : c.utf8Size = 1 := by
        rw [Char.utf8Size_eq_one_iff, UInt32.le_iff_toNat_le]
        exact (Char.isDigit_iff_toNat.1 hDigit).2.trans (by decide)
      rw [String.utf8Len_cons, ih fun d hd => h d (List.mem_cons_of_mem _ hd), hOne,
        List.length_cons]

theorem size_natText (n : Nat) : (natText n).utf8ByteSize = (digits n).length :=
  size_of_digits (isDigit_of_mem_digits n)

end Mailroom.Text
