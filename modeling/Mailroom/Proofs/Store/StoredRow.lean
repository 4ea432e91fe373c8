import Mailroom.Proofs.Text.Trimming
import Mailroom.Store.Basic

/-!
# Storing a row changes none of its values

A table converts each value towards the affinity of its column. The row of a
message holds texts in the text columns and integers or null in the numeric
ones, with one exception: the moment a message came is a text in a numeric
column. It stays a text because a date has a dash after its year, and nothing
with a dash after its first digits is a numeral.
-/

namespace Mailroom

open Sql (Value Affinity Numeral)

/-! ## Texts that are no numerals -/

namespace Sql.Numeral

private theorem isNumeralBlank_digit {c : Char} (h : c.isDigit = true) :
    isNumeralBlank c = false := by
  simp only [Char.isDigit, Bool.and_eq_true, decide_eq_true_eq] at h
  have hLow : 48 ≤ c.toNat := h.1
  simp only [isNumeralBlank, Bool.or_eq_false_iff, Bool.and_eq_false_iff,
    decide_eq_false_iff_not]
  omega

/-- A sign that a numeral may start with, or none. -/
def IsSign (sign : List Char) : Prop := sign = [] ∨ sign = ['-'] ∨ sign = ['+']

private theorem takeSign_digits {sign ds : List Char} (hSign : IsSign sign)
    (hds : ds ≠ []) (hDigits : ∀ c ∈ ds, c.isDigit = true) (r : List Char) :
    (takeSign (sign ++ (ds ++ r))).2 = ds ++ r := by
  rcases hSign with rfl | rfl | rfl
  · cases ds with
    | nil => exact absurd rfl hds
    | cons d ds =>
        have hd := hDigits d (by simp)
        have hMinus : d ≠ '-' := by rintro rfl; revert hd; decide
        have hPlus : d ≠ '+' := by rintro rfl; revert hd; decide
        simp only [List.nil_append, List.cons_append]
        unfold takeSign
        split
        · next heq => exact absurd (List.cons.inj heq).1 hMinus
        · next heq => exact absurd (List.cons.inj heq).1 hPlus
        · rfl
  · rfl
  · rfl

/-- A text that has a dash right after its first digits is no numeral. -/
theorem ofText?_dashed {sign ds : List Char} (hSign : IsSign sign)
    (hds : ds ≠ []) (hDigits : ∀ c ∈ ds, c.isDigit = true) (tail : List Char) :
    ofText? (String.ofList (sign ++ (ds ++ '-' :: tail))) = none := by
  have hFront : (sign ++ (ds ++ '-' :: tail)).dropWhile isNumeralBlank =
      sign ++ (ds ++ '-' :: tail) := by
    rcases hSign with rfl | rfl | rfl
    · cases ds with
      | nil => exact absurd rfl hds
      | cons d ds => simp [isNumeralBlank_digit (hDigits d (by simp))]
    · rfl
    · rfl
  have hTrim := Text.dropEnd_append (p := isNumeralBlank) (c := '-') rfl (sign ++ ds) tail
  rw [Text.dropEnd, Text.dropEnd, List.append_assoc, List.append_assoc] at hTrim
  have hWhole : ∀ r : List Char,
      (ds ++ '-' :: r).takeWhile Char.isDigit = ds ∧
        (ds ++ '-' :: r).dropWhile Char.isDigit = '-' :: r := by
    intro r
    constructor
    · rw [List.takeWhile_append_of_pos hDigits]; simp
    · rw [List.dropWhile_append_of_pos hDigits]; simp
  unfold ofText?
  simp only [String.toList_ofList, hFront, hTrim,
    takeSign_digits hSign hds hDigits, hWhole]
  simp [hds]

end Sql.Numeral

/-! ## The text of a moment -/

namespace Calendar

theorem isDigit_of_mem_padded {width n : Nat} {c : Char}
    (h : c ∈ Text.padded width n) : c.isDigit = true := by
  rcases List.mem_append.1 h with h | h
  · rw [(List.mem_replicate.1 h).2]; decide
  · exact Text.isDigit_of_mem_digits n c h

theorem padded_ne_nil (width n : Nat) : Text.padded width n ≠ [] := by
  simp [Text.padded, Text.digits_ne_nil]

/-- A year is written as digits, perhaps with a sign in front. -/
theorem yearText_eq (year : Int) :
    ∃ sign, Numeral.IsSign sign ∧
      yearText year = sign ++ Text.padded 4 year.natAbs := by
  unfold yearText
  split
  · exact ⟨['-'], .inr (.inl rfl), rfl⟩
  · split
    · exact ⟨['+'], .inr (.inr rfl), rfl⟩
    · exact ⟨[], .inl rfl, rfl⟩

/-- No moment is written as a number. -/
theorem ofText?_momentText (seconds : Int) :
    Numeral.ofText? (momentText seconds) = none := by
  obtain ⟨sign, hSign, hYear⟩ := yearText_eq (dateOf (seconds / 86400)).year
  unfold momentText dateText
  rw [hYear]
  simp only [List.append_assoc, List.cons_append]
  exact Numeral.ofText?_dashed hSign (padded_ne_nil _ _)
    (fun c hc => isDigit_of_mem_padded hc) _

end Calendar

/-! ## Rows of messages -/

namespace Store

/-- The moment of a message is left alone by the affinity of numbers. -/
theorem apply_moment (m : Message) :
    Affinity.numeric.apply (Row.optionalText m.moment?) =
      Row.optionalText m.moment? := by
  cases h : m.moment? with
  | none => rfl
  | some s =>
      obtain ⟨ms, -, hms⟩ := Option.bind_eq_some_iff.1 h
      simp only [Calendar.momentOfMillis?] at hms
      split at hms
      · cases hms
        simp [Row.optionalText, Affinity.apply, Calendar.ofText?_momentText]
      · cases hms

private theorem apply_optionalText (s : Option String) :
    Affinity.text.apply (Row.optionalText s) = Row.optionalText s := by
  cases s <;> rfl

/-- Each value of a message is one that its column keeps as it is. -/
theorem apply_valueOf (m : Message) (c : Column) :
    c.affinity.apply (Row.valueOf m c) = Row.valueOf m c := by
  cases c with
  | internalDate => exact apply_moment m
  | sender | recipient | subject | bodyData | bodyAttachmentId | raw =>
      exact apply_optionalText _
  | _ => rfl

/-- **The stored row of a message is the row of the message.** -/
@[simp] theorem stored_encode (m : Message) :
    (Row.encode m).stored = Row.encode m := by
  simp [Row.stored, Row.encode, Column.all, apply_valueOf]

/-- The value of a message in a column stands at the column's place. -/
@[simp] theorem get_encode (m : Message) (c : Column) :
    (Row.encode m).get c = Row.valueOf m c := by
  cases c <;> rfl

@[simp] theorem textOf_id_encode (m : Message) : (Row.encode m).textOf .id = m.id := by
  simp [Row.textOf, Row.valueOf, Row.text?]

@[simp] theorem hasId_encode (m : Message) (id : String) :
    (Row.encode m).hasId id = decide (m.id = id) := by
  simp [Row.hasId, Row.valueOf]

end Store

end Mailroom
