import Mailroom.Proofs.Text.Utf8Bytes
import Mailroom.Sql.Like

/-!
# Characters between two `%`

`Like.table` answers for all suffixes of a text at once. Its first answer obeys
the equations of a matcher that goes through pattern and text from the front,
and from these follows what a pattern says that has a `%` at either end and
neither `%` nor `_` between them: its characters stand in the text in a row.

A text is matched by its bytes. An ASCII character is a byte of its own and ends
the character in front of it, so the characters of a text are those in front of
it, itself, and those behind it. Characters without it that stand in the text in
a row therefore stand on one side of it.
-/

namespace Mailroom.Sql.Like

/-! ## From the front -/

/-- Whether a pattern matches a text whole. -/
def covers (pattern text : List Nat) : Bool := (table text pattern).headD false

/-- The answers for a text are the one for itself and those for its rest. -/
theorem table_cons (c : Nat) (text pattern : List Nat) :
    table (c :: text) pattern = covers pattern (c :: text) :: table text pattern := by
  have hSome (pattern : List Nat) : ∃ b bs, table text pattern = b :: bs := by
    have hLength := length_table text pattern
    exact List.exists_cons_of_length_eq_add_one hLength
  induction pattern with
  | nil => rfl
  | cons p ps ih =>
      obtain ⟨b, bs, hTable⟩ := hSome ps
      unfold covers
      simp only [table, ih, hTable]
      split
      · rfl
      · split
        · rfl
        · rfl

theorem covers_any_nil (ps : List Nat) :
    covers (anyText :: ps) [] = covers ps [] := by
  have hLength := length_table [] ps
  obtain ⟨b, bs, hTable⟩ := List.exists_cons_of_length_eq_add_one hLength
  have hNil : bs = [] := by
    rw [hTable] at hLength
    exact List.length_eq_zero_iff.1 (Nat.succ.inj hLength)
  subst hNil
  have hAny : table [] (anyText :: ps) = anySuffix (table [] ps) := by
    rw [table, if_pos rfl]
  rw [covers, covers, hAny, hTable]
  exact Bool.or_false b

/-- A `%` takes nothing, or a character and goes on. -/
theorem covers_any_cons (ps : List Nat) (c : Nat) (text : List Nat) :
    covers (anyText :: ps) (c :: text) =
      (covers ps (c :: text) || covers (anyText :: ps) text) := by
  have hTable (text : List Nat) :
      table text (anyText :: ps) = anySuffix (table text ps) := by
    rw [table, if_pos rfl]
  rw [covers, hTable, table_cons, anySuffix, List.headD_cons, covers, covers,
    hTable]

/-- Any other character but `_` takes itself. -/
theorem covers_literal_cons {p : Nat} (hAny : p ≠ anyText)
    (hOne : p ≠ anyCharacter) (ps : List Nat) (c : Nat) (text : List Nat) :
    covers (p :: ps) (c :: text) = (fold c = fold p && covers ps text) := by
  obtain ⟨b, bs, hTable⟩ :=
    List.exists_cons_of_length_eq_add_one (length_table text ps)
  rw [covers, table, if_neg hAny, if_neg hOne, table_cons, List.tail_cons, covers,
    hTable]
  rfl

theorem covers_literal_nil {p : Nat} (hAny : p ≠ anyText)
    (hOne : p ≠ anyCharacter) (ps : List Nat) : covers (p :: ps) [] = false := by
  rw [covers, table, if_neg hAny, if_neg hOne]
  rfl

/-- Characters that stand for themselves. -/
def Literal (w : List Nat) : Prop := ∀ p ∈ w, p ≠ anyText ∧ p ≠ anyCharacter

private theorem covers_any (text : List Nat) : covers [anyText] text = true := by
  induction text with
  | nil => rfl
  | cons c text ih => rw [covers_any_cons, ih, Bool.or_true]

/-- In front of a `%` they have to be those that the text starts with. -/
theorem covers_front {w : List Nat} (h : Literal w) (text : List Nat) :
    covers (w ++ [anyText]) text = true ↔ w.map fold <+: text.map fold := by
  induction w generalizing text with
  | nil => simp [covers_any]
  | cons p ps ih =>
      obtain ⟨⟨hAny, hOne⟩, hRest⟩ := List.forall_mem_cons.1 h
      rw [List.cons_append]
      cases text with
      | nil => simp [covers_literal_nil hAny hOne]
      | cons c text =>
          rw [covers_literal_cons hAny hOne, Bool.and_eq_true, decide_eq_true_eq,
            ih hRest, List.map_cons, List.map_cons, List.cons_prefix_cons,
            eq_comm]

/-- **Between two `%`** they have to stand in the text in a row. -/
theorem covers_within {w : List Nat} (h : Literal w) (text : List Nat) :
    covers (anyText :: (w ++ [anyText])) text = true ↔
      w.map fold <:+: text.map fold := by
  induction text with
  | nil =>
      rw [covers_any_nil, covers_front h, List.map_nil, List.prefix_nil,
        List.infix_nil]
  | cons c text ih =>
      rw [covers_any_cons, Bool.or_eq_true, ih, covers_front h, List.map_cons,
        List.infix_cons_iff]

/-! ## Around an ASCII character -/

/-- The characters around an ASCII character; `begun` is what is left to finish
in front. -/
theorem charactersFrom_append {b : UInt8} (hPos : 0 < b.toNat)
    (hAscii : b.toNat < 0x80) (begun : Option Nat) {xs : List UInt8}
    (hxs : ∀ x ∈ xs, x ≠ 0) (ys : List UInt8) :
    charactersFrom begun (xs ++ b :: ys) =
      charactersFrom begun xs ++ b.toNat :: characters ys := by
  have hNot : ¬(0x80 ≤ b.toNat ∧ b.toNat < 0xC0) := by omega
  induction xs generalizing begun with
  | nil =>
      cases begun with
      | none =>
          simp only [List.nil_append, charactersFrom, characters]
          rw [if_neg (by omega), if_pos (by omega)]
          rfl
      | some bits =>
          simp only [List.nil_append, charactersFrom, characters]
          rw [if_neg hNot, if_neg (by omega), if_pos hAscii]
          rfl
  | cons x xs ih =>
      obtain ⟨hx, hRest⟩ := List.forall_mem_cons.1 hxs
      have hxNat : x.toNat ≠ 0 := fun h => hx (UInt8.toNat_inj.1 h)
      have hGo (begun : Option Nat) := ih begun hRest
      cases begun with
      | none =>
          simp only [List.cons_append, charactersFrom, if_neg hxNat, hGo]
          split
          · rfl
          · rfl
      | some bits =>
          simp only [List.cons_append, charactersFrom, if_neg hxNat, hGo]
          split
          · rfl
          · split
            · rfl
            · rfl

/-- **The characters around an ASCII character.** -/
theorem characters_append {c : Char} (hc : 0 < c.toNat) (hAscii : c.toNat < 0x80)
    {front : List Char} (hFront : ∀ d ∈ front, 0 < d.toNat) (back : List Char) :
    characters (Text.Utf8.encode (front ++ c :: back)) =
      characters (Text.Utf8.encode front) ++
        c.toNat :: characters (Text.Utf8.encode back) := by
  have hByte : (UInt8.ofNat c.toNat).toNat = c.toNat := by
    rw [UInt8.toNat_ofNat']
    omega
  have hSplit := charactersFrom_append (b := UInt8.ofNat c.toNat) (by omega)
    (by omega) none (Text.Utf8.encode_ne_zero hFront) (Text.Utf8.encode back)
  rw [hByte] at hSplit
  rw [Text.Utf8.encode_append, Text.Utf8.encode_cons_ascii hAscii]
  exact hSplit

/-! ## In a row -/

/-- The characters stand in the text in a row, ASCII letters in either case. -/
def Within (w : List Nat) (text : List Char) : Prop :=
  w.map fold <:+: (characters (Text.Utf8.encode text)).map fold

theorem within_nil {w : List Nat} (hw : w ≠ []) : ¬Within w [] := by
  intro h
  exact hw (List.map_eq_nil_iff.1 (List.infix_nil.1 h))

section

variable {α : Type} {w : List α} {s : α} (hs : s ∉ w) (a b : List α)
include hs

/-- What does not have an element ends in front of it. -/
theorem prefix_append_cons : w <+: a ++ s :: b ↔ w <+: a := by
  induction w generalizing a with
  | nil => simp
  | cons t w ih =>
      have hHead : t ≠ s := fun h => hs (by simp [h])
      have hTail : s ∉ w := fun h => hs (List.mem_cons_of_mem t h)
      cases a with
      | nil =>
          rw [List.nil_append, List.cons_prefix_cons, List.prefix_nil]
          simp [hHead]
      | cons x a =>
          rw [List.cons_append, List.cons_prefix_cons, List.cons_prefix_cons,
            ih hTail]

/-- What does not have an element stands on one side of it. -/
theorem infix_append_cons : w <:+: a ++ s :: b ↔ w <:+: a ∨ w <:+: b := by
  induction a with
  | nil =>
      have hFront := prefix_append_cons hs [] b
      rw [List.nil_append] at hFront ⊢
      rw [List.infix_cons_iff, hFront, List.prefix_nil, List.infix_nil]
  | cons x a ih =>
      have hFront := prefix_append_cons hs (x :: a) b
      rw [List.cons_append] at hFront ⊢
      rw [List.infix_cons_iff, hFront, ih, List.infix_cons_iff, or_assoc]

/-- What does not have an element starts behind it. -/
theorem suffix_append_cons : w <:+ a ++ s :: b ↔ w <:+ b := by
  have hNot : s ∉ w.reverse := fun h => hs (List.mem_reverse.1 h)
  have hReverse := prefix_append_cons hNot b.reverse a.reverse
  have hText : b.reverse ++ s :: a.reverse = (a ++ s :: b).reverse := by simp
  rw [hText, List.reverse_prefix, List.reverse_prefix] at hReverse
  exact hReverse

end

/-- **On either side**: characters without an ASCII character that the text has
stand in front of it or behind it. -/
theorem within_append {w : List Nat} {c : Char} (hc : 0 < c.toNat)
    (hAscii : c.toNat < 0x80) (hNot : fold c.toNat ∉ w.map fold)
    {front : List Char} (hFront : ∀ d ∈ front, 0 < d.toNat) (back : List Char) :
    Within w (front ++ c :: back) ↔ Within w front ∨ Within w back := by
  unfold Within
  rw [characters_append hc hAscii hFront, List.map_append, List.map_cons,
    infix_append_cons hNot]

end Mailroom.Sql.Like
