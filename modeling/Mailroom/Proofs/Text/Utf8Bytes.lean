import Mailroom.Proofs.Text.Utf8RoundTrip

/-!
# The bytes of a text

A text is written character by character. An ASCII character is one byte, and all bytes of
another lie above those of ASCII, so no byte of it can be taken for an ASCII character. Each
character has a byte at least: a text that loses characters loses bytes.
-/

namespace Mailroom.Text.Utf8

/-! ## Characters -/

/-- The bytes of a number are not below its lead byte, nor below the mark of those behind. -/
theorem le_of_mem_spread {low mark k v : Nat} (hLow : low ≤ 0x80) (hLead : low ≤ top k v + mark)
    (hByte : top k v + mark < 256) : ∀ b ∈ spread mark k v, low ≤ b.toNat := by
  induction k generalizing v with
  | zero =>
      intro b hb
      rw [top] at hLead hByte
      rw [List.mem_singleton.1 hb, UInt8.toNat_ofNat_of_lt' hByte]
      exact hLead
  | succ k ih =>
      intro b hb
      rcases List.mem_append.1 hb with hb | hb
      · exact ih hLead hByte b hb
      · rw [List.mem_singleton.1 hb, UInt8.toNat_ofNat']
        omega

/-- Only an ASCII character is written with a byte of ASCII. -/
theorem le_of_mem_encodeChar {c : Char} (h : 0x80 ≤ c.toNat) :
    ∀ b ∈ String.utf8EncodeChar c, 0x80 ≤ b.toNat := by
  have hCode : 0x80 ≤ c.val.toNat := h
  rw [encodeChar_eq]
  refine le_of_mem_spread (Nat.le_refl _) ?_ (lead_lt c)
  unfold form
  split_ifs
  all_goals simp only [top]
  all_goals omega

/-- Only the character of code zero is written with a byte that is zero. -/
theorem encode_ne_zero {cs : List Char} (h : ∀ c ∈ cs, 0 < c.toNat) :
    ∀ b ∈ encode cs, b ≠ 0 := by
  intro b hb
  obtain ⟨c, hc, hb⟩ := List.mem_flatMap.1 hb
  have hPos : 0 < c.val.toNat := h c hc
  rw [encodeChar_eq] at hb
  have hLow : 1 ≤ b.toNat := by
    refine le_of_mem_spread (by decide) ?_ (lead_lt c) b hb
    unfold form
    split_ifs
    · exact hPos
    all_goals exact Nat.succ_pos _
  rintro rfl
  exact absurd hLow (by decide)

theorem encodeChar_ne_nil (c : Char) : String.utf8EncodeChar c ≠ [] := by
  obtain ⟨rest, hRest⟩ := spread_eq_cons (form c.val.toNat).1 (form c.val.toNat).2 c.val.toNat
  rw [encodeChar_eq, hRest]
  exact List.cons_ne_nil _ _

/-! ## Texts -/

/-- An ASCII character is written as one byte. -/
theorem encode_cons_ascii {c : Char} (h : c.toNat < 0x80) (cs : List Char) :
    encode (c :: cs) = UInt8.ofNat c.toNat :: encode cs := by
  have hForm : form c.val.toNat = (0, 0) := if_pos (Nat.le_of_lt_succ h)
  rw [encode, List.flatMap_cons, encodeChar_eq, hForm]
  rfl

theorem encode_append (cs ds : List Char) :
    encode (cs ++ ds) = encode cs ++ encode ds := List.flatMap_append

theorem encode_inj {cs ds : List Char} : encode cs = encode ds ↔ cs = ds := by
  refine ⟨fun h => ?_, fun h => h ▸ rfl⟩
  have hRead := congrArg decode? h
  rw [decode?_encode, decode?_encode] at hRead
  exact Option.some.inj hRead

theorem encode_cons (c : Char) (cs : List Char) :
    encode (c :: cs) = String.utf8EncodeChar c ++ encode cs := List.flatMap_cons

theorem length_encode_le {cs ds : List Char} (h : cs.Sublist ds) :
    (encode cs).length ≤ (encode ds).length := by
  induction h with
  | slnil => exact Nat.le_refl _
  | cons d _ ih =>
      rw [encode_cons d, List.length_append]
      omega
  | cons_cons d _ ih =>
      rw [encode_cons, encode_cons, List.length_append, List.length_append]
      omega

/-- **A text that loses characters loses bytes.** -/
theorem eq_of_sublist {cs ds : List Char} (h : cs.Sublist ds)
    (hLength : (encode ds).length ≤ (encode cs).length) : cs = ds := by
  induction h with
  | slnil => rfl
  | cons d h _ =>
      have hLe := length_encode_le h
      have hPos := List.length_pos_iff.2 (encodeChar_ne_nil d)
      rw [encode_cons, List.length_append] at hLength
      omega
  | cons_cons d _ ih =>
      rw [encode_cons, encode_cons, List.length_append, List.length_append] at hLength
      rw [ih (by omega)]

end Mailroom.Text.Utf8
