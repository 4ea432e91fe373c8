import Mailroom.Text.Utf8
import Mathlib.Tactic.SplitIfs

/-!
# The order of UTF-8

UTF-8 keeps the order of code points: of two characters, the one with the
smaller code point has the smaller bytes, at the first byte where they differ,
and neither is the start of the other. So texts are ordered by their bytes as
they are ordered by their characters, and sorting ids as texts is sorting them
as byte strings.

A character is written as a lead byte and continuation bytes of six bits each.
`spread` is that form, and `form` gives the mark of the lead byte and the
number of continuation bytes. Characters of one form are compared six bits at a
time, and of two forms the lead bytes already decide.
-/

namespace Mailroom.Text.Utf8

/-! ## Bytes of a number -/

/-- A number on a lead byte with a mark and `k` continuation bytes. -/
def spread (mark : Nat) : Nat → Nat → List UInt8
  | 0, v => [UInt8.ofNat (v + mark)]
  | k + 1, v => spread mark k (v / 64) ++ [UInt8.ofNat (v % 64 + 128)]

/-- What is left of a number when `k` times six bits are taken off its end. -/
def top : Nat → Nat → Nat
  | 0, v => v
  | k + 1, v => top k (v / 64)

/-- The mark of the lead byte and the number of continuation bytes. -/
def form (v : Nat) : Nat × Nat :=
  if v ≤ 0x7F then (0, 0)
  else if v ≤ 0x7FF then (0xC0, 1)
  else if v ≤ 0xFFFF then (0xE0, 2)
  else (0xF0, 3)

/-- The number on the lead byte. -/
def lead (v : Nat) : Nat := top (form v).2 v + (form v).1

private theorem ofNat_lt_ofNat {a b : Nat} (hb : b < 256) (h : a < b) :
    UInt8.ofNat a < UInt8.ofNat b := by
  rw [UInt8.lt_iff_toNat_lt, UInt8.toNat_ofNat', UInt8.toNat_ofNat']
  omega

/-- The first byte of a number. -/
theorem spread_eq_cons (mark k v : Nat) :
    ∃ rest, spread mark k v = UInt8.ofNat (top k v + mark) :: rest := by
  induction k generalizing v with
  | zero => exact ⟨[], rfl⟩
  | succ k ih =>
      obtain ⟨rest, hRest⟩ := ih (v / 64)
      refine ⟨rest ++ [UInt8.ofNat (v % 64 + 128)], ?_⟩
      rw [spread, hRest, top, List.cons_append]

/-- Of two numbers, the one that has the smaller part in front is smaller, and
if that part is equal, the one with the smaller last six bits. -/
theorem div_lt_or_mod_lt {v w : Nat} (h : v < w) :
    v / 64 < w / 64 ∨ v / 64 = w / 64 ∧ v % 64 < w % 64 := by
  omega

/-- Numbers of one form are ordered as their bytes. -/
theorem spread_append_lt {mark k v w : Nat} (hLead : top k w + mark < 256)
    (h : v < w) (xs ys : List UInt8) :
    spread mark k v ++ xs < spread mark k w ++ ys := by
  induction k generalizing v w xs ys with
  | zero =>
      rw [top] at hLead
      simp only [spread, List.singleton_append]
      rw [List.cons_lt_cons_iff]
      exact .inl (ofNat_lt_ofNat hLead (by omega))
  | succ k ih =>
      rw [spread, spread, List.append_assoc, List.append_assoc]
      rcases div_lt_or_mod_lt h with hFront | ⟨hFront, hLast⟩
      · rw [top] at hLead
        exact ih hLead hFront _ _
      · rw [hFront]
        refine List.append_left_lt ?_
        rw [List.singleton_append, List.singleton_append, List.cons_lt_cons_iff]
        exact .inl (ofNat_lt_ofNat (by omega) (by omega))

/-! ## Bytes of a character -/

theorem toNat_val_lt (c : Char) : c.val.toNat < 0x110000 := by
  rcases c.valid with h | ⟨-, h⟩
  · exact Nat.lt_trans h (by decide)
  · exact h

theorem encodeChar_eq (c : Char) :
    String.utf8EncodeChar c =
      spread (form c.val.toNat).1 (form c.val.toNat).2 c.val.toNat := by
  have hMax := toNat_val_lt c
  unfold String.utf8EncodeChar form
  generalize c.val.toNat = v at hMax
  simp only
  split_ifs with h₁ h₂ h₃
  · rfl
  · have hTop : v / 64 % 0x20 = v / 64 := by omega
    simp [spread, hTop]
  · have hTop : v / 4096 % 0x10 = v / 64 / 64 := by omega
    simp [spread, hTop]
  · have hTop : v / 262144 % 0x08 = v / 64 / 64 / 64 := by omega
    have hNext : v / 4096 % 0x40 = v / 64 / 64 % 64 := by omega
    simp [spread, hTop, hNext]

theorem lead_lt (c : Char) : lead c.val.toNat < 256 := by
  have hMax := toNat_val_lt c
  unfold lead form
  split_ifs
  all_goals simp only [top]
  all_goals omega

/-- Two characters have one form, or their lead bytes tell them apart. -/
theorem form_eq_or_lead_lt {v w : Nat} (h : v < w) (hMax : w < 0x110000) :
    form v = form w ∨ lead v < lead w := by
  unfold lead form
  split_ifs
  all_goals simp only [top, true_or]
  all_goals omega

/-- **UTF-8 keeps the order of characters**, whatever follows them. -/
theorem encodeChar_append_lt {c d : Char} (h : c < d) (xs ys : List UInt8) :
    String.utf8EncodeChar c ++ xs < String.utf8EncodeChar d ++ ys := by
  have hLt : c.val.toNat < d.val.toNat := h
  have hLead := lead_lt d
  rw [encodeChar_eq c, encodeChar_eq d]
  rcases form_eq_or_lead_lt hLt (toNat_val_lt d) with hForm | hFirst
  · rw [hForm]
    exact spread_append_lt hLead hLt xs ys
  · obtain ⟨cs, hc⟩ := spread_eq_cons (form c.val.toNat).1 (form c.val.toNat).2
      c.val.toNat
    obtain ⟨ds, hd⟩ := spread_eq_cons (form d.val.toNat).1 (form d.val.toNat).2
      d.val.toNat
    rw [hc, hd, List.cons_append, List.cons_append, List.cons_lt_cons_iff]
    exact .inl (ofNat_lt_ofNat hLead hFirst)

/-! ## Bytes of a text -/

private theorem encode_lt_of_lt {cs ds : List Char} (h : cs < ds) :
    encode cs < encode ds := by
  induction cs generalizing ds with
  | nil =>
      cases ds with
      | nil => exact absurd h (List.not_lt_nil [])
      | cons d ds =>
          obtain ⟨rest, hRest⟩ := spread_eq_cons (form d.val.toNat).1
            (form d.val.toNat).2 d.val.toNat
          rw [encode, encode, List.flatMap_cons, encodeChar_eq, hRest]
          exact List.nil_lt_cons _ _
  | cons c cs ih =>
      cases ds with
      | nil => exact absurd h (List.not_lt_nil (c :: cs))
      | cons d ds =>
          rw [encode, encode, List.flatMap_cons, List.flatMap_cons]
          rcases List.cons_lt_cons_iff.1 h with hFirst | ⟨rfl, hRest⟩
          · exact encodeChar_append_lt hFirst _ _
          · exact List.append_left_lt (ih hRest)

/-- **The order of texts is the order of their bytes.** -/
theorem encode_lt_iff {s t : String} :
    encode s.toList < encode t.toList ↔ s < t := by
  refine ⟨fun h => ?_, fun h => encode_lt_of_lt (String.lt_iff.1 h)⟩
  by_cases hLt : s < t
  · exact hLt
  · by_cases hGt : t < s
    · have hOther := encode_lt_of_lt (String.lt_iff.1 hGt)
      exact absurd h (Std.Asymm.asymm _ _ hOther)
    · have hSame : s = t :=
        String.le_antisymm (String.not_lt.1 hGt) (String.not_lt.1 hLt)
      rw [hSame] at h
      exact absurd h (List.lt_irrefl _)

end Mailroom.Text.Utf8
