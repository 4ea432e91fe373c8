import Mailroom.Proofs.Text.Splitting
import Mailroom.Proofs.Url.Escapes
import Mailroom.Url.Form

/-!
# Forms are read back

A form is written with few characters: letters and digits, `*-._`, the plus sign for a space and
the percent sign of an escape, and the two marks between names, values and pairs. No name and no
value is written with a mark, so the pairs are found again where they were put together. A plus
sign that is read is always one that was written for a space, since the plus sign of a text is
escaped; so each byte of a text is read off the front of what was written of it, whatever follows.
-/

namespace Mailroom.Url.Form

open Text (Utf8.encode)

/-! ## Written characters -/

/-- The characters that a form is written with. -/
def isWritten (c : Char) : Bool :=
  c.isAlphanum || c ∈ ['*', '-', '.', '_', '+', '%', '=', '&']

private theorem toNat_lt_of_isAlphanum {c : Char} (h : c.isAlphanum = true) : c.toNat < 0x80 := by
  have hBound {last : Char} (hLast : last.toNat < 0x80) (hc : c.val ≤ last.val) :
      c.toNat < 0x80 :=
    Nat.lt_of_le_of_lt (UInt32.le_iff_toNat_le.1 hc) hLast
  have hKinds : (c.isUpper = true ∨ c.isLower = true) ∨ c.isDigit = true :=
    (Bool.or_eq_true_iff.1 h).imp_left Bool.or_eq_true_iff.1
  rcases hKinds with (hUpper | hLower) | hDigit
  · have hLetter : 'A'.val ≤ c.val ∧ c.val ≤ 'Z'.val := of_decide_eq_true hUpper
    exact hBound (by decide) hLetter.2
  · have hLetter : c.val ≤ 'z'.val := of_decide_eq_true (Bool.and_eq_true_iff.1 hLower).2
    exact hBound (by decide) hLetter
  · have hNumeral : c.val ≤ '9'.val := of_decide_eq_true (Bool.and_eq_true_iff.1 hDigit).2
    exact hBound (by decide) hNumeral

theorem toNat_lt_of_isWritten {c : Char} (h : isWritten c = true) : c.toNat < 0x80 := by
  rcases Bool.or_eq_true_iff.1 h with hAlphanumeric | hMark
  · exact toNat_lt_of_isAlphanum hAlphanumeric
  · have hAll : (['*', '-', '.', '_', '+', '%', '=', '&'].all fun d => d.toNat < 0x80) = true := by
      decide
    simpa using List.all_eq_true.1 hAll c (of_decide_eq_true hMark)

/-- A byte is written without a mark. -/
theorem of_mem_encodeByte {b : UInt8} {c : Char} (h : c ∈ encodeByte b) :
    isWritten c = true ∧ c ≠ '=' ∧ c ≠ '&' := by
  have hTable : ∀ n, n < 256 → ((encodeByte (UInt8.ofNat n)).all fun c =>
      isWritten c && c ≠ '=' && c ≠ '&') = true := by decide +kernel
  have hByte := hTable b.toNat b.toNat_lt
  rw [UInt8.ofNat_toNat] at hByte
  simpa [and_assoc] using List.all_eq_true.1 hByte c h

private theorem of_mem_encode {c : Char} {cs : List Char} (h : c ∈ encode cs) :
    isWritten c = true ∧ c ≠ '=' ∧ c ≠ '&' := by
  obtain ⟨b, -, hByte⟩ := List.mem_flatMap.1 h
  exact of_mem_encodeByte hByte

/-- A pair as it is written. -/
def written (p : String × String) : List Char :=
  encode p.1.toList ++ '=' :: encode p.2.toList

private theorem of_mem_written {p : String × String} {c : Char} (h : c ∈ written p) :
    isWritten c = true ∧ c ≠ '&' := by
  rw [written, List.mem_append, List.mem_cons] at h
  rcases h with hName | rfl | hValue
  · exact ⟨(of_mem_encode hName).1, (of_mem_encode hName).2.2⟩
  · decide
  · exact ⟨(of_mem_encode hValue).1, (of_mem_encode hValue).2.2⟩

/-- **The characters of a form.** -/
theorem isWritten_of_mem_write {ps : List (String × String)} {c : Char} (h : c ∈ write ps) :
    isWritten c = true := by
  fun_induction write ps with
  | case1 => cases h
  | case2 name value => exact (of_mem_written (p := (name, value)) h).1
  | case3 name value next rest ih =>
      rw [List.mem_append, List.mem_cons] at h
      rcases h with hFirst | rfl | hRest
      · exact (of_mem_written (p := (name, value)) hFirst).1
      · decide
      · exact ih hRest

/-! ## Texts -/

/-- Bytes with a space for each plus sign. -/
def spaced (bs : List UInt8) : List UInt8 :=
  bs.map fun b => if b = Percent.asciiByte '+' then 32 else b

/-- The bytes that a written text is read as. -/
def bytes (cs : List Char) : List UInt8 := Percent.decode (spaced (Utf8.encode cs))

private theorem decode_eq (cs : List Char) :
    decode cs = String.ofList (Text.Utf8.decode (bytes cs)) := rfl

/-- A byte is read off the front of what was written of it. -/
theorem bytes_encodeByte (b : UInt8) (cs : List Char) :
    bytes (encodeByte b ++ cs) = b :: bytes cs := by
  by_cases hSpace : b = 32
  · subst hSpace
    show Percent.decode (spaced (Utf8.encode ('+' :: cs))) = _
    rw [Text.Utf8.encode_cons_ascii (by decide)]
    exact Percent.decode_cons_of_ne (by decide)
  by_cases hPlain : isPlain b = true
  · have hTable : ∀ n, n < 256 → isPlain (UInt8.ofNat n) = true →
        n < 128 ∧ UInt8.ofNat n ≠ Percent.asciiByte '+' ∧
          UInt8.ofNat n ≠ Percent.asciiByte '%' ∧ (Char.ofNat n).toNat = n := by decide +kernel
    have hByte := hTable b.toNat b.toNat_lt
    rw [UInt8.ofNat_toNat] at hByte
    obtain ⟨hAscii, hPlus, hPercent, hChar⟩ := hByte hPlain
    have hWritten : encodeByte b ++ cs = Char.ofNat b.toNat :: cs := by
      rw [encodeByte, if_neg hSpace, if_pos hPlain, List.singleton_append]
    rw [hWritten, bytes, Text.Utf8.encode_cons_ascii (by omega), hChar, UInt8.ofNat_toNat,
      spaced, List.map_cons, if_neg hPlus, Percent.decode_cons_of_ne hPercent]
    rfl
  · have hTable : ∀ n, n < 256 →
        spaced ((Percent.encodeByte (UInt8.ofNat n)).map Percent.asciiByte) =
          (Percent.encodeByte (UInt8.ofNat n)).map Percent.asciiByte := by decide +kernel
    have hDigits := hTable b.toNat b.toNat_lt
    rw [UInt8.ofNat_toNat] at hDigits
    rw [encodeByte, if_neg hSpace, if_neg hPlain, bytes, Percent.encode_encodeByte, spaced,
      List.map_append, ← spaced, ← spaced, hDigits, Percent.decode_encodeByte, bytes]

private theorem bytes_encode (bs : List UInt8) : bytes (bs.flatMap encodeByte) = bs := by
  induction bs with
  | nil => rfl
  | cons b bs ih => rw [List.flatMap_cons, bytes_encodeByte, ih]

/-- **A text that is written is read back.** -/
theorem decode_encode (cs : List Char) : decode (encode cs) = String.ofList cs := by
  rw [decode_eq, encode, bytes_encode, Text.Utf8.decode_encode]

private theorem bytes_ne_nil {cs : List Char} (h : cs ≠ []) : bytes cs ≠ [] := by
  obtain ⟨c, r, rfl⟩ := List.exists_cons_of_ne_nil h
  refine Percent.decode_ne_nil ?_
  rw [spaced, Text.Utf8.encode_cons, List.map_append]
  exact List.append_ne_nil_of_left_ne_nil
    (mt List.map_eq_nil_iff.1 (Text.Utf8.encodeChar_ne_nil c)) _

/-- **Only nothing is read as the empty text.** -/
theorem decode_eq_empty {cs : List Char} : decode cs = "" ↔ cs = [] := by
  refine ⟨fun h => Decidable.byContradiction fun hFilled => ?_, fun h => h ▸ decode_encode []⟩
  obtain ⟨b, r, hFront⟩ := List.exists_cons_of_ne_nil (bytes_ne_nil hFilled)
  rw [decode_eq, hFront, Text.Utf8.decode, Text.Utf8.decodeWith] at h
  simp at h

/-! ## Pairs -/

private theorem pair_written (p : String × String) : pair (written p) = p := by
  have hName : '=' ∉ encode p.1.toList := fun h => (of_mem_encode h).2.1 rfl
  rw [pair, written, Text.cut_append_cons hName]
  simp only [decode_encode, String.ofList_toList]

/-- The pieces of a form are the pairs as they are written. -/
theorem split_write {ps : List (String × String)} (h : ps ≠ []) :
    Text.split '&' (write ps) = ps.map written := by
  have hMark (p : String × String) : '&' ∉ written p := fun hMem => (of_mem_written hMem).2 rfl
  fun_induction write ps with
  | case1 => exact absurd rfl h
  | case2 name value => exact Text.split_of_notMem (hMark (name, value))
  | case3 name value next rest ih =>
      rw [List.map_cons, ← ih (List.cons_ne_nil next rest)]
      exact Text.split_append (hMark (name, value)) _

/-- **Pairs that are written are read back.** -/
theorem pairs_write (ps : List (String × String)) : pairs (write ps) = ps := by
  by_cases hNone : ps = []
  · subst hNone
    rfl
  have hFilled : ∀ piece ∈ ps.map written, decide (piece ≠ []) = true := by
    intro piece hPiece
    obtain ⟨p, -, rfl⟩ := List.mem_map.1 hPiece
    simp [written]
  rw [pairs, split_write hNone, List.filter_eq_self.2 hFilled, List.map_map]
  exact (List.map_congr_left fun p _ => pair_written p).trans (List.map_id ps)

/-- The pieces of a form that are read as pairs. -/
def pieces (cs : List Char) : List (List Char) := (Text.split '&' cs).filter (· ≠ [])

/-- The first piece with this name. -/
def IsFirst (name : String) (cs piece : List Char) : Prop :=
  ∃ front back, pieces cs = front ++ piece :: back ∧ (pair piece).1 = name ∧
    ∀ earlier ∈ front, (pair earlier).1 ≠ name

/-- **The value of a name** is that of the first piece with it. -/
theorem lookup_pairs {name value : String} {cs : List Char} :
    (pairs cs).lookup name = some value ↔
      ∃ piece, IsFirst name cs piece ∧ (pair piece).2 = value := by
  show ((pieces cs).map pair).lookup name = some value ↔ _
  rw [List.lookup_eq_some_iff]
  constructor
  · rintro ⟨before, after, hPairs, hBefore⟩
    obtain ⟨front, rest, hPieces, rfl, hRest⟩ := List.map_eq_append_iff.1 hPairs
    obtain ⟨piece, back, rfl, hPair, -⟩ := List.map_eq_cons_iff.1 hRest
    refine ⟨piece, ⟨front, back, hPieces, congrArg Prod.fst hPair, fun earlier hEarlier => ?_⟩,
      congrArg Prod.snd hPair⟩
    exact (bne_iff_ne.1 (hBefore _ (List.mem_map_of_mem hEarlier))).symm
  · rintro ⟨piece, ⟨front, back, hPieces, rfl, hFront⟩, rfl⟩
    refine ⟨front.map pair, back.map pair, ?_, fun p hp => ?_⟩
    · rw [hPieces, List.map_append, List.map_cons]
    · obtain ⟨earlier, hEarlier, rfl⟩ := List.mem_map.1 hp
      exact bne_iff_ne.2 (hFront earlier hEarlier).symm

end Mailroom.Url.Form
