import Mailroom.Proofs.Text.Utf8Order

/-!
# Texts written as bytes are read back

A character is written on a lead byte and continuation bytes. The lead byte tells
how many of these there are, and for some lead bytes the first of them has a
narrower range, which keeps out numbers that are too small for that many bytes
and numbers that are no characters. What was written of a character is in these
ranges, so it is read as that character, and the bytes after it are left.
-/

namespace Mailroom.Text.Utf8

/-- One continuation byte in its range. -/
theorem tails_cons {low high n bits v : Nat} {rest : List UInt8} (hLow : low ≤ v)
    (hHigh : v ≤ high) (hByte : v < 256) :
    tails low high (n + 1) bits (UInt8.ofNat v :: rest) =
      tails 0x80 0xBF n (bits * 64 + (v - 0x80)) rest := by
  have hValue : (UInt8.ofNat v).toNat = v := UInt8.toNat_ofNat_of_lt' hByte
  rw [tails, hValue, if_pos ⟨hLow, hHigh⟩]

/-- The last continuation byte. -/
theorem tails_last {low high bits v : Nat} {rest : List UInt8} (hLow : low ≤ v)
    (hHigh : v ≤ high) (hByte : v < 256) :
    tails low high 1 bits (UInt8.ofNat v :: rest) =
      (some (bits * 64 + (v - 0x80)), rest) := by
  rw [tails_cons hLow hHigh hByte, tails]

/-- What follows a lead byte. -/
theorem front_ofNat {v : Nat} (h : v < 256) (rest : List UInt8) :
    front (UInt8.ofNat v) rest =
      if v < 0x80 then (some v, rest)
      else if 0xC2 ≤ v ∧ v ≤ 0xDF then tails 0x80 0xBF 1 (v - 0xC0) rest
      else if v = 0xE0 then tails 0xA0 0xBF 2 0 rest
      else if v = 0xED then tails 0x80 0x9F 2 0xD rest
      else if 0xE1 ≤ v ∧ v ≤ 0xEF then tails 0x80 0xBF 2 (v - 0xE0) rest
      else if v = 0xF0 then tails 0x90 0xBF 3 0 rest
      else if 0xF1 ≤ v ∧ v ≤ 0xF3 then tails 0x80 0xBF 3 (v - 0xF0) rest
      else if v = 0xF4 then tails 0x80 0x8F 3 4 rest
      else (none, rest) := by
  have hValue : (UInt8.ofNat v).toNat = v := UInt8.toNat_ofNat_of_lt' h
  rw [front, hValue]

private theorem front_two {v : Nat} (hLow : 0x7F < v) (hHigh : v ≤ 0x7FF)
    (rest : List UInt8) :
    front (UInt8.ofNat (v / 64 + 0xC0)) (UInt8.ofNat (v % 64 + 128) :: rest) =
      (some v, rest) := by
  have hWhole : v / 64 * 64 + (v % 64 + 128 - 128) = v := by omega
  rw [front_ofNat (by omega), if_neg (by omega), if_pos (by omega),
    Nat.add_sub_cancel, tails_last (by omega) (by omega) (by omega), hWhole]

private theorem front_three {v : Nat} (hLow : 0x7FF < v) (hHigh : v ≤ 0xFFFF)
    (hValid : v < 0xD800 ∨ 0xDFFF < v) (rest : List UInt8) :
    front (UInt8.ofNat (v / 64 / 64 + 0xE0))
        (UInt8.ofNat (v / 64 % 64 + 128) :: UInt8.ofNat (v % 64 + 128) :: rest) =
      (some v, rest) := by
  have hWhole : (v / 64 / 64 * 64 + (v / 64 % 64 + 128 - 128)) * 64 +
      (v % 64 + 128 - 128) = v := by omega
  have hRead (low high : Nat) (hFirst : low ≤ v / 64 % 64 + 128)
      (hLast : v / 64 % 64 + 128 ≤ high) :
      tails low high 2 (v / 64 / 64)
        (UInt8.ofNat (v / 64 % 64 + 128) :: UInt8.ofNat (v % 64 + 128) :: rest) =
      (some v, rest) := by
    rw [tails_cons hFirst hLast (by omega),
      tails_last (by omega) (by omega) (by omega), hWhole]
  rw [front_ofNat (by omega), if_neg (by omega), if_neg (by omega)]
  by_cases hE0 : v / 64 / 64 = 0
  · rw [if_pos (by omega), ← hE0]
    exact hRead _ _ (by omega) (by omega)
  rw [if_neg (by omega)]
  by_cases hED : v / 64 / 64 = 0xD
  · rw [if_pos (by omega), ← hED]
    exact hRead _ _ (by omega) (by omega)
  rw [if_neg (by omega), if_pos (by omega), Nat.add_sub_cancel]
  exact hRead _ _ (by omega) (by omega)

private theorem front_four {v : Nat} (hLow : 0xFFFF < v) (hHigh : v < 0x110000)
    (rest : List UInt8) :
    front (UInt8.ofNat (v / 64 / 64 / 64 + 0xF0))
        (UInt8.ofNat (v / 64 / 64 % 64 + 128) :: UInt8.ofNat (v / 64 % 64 + 128) ::
          UInt8.ofNat (v % 64 + 128) :: rest) =
      (some v, rest) := by
  have hWhole : ((v / 64 / 64 / 64 * 64 + (v / 64 / 64 % 64 + 128 - 128)) * 64 +
      (v / 64 % 64 + 128 - 128)) * 64 + (v % 64 + 128 - 128) = v := by omega
  have hRead (low high : Nat) (hFirst : low ≤ v / 64 / 64 % 64 + 128)
      (hLast : v / 64 / 64 % 64 + 128 ≤ high) :
      tails low high 3 (v / 64 / 64 / 64)
        (UInt8.ofNat (v / 64 / 64 % 64 + 128) :: UInt8.ofNat (v / 64 % 64 + 128) ::
          UInt8.ofNat (v % 64 + 128) :: rest) =
      (some v, rest) := by
    rw [tails_cons hFirst hLast (by omega), tails_cons (by omega) (by omega) (by omega),
      tails_last (by omega) (by omega) (by omega), hWhole]
  rw [front_ofNat (by omega), if_neg (by omega), if_neg (by omega), if_neg (by omega),
    if_neg (by omega), if_neg (by omega)]
  by_cases hF0 : v / 64 / 64 / 64 = 0
  · rw [if_pos (by omega), ← hF0]
    exact hRead _ _ (by omega) (by omega)
  rw [if_neg (by omega)]
  by_cases hF4 : v / 64 / 64 / 64 = 4
  · rw [if_neg (by omega), if_pos (by omega), ← hF4]
    exact hRead _ _ (by omega) (by omega)
  rw [if_pos (by omega), Nat.add_sub_cancel]
  exact hRead _ _ (by omega) (by omega)

/-- **A character is read off the front of its bytes.** -/
theorem front_encodeChar (c : Char) (rest : List UInt8) :
    ∃ b bytes, String.utf8EncodeChar c = b :: bytes ∧
      front b (bytes ++ rest) = (some c.toNat, rest) := by
  have hMax := toNat_val_lt c
  have hValid : c.val.toNat < 0xD800 ∨ 0xDFFF < c.val.toNat := by
    rcases c.valid with h | ⟨h, -⟩
    · exact .inl h
    · exact .inr h
  show ∃ b bytes, _ ∧ front b (bytes ++ rest) = (some c.val.toNat, rest)
  rw [encodeChar_eq, form]
  generalize c.val.toNat = v at hMax hValid
  split_ifs with hOne hTwo hThree
  · refine ⟨_, [], rfl, ?_⟩
    rw [Nat.add_zero, front_ofNat (by omega), if_pos (by omega)]
    rfl
  · exact ⟨_, [_], rfl, front_two (by omega) hTwo rest⟩
  · exact ⟨_, [_, _], rfl, front_three (by omega) hThree hValid rest⟩
  · exact ⟨_, [_, _, _], rfl, front_four (by omega) hMax rest⟩

/-- **A text is read from its bytes.** -/
theorem decode?_encode (cs : List Char) : decode? (encode cs) = some cs := by
  induction cs with
  | nil => rw [encode, List.flatMap_nil, decode?]
  | cons c cs ih =>
      obtain ⟨b, bytes, hBytes, hFront⟩ := front_encodeChar c (encode cs)
      have hEncode : encode (c :: cs) = b :: (bytes ++ encode cs) := by
        rw [encode, List.flatMap_cons, hBytes, List.cons_append, ← encode]
      rw [hEncode, decode?, hFront]
      simp only [ih, Option.map_some, Char.ofNat_toNat]

/-- In bytes that are well-formed throughout, nothing is replaced. -/
theorem decodeWith_of_decode? {mark : Char} {bytes : List UInt8} {cs : List Char}
    (h : decode? bytes = some cs) : decodeWith mark bytes = cs := by
  fun_induction decode? bytes generalizing cs with
  | case1 =>
      rw [decodeWith]
      exact Option.some.inj h
  | case2 b rest hLength n hFront ih =>
      obtain ⟨ds, hRest, rfl⟩ := Option.map_eq_some_iff.1 h
      rw [decodeWith, hFront, ih hRest]
  | case3 => cases h

/-- **A text is read from its bytes** by the lenient reader too. -/
theorem decode_encode (cs : List Char) : decode (encode cs) = cs :=
  decodeWith_of_decode? (decode?_encode cs)

end Mailroom.Text.Utf8
