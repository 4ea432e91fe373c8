import Mailroom.Proofs.Text.Utf8Bytes
import Mailroom.Url.Percent

/-!
# Texts with escapes

An escape is a `%` with two hexadecimal digits behind it. A text stands for the bytes that are
left when each escape is taken for a byte. Reading never goes on across a character that is no
digit, so a text may be taken apart in front of each of these, and only an escape makes it
shorter. A part of a URL that is encoded stands for the same bytes as before: no character that
is encoded is a digit or a `%`, so no escape is made, and none is broken.
-/

namespace Mailroom.Url.Percent

open Text (Utf8.encode)

variable {a b x : UInt8} {bs rest : List UInt8}

/-! ## Bytes -/

/-- A `%` is only read with what stands behind it if that is two digits. -/
theorem decode_cons_of_no_pair (h : ∀ b c r, bs = b :: c :: r → pair? b c = none) :
    decode (a :: bs) = a :: decode bs := by
  match bs with
  | [] => rfl
  | [b] => rfl
  | b :: c :: r =>
      rw [decode, h b c r rfl]
      simp

theorem decode_cons_of_ne (ha : a ≠ asciiByte '%') : decode (a :: bs) = a :: decode bs := by
  match bs with
  | [] => rfl
  | [b] => rfl
  | b :: c :: r => rw [decode, if_neg ha]

private theorem pair?_eq_none_left (ha : hexValue? a = none) : pair? a b = none := by
  simp [pair?, ha]

private theorem pair?_eq_none_right (hb : hexValue? b = none) : pair? a b = none := by
  cases ha : hexValue? a <;> simp [pair?, ha, hb]

/-- **A text is taken apart** in front of what is no digit. -/
theorem decode_append (hx : hexValue? x = none) (front back : List UInt8) :
    decode (front ++ x :: back) = decode front ++ decode (x :: back) := by
  have hFirst (a : UInt8) (r : List UInt8) : decode (a :: x :: r) = a :: decode (x :: r) := by
    refine decode_cons_of_no_pair fun b c r' h => ?_
    rw [← (List.cons.inj h).1]
    exact pair?_eq_none_left hx
  fun_induction decode front with
  | case1 => rfl
  | case2 a => exact hFirst a back
  | case3 a b =>
      have hSecond : decode (a :: b :: x :: back) = a :: decode (b :: x :: back) := by
        refine decode_cons_of_no_pair fun b' c r' h => ?_
        rw [← (List.cons.inj (List.cons.inj h).2).1]
        exact pair?_eq_none_right hx
      exact hSecond.trans (congrArg (a :: ·) (hFirst b back))
  | case4 b c r v hPair ih =>
      rw [List.cons_append, List.cons_append, List.cons_append, decode, if_pos rfl, hPair]
      exact congrArg (v :: ·) ih
  | case5 b c r hPair ih =>
      rw [List.cons_append, List.cons_append, List.cons_append, decode, if_pos rfl, hPair]
      exact congrArg (asciiByte '%' :: ·) ih
  | case6 a b c r hOther ih =>
      rw [List.cons_append, List.cons_append, List.cons_append, decode, if_neg hOther]
      exact congrArg (a :: ·) ih

/-- Without a `%` nothing is taken for a byte. -/
theorem decode_append_plain (h : ∀ b ∈ bs, b ≠ asciiByte '%') (rest : List UInt8) :
    decode (bs ++ rest) = bs ++ decode rest := by
  induction bs with
  | nil => rfl
  | cons b bs ih =>
      rw [List.cons_append, decode_cons_of_ne (h b List.mem_cons_self),
        ih fun c hc => h c (List.mem_cons_of_mem b hc), List.cons_append]

private theorem length_decode_le (bs : List UInt8) : (decode bs).length ≤ bs.length := by
  fun_induction decode bs with
  | case1 => exact Nat.le_refl _
  | case2 => exact Nat.le_refl _
  | case3 => exact Nat.le_refl _
  | case4 b c r v hPair ih =>
      simp only [List.length_cons]
      omega
  | case5 b c r hPair ih => exact Nat.succ_le_succ ih
  | case6 a b c r hOther ih => exact Nat.succ_le_succ ih

theorem decode_ne_nil (h : bs ≠ []) : decode bs ≠ [] := by
  fun_cases decode bs
  case case1 => exact absurd rfl h
  all_goals exact List.cons_ne_nil _ _

/-! ## Characters -/

/-- The bytes that a text stands for. -/
def bytes (cs : List Char) : List UInt8 := decode (Utf8.encode cs)

/-- Whether a character is a hexadecimal digit. -/
def isHex (c : Char) : Bool := (Text.hexValue? c).isSome

/-- A text with an escape in it. -/
def Escaped (cs : List Char) : Prop :=
  ∃ front a b rest, cs = front ++ '%' :: a :: b :: rest ∧ isHex a = true ∧ isHex b = true

private theorem toNat_lt_of_isHex {c : Char} (h : isHex c = true) : c.toNat < 0x80 := by
  unfold isHex Text.hexValue? at h
  dsimp only at h
  split_ifs at h
  all_goals first
    | omega
    | cases h

private theorem toNat_asciiByte {c : Char} (h : c.toNat < 0x80) :
    (asciiByte c).toNat = c.toNat := by
  rw [asciiByte, UInt8.toNat_ofNat']
  omega

private theorem hexValue?_asciiByte {c : Char} (h : c.toNat < 0x80) :
    hexValue? (asciiByte c) = Text.hexValue? c := by
  rw [hexValue?, toNat_asciiByte h, Char.ofNat_toNat]

private theorem hexValue?_eq_none_of_le (h : 0x80 ≤ b.toNat) : hexValue? b = none := by
  have hByte : b.toNat < 256 := b.toNat_lt
  have hChar : (Char.ofNat b.toNat).toNat = b.toNat := by
    rw [Char.ofNat, dif_pos (.inl (by omega))]
    rfl
  rw [hexValue?, Text.hexValue?, hChar]
  split_ifs
  all_goals first
    | omega
    | rfl

/-- The first byte of a character that is no digit is no digit. -/
theorem encodeChar_of_not_hex {c : Char} (h : isHex c = false) :
    ∃ x r, String.utf8EncodeChar c = x :: r ∧ hexValue? x = none := by
  obtain ⟨x, r, hBytes⟩ := List.exists_cons_of_ne_nil (Text.Utf8.encodeChar_ne_nil c)
  refine ⟨x, r, hBytes, ?_⟩
  by_cases hAscii : c.toNat < 0x80
  · have hOne := Text.Utf8.encode_cons_ascii hAscii []
    rw [Text.Utf8.encode_cons, hBytes] at hOne
    rw [(List.cons.inj hOne).1]
    exact (hexValue?_asciiByte hAscii).trans (by simpa [isHex] using h)
  · exact hexValue?_eq_none_of_le (Text.Utf8.le_of_mem_encodeChar (Nat.le_of_not_lt hAscii) x
      (by simp [hBytes]))

/-- A character that is no `%` is written without one. -/
theorem ne_of_mem_encodeChar {c : Char} (h : c ≠ '%') :
    ∀ b ∈ String.utf8EncodeChar c, b ≠ asciiByte '%' := by
  intro b hb
  by_cases hAscii : c.toNat < 0x80
  · have hOne := Text.Utf8.encode_cons_ascii hAscii []
    rw [Text.Utf8.encode_cons, Text.Utf8.encode, List.flatMap_nil, List.append_nil] at hOne
    rw [hOne, List.mem_singleton] at hb
    rintro rfl
    have hNat : (asciiByte '%').toNat = (asciiByte c).toNat := congrArg UInt8.toNat hb
    rw [toNat_asciiByte (by decide), toNat_asciiByte hAscii] at hNat
    exact h (Char.toNat_inj.1 hNat.symm)
  · have hWide := Text.Utf8.le_of_mem_encodeChar (Nat.le_of_not_lt hAscii) b hb
    rintro rfl
    exact absurd hWide (by decide)

/-- **A text is taken apart** in front of a character that is no digit. -/
theorem bytes_append {c : Char} (h : isHex c = false) (front back : List Char) :
    bytes (front ++ c :: back) = bytes front ++ bytes (c :: back) := by
  obtain ⟨x, r, hBytes, hx⟩ := encodeChar_of_not_hex h
  have hBack : Utf8.encode (c :: back) = x :: (r ++ Utf8.encode back) := by
    rw [Text.Utf8.encode_cons, hBytes, List.cons_append]
  rw [bytes, Text.Utf8.encode_append, hBack, decode_append hx, ← hBack, bytes, bytes]

theorem bytes_cons {c : Char} (h : c ≠ '%') (cs : List Char) :
    bytes (c :: cs) = String.utf8EncodeChar c ++ bytes cs := by
  rw [bytes, Text.Utf8.encode_cons, decode_append_plain (ne_of_mem_encodeChar h), bytes]

theorem length_bytes_le (cs : List Char) : (bytes cs).length ≤ (Utf8.encode cs).length :=
  length_decode_le _

theorem bytes_ne_nil {cs : List Char} (h : cs ≠ []) : bytes cs ≠ [] := by
  cases cs with
  | nil => exact absurd rfl h
  | cons c cs =>
      refine decode_ne_nil ?_
      rw [Text.Utf8.encode_cons]
      exact List.append_ne_nil_of_left_ne_nil (Text.Utf8.encodeChar_ne_nil c) _

/-! ## Escapes -/

/-- An escape is shorter when it is read. -/
theorem length_bytes_lt {cs : List Char} (h : Escaped cs) :
    (bytes cs).length < (Utf8.encode cs).length := by
  obtain ⟨front, a, b, rest, rfl, ha, hb⟩ := h
  have hPercent : Utf8.encode ('%' :: a :: b :: rest) =
      asciiByte '%' :: asciiByte a :: asciiByte b :: Utf8.encode rest := by
    rw [Text.Utf8.encode_cons_ascii (by decide),
      Text.Utf8.encode_cons_ascii (toNat_lt_of_isHex ha),
      Text.Utf8.encode_cons_ascii (toNat_lt_of_isHex hb)]
    rfl
  have hPair : ∃ v, pair? (asciiByte a) (asciiByte b) = some v := by
    obtain ⟨m, hm⟩ := Option.isSome_iff_exists.1 ha
    obtain ⟨n, hn⟩ := Option.isSome_iff_exists.1 hb
    rw [← hexValue?_asciiByte (toNat_lt_of_isHex ha)] at hm
    rw [← hexValue?_asciiByte (toNat_lt_of_isHex hb)] at hn
    exact ⟨_, by rw [pair?, hm, hn]; rfl⟩
  obtain ⟨v, hPair⟩ := hPair
  have hRead : bytes ('%' :: a :: b :: rest) = v :: bytes rest := by
    rw [bytes, hPercent, decode, if_pos rfl, hPair, bytes]
  have hFront := length_bytes_le front
  have hRest := length_bytes_le rest
  rw [bytes_append (by decide), hRead, Text.Utf8.encode_append, hPercent]
  simp only [List.length_append, List.length_cons]
  omega

/-- A byte of ASCII at the front of a text is its first character. -/
theorem eq_cons_of_encode {cs : List Char} (h : Utf8.encode cs = b :: rest)
    (hAscii : b.toNat < 0x80) :
    ∃ c r, cs = c :: r ∧ b = asciiByte c ∧ c.toNat < 0x80 ∧ Utf8.encode r = rest := by
  cases cs with
  | nil => cases h
  | cons c r =>
      have hc : c.toNat < 0x80 := by
        refine Nat.lt_of_not_le fun hWide => ?_
        obtain ⟨x, xs, hBytes⟩ := List.exists_cons_of_ne_nil (Text.Utf8.encodeChar_ne_nil c)
        have hLe := Text.Utf8.le_of_mem_encodeChar hWide x (by simp [hBytes])
        rw [Text.Utf8.encode_cons, hBytes, List.cons_append] at h
        rw [(List.cons.inj h).1] at hLe
        omega
      rw [Text.Utf8.encode_cons_ascii hc] at h
      obtain ⟨rfl, rfl⟩ := List.cons.inj h
      exact ⟨c, r, rfl, rfl, hc, rfl⟩

/-- Two digits at the front of the bytes of a text are its first characters. -/
theorem digits_of_pair {cs : List Char} {v : UInt8} (h : Utf8.encode cs = a :: b :: rest)
    (hPair : pair? a b = some v) :
    ∃ c d r, cs = c :: d :: r ∧ isHex c = true ∧ isHex d = true := by
  have hDigit {x : UInt8} (hx : hexValue? x ≠ none) : x.toNat < 0x80 :=
    Nat.lt_of_not_le fun hWide => hx (hexValue?_eq_none_of_le hWide)
  have ha : hexValue? a ≠ none := fun hNone => by
    rw [pair?_eq_none_left hNone] at hPair
    cases hPair
  have hb : hexValue? b ≠ none := fun hNone => by
    rw [pair?_eq_none_right hNone] at hPair
    cases hPair
  obtain ⟨c, r, rfl, rfl, hc, hRest⟩ := eq_cons_of_encode h (hDigit ha)
  obtain ⟨d, r, rfl, rfl, hd, -⟩ := eq_cons_of_encode hRest (hDigit hb)
  rw [hexValue?_asciiByte hc] at ha
  rw [hexValue?_asciiByte hd] at hb
  exact ⟨c, d, r, rfl, Option.isSome_iff_ne_none.2 ha, Option.isSome_iff_ne_none.2 hb⟩

theorem bytes_of_not_escaped {cs : List Char} (h : ¬Escaped cs) : bytes cs = Utf8.encode cs := by
  induction cs with
  | nil => rfl
  | cons c cs ih =>
      have hRest : ¬Escaped cs := fun ⟨front, a, b, rest, hText, ha, hb⟩ =>
        h ⟨c :: front, a, b, rest, by rw [hText, List.cons_append], ha, hb⟩
      by_cases hc : c = '%'
      · subst hc
        have hPlain : decode (asciiByte '%' :: Utf8.encode cs) =
            asciiByte '%' :: decode (Utf8.encode cs) := by
          refine decode_cons_of_no_pair fun b c' r hBytes => ?_
          rw [Option.eq_none_iff_forall_ne_some]
          intro v hPair
          obtain ⟨x, y, rest, rfl, hx, hy⟩ := digits_of_pair hBytes hPair
          exact h ⟨[], x, y, rest, rfl, hx, hy⟩
        rw [bytes, Text.Utf8.encode_cons_ascii (by decide)]
        exact hPlain.trans (congrArg _ (ih hRest))
      · rw [bytes_cons hc, ih hRest, Text.Utf8.encode_cons]

/-- **A text stands for its own bytes** exactly if it has no escape. -/
theorem bytes_eq_iff {cs : List Char} : bytes cs = Utf8.encode cs ↔ ¬Escaped cs := by
  refine ⟨fun hSame hEscaped => ?_, bytes_of_not_escaped⟩
  have hLess := length_bytes_lt hEscaped
  rw [hSame] at hLess
  exact Nat.lt_irrefl _ hLess

theorem Escaped.of_isInfix {cs ds : List Char} (h : Escaped cs) (hInfix : cs <:+: ds) :
    Escaped ds := by
  obtain ⟨front, a, b, rest, rfl, ha, hb⟩ := h
  obtain ⟨before, after, rfl⟩ := hInfix
  exact ⟨before ++ front, a, b, rest ++ after, by simp, ha, hb⟩

/-! ## Encoding -/

/-- A character that is encoded is gone. -/
theorem notMem_encode {reserved : Char → Bool} {c : Char} (h : reserved c = true)
    (hOther : isHex c = false ∧ c ≠ '%') (cs : List Char) : c ∉ Percent.encode reserved cs := by
  have hDigit : ∀ n, n < 16 → isHex (hexDigit n) = true := by decide
  have hNe (n : Nat) (hn : n < 16) : c ≠ hexDigit n := by
    rintro rfl
    rw [hDigit n hn] at hOther
    exact absurd hOther.1 (by decide)
  intro hMem
  obtain ⟨d, -, hMem⟩ := List.mem_flatMap.1 hMem
  unfold encodeChar at hMem
  split_ifs at hMem with hKept
  · rw [List.mem_singleton.1 hMem] at h
    rw [hKept.2] at h
    cases h
  · obtain ⟨b, -, hMem⟩ := List.mem_flatMap.1 hMem
    have hByte := b.toNat_lt
    simp only [encodeByte, List.mem_cons, List.not_mem_nil, or_false] at hMem
    rcases hMem with hMem | hMem | hMem
    · exact hOther.2 hMem
    · exact hNe _ (by omega) hMem
    · exact hNe _ (by omega) hMem

/-- An encoded byte is written in ASCII. -/
theorem encode_encodeByte (b : UInt8) (cs : List Char) :
    Utf8.encode (encodeByte b ++ cs) = (encodeByte b).map asciiByte ++ Utf8.encode cs := by
  have hDigit : ∀ n, n < 16 → (hexDigit n).toNat < 0x80 := by decide
  have hByte := b.toNat_lt
  simp only [encodeByte, List.cons_append, List.nil_append]
  rw [Text.Utf8.encode_cons_ascii (by decide), Text.Utf8.encode_cons_ascii (hDigit _ (by omega)),
    Text.Utf8.encode_cons_ascii (hDigit _ (by omega))]
  rfl

/-- Encoded bytes are read back, whatever follows them. -/
theorem bytes_encodeByte (bs : List UInt8) (cs : List Char) :
    bytes (bs.flatMap encodeByte ++ cs) = bs ++ bytes cs := by
  induction bs with
  | nil => rfl
  | cons b bs ih =>
      rw [List.flatMap_cons, List.append_assoc, bytes, encode_encodeByte, decode_encodeByte]
      exact congrArg (b :: ·) ih

private theorem isHex_of_wide {c : Char} (h : ¬c.toNat < 0x80) : isHex c = false := by
  refine Bool.eq_false_iff.2 fun hHex => h (toNat_lt_of_isHex hHex)

/-- **An encoded text stands for what it stood for**, whatever stands in front of it. -/
theorem bytes_append_encode {reserved : Char → Bool}
    (hReserved : ∀ c, reserved c = true → isHex c = false ∧ c ≠ '%') (front cs : List Char) :
    bytes (front ++ Percent.encode reserved cs) = bytes (front ++ cs) := by
  induction cs generalizing front with
  | nil => rfl
  | cons c cs ih =>
      have hCons : Percent.encode reserved (c :: cs) =
          encodeChar reserved c ++ Percent.encode reserved cs := List.flatMap_cons
      rw [hCons]
      by_cases hKept : c.toNat < 0x80 ∧ reserved c = false
      · have hNext := ih (front ++ [c])
        rw [encodeChar, if_pos hKept]
        simpa using hNext
      · have hOther : isHex c = false ∧ c ≠ '%' := by
          by_cases hAscii : c.toNat < 0x80
          · exact hReserved c (by simpa [hAscii] using hKept)
          · refine ⟨isHex_of_wide hAscii, ?_⟩
            rintro rfl
            exact hAscii (by decide)
        obtain ⟨b, r, hBytes⟩ := List.exists_cons_of_ne_nil (Text.Utf8.encodeChar_ne_nil c)
        have hEncoded : bytes ((Utf8.encode [c]).flatMap encodeByte ++
            Percent.encode reserved cs) = bytes (c :: cs) := by
          have hRest : bytes (Percent.encode reserved cs) = bytes cs := ih []
          rw [bytes_encodeByte, bytes_cons hOther.2, hRest]
          simp [Utf8.encode]
        have hOne : Utf8.encode [c] = b :: r := by
          rw [Text.Utf8.encode_cons, hBytes]
          simp [Utf8.encode]
        rw [encodeChar, if_neg hKept, bytes_append hOther.1, ← hEncoded, hOne]
        exact bytes_append (by decide) front _

/-- **An encoded path stands for what it stood for.** -/
theorem bytes_encode (cs : List Char) : bytes (Percent.encode inPath cs) = bytes cs := by
  have hTable : ∀ n, n < 0x80 → inPath (Char.ofNat n) = true →
      isHex (Char.ofNat n) = false ∧ Char.ofNat n ≠ '%' := by decide
  refine bytes_append_encode (fun c hc => ?_) [] cs
  by_cases hAscii : c.toNat < 0x80
  · have hChar := hTable c.toNat hAscii
    rw [Char.ofNat_toNat] at hChar
    exact hChar hc
  · refine ⟨isHex_of_wide hAscii, ?_⟩
    rintro rfl
    exact hAscii (by decide)

end Mailroom.Url.Percent
