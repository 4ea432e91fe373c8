import Mailroom.Proofs.Sql.Within

/-!
# What a pattern matches

A pattern is matched against all suffixes of a text at once, from the codes of characters
that are read off their bytes. `Matches` says what comes of it, character by character and
from the front: `%` takes any run of characters, `_` takes one, and every other character
takes one that is like it.

Characters are alike if they are the same but for the case of an ASCII letter. Besides,
the last two characters of the first plane are read as U+FFFD, so no pattern tells these
three apart.
-/

namespace Mailroom.Sql.Like

open Mailroom.Text.Utf8 (encode form lead spread top)

/-! ## Reading characters off bytes -/

/-- The code that a character is read as. -/
def code (c : Char) : Nat := if c.toNat / 2 = 0x7FFF then replacement else c.toNat

/-- What is not a continuation byte ends the character in front of it. -/
theorem charactersFrom_some {bits : Nat} {bytes : List UInt8}
    (h : ∀ b ∈ bytes.head?, ¬(0x80 ≤ b.toNat ∧ b.toNat < 0xC0)) :
    charactersFrom (some bits) bytes = ofBits bits :: charactersFrom none bytes := by
  cases bytes with
  | nil => rfl
  | cons b bs =>
      have hb := h b rfl
      simp only [charactersFrom, if_neg hb]
      split
      · rfl
      · split
        · rw [if_pos (by omega)]
        · rw [if_neg (by omega)]

/-- The bits on a lead byte and continuation bytes. -/
theorem charactersFrom_spread {mark k v : Nat} (hMark : 0xC0 ≤ top k v + mark)
    (hByte : top k v + mark < 256)
    (hLead : leadBits (UInt8.ofNat (top k v + mark)) = top k v) (hv : v < 0x100000000)
    (rest : List UInt8) :
    charactersFrom none (spread mark k v ++ rest) = charactersFrom (some v) rest := by
  induction k generalizing v rest with
  | zero =>
      rw [top] at hMark hByte hLead
      have hValue : (UInt8.ofNat (v + mark)).toNat = v + mark :=
        UInt8.toNat_ofNat_of_lt' hByte
      rw [spread, List.singleton_append, charactersFrom]
      simp only [hValue, hLead]
      rw [if_neg (by omega), if_neg (by omega)]
  | succ k ih =>
      have hValue : (UInt8.ofNat (v % 64 + 128)).toNat = v % 64 + 128 :=
        UInt8.toNat_ofNat_of_lt' (show v % 64 + 128 < 256 by omega)
      have hWhole : (v / 64 * 64 + (v % 64 + 128 - 0x80)) % 0x100000000 = v := by omega
      rw [spread, List.append_assoc, ih hMark hByte hLead (by omega), List.singleton_append,
        charactersFrom]
      simp only [hValue]
      rw [if_pos (by omega), hWhole]

/-- The lead byte of a character tells how many bits it carries. -/
theorem leadBits_lead {v : Nat} (hLow : 0x80 ≤ v) (hHigh : v < 0x110000) :
    0xC0 ≤ lead v ∧ leadBits (UInt8.ofNat (lead v)) = top (form v).2 v := by
  have hBits {n : Nat} (hn : n < 256) : leadBits (UInt8.ofNat n) =
      if n < 0xE0 then n - 0xC0 else if n < 0xF0 then n - 0xE0
      else if n < 0xF8 then n - 0xF0 else if n < 0xFC then n - 0xF8
      else if n < 0xFE then n - 0xFC else 0 := by
    rw [leadBits, show (UInt8.ofNat n).toNat = n from UInt8.toNat_ofNat_of_lt' hn]
  unfold lead form
  split_ifs with h₁ h₂ h₃
  · omega
  all_goals simp only [top]
  all_goals rw [hBits (by omega)]
  all_goals split_ifs
  all_goals omega

/-- The bytes of a text do not start with a continuation byte. -/
theorem head?_encode (cs : List Char) :
    ∀ b ∈ (encode cs).head?, ¬(0x80 ≤ b.toNat ∧ b.toNat < 0xC0) := by
  intro b hb
  cases cs with
  | nil => cases hb
  | cons c cs =>
      obtain ⟨rest, hRest⟩ := Text.Utf8.spread_eq_cons (form c.val.toNat).1
        (form c.val.toNat).2 c.val.toNat
      rw [encode, List.flatMap_cons, Text.Utf8.encodeChar_eq, hRest] at hb
      have hFirst : UInt8.ofNat (lead c.val.toNat) = b := Option.some.inj hb
      rw [← hFirst, UInt8.toNat_ofNat_of_lt' (Text.Utf8.lead_lt c)]
      by_cases hAscii : c.val.toNat < 0x80
      · have hForm : form c.val.toNat = (0, 0) := if_pos (by omega)
        rw [lead, hForm]
        simp only [top]
        omega
      · have hMark := (leadBits_lead (Nat.le_of_not_lt hAscii)
          (Text.Utf8.toNat_val_lt c)).1
        omega

/-- The bits of a character that is written with several bytes make its code. -/
theorem ofBits_toNat {c : Char} (h : 0x80 ≤ c.toNat) : ofBits c.toNat = code c := by
  have hMax : c.toNat < 0x110000 := Text.Utf8.toNat_val_lt c
  have hValid : c.toNat < 0xD800 ∨ 0xDFFF < c.toNat := by
    rcases c.valid with h | ⟨h, -⟩
    · exact .inl h
    · exact .inr h
  have hSurrogate : c.toNat &&& 0xFFFFF800 ≠ 0xD800 := by
    intro hSame
    -- The mask leaves the bits above the last eleven, and these are 27 for surrogates only.
    have hHigh : c.toNat / 2 ^ 11 &&& 2 ^ 21 - 1 = 27 := by
      have hDiv : (c.toNat &&& 0xFFFFF800) / 2 ^ 11 = 0xD800 / 2 ^ 11 :=
        congrArg (· / 2 ^ 11) hSame
      rw [Nat.and_div_two_pow] at hDiv
      exact hDiv
    rw [Nat.and_two_pow_sub_one_eq_mod] at hHigh
    omega
  have hLow : ¬c.toNat < 0x80 := by omega
  simp only [ofBits, code, hSurrogate, hLow, false_or]

/-- **The codes read off the bytes of a text.** -/
theorem characters_encode {cs : List Char} (h : '\x00' ∉ cs) :
    characters (encode cs) = cs.map code := by
  induction cs with
  | nil => rfl
  | cons c cs ih =>
      obtain ⟨hFirst, hRest⟩ := List.ne_and_not_mem_of_not_mem_cons h
      -- An ASCII character is a byte; any other one is ended by the bytes of the next.
      have hc : c.toNat ≠ 0 := fun hZero => hFirst (Char.toNat_inj.1 hZero.symm)
      have hMax : c.toNat < 0x110000 := Text.Utf8.toNat_val_lt c
      by_cases hAscii : c.toNat < 0x80
      · have hByte : (UInt8.ofNat c.toNat).toNat = c.toNat :=
          UInt8.toNat_ofNat_of_lt' (show c.toNat < 256 by omega)
        have hCode : code c = c.toNat := if_neg (by omega)
        rw [Text.Utf8.encode_cons_ascii hAscii, characters, charactersFrom]
        simp only [hByte]
        rw [if_neg hc, if_pos (by omega), List.map_cons, hCode, ← ih hRest, characters]
      · obtain ⟨hMark, hLead⟩ := leadBits_lead (v := c.toNat) (by omega) hMax
        have hEncode : encode (c :: cs) =
            spread (form c.toNat).1 (form c.toNat).2 c.toNat ++ encode cs := by
          rw [encode, List.flatMap_cons, Text.Utf8.encodeChar_eq]
          rfl
        rw [hEncode, characters, charactersFrom_spread hMark (Text.Utf8.lead_lt c) hLead
          (by omega), charactersFrom_some (head?_encode cs), ofBits_toNat (by omega),
          List.map_cons, ← ih hRest, characters]

/-! ## Characters that are alike -/

/-- The characters that are read as U+FFFD. -/
def Blurred (c : Char) : Prop := c.toNat = 0xFFFD ∨ c.toNat = 0xFFFE ∨ c.toNat = 0xFFFF

instance : DecidablePred Blurred := fun _ => inferInstanceAs (Decidable (_ ∨ _))

/-- The same but for the case of an ASCII letter, or both read as U+FFFD. -/
def Alike (c d : Char) : Prop := c.toLower = d.toLower ∨ Blurred c ∧ Blurred d

instance (c d : Char) : Decidable (Alike c d) := inferInstanceAs (Decidable (_ ∨ _))

theorem toNat_toLower (c : Char) : c.toLower.toNat = fold c.toNat := by
  have hUpper : c.val ≥ 'A'.val ∧ c.val ≤ 'Z'.val ↔ 65 ≤ c.toNat ∧ c.toNat ≤ 90 := by
    simp only [ge_iff_le, UInt32.le_iff_toNat_le]
    rfl
  unfold Char.toLower fold
  split
  · next h =>
    rw [if_pos (hUpper.1 h)]
    show (c.val + ('a'.val - 'A'.val)).toNat = c.toNat + 32
    rw [UInt32.toNat_add]
    have hRange := hUpper.1 h
    show (c.toNat + 32) % 2 ^ 32 = c.toNat + 32
    omega
  · next h => rw [if_neg (mt hUpper.2 h)]

/-- Characters are alike if their codes are the same but for their case. -/
theorem alike_iff {c d : Char} : Alike c d ↔ fold (code c) = fold (code d) := by
  have hLower : c.toLower = d.toLower ↔ fold c.toNat = fold d.toNat := by
    rw [← toNat_toLower, ← toNat_toLower, Char.toNat_inj]
  unfold Alike Blurred
  rw [hLower]
  unfold code fold replacement
  split_ifs
  all_goals omega

/-! ## Patterns from the front -/

/-- The pattern takes the whole text. -/
inductive Matches : List Char → List Char → Prop
  | done : Matches [] []
  | run {ps cs : List Char} (front : List Char) :
      Matches ps cs → Matches ('%' :: ps) (front ++ cs)
  | one {ps cs : List Char} (c : Char) : Matches ps cs → Matches ('_' :: ps) (c :: cs)
  | itself {p c : Char} {ps cs : List Char} :
      p ≠ '%' → p ≠ '_' → Alike p c → Matches ps cs → Matches (p :: ps) (c :: cs)

private theorem matches_nil {cs : List Char} : Matches [] cs ↔ cs = [] := by
  constructor
  · rintro ⟨⟩
    rfl
  · rintro rfl
    exact .done

private theorem matches_run {ps cs : List Char} :
    Matches ('%' :: ps) cs ↔ ∃ back, back <:+ cs ∧ Matches ps back := by
  constructor
  · intro h
    cases h with
    | run front h => exact ⟨_, List.suffix_append front _, h⟩
    | itself hp => exact absurd rfl hp
  · rintro ⟨back, ⟨front, rfl⟩, h⟩
    exact .run front h

private theorem not_matches_one_nil {ps : List Char} : ¬Matches ('_' :: ps) [] := by
  rintro ⟨⟩

private theorem matches_one_cons {c : Char} {ps cs : List Char} :
    Matches ('_' :: ps) (c :: cs) ↔ Matches ps cs := by
  refine ⟨fun h => ?_, .one c⟩
  cases h with
  | one _ h => exact h
  | itself _ hOne => exact absurd rfl hOne

section

variable {p : Char} (hRun : p ≠ '%') (hOne : p ≠ '_') {ps : List Char}
include hRun hOne

private theorem not_matches_itself_nil : ¬Matches (p :: ps) [] := by
  intro h
  generalize hEmpty : ([] : List Char) = cs at h
  cases h with
  | run => exact hRun rfl
  | one => exact hOne rfl
  | itself => cases hEmpty

private theorem matches_itself_cons {c : Char} {cs : List Char} :
    Matches (p :: ps) (c :: cs) ↔ Alike p c ∧ Matches ps cs := by
  refine ⟨fun h => ?_, fun h => .itself hRun hOne h.1 h.2⟩
  generalize hText : c :: cs = text at h
  cases h with
  | run => exact absurd rfl hRun
  | one => exact absurd rfl hOne
  | itself _ _ hAlike h =>
      cases hText
      exact ⟨hAlike, h⟩

end

/-! ## The table -/

private theorem covers_nil (text : List Nat) : covers [] text = text.isEmpty := by
  cases text with
  | nil => rfl
  | cons c text => rfl

private theorem covers_one_nil (ps : List Nat) : covers (anyCharacter :: ps) [] = false := by
  obtain ⟨b, bs, hTable⟩ :=
    List.exists_cons_of_length_eq_add_one (length_table [] ps)
  have hNil : bs = [] := by
    have hLength := length_table [] ps
    rw [hTable] at hLength
    exact List.length_eq_zero_iff.1 (Nat.succ.inj hLength)
  rw [covers, table, if_neg (by decide), if_pos rfl, hTable, hNil]
  rfl

/-- A `_` takes one character. -/
theorem covers_one_cons (ps : List Nat) (c : Nat) (text : List Nat) :
    covers (anyCharacter :: ps) (c :: text) = covers ps text := by
  obtain ⟨b, bs, hTable⟩ :=
    List.exists_cons_of_length_eq_add_one (length_table text ps)
  rw [covers, table, if_neg (by decide), if_pos rfl, table_cons, List.tail_cons, covers,
    hTable]
  rfl

private theorem covers_run {ps : List Nat} {cs : List Char} :
    covers (anyText :: ps) (cs.map code) = true ↔
      ∃ back, back <:+ cs ∧ covers ps (back.map code) = true := by
  induction cs with
  | nil =>
      rw [List.map_nil, covers_any_nil]
      simp
  | cons c cs ih =>
      rw [List.map_cons, covers_any_cons, Bool.or_eq_true, ih]
      simp only [List.suffix_cons_iff, or_and_right, exists_or, exists_eq_left,
        List.map_cons]

private theorem code_inj_of_lt {c d : Char} (hd : d.toNat < 0xFFFD) : code c = code d ↔ c = d := by
  rw [← Char.toNat_inj]
  unfold code replacement
  split_ifs
  all_goals omega

/-- **The table decides** whether a pattern takes a text. -/
theorem covers_iff {ps cs : List Char} :
    covers (ps.map code) (cs.map code) = true ↔ Matches ps cs := by
  -- On the pattern: each of its characters has its own equation of the table.
  induction ps generalizing cs with
  | nil =>
      rw [List.map_nil, covers_nil, matches_nil]
      simp
  | cons p ps ih =>
      rw [List.map_cons]
      by_cases hRun : p = '%'
      · subst hRun
        rw [show code '%' = anyText by decide, covers_run, matches_run]
        simp only [ih]
      · by_cases hOne : p = '_'
        · subst hOne
          rw [show code '_' = anyCharacter by decide]
          cases cs with
          | nil => simp [covers_one_nil, not_matches_one_nil]
          | cons c cs => rw [List.map_cons, covers_one_cons, ih, matches_one_cons]
        · have hAny : code p ≠ anyText :=
            fun h => hRun ((code_inj_of_lt (d := '%') (by decide)).1 h)
          have hCharacter : code p ≠ anyCharacter :=
            fun h => hOne ((code_inj_of_lt (d := '_') (by decide)).1 h)
          cases cs with
          | nil => simp [covers_literal_nil hAny hCharacter, not_matches_itself_nil hRun hOne]
          | cons c cs =>
              rw [List.map_cons, covers_literal_cons hAny hCharacter, Bool.and_eq_true,
                decide_eq_true_eq, ih, eq_comm, ← alike_iff, matches_itself_cons hRun hOne]

instance (ps cs : List Char) : Decidable (Matches ps cs) := decidable_of_iff _ covers_iff

/-! ## Between two `%` -/

private theorem matches_append {ps qs cs : List Char} : Matches (ps ++ qs) cs ↔
    ∃ front back, cs = front ++ back ∧ Matches ps front ∧ Matches qs back := by
  constructor
  · intro h
    induction ps generalizing cs with
    | nil => exact ⟨[], cs, rfl, .done, h⟩
    | cons p ps ih =>
        rw [List.cons_append] at h
        cases h with
        | run skipped h =>
            obtain ⟨front, back, rfl, hFront, hBack⟩ := ih h
            exact ⟨skipped ++ front, back, (List.append_assoc _ _ _).symm,
              .run skipped hFront, hBack⟩
        | one c h =>
            obtain ⟨front, back, rfl, hFront, hBack⟩ := ih h
            exact ⟨c :: front, back, rfl, .one c hFront, hBack⟩
        | itself hRun hOne hAlike h =>
            obtain ⟨front, back, rfl, hFront, hBack⟩ := ih h
            exact ⟨_ :: front, back, rfl, .itself hRun hOne hAlike hFront, hBack⟩
  · rintro ⟨front, back, rfl, hFront, hBack⟩
    induction hFront with
    | done => exact hBack
    | run skipped _ ih =>
        rw [List.append_assoc]
        exact .run skipped ih
    | one c _ ih => exact .one c ih
    | itself hRun hOne hAlike _ ih => exact .itself hRun hOne hAlike ih

/-- Some part of the text is taken by the pattern. -/
def Occurs (ps cs : List Char) : Prop := ∃ part, part <:+: cs ∧ Matches ps part

private theorem matches_within {ps cs : List Char} :
    Matches ('%' :: (ps ++ ['%'])) cs ↔ Occurs ps cs := by
  rw [matches_run]
  simp only [matches_append]
  constructor
  · rintro ⟨_, hSuffix, part, back, rfl, hPart, -⟩
    exact ⟨part, (List.prefix_append part back).isInfix.trans hSuffix.isInfix, hPart⟩
  · rintro ⟨part, ⟨front, back, rfl⟩, hPart⟩
    refine ⟨part ++ back, ?_, part, back, rfl, hPart, ?_⟩
    · rw [List.append_assoc]
      exact List.suffix_append front (part ++ back)
    · exact matches_run.2 ⟨[], List.nil_suffix, .done⟩

instance (ps cs : List Char) : Decidable (Occurs ps cs) := decidable_of_iff _ matches_within

/-- **A pattern between two `%`** matches the texts that it takes some part of. -/
theorem matched_within {v t : String} (hv : '\x00' ∉ v.toList) (ht : '\x00' ∉ t.toList) :
    matched (encode ("%" ++ v ++ "%").toList) (encode t.toList) = true ↔
      Occurs v.toList t.toList := by
  have hPattern : ("%" ++ v ++ "%").toList = '%' :: (v.toList ++ ['%']) := by simp
  have hCodes : '\x00' ∉ '%' :: (v.toList ++ ['%']) := by
    simpa using hv
  rw [hPattern, ← matches_within, ← covers_iff, ← characters_encode hCodes,
    ← characters_encode ht]
  rfl

/-! ## Characters that stand for themselves -/

/-- No character of the pattern stands for others. -/
def Plain (ps : List Char) : Prop := ∀ p ∈ ps, p ≠ '%' ∧ p ≠ '_' ∧ ¬Blurred p

private theorem matches_plain {ps cs : List Char} (h : Plain ps) :
    Matches ps cs ↔ ps.map Char.toLower = cs.map Char.toLower := by
  induction ps generalizing cs with
  | nil =>
      rw [matches_nil, List.map_nil, eq_comm (a := []), List.map_eq_nil_iff]
  | cons p ps ih =>
      obtain ⟨⟨hRun, hOne, hClear⟩, hRest⟩ := List.forall_mem_cons.1 h
      have hAlike (c : Char) : Alike p c ↔ p.toLower = c.toLower :=
        or_iff_left fun hBoth => hClear hBoth.1
      cases cs with
      | nil => simp [not_matches_itself_nil hRun hOne]
      | cons c cs => simp [matches_itself_cons hRun hOne, hAlike, ih hRest]

/-- **Characters that stand for themselves** have to stand in the text in a row, ASCII
letters in either case. -/
theorem occurs_plain {ps cs : List Char} (h : Plain ps) :
    Occurs ps cs ↔ ps.map Char.toLower <:+: cs.map Char.toLower := by
  unfold Occurs
  simp only [matches_plain h, List.infix_map_iff]

end Mailroom.Sql.Like
