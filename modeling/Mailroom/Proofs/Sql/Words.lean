import Mailroom.Sql.Token

/-!
# The words of a text, piece by piece

`Token.scan` takes fuel, and the length of the text is always enough of it:
each word takes at least one character. So `words`, the scan with that fuel,
obeys the equations of a scan without fuel, one for each kind of word.

A text is taken apart into pieces. A piece *spells* words if, whatever follows
it, the words of the whole are those words and then the words of what follows.
That holds of a piece whose last character ends its last word: a blank, or a
sign of one character. Pieces that spell can be put one after the other.
-/

namespace Mailroom.Sql.Token

/-! ## Fuel -/

/-- The closing quote is taken off. -/
theorem length_quoted {q : Char} {cs s r : List Char}
    (h : quoted q cs = some (s, r)) : r.length < cs.length := by
  fun_induction quoted q cs generalizing s r with
  | case1 => cases h
  | case2 => cases h; simp
  | case3 => cases h
  | case4 rest ih =>
      obtain ⟨⟨s', r'⟩, hrest, heq⟩ := Option.map_eq_some_iff.1 h
      cases heq
      have := ih hrest
      simp only [List.length_cons]
      omega
  | case5 d rest hd => cases h; simp
  | case6 c d rest hc ih =>
      obtain ⟨⟨s', r'⟩, hrest, heq⟩ := Option.map_eq_some_iff.1 h
      cases heq
      have := ih hrest
      simp only [List.length_cons] at this ⊢
      omega

/-- A sign has at least one character. -/
theorem length_sign? {cs r : List Char} {s : String}
    (h : sign? cs = some (s, r)) : r.length < cs.length := by
  unfold sign? at h
  split at h
  all_goals cases h
  all_goals simp only [List.length_cons]; omega

/-- Once there is fuel for each character, the words do not depend on it. -/
theorem scan_fuel (fuel more : Nat) (cs : List Char) (hFuel : cs.length ≤ fuel)
    (hMore : cs.length ≤ more) : scan fuel cs = scan more cs := by
  induction fuel generalizing more cs with
  | zero =>
      have hNil : cs = [] := List.length_eq_zero_iff.1 (Nat.le_zero.1 hFuel)
      subst hNil
      simp [scan]
  | succ fuel ih =>
      cases cs with
      | nil => simp [scan]
      | cons c r =>
          cases more with
          | zero => simp at hMore
          | succ more =>
              simp only [List.length_cons, Nat.add_le_add_iff_right] at hFuel hMore
              have hRest : ∀ r' : List Char, r'.length ≤ r.length →
                  scan fuel r' = scan more r' := fun r' h =>
                ih more r' (Nat.le_trans h hFuel) (Nat.le_trans h hMore)
              have hQuoted : ∀ (q : Char) (p : List Char × List Char),
                  quoted q r = some p → scan fuel p.2 = scan more p.2 :=
                fun q p hp => hRest p.2 (Nat.le_of_lt (length_quoted hp))
              have hSign : ∀ p : String × List Char,
                  sign? (c :: r) = some p → scan fuel p.2 = scan more p.2 :=
                fun p hp => hRest p.2 (Nat.le_of_lt_succ (length_sign? hp))
              have hWord : (r.dropWhile isWordChar).length ≤ r.length :=
                (List.dropWhile_suffix isWordChar).length_le
              simp only [scan]
              split
              · exact hRest r (Nat.le_refl _)
              · split
                · exact Option.bind_congr fun p hp => by rw [hQuoted _ p hp]
                · split
                  · exact Option.bind_congr fun p hp => by rw [hQuoted _ p hp]
                  · split
                    · rw [hRest _ hWord]
                    · exact Option.bind_congr fun p hp => by rw [hSign p hp]

/-- The words of a text. -/
def words (cs : List Char) : Option (List Token) := scan cs.length cs

private theorem scan_eq_words {fuel : Nat} {cs : List Char} (h : cs.length ≤ fuel) :
    scan fuel cs = words cs :=
  scan_fuel fuel cs.length cs h (Nat.le_refl _)

theorem ofText?_eq_words (s : String) : ofText? s = words s.toList := by
  rw [ofText?, ← String.length_toList]
  rfl

/-! ## The words by their first character -/

@[simp] theorem words_nil : words [] = some [] := rfl

/-- A name is read up to its closing quote. -/
theorem quoted_append {q : Char} {s r : List Char} (hs : q ∉ s)
    (hr : ∀ c ∈ r.head?, c ≠ q) : quoted q (s ++ q :: r) = some (s, r) := by
  induction s with
  | nil =>
      cases r with
      | nil => simp [quoted]
      | cons d r =>
          have hd : d ≠ q := hr d (by simp)
          simp [quoted, hd]
  | cons c s ih =>
      have hc : c ≠ q := fun h => hs (by simp [h])
      have hTail := ih (fun h => hs (by simp [h]))
      cases s with
      | nil => simpa [quoted, hc] using hTail
      | cons d s =>
          rw [List.cons_append, List.cons_append, quoted, if_neg hc]
          rw [List.cons_append] at hTail
          rw [hTail]
          rfl

/-- A word in front of those of the rest. -/
theorem scan_bind_cons {fuel : Nat} {r : List Char} (h : r.length ≤ fuel)
    (t : Token) :
    ((scan fuel r).bind fun ts => some (t :: ts)) = (words r).map (t :: ·) := by
  rw [scan_eq_words h, Option.map_eq_bind]
  rfl

/-- What is in quotes is one word, as long as no further quote follows. -/
theorem words_name {s r : List Char} (hs : '"' ∉ s)
    (hr : ∀ c ∈ r.head?, c ≠ '"') :
    words ('"' :: (s ++ '"' :: r)) =
      (words r).map (name (String.ofList s) :: ·) := by
  rw [words, List.length_cons, scan, if_neg (by decide), if_pos rfl,
    quoted_append hs hr]
  refine scan_bind_cons ?_ _
  simp only [List.length_append, List.length_cons]
  omega

private theorem words_text {s r : List Char} (hs : '\x27' ∉ s)
    (hr : ∀ c ∈ r.head?, c ≠ '\x27') :
    words ('\x27' :: (s ++ '\x27' :: r)) =
      (words r).map (text (String.ofList s) :: ·) := by
  rw [words, List.length_cons, scan, if_neg (by decide), if_neg (by decide),
    if_pos rfl, quoted_append hs hr]
  refine scan_bind_cons ?_ _
  simp only [List.length_append, List.length_cons]
  omega

/-- No word character is a blank or a quote. -/
theorem ne_of_isWordChar {c : Char} (h : isWordChar c = true) :
    c ≠ ' ' ∧ c ≠ '"' ∧ c ≠ '\x27' := by
  refine ⟨?_, ?_, ?_⟩
  all_goals rintro rfl
  all_goals exact absurd h (by decide)

/-- An unquoted word goes on as long as there are word characters. -/
theorem words_word {c : Char} {w r : List Char} (hc : isWordChar c = true)
    (hw : w.all isWordChar = true)
    (hr : ∀ d ∈ r.head?, isWordChar d = false) :
    words (c :: (w ++ r)) =
      (words r).map (word (String.ofList (c :: w)) :: ·) := by
  obtain ⟨hBlank, hName, hText⟩ := ne_of_isWordChar hc
  have hStop : r.takeWhile isWordChar = [] ∧ r.dropWhile isWordChar = r := by
    cases r with
    | nil => exact ⟨rfl, rfl⟩
    | cons d r =>
        have hd := hr d (by simp)
        simp [hd]
  have hTake : (w ++ r).takeWhile isWordChar = w := by
    rw [List.takeWhile_append_of_pos (List.all_eq_true.1 hw), hStop.1,
      List.append_nil]
  have hDrop : (w ++ r).dropWhile isWordChar = r := by
    rw [List.dropWhile_append_of_pos (List.all_eq_true.1 hw), hStop.2]
  rw [words, List.length_cons, scan, if_neg hBlank, if_neg hName, if_neg hText,
    if_pos hc, hTake, hDrop]
  refine scan_bind_cons ?_ _
  simp only [List.length_append]
  omega

/-- A sign is neither a blank nor the start of another kind of word. -/
theorem sign_start {c : Char} {r : List Char} {p : String × List Char}
    (h : sign? (c :: r) = some p) :
    c ≠ ' ' ∧ c ≠ '"' ∧ c ≠ '\x27' ∧ isWordChar c = false := by
  unfold sign? at h
  split at h
  all_goals rename_i heq
  all_goals first
    | cases heq; decide
    | cases h

private theorem words_sign {c : Char} {r r' : List Char} {s : String}
    (h : sign? (c :: r) = some (s, r')) :
    words (c :: r) = (words r').map (sign s :: ·) := by
  obtain ⟨hBlank, hName, hText, hWord⟩ := sign_start h
  rw [words, List.length_cons, scan, if_neg hBlank, if_neg hName, if_neg hText,
    if_neg (by simp [hWord]), h]
  exact scan_bind_cons (Nat.le_of_lt_succ (length_sign? h)) _

/-! ## Pieces -/

/-- Whatever follows the piece, its words come first. -/
def Spells (piece : List Char) (ts : List Token) : Prop :=
  ∀ rest, words (piece ++ rest) = (words rest).map (ts ++ ·)

theorem Spells.nil : Spells [] [] := by
  intro rest
  simp

theorem Spells.append {a b : List Char} {ts us : List Token}
    (ha : Spells a ts) (hb : Spells b us) : Spells (a ++ b) (ts ++ us) := by
  intro rest
  rw [List.append_assoc, ha, hb, Option.map_map]
  simp [Function.comp_def]

/-- A piece is the whole text when nothing follows it. -/
theorem Spells.words {piece : List Char} {ts : List Token}
    (h : Spells piece ts) : words piece = some ts := by
  have hAll := h []
  simpa using hAll

/-- A blank may stand in front. -/
theorem Spells.blank {piece : List Char} {ts : List Token}
    (h : Spells piece ts) : Spells (' ' :: piece) ts :=
  fun rest => h rest

/-- A name in front of a piece that does not go on with a quote. -/
theorem Spells.name {s : List Char} {c : Char} {piece : List Char}
    {ts : List Token} (hs : '"' ∉ s) (hc : c ≠ '"')
    (h : Spells (c :: piece) ts) :
    Spells ('"' :: (s ++ '"' :: c :: piece))
      (.name (String.ofList s) :: ts) := by
  intro rest
  have hName := words_name (r := c :: (piece ++ rest)) hs (by simpa using hc)
  have hRest := h rest
  simp only [List.cons_append, List.append_assoc] at hName hRest ⊢
  rw [hName, hRest, Option.map_map]
  rfl

theorem Spells.text {s : List Char} {c : Char} {piece : List Char}
    {ts : List Token} (hs : '\x27' ∉ s) (hc : c ≠ '\x27')
    (h : Spells (c :: piece) ts) :
    Spells ('\x27' :: (s ++ '\x27' :: c :: piece))
      (.text (String.ofList s) :: ts) := by
  intro rest
  have hText := words_text (r := c :: (piece ++ rest)) hs (by simpa using hc)
  have hRest := h rest
  simp only [List.cons_append, List.append_assoc] at hText hRest ⊢
  rw [hText, hRest, Option.map_map]
  rfl

/-- A word in front of a piece that does not go on with the word. -/
theorem Spells.word {b c : Char} {w piece : List Char} {ts : List Token}
    (hb : isWordChar b = true) (hw : w.all isWordChar = true)
    (hc : isWordChar c = false) (h : Spells (c :: piece) ts) :
    Spells (b :: (w ++ c :: piece)) (.word (String.ofList (b :: w)) :: ts) := by
  intro rest
  have hWord := words_word (r := c :: (piece ++ rest)) hb hw (by simpa using hc)
  have hRest := h rest
  simp only [List.cons_append, List.append_assoc] at hWord hRest ⊢
  rw [hWord, hRest, Option.map_map]
  rfl

/-- A sign in front of a piece, where the piece is no part of the sign. -/
theorem Spells.sign {c : Char} {r piece : List Char} {s : String}
    {ts : List Token}
    (hs : ∀ rest, sign? (c :: (r ++ rest)) = some (s, piece ++ rest))
    (h : Spells piece ts) : Spells (c :: r) (.sign s :: ts) := by
  intro rest
  rw [List.cons_append, words_sign (hs rest), h rest, Option.map_map]
  rfl

end Mailroom.Sql.Token
