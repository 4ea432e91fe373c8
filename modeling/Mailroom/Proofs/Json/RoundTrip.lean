import Mailroom.Json.Parser
import Mailroom.Json.Printer
import Mailroom.Proofs.Text.Utf8Bytes

/-!
# What is written is read back

The reader is given a text of a value with something after it, and gives the
value and what comes after. That holds of plain values: strings and keys that
have a text, and no decimals. A number ends where no digit, point or exponent
follows, which is so in front of spacing, a comma or a closing bracket.

`Layout` is the relation between a value and its texts, which differ in spacing
alone. Both printers write texts of this kind, so there is one proof for the
two. The length of the text bounds everything the reader counts: how deep
brackets nest and how many items there are. The proof is by induction on the
layout, with one lemma for the items of an array and the members of an object.

## Main results

* `units_quoteBody`: a string escaped is read back.
* `unsignedNumber_digits`: and so is a number.
* `bracketed_spacedList`: and items between brackets, if each of them is.
* `parse?_of_layout`: a value is read from its texts.
* `parse?_render`, `parse?_renderPretty`: a plain value is read from what is
  written of it.
-/

namespace Mailroom.Text

/-! ## Digits -/

private theorem digits_zero : digits 0 = ['0'] := by
  rw [digits, if_pos (by decide)]
  rfl

/-- A number other than zero is written without a zero in front. -/
theorem digits_of_pos {n : Nat} (h : 0 < n) :
    ∃ d ds, digits n = d :: ds ∧ d ≠ '0' := by
  have hDigit : ∀ d, d < 10 → 0 < d → digitChar d ≠ '0' := by decide
  induction n using Nat.strongRecOn with
  | ind n ih =>
      rw [digits]
      split
      · rename_i hSmall
        exact ⟨digitChar n, [], rfl, hDigit n hSmall h⟩
      · obtain ⟨d, ds, hFront, hd⟩ := ih (n / 10) (by omega) (by omega)
        exact ⟨d, ds ++ [digitChar (n % 10)], by rw [hFront]; rfl, hd⟩

end Mailroom.Text

namespace Mailroom.Json

/-! ## Strings -/

/-- A control character is written as its number. -/
theorem hex4?_hexDigit : ∀ n < 32,
    hex4? '0' '0' (hexDigit (n / 16)) (hexDigit (n % 16)) = some n := by decide

/-- A character is escaped by a letter, by its number, or not at all. -/
theorem escape_cases (c : Char) :
    (∃ d, escape c = ['\\', d] ∧ 32 ≤ d.toNat ∧ d ≠ 'u' ∧
      escaped? d = some c.toNat) ∨
    (escape c = ['\\', 'u', '0', '0', hexDigit (c.toNat / 16),
      hexDigit (c.toNat % 16)] ∧ c.toNat < 32) ∨
    (escape c = [c] ∧ c ≠ '"' ∧ c ≠ '\\' ∧ 32 ≤ c.toNat) := by
  unfold escape
  split
  · rename_i h
    exact .inl ⟨'"', rfl, by decide, by decide, by rw [h]; rfl⟩
  split
  · rename_i h
    exact .inl ⟨'\\', rfl, by decide, by decide, by rw [h]; rfl⟩
  split
  · rename_i h
    exact .inl ⟨'n', rfl, by decide, by decide, by rw [h]; rfl⟩
  split
  · rename_i h
    exact .inl ⟨'r', rfl, by decide, by decide, by rw [h]; rfl⟩
  split
  · rename_i h
    exact .inl ⟨'t', rfl, by decide, by decide, by rw [h]; rfl⟩
  split
  · rename_i h
    exact .inl ⟨'b', rfl, by decide, by decide, by rw [h]; rfl⟩
  split
  · rename_i h
    exact .inl ⟨'f', rfl, by decide, by decide, by rw [h]; rfl⟩
  split
  · rename_i h
    exact .inr (.inl ⟨rfl, h⟩)
  · rename_i hQuote hSlash _ _ _ _ _ hPrint
    exact .inr (.inr ⟨rfl, hQuote, hSlash, by omega⟩)

/-- A character escaped is read as its number. -/
theorem units_escape (c : Char) (cs : List Char) :
    units (escape c ++ cs) = (units cs).map fun (us, r) => (c.toNat :: us, r) := by
  rcases escape_cases c with ⟨d, hEscape, -, hd, hRead⟩ | ⟨hEscape, hControl⟩ |
    ⟨hEscape, hQuote, hSlash, hPrint⟩
  · rw [hEscape]
    simp only [List.cons_append, List.nil_append]
    rw [units.eq_4 d cs (fun _ _ _ _ _ h _ => hd h), hRead]
    cases units cs <;> rfl
  · rw [hEscape]
    simp only [List.cons_append, List.nil_append]
    rw [units.eq_3, hex4?_hexDigit _ hControl]
    cases units cs <;> rfl
  · have hWhole : c ≠ broken := by
      rintro rfl
      exact absurd hPrint (by decide)
    rw [hEscape]
    simp only [List.cons_append, List.nil_append]
    rw [units.eq_5 c cs hQuote (fun _ _ _ _ _ h _ => hSlash h)
      (fun _ _ h _ => hSlash h), if_neg hWhole, if_neg (by omega)]
    cases units cs <;> rfl

/-- **A text escaped is read up to the quote after it.** -/
theorem units_quoteBody (cs rest : List Char) :
    units (quoteBody cs ++ '"' :: rest) = some (cs.map Char.toNat, rest) := by
  induction cs with
  | nil => rfl
  | cons c cs ih =>
      rw [quoteBody, List.flatMap_cons, List.append_assoc, ← quoteBody,
        units_escape, ih]
      rfl

private theorem stringBody_quoteBody (s : String) (rest : List Char) :
    stringBody (quoteBody s.toList ++ '"' :: rest) = some (some s, rest) := by
  rw [stringBody, units_quoteBody]
  show some ((joinUnits (s.toList.map Char.toNat)).map String.ofList, rest) = _
  rw [joinUnits_ofChars, Option.map_some, String.ofList_toList]

/-! ## Numbers -/

/-- What may come after a value: nothing that a number could go on with. -/
def Stops (rest : List Char) : Prop :=
  ∀ c ∈ rest.head?, c.isDigit = false ∧ c ≠ '.' ∧ c ≠ 'e' ∧ c ≠ 'E'

private theorem stops_nil : Stops [] := by
  intro c hc
  cases hc

/-- The characters that separate values. -/
def IsSeparator (c : Char) : Prop := c = ',' ∨ c = ']' ∨ c = '\x7d'

private theorem stops_cons {c : Char} (h : IsSeparator c) (rest : List Char) :
    Stops (c :: rest) := by
  intro d hd
  cases hd
  rcases h with rfl | rfl | rfl
  · decide
  · decide
  · decide

private theorem takeDigits_append {ds rest : List Char}
    (hDigits : ∀ c ∈ ds, c.isDigit = true) (hStops : Stops rest) :
    takeDigits (ds ++ rest) = (ds, rest) := by
  have hRest : rest.takeWhile Char.isDigit = [] ∧
      rest.dropWhile Char.isDigit = rest := by
    cases rest with
    | nil => exact ⟨rfl, rfl⟩
    | cons c rest =>
        have hc := (hStops c rfl).1
        exact ⟨by rw [List.takeWhile_cons, hc]; rfl,
          by rw [List.dropWhile_cons, hc]; rfl⟩
  rw [takeDigits, List.takeWhile_append_of_pos hDigits,
    List.dropWhile_append_of_pos hDigits, hRest.1, hRest.2, List.append_nil]

private theorem fraction_of_stops {rest : List Char} (h : Stops rest) :
    fraction rest = some ([], rest) := by
  unfold fraction
  split
  · exact absurd rfl (h '.' rfl).2.1
  · rfl

private theorem exponent_of_stops {rest : List Char} (h : Stops rest) :
    exponent rest = some (none, rest) := by
  cases rest with
  | nil => rfl
  | cons c rest =>
      obtain ⟨-, -, hLower, hUpper⟩ := h c rfl
      rw [exponent, if_neg (by simp [hLower, hUpper])]

/-- **A number is read from its digits.** -/
theorem unsignedNumber_digits {negative : Bool} {n : Nat} {rest : List Char}
    (hSign : negative = true → n ≠ 0) (hStops : Stops rest) :
    unsignedNumber negative (Text.digits n ++ rest) =
      some (.integer (if negative then -(n : Int) else n), rest) := by
  have hInteger : ¬(negative = true ∧ n = 0) := fun h => hSign h.1 h.2
  by_cases hZero : n = 0
  · subst hZero
    have hPlus : negative = false := by
      cases negative with
      | true => exact absurd rfl (hSign rfl)
      | false => rfl
    rw [hPlus, Text.digits_zero]
    simp only [List.cons_append, List.nil_append, unsignedNumber,
      fraction_of_stops hStops, exponent_of_stops hStops, Option.bind_eq_bind,
      Option.bind_some]
    rfl
  · obtain ⟨d, ds, hDigits, hd⟩ := Text.digits_of_pos (Nat.pos_of_ne_zero hZero)
    have hTake := takeDigits_append (Text.isDigit_of_mem_digits n) hStops
    have hValue := Text.value_digits n
    rw [hDigits] at hTake hValue ⊢
    rw [List.cons_append] at hTake ⊢
    simp only [unsignedNumber, hTake, fraction_of_stops hStops,
      exponent_of_stops hStops, hValue, Option.bind_eq_bind, Option.bind_some,
      hInteger, and_self, not_false_eq_true, if_true]
    split
    · rename_i heq
      exact absurd (List.cons.inj heq).1 hd
    · rfl

private theorem ne_of_isDigit {d c : Char} (h : d.isDigit = true)
    (hc : c.isDigit = false) : d ≠ c := by
  rintro rfl
  rw [h] at hc
  cases hc

private theorem scalar_digit {d : Char} (h : d.isDigit = true) (cs : List Char) :
    scalar (d :: cs) = unsignedNumber false (d :: cs) := by
  unfold scalar
  split
  · rename_i heq
    exact absurd (List.cons.inj heq).1 (ne_of_isDigit h (by decide))
  · rename_i heq
    exact absurd (List.cons.inj heq).1 (ne_of_isDigit h (by decide))
  · rename_i heq
    exact absurd (List.cons.inj heq).1 (ne_of_isDigit h (by decide))
  · rename_i heq
    exact absurd (List.cons.inj heq).1 (ne_of_isDigit h (by decide))
  · rename_i heq
    exact absurd (List.cons.inj heq).1 (ne_of_isDigit h (by decide))
  · rfl

/-- An integer is written with a sign or a digit in front. -/
theorem ofInt_front (n : Int) :
    ∃ c cs, Text.ofInt n = c :: cs ∧ (c = '-' ∨ c.isDigit = true) := by
  unfold Text.ofInt
  split
  · exact ⟨'-', _, rfl, .inl rfl⟩
  · cases hDigits : Text.digits n.natAbs with
    | nil => exact absurd hDigits (Text.digits_ne_nil _)
    | cons d ds =>
        refine ⟨d, ds, rfl, .inr ?_⟩
        exact Text.isDigit_of_mem_digits n.natAbs d (by rw [hDigits]; simp)

/-- An integer is read from its text. -/
theorem scalar_ofInt (n : Int) {rest : List Char} (hStops : Stops rest) :
    scalar (Text.ofInt n ++ rest) = some (.integer n, rest) := by
  unfold Text.ofInt
  split
  · rename_i hNegative
    have hAbs : -(n.natAbs : Int) = n := by omega
    rw [List.cons_append, scalar,
      unsignedNumber_digits (fun _ => by omega) hStops, if_pos rfl, hAbs]
  · rename_i hPositive
    have hAbs : (n.natAbs : Int) = n := by omega
    have hRead : unsignedNumber false (Text.digits n.natAbs ++ rest) = _ :=
      unsignedNumber_digits (fun h => by cases h) hStops
    cases hDigits : Text.digits n.natAbs with
    | nil => exact absurd hDigits (Text.digits_ne_nil _)
    | cons d ds =>
        have hd := Text.isDigit_of_mem_digits n.natAbs d (by rw [hDigits]; simp)
        rw [hDigits] at hRead
        rw [List.cons_append] at hRead ⊢
        rw [scalar_digit hd, hRead, if_neg (by decide), hAbs]

/-! ## Spacing -/

/-- Nothing but spaces, tabs and line ends. -/
def Spacing (cs : List Char) : Prop := ∀ c ∈ cs, isSpace c = true

private theorem spacing_nil : Spacing [] := List.forall_mem_nil _

private theorem isSpace_iff {c : Char} :
    isSpace c = true ↔ c = ' ' ∨ c = '\n' ∨ c = '\t' ∨ c = '\r' := by
  simp [isSpace, or_assoc]

private theorem spacing_newLine (level : Nat) : Spacing (newLine level) := by
  intro c hc
  rcases List.mem_cons.1 hc with rfl | hc
  · rfl
  · rw [(List.mem_replicate.1 hc).2]
    rfl

/-- A separator is not skipped, but the spacing in front of it is. -/
theorem skipSpace_separator {gap : List Char} (hGap : Spacing gap) {c : Char}
    (h : IsSeparator c) (cs : List Char) :
    skipSpace (gap ++ c :: cs) = c :: cs := by
  rw [skipSpace, List.dropWhile_append_of_pos hGap]
  rcases h with rfl | rfl | rfl
  · rfl
  · rfl
  · rfl

/-- A number ends in front of a separator and the spacing before it. -/
theorem stops_separator {gap : List Char} (hGap : Spacing gap) {c : Char}
    (h : IsSeparator c) (rest : List Char) : Stops (gap ++ c :: rest) := by
  cases gap with
  | nil => exact stops_cons h rest
  | cons d gap =>
      intro e he
      cases he
      rcases isSpace_iff.1 (hGap d List.mem_cons_self) with rfl | rfl | rfl | rfl
      · decide
      · decide
      · decide
      · decide

/-- The text starts neither with spacing nor with this character. -/
def Starts (close : Char) (cs : List Char) : Prop :=
  ∃ c r, cs = c :: r ∧ isSpace c = false ∧ c ≠ close

private theorem Starts.skipSpace {close : Char} {cs : List Char} (h : Starts close cs)
    {gap : List Char} (hGap : Spacing gap) (rest : List Char) :
    skipSpace (gap ++ (cs ++ rest)) = cs ++ rest := by
  obtain ⟨c, r, rfl, hSpace, -⟩ := h
  rw [Json.skipSpace, List.dropWhile_append_of_pos hGap, List.cons_append,
    List.dropWhile_cons, hSpace]
  rfl

/-! ## Items -/

section

variable {α : Type} (close : Char) (text : α → List Char)

/-- Items after the first, a comma in front of each, and the closing character. -/
def later : List α → List Char
  | [] => [close]
  | x :: xs => ',' :: text x ++ later xs

/-- Items with commas between them, and the closing character. -/
def listed : List α → List Char
  | [] => [close]
  | x :: xs => text x ++ later close text xs

variable (gap fin : List Char)

/-- Items after the first, each after a comma and spacing, and the closing
character, after other spacing. -/
def spacedLater : List α → List Char
  | [] => fin ++ [close]
  | x :: xs => ',' :: (gap ++ (text x ++ spacedLater xs))

/-- Items with commas between them and spacing in front of each, and the closing
character; between brackets without items there is no spacing. -/
def spacedList : List α → List Char
  | [] => [close]
  | x :: xs => gap ++ (text x ++ spacedLater close text gap fin xs)

/-- Without spacing. -/
theorem listed_eq (xs : List α) : listed close text xs = spacedList close text [] [] xs := by
  have hLater (xs : List α) : later close text xs = spacedLater close text [] [] xs := by
    induction xs with
    | nil => rfl
    | cons x xs ih => rw [later, spacedLater, ih, List.cons_append, List.nil_append]
  cases xs with
  | nil => rfl
  | cons x xs => rw [listed, spacedList, hLater, List.nil_append]

private theorem length_spacedLater (xs : List α) :
    xs.length < (spacedLater close text gap fin xs).length := by
  induction xs with
  | nil => simp [spacedLater]
  | cons x xs ih =>
      simp only [spacedLater, List.length_append, List.length_cons]
      omega

private theorem length_lt_spacedLater {xs : List α} {x : α} (h : x ∈ xs) :
    (text x).length < (spacedLater close text gap fin xs).length := by
  induction xs with
  | nil => cases h
  | cons y ys ih =>
      simp only [spacedLater, List.length_append, List.length_cons]
      rcases List.mem_cons.1 h with rfl | h
      · omega
      · have := ih h
        omega

private theorem length_spacedList (xs : List α) :
    xs.length ≤ (spacedList close text gap fin xs).length := by
  cases xs with
  | nil => exact Nat.zero_le _
  | cons x xs =>
      have hLater := length_spacedLater close text gap fin xs
      simp only [spacedList, List.length_append, List.length_cons]
      omega

/-- An item is shorter than all of them. -/
theorem length_lt_spacedList {xs : List α} {x : α} (h : x ∈ xs) :
    (text x).length < (spacedList close text gap fin xs).length := by
  cases xs with
  | nil => cases h
  | cons y ys =>
      have hLater := length_spacedLater close text gap fin ys
      simp only [spacedList, List.length_append]
      rcases List.mem_cons.1 h with rfl | h
      · omega
      · have := length_lt_spacedLater close text gap fin h
        omega

/-- What holds of the characters of the items and of the spacing holds of all. -/
theorem forall_mem_spacedList {P : Char → Prop} (hGap : ∀ c ∈ gap, P c)
    (hFin : ∀ c ∈ fin, P c) (hComma : P ',') (hClose : P close) {xs : List α}
    (hText : ∀ x ∈ xs, ∀ c ∈ text x, P c) :
    ∀ c ∈ spacedList close text gap fin xs, P c := by
  have hLater : ∀ xs : List α, (∀ x ∈ xs, ∀ c ∈ text x, P c) →
      ∀ c ∈ spacedLater close text gap fin xs, P c := by
    intro xs hText
    induction xs with
    | nil => simpa [spacedLater, or_imp, forall_and] using ⟨hFin, hClose⟩
    | cons x xs ih =>
        obtain ⟨hFirst, hRest⟩ := List.forall_mem_cons.1 hText
        simpa [spacedLater, or_imp, forall_and] using
          ⟨hComma, hGap, hFirst, ih hRest⟩
  cases xs with
  | nil => simpa [spacedList] using hClose
  | cons x xs =>
      obtain ⟨hFirst, hRest⟩ := List.forall_mem_cons.1 hText
      simpa [spacedList, or_imp, forall_and] using ⟨hGap, hFirst, hLater xs hRest⟩

variable {close text gap fin} {item : Reader α}

/-- Items are read if each of them is, whatever stops it. -/
theorem itemsUntil_spacedLater (hClose : IsSeparator close) (hComma : close ≠ ',')
    (hGap : Spacing gap) (hFin : Spacing fin) {x : α} {xs : List α}
    (hRead : ∀ y ∈ x :: xs, ∀ rest, Stops rest →
      item (text y ++ rest) = some (y, rest))
    (hStarts : ∀ y ∈ x :: xs, Starts close (text y)) {fuel : Nat}
    (hFuel : xs.length < fuel) {front : List Char} (hFront : Spacing front)
    (rest : List Char) :
    itemsUntil close item fuel
        (front ++ (text x ++ (spacedLater close text gap fin xs ++ rest))) =
      some (x :: xs, rest) := by
  induction xs generalizing x fuel front with
  | nil =>
      obtain ⟨fuel, rfl⟩ := Nat.exists_eq_succ_of_ne_zero (Nat.ne_of_gt hFuel)
      have hFirst := hRead x List.mem_cons_self _ (stops_separator hFin hClose rest)
      have hRest := skipSpace_separator hFin hClose rest
      rw [itemsUntil, (hStarts x List.mem_cons_self).skipSpace hFront]
      simp only [spacedLater, List.append_assoc, List.singleton_append, hFirst,
        Option.bind_eq_bind, Option.bind_some, hRest, if_neg hComma, if_true]
      rfl
  | cons y ys ih =>
      obtain ⟨fuel, rfl⟩ := Nat.exists_eq_succ_of_ne_zero (Nat.ne_of_gt
        (Nat.lt_of_le_of_lt (Nat.zero_le _) hFuel))
      have hFirst := hRead x List.mem_cons_self _ (stops_cons (.inl rfl)
        (gap ++ (text y ++ (spacedLater close text gap fin ys ++ rest))))
      have hLater := ih (x := y) (fun z hz => hRead z (List.mem_cons_of_mem _ hz))
        (fun z hz => hStarts z (List.mem_cons_of_mem _ hz))
        (Nat.lt_of_succ_lt_succ hFuel) hGap
      have hRest (cs : List Char) : skipSpace (',' :: cs) = ',' :: cs := rfl
      rw [itemsUntil, (hStarts x List.mem_cons_self).skipSpace hFront]
      simp only [spacedLater, List.cons_append, List.append_assoc, hFirst,
        Option.bind_eq_bind, Option.bind_some, hRest, if_true, hLater]
      rfl

/-- **Items between brackets are read if each of them is.** -/
theorem bracketed_spacedList (hClose : IsSeparator close) (hComma : close ≠ ',')
    (hGap : Spacing gap) (hFin : Spacing fin) {xs : List α}
    (hRead : ∀ x ∈ xs, ∀ rest, Stops rest →
      item (text x ++ rest) = some (x, rest))
    (hStarts : ∀ x ∈ xs, Starts close (text x)) {most : Nat}
    (hMost : xs.length ≤ most) (rest : List Char) :
    bracketed most close item (spacedList close text gap fin xs ++ rest) =
      some (xs, rest) := by
  cases xs with
  | nil =>
      have hRest := skipSpace_separator spacing_nil hClose rest
      rw [List.nil_append] at hRest
      simp only [bracketed, spacedList, List.cons_append, List.nil_append, hRest,
        if_true]
  | cons x xs =>
      have hItems := itemsUntil_spacedLater hClose hComma hGap hFin hRead hStarts hMost
        spacing_nil rest
      obtain ⟨c, r, hText, hSpace, hOpen⟩ := hStarts x List.mem_cons_self
      rw [bracketed, spacedList, List.append_assoc, List.append_assoc,
        (hStarts x List.mem_cons_self).skipSpace hGap]
      rw [List.nil_append, hText, List.cons_append] at hItems
      rw [hText, List.cons_append]
      simp only [if_neg hOpen, hItems]

end

/-! ## Texts of values -/

/-- A key, a colon, spacing and a value, as text. -/
def memberText (colon : List Char) (text : Json → List Char)
    (m : Option String × Json) : List Char :=
  quoteText m.1 ++ ':' :: (colon ++ text m.2)

/-- The text is one of the value, whatever the spacing in it. -/
inductive Layout : Json → List Char → Prop
  | null : Layout .null (scalarText .null)
  | bool (b : Bool) : Layout (.bool b) (scalarText (.bool b))
  | integer (n : Int) : Layout (.integer n) (Text.ofInt n)
  | string (s : String) : Layout (.string (some s)) (quoteText (some s))
  | array {xs : List Json} {gap fin : List Char} {text : Json → List Char}
      (hGap : Spacing gap) (hFin : Spacing fin)
      (items : ∀ x ∈ xs, Layout x (text x)) :
      Layout (.array xs) ('[' :: spacedList ']' text gap fin xs)
  | object {ms : List (Option String × Json)} {gap fin colon : List Char}
      {text : Json → List Char} (hGap : Spacing gap) (hFin : Spacing fin)
      (hColon : Spacing colon) (keys : ∀ m ∈ ms, m.1.isSome)
      (values : ∀ m ∈ ms, Layout m.2 (text m.2)) :
      Layout (.object ms) ('\x7b' :: spacedList '\x7d' (memberText colon text) gap fin ms)

/-- A text starts neither with spacing nor with a closing bracket. -/
theorem Layout.starts {j : Json} {cs : List Char} (h : Layout j cs) : Starts ']' cs := by
  cases h with
  | null => exact ⟨'n', _, rfl, rfl, by decide⟩
  | bool b =>
      cases b with
      | true => exact ⟨'t', _, rfl, rfl, by decide⟩
      | false => exact ⟨'f', _, rfl, rfl, by decide⟩
  | integer n =>
      obtain ⟨c, cs, hText, hFront⟩ := ofInt_front n
      refine ⟨c, cs, hText, ?_⟩
      rcases hFront with rfl | hDigit
      · exact ⟨rfl, by decide⟩
      · have hOther {d : Char} : d.isDigit = false → c ≠ d := ne_of_isDigit hDigit
        refine ⟨?_, hOther (by decide)⟩
        simp [isSpace, hOther (d := ' '), hOther (d := '\n'), hOther (d := '\t'),
          hOther (d := '\r')]
  | string s => exact ⟨'"', _, rfl, rfl, by decide⟩
  | array hGap hFin items => exact ⟨'[', _, rfl, rfl, by decide⟩
  | object hGap hFin hColon keys values => exact ⟨'\x7b', _, rfl, rfl, by decide⟩

private theorem starts_memberText (colon : List Char) (text : Json → List Char)
    (m : Option String × Json) : Starts '\x7d' (memberText colon text m) :=
  ⟨'"', _, rfl, rfl, by decide⟩

/-- A value without brackets is read as such. -/
theorem value_scalar (most levels : Nat) {c : Char} (hArray : c ≠ '[')
    (hObject : c ≠ '\x7b') (cs : List Char) :
    value most levels (c :: cs) = scalar (c :: cs) := by
  unfold value
  split
  · rename_i heq
    exact absurd (List.cons.inj heq).1 hArray
  · rename_i heq
    exact absurd (List.cons.inj heq).1 hObject
  · rfl

/-- A member is read if its value is. -/
theorem member_memberText {read : Reader Json} {colon : List Char}
    {text : Json → List Char} {m : Option String × Json} (hKey : m.1.isSome)
    (hColon : Spacing colon) (hLayout : Layout m.2 (text m.2)) {rest : List Char}
    (hRead : read (text m.2 ++ rest) = some (m.2, rest)) :
    member read (memberText colon text m ++ rest) = some (m, rest) := by
  obtain ⟨key, v⟩ := m
  obtain ⟨k, rfl⟩ := Option.isSome_iff_exists.1 hKey
  have hText : memberText colon text (some k, v) ++ rest =
      '"' :: (quoteBody k.toList ++ '"' :: ':' :: (colon ++ (text v ++ rest))) := by
    simp [memberText, quoteText, quote]
  have hSkip (cs : List Char) : skipSpace (':' :: cs) = ':' :: cs := rfl
  rw [hText, member, stringBody_quoteBody]
  simp only [Option.bind_eq_bind, Option.bind_some, hSkip,
    hLayout.starts.skipSpace hColon, hRead]
  rfl

/-- **A value is read from its texts**, whatever stops it. -/
theorem value_of_layout {j : Json} {cs : List Char} (h : Layout j cs)
    {most levels : Nat} (hMost : cs.length ≤ most) (hLevels : cs.length ≤ levels)
    {rest : List Char} (hStops : Stops rest) :
    value most levels (cs ++ rest) = some (j, rest) := by
  induction h generalizing levels rest with
  | null => exact value_scalar _ _ (by decide) (by decide) _
  | bool b =>
      cases b with
      | true => exact value_scalar _ _ (by decide) (by decide) _
      | false => exact value_scalar _ _ (by decide) (by decide) _
  | integer n =>
      obtain ⟨c, cs, hText, hFront⟩ := ofInt_front n
      have hOther {d : Char} (hDigit : d.isDigit = false) (hMinus : '-' ≠ d) :
          c ≠ d := by
        rcases hFront with rfl | hFront
        · exact hMinus
        · exact ne_of_isDigit hFront hDigit
      have hRead := scalar_ofInt n hStops
      rw [hText, List.cons_append] at hRead ⊢
      rw [value_scalar _ _ (hOther (by decide) (by decide))
        (hOther (by decide) (by decide)), hRead]
  | string s =>
      have hText : quoteText (some s) ++ rest =
          '"' :: (quoteBody s.toList ++ '"' :: rest) := by
        simp [quoteText, quote]
      rw [hText, value_scalar _ _ (by decide) (by decide), scalar,
        stringBody_quoteBody]
      rfl
  | array hGap hFin items ih =>
      rename_i xs gap fin text
      rw [List.length_cons] at hMost hLevels
      obtain ⟨levels, rfl⟩ := Nat.exists_eq_add_of_le' (Nat.le_of_add_left_le hLevels)
      have hCount := length_spacedList ']' text gap fin xs
      have hRead : ∀ x ∈ xs, ∀ rest, Stops rest →
          value most levels (text x ++ rest) = some (x, rest) := by
        intro x hx rest hStops
        have hShorter := length_lt_spacedList ']' text gap fin hx
        exact ih x hx (by omega) (by omega) hStops
      rw [List.cons_append, value,
        bracketed_spacedList (.inr (.inl rfl)) (by decide) hGap hFin hRead
          (fun x hx => (items x hx).starts) (by omega)]
      rfl
  | object hGap hFin hColon keys values ih =>
      rename_i ms gap fin colon text
      rw [List.length_cons] at hMost hLevels
      obtain ⟨levels, rfl⟩ := Nat.exists_eq_add_of_le' (Nat.le_of_add_left_le hLevels)
      have hCount := length_spacedList '\x7d' (memberText colon text) gap fin ms
      have hRead : ∀ m ∈ ms, ∀ rest, Stops rest →
          member (value most levels) (memberText colon text m ++ rest) =
            some (m, rest) := by
        intro m hm rest hStops
        have hShorter := length_lt_spacedList '\x7d' (memberText colon text) gap fin hm
        rw [memberText, List.length_append, List.length_cons, List.length_append]
          at hShorter
        exact member_memberText (keys m hm) hColon (values m hm)
          (ih m hm (by omega) (by omega) hStops)
      rw [List.cons_append, value,
        bracketed_spacedList (.inr (.inr rfl)) (by decide) hGap hFin hRead
          (fun m _ => starts_memberText colon text m) (by omega)]
      rfl

/-! ## Printable texts -/

/-- No control character among them. -/
def Printable (cs : List Char) : Prop := ∀ c ∈ cs, 32 ≤ c.toNat

instance : DecidablePred Printable :=
  List.decidableBAll fun c : Char => 32 ≤ c.toNat

private theorem Printable.append {cs cs' : List Char} (h : Printable cs)
    (h' : Printable cs') : Printable (cs ++ cs') := by
  intro c hc
  rcases List.mem_append.1 hc with hc | hc
  · exact h c hc
  · exact h' c hc

private theorem Printable.cons {c : Char} {cs : List Char} (hc : 32 ≤ c.toNat)
    (h : Printable cs) : Printable (c :: cs) :=
  List.forall_mem_cons.2 ⟨hc, h⟩

theorem printable_nil : Printable [] := List.forall_mem_nil _

private theorem printable_escape (c : Char) : Printable (escape c) := by
  have hHex : ∀ n < 16, 32 ≤ (hexDigit n).toNat := by decide
  rcases escape_cases c with ⟨d, hEscape, hd, -⟩ | ⟨hEscape, hControl⟩ |
    ⟨hEscape, -, -, hPrint⟩
  · rw [hEscape]
    exact .cons (by decide) (.cons hd printable_nil)
  · rw [hEscape]
    exact .cons (by decide) (.cons (by decide) (.cons (by decide)
      (.cons (by decide) (.cons (hHex _ (by omega)) (.cons (hHex _ (by omega))
        printable_nil)))))
  · rw [hEscape]
    exact .cons hPrint printable_nil

theorem printable_quoteText (s : Option String) : Printable (quoteText s) := by
  refine .append (.cons (by decide) fun c hc => ?_) (.cons (by decide) printable_nil)
  obtain ⟨d, -, hc⟩ := List.mem_flatMap.1 hc
  exact printable_escape d c hc

private theorem printable_ofInt (n : Int) : Printable (Text.ofInt n) := by
  have hDigits : Printable (Text.digits n.natAbs) := by
    intro c hc
    have hDigit := Text.isDigit_of_mem_digits _ c hc
    simp only [Char.isDigit, Bool.and_eq_true, decide_eq_true_eq] at hDigit
    have hLow : 48 ≤ c.toNat := hDigit.1
    omega
  unfold Text.ofInt
  split
  · exact .cons (by decide) hDigits
  · exact hDigits

/-- No character of the text stands for bytes that are none. -/
def Whole (cs : List Char) : Prop := ∀ c ∈ cs, c ≠ broken

private theorem Printable.whole {cs : List Char} (h : Printable cs) : Whole cs := by
  intro c hc
  rintro rfl
  exact absurd (h broken hc) (by decide)

private theorem Spacing.whole {cs : List Char} (h : Spacing cs) : Whole cs := by
  intro c hc
  rintro rfl
  exact absurd (h broken hc) (by decide)

private theorem Layout.whole {j : Json} {cs : List Char} (h : Layout j cs) : Whole cs := by
  induction h with
  | null => exact (by decide : Printable (scalarText .null)).whole
  | bool b =>
      cases b with
      | true => exact (by decide : Printable (scalarText (.bool true))).whole
      | false => exact (by decide : Printable (scalarText (.bool false))).whole
  | integer n => exact (printable_ofInt n).whole
  | string s => exact (printable_quoteText (some s)).whole
  | array hGap hFin items ih =>
      exact List.forall_mem_cons.2 ⟨by decide, forall_mem_spacedList _ _ _ _ hGap.whole
        hFin.whole (by decide) (by decide) ih⟩
  | object hGap hFin hColon keys values ih =>
      refine List.forall_mem_cons.2 ⟨by decide, forall_mem_spacedList _ _ _ _ hGap.whole
        hFin.whole (by decide) (by decide) fun m hm => ?_⟩
      have hKey := (printable_quoteText m.1).whole
      have hColon := hColon.whole
      have hValue := ih m hm
      simp only [memberText, List.forall_mem_append, List.forall_mem_cons]
      exact ⟨hKey, by decide, hColon, hValue⟩

private theorem parseFront?_of_layout {j : Json} {cs : List Char} (h : Layout j cs) :
    parseFront? cs = some (j, []) := by
  have hRead := value_of_layout h (Nat.le_refl _) (Nat.le_refl _) stops_nil
  have hSpace := h.starts.skipSpace spacing_nil []
  rw [List.append_nil, List.nil_append] at hSpace
  rw [List.append_nil] at hRead
  rw [parseFront?, hSpace, hRead]

/-- **A value is read from its texts.** -/
theorem parse?_of_layout {j : Json} {cs : List Char} (h : Layout j cs) :
    parse? (String.ofList cs) = some j := by
  have hSame : ∀ c ∈ cs, unbroken c = c := fun c hc => if_neg (h.whole c hc)
  have hWhole : cs.map unbroken = cs := by
    rw [List.map_congr_left hSame, List.map_id']
  rw [parse?, String.toList_ofList, hWhole, parseFront?_of_layout h]
  rfl

/-- **And from the bytes of its texts.** -/
theorem parseFrontBytes?_of_layout {j : Json} {cs : List Char} (h : Layout j cs) :
    parseFrontBytes? (Text.Utf8.encode cs) = some j := by
  have hPos : ∀ c ∈ cs, 0 < c.toNat := fun c hc => by
    refine Nat.pos_of_ne_zero fun hZero => h.whole c hc ?_
    rw [← Char.ofNat_toNat c, hZero]
    rfl
  have hSame : ∀ b ∈ Text.Utf8.encode cs, (if b = 0 then 1 else b) = b := fun b hb =>
    if_neg (Text.Utf8.encode_ne_zero hPos b hb)
  have hWhole : (Text.Utf8.encode cs).map (fun b => if b = 0 then 1 else b) =
      Text.Utf8.encode cs := by
    rw [List.map_congr_left hSame, List.map_id']
  have hText : Text.Utf8.decodeWith broken (Text.Utf8.encode cs) = cs :=
    Text.Utf8.decodeWith_of_decode? (Text.Utf8.decode?_encode cs)
  simp only [parseFrontBytes?, hWhole, hText, parseFront?_of_layout h, Option.map_some]

/-! ## What is written -/

/-- A value whose strings and keys have a text, without decimals. -/
inductive Plain : Json → Prop
  | null : Plain .null
  | bool (b : Bool) : Plain (.bool b)
  | integer (n : Int) : Plain (.integer n)
  | string (s : String) : Plain (.string (some s))
  | array {xs : List Json} (items : ∀ x ∈ xs, Plain x) : Plain (.array xs)
  | object {ms : List (Option String × Json)} (keys : ∀ m ∈ ms, m.1.isSome)
      (values : ∀ m ∈ ms, Plain m.2) : Plain (.object ms)

theorem compact_array (xs : List Json) :
    compact (.array xs) = '[' :: listed ']' compact xs := by
  have hLater : ∀ xs : List Json, compactItems xs = later ']' compact xs := by
    intro xs
    induction xs with
    | nil => rfl
    | cons x xs ih => rw [compactItems, later, ih]
  cases xs with
  | nil => rfl
  | cons x xs => rw [compact, listed, hLater]; rfl

private theorem compact_object (ms : List (Option String × Json)) :
    compact (.object ms) = '\x7b' :: listed '\x7d' (memberText [] compact) ms := by
  have hLater : ∀ ms : List (Option String × Json),
      compactMembers ms = later '\x7d' (memberText [] compact) ms := by
    intro ms
    induction ms with
    | nil => rfl
    | cons m ms ih => simp [compactMembers, later, memberText, ih]
  cases ms with
  | nil => rfl
  | cons m ms => simp [compact, listed, memberText, hLater]

theorem Plain.layout_compact {j : Json} (h : Plain j) : Layout j (compact j) := by
  induction h with
  | null => exact .null
  | bool b => exact .bool b
  | integer n => exact .integer n
  | string s => exact .string s
  | array items ih =>
      rw [compact_array, listed_eq]
      exact .array spacing_nil spacing_nil ih
  | object keys values ih =>
      rw [compact_object, listed_eq]
      exact .object spacing_nil spacing_nil spacing_nil keys ih

private theorem pretty_array (level : Nat) (xs : List Json) :
    pretty level (.array xs) = '[' :: spacedList ']' (pretty (level + 1))
      (newLine (level + 1)) (newLine level) xs := by
  have hLater : ∀ xs : List Json, prettyItems level xs =
      spacedLater ']' (pretty (level + 1)) (newLine (level + 1)) (newLine level) xs := by
    intro xs
    induction xs with
    | nil => rfl
    | cons x xs ih => simp [prettyItems, spacedLater, ih]
  cases xs with
  | nil => rfl
  | cons x xs => simp [pretty, spacedList, hLater]

private theorem pretty_object (level : Nat) (ms : List (Option String × Json)) :
    pretty level (.object ms) = '\x7b' ::
      spacedList '\x7d' (memberText [' '] (pretty (level + 1)))
        (newLine (level + 1)) (newLine level) ms := by
  have hLater : ∀ ms : List (Option String × Json), prettyMembers level ms =
      spacedLater '\x7d' (memberText [' '] (pretty (level + 1)))
        (newLine (level + 1)) (newLine level) ms := by
    intro ms
    induction ms with
    | nil => rfl
    | cons m ms ih => simp [prettyMembers, spacedLater, memberText, ih]
  cases ms with
  | nil => rfl
  | cons m ms => simp [pretty, spacedList, memberText, hLater]

private theorem Plain.layout_pretty {j : Json} (h : Plain j) (level : Nat) :
    Layout j (pretty level j) := by
  induction h generalizing level with
  | null => exact .null
  | bool b => exact .bool b
  | integer n => exact .integer n
  | string s => exact .string s
  | array items ih =>
      rw [pretty_array]
      exact .array (spacing_newLine _) (spacing_newLine _) fun x hx => ih x hx _
  | object keys values ih =>
      have hColon : Spacing [' '] := List.forall_mem_singleton.2 rfl
      rw [pretty_object]
      exact .object (spacing_newLine _) (spacing_newLine _) hColon keys
        fun m hm => ih m hm _

/-- **A plain value is read from its text.** -/
theorem parse?_render {j : Json} (h : Plain j) : parse? j.render = some j :=
  parse?_of_layout h.layout_compact

/-- **And from the text with one item or member a line.** -/
theorem parse?_renderPretty {j : Json} (h : Plain j) :
    parse? j.renderPretty = some j :=
  parse?_of_layout (h.layout_pretty 0)

end Mailroom.Json
