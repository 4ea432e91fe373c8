import Mailroom.Text.Blank
import Mathlib.Data.List.TakeWhile

/-!
# Trimming

What trimming takes off is blank, and it stops at the first character from each end that is
not. So what was trimmed stays as it is, blanks around a text are all that is taken off it,
and what stands between two characters that are no blanks is never touched.
-/

namespace Mailroom.Text

theorem head?_dropWhile {p : Char → Bool} (cs : List Char) :
    ∀ c ∈ (cs.dropWhile p).head?, p c = false := by
  intro c hc
  have hHead := List.head?_dropWhile_not p cs
  rw [Option.mem_def.1 hc] at hHead
  simpa using hHead

/-! ## One end -/

/-- What is dropped from the end leaves the start alone. -/
theorem dropEnd_isPrefix (p : Char → Bool) (cs : List Char) : dropEnd p cs <+: cs := by
  have hSuffix := List.dropWhile_suffix p (l := cs.reverse)
  rw [← List.reverse_prefix, List.reverse_reverse] at hSuffix
  exact hSuffix

/-- Dropping from the end stops at a character that is kept. -/
theorem dropEnd_append {p : Char → Bool} {c : Char} (hc : p c = false)
    (front back : List Char) : dropEnd p (front ++ c :: back) = front ++ c :: dropEnd p back := by
  rw [dropEnd, List.reverse_append, List.reverse_cons, List.append_assoc, List.dropWhile_append,
    dropEnd]
  cases hBack : back.reverse.dropWhile p with
  | nil => simp [hc]
  | cons d ds => simp

theorem dropWhile_eq_self {p : Char → Bool} {cs : List Char} (first : ∀ c ∈ cs.head?, p c = false) :
    cs.dropWhile p = cs := by
  cases cs with
  | nil => rfl
  | cons c cs => exact List.dropWhile_cons_of_neg (by simp [first c rfl])

theorem dropEnd_eq_self {p : Char → Bool} {cs : List Char}
    (last : ∀ c ∈ cs.getLast?, p c = false) : dropEnd p cs = cs := by
  have hReverse : cs.reverse.dropWhile p = cs.reverse :=
    dropWhile_eq_self fun c hc => last c (List.head?_reverse ▸ hc)
  rw [dropEnd, hReverse, List.reverse_reverse]

/-- Dropping from the start stops at a character that is kept. -/
theorem dropWhile_append_cons {p : Char → Bool} {c : Char} (hc : p c = false)
    (front back : List Char) :
    (front ++ c :: back).dropWhile p = front.dropWhile p ++ c :: back := by
  rw [List.dropWhile_append]
  cases front.dropWhile p with
  | nil => simp [hc]
  | cons d ds => simp

/-- Taking from the start stops at a character that is not taken. -/
theorem takeWhile_append_cons {p : Char → Bool} {c : Char} (hc : p c = false)
    (front back : List Char) : (front ++ c :: back).takeWhile p = front.takeWhile p := by
  induction front with
  | nil => simp [hc]
  | cons d front ih => rw [List.cons_append, List.takeWhile_cons, List.takeWhile_cons, ih]

theorem getLast?_dropEnd {p : Char → Bool} (cs : List Char) :
    ∀ c ∈ (dropEnd p cs).getLast?, p c = false := by
  intro c hc
  rw [dropEnd, List.getLast?_reverse] at hc
  exact head?_dropWhile _ c hc

/-! ## Both ends -/

theorem head?_trim (cs : List Char) : ∀ c ∈ (trim cs).head?, isBlank c = false := by
  intro c hc
  obtain ⟨rest, hRest⟩ := dropEnd_isPrefix isBlank (cs.dropWhile isBlank)
  refine head?_dropWhile cs c ?_
  have hFirst : (dropEnd isBlank (cs.dropWhile isBlank)).head? = some c := hc
  rw [← hRest, List.head?_append, hFirst]
  rfl

/-- **What has been trimmed** stays as it is. -/
theorem trim_trim (cs : List Char) : trim (trim cs) = trim cs :=
  trim_eq_self (head?_trim cs) (getLast?_dropEnd _)

theorem trim_dropWhile (cs : List Char) : trim (cs.dropWhile isBlank) = trim cs := by
  rw [trim, dropWhile_eq_self (head?_dropWhile cs), trim]

/-- Trimming takes off blanks only. -/
theorem exists_trim (cs : List Char) : ∃ before after : List Char,
    (∀ c ∈ before, isBlank c = true) ∧ (∀ c ∈ after, isBlank c = true) ∧
      cs = before ++ trim cs ++ after := by
  have hFront := List.takeWhile_append_dropWhile (p := isBlank) (l := cs)
  have hBack := List.takeWhile_append_dropWhile (p := isBlank)
    (l := (cs.dropWhile isBlank).reverse)
  refine ⟨cs.takeWhile isBlank, ((cs.dropWhile isBlank).reverse.takeWhile isBlank).reverse,
    List.all_eq_true.1 List.all_takeWhile,
    fun c hc => List.all_eq_true.1 List.all_takeWhile c (List.mem_reverse.1 hc), ?_⟩
  rw [trim, dropEnd, List.append_assoc, ← List.reverse_append, hBack, List.reverse_reverse,
    hFront]

theorem trim_isInfix (cs : List Char) : trim cs <:+: cs := by
  obtain ⟨before, after, -, -, hText⟩ := exists_trim cs
  exact ⟨before, after, hText.symm⟩

/-- A character that is no blank is kept. -/
theorem mem_trim {c : Char} {cs : List Char} (hMem : c ∈ cs) (hc : isBlank c = false) :
    c ∈ trim cs := by
  obtain ⟨before, after, hBefore, hAfter, hText⟩ := exists_trim cs
  have hNot {blanks : List Char} (hBlanks : ∀ d ∈ blanks, isBlank d = true) : c ∉ blanks :=
    fun h => by simp [hBlanks c h] at hc
  rw [hText] at hMem
  simpa [hNot hBefore, hNot hAfter] using hMem

/-- **Blanks around a text** make no difference. -/
theorem trim_around {before after : List Char} (hBefore : ∀ c ∈ before, isBlank c = true)
    (hAfter : ∀ c ∈ after, isBlank c = true) (cs : List Char) :
    trim (before ++ cs ++ after) = trim cs := by
  have hEnd (kept : List Char) : dropEnd isBlank (kept ++ after) = dropEnd isBlank kept := by
    rw [dropEnd, List.reverse_append,
      List.dropWhile_append_of_pos fun c hc => hAfter c (List.mem_reverse.1 hc), dropEnd]
  rw [trim, List.append_assoc, List.dropWhile_append_of_pos hBefore, trim, List.dropWhile_append]
  cases hKept : cs.dropWhile isBlank with
  | nil => simp [List.dropWhile_eq_nil_iff.2 hAfter]
  | cons c kept => exact hEnd (c :: kept)

/-- Blanks around a text that neither starts nor ends with one are all that is taken off. -/
theorem trim_append {before cs after : List Char} (hBefore : ∀ c ∈ before, isBlank c = true)
    (hAfter : ∀ c ∈ after, isBlank c = true) (first : ∀ c ∈ cs.head?, isBlank c = false)
    (last : ∀ c ∈ cs.getLast?, isBlank c = false) : trim (before ++ cs ++ after) = cs := by
  rw [trim_around hBefore hAfter, trim_eq_self first last]

/-- Of a text with two marks that are no blanks, only blanks in front of the first and behind
the second are taken off. -/
theorem trim_marks {first last : Char} (hFirst : isBlank first = false)
    (hLast : isBlank last = false) (front middle back : List Char) :
    trim (front ++ first :: (middle ++ last :: back)) =
      front.dropWhile isBlank ++ first :: (middle ++ last :: dropEnd isBlank back) := by
  rw [trim, dropWhile_append_cons hFirst, ← List.cons_append, ← List.append_assoc,
    dropEnd_append hLast, List.append_assoc, List.cons_append]

end Mailroom.Text

namespace Mailroom

theorem trimmed_trimmed (value : String) : trimmed (trimmed value) = trimmed value := by
  rw [trimmed, trimmed, String.toList_ofList, Text.trim_trim]

private theorem trimmed_of_nonblank? {value v : String} (h : nonblank? value = some v) :
    trimmed value = v := by
  unfold nonblank? at h
  split at h
  · cases h
  · exact Option.some.inj h

/-- A value that is not blank is trimmed only once. -/
theorem trim_of_nonblank? {value v : String} (h : nonblank? value = some v) :
    Text.trim v.toList = v.toList := by
  rw [← trimmed_of_nonblank? h, trimmed, String.toList_ofList, Text.trim_trim]

end Mailroom
