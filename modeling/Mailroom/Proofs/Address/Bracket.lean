import Mailroom.Address
import Mailroom.Proofs.Text.Trimming

/-!
# The address in angle brackets

A header value has its address in angle brackets if its first `<` encloses some text: there
is a `>` behind it, and no angle bracket and at least one character between the two. What
stands behind does not matter, and what stands in front only in that it has no `<`. A value
whose first `<` encloses nothing, or that has none, is an address as a whole.
-/

namespace Mailroom.Address

open Text (trim isBlank dropEnd)

/-- A text whose first `<` encloses `inner`. -/
structure Encloses (cs front inner rest : List Char) : Prop where
  eq : cs = front ++ '<' :: (inner ++ '>' :: rest)
  front : '<' ∉ front
  ne_nil : inner ≠ []
  inner : ∀ c ∈ inner, c ≠ '<' ∧ c ≠ '>'

variable {cs front inner rest : List Char}

/-- What stands in front of the first `<`, and the rest from there on. -/
theorem span_bracket (h : '<' ∉ front) (behind : List Char) :
    (front ++ '<' :: behind).takeWhile (· ≠ '<') = front ∧
      (front ++ '<' :: behind).dropWhile (· ≠ '<') = '<' :: behind := by
  have hOther : ∀ c ∈ front, decide (c ≠ '<') = true := fun c hc =>
    decide_eq_true fun hSame => h (hSame ▸ hc)
  rw [List.takeWhile_append_of_pos hOther, List.dropWhile_append_of_pos hOther]
  simp

/-- The text up to the next angle bracket, if there is some and a `>` closes it. -/
def closed? (behind : List Char) : Option (List Char) :=
  let inner := behind.takeWhile fun c => c ≠ '<' ∧ c ≠ '>'
  if inner ≠ [] ∧ (behind.drop inner.length).head? = some '>' then some inner else none

private theorem closed?_eq_some_iff {behind : List Char} :
    closed? behind = some inner ↔
      inner ≠ [] ∧ (∀ c ∈ inner, c ≠ '<' ∧ c ≠ '>') ∧ ∃ rest, behind = inner ++ '>' :: rest := by
  constructor
  · intro h
    obtain ⟨⟨hSome, hClose⟩, hSame⟩ := Option.ite_none_right_eq_some.1 h
    obtain rfl := Option.some.inj hSame
    refine ⟨hSome, fun c hc => of_decide_eq_true (List.all_eq_true.1 List.all_takeWhile c hc), ?_⟩
    obtain ⟨rest, hRest⟩ := List.head?_eq_some_iff.1 hClose
    refine ⟨rest, ?_⟩
    rw [← hRest, List.prefix_iff_eq_append.1 (List.takeWhile_prefix _)]
  · rintro ⟨hSome, hInner, rest, rfl⟩
    have hTake : (inner ++ '>' :: rest).takeWhile (fun c => decide (c ≠ '<' ∧ c ≠ '>')) =
        inner := by
      rw [List.takeWhile_append_of_pos fun c hc => decide_eq_true (hInner c hc)]
      simp
    rw [closed?]
    simp only [hTake, List.drop_left]
    simp [hSome]

private theorem bracketed?_append (h : '<' ∉ front) (behind : List Char) :
    bracketed? (front ++ '<' :: behind) = closed? behind := by
  rw [bracketed?, (span_bracket h behind).2]
  rfl

/-- **The text that the first `<` encloses.** -/
theorem bracketed?_eq_some_iff :
    bracketed? cs = some inner ↔ ∃ front rest, Encloses cs front inner rest := by
  constructor
  · intro h
    by_cases hOpen : '<' ∈ cs
    · obtain ⟨front, behind, rfl, hFront⟩ := List.eq_append_cons_of_mem hOpen
      rw [bracketed?_append hFront, closed?_eq_some_iff] at h
      obtain ⟨hSome, hInner, rest, rfl⟩ := h
      exact ⟨front, rest, rfl, hFront, hSome, hInner⟩
    · rw [bracketed?_eq_none hOpen] at h
      cases h
  · rintro ⟨front, rest, rfl, hFront, hSome, hInner⟩
    rw [bracketed?_append hFront]
    exact closed?_eq_some_iff.2 ⟨hSome, hInner, rest, rfl⟩

/-! ## Texts put together -/

theorem encloses_cons {c : Char} (hc : c ≠ '<') :
    Encloses (c :: cs) front inner rest ↔
      ∃ before, front = c :: before ∧ Encloses cs before inner rest := by
  constructor
  · rintro ⟨hEq, hFront, hSome, hInner⟩
    cases front with
    | nil => exact absurd (List.cons.inj hEq).1 hc
    | cons d before =>
        obtain ⟨rfl, rfl⟩ := List.cons.inj hEq
        exact ⟨before, rfl, rfl, fun hOpen => hFront (.tail _ hOpen), hSome, hInner⟩
  · rintro ⟨before, rfl, rfl, hFront, hSome, hInner⟩
    exact ⟨rfl, List.not_mem_cons_of_ne_of_not_mem hc.symm hFront, hSome, hInner⟩

theorem Encloses.append (h : Encloses cs front inner rest) (more : List Char) :
    Encloses (cs ++ more) front inner (rest ++ more) where
  eq := by simp [h.eq]
  front := h.front
  ne_nil := h.ne_nil
  inner := h.inner

/-- A mark that the back of a text does not have stands in the front of it. -/
theorem mark_in_front {before after back : List Char} {c : Char}
    (h : front ++ back = before ++ c :: after) (hBack : c ∉ back) :
    ∃ left, front = before ++ c :: left := by
  rcases List.append_eq_append_iff.1 h with ⟨more, rfl, rfl⟩ | ⟨left, rfl, hLeft⟩
  · exact absurd (by simp) hBack
  · cases left with
    | nil =>
        obtain rfl : c :: after = back := hLeft
        exact absurd List.mem_cons_self hBack
    | cons d left =>
        obtain ⟨rfl, -⟩ := List.cons.inj hLeft
        exact ⟨left, rfl⟩

/-- A mark that the front of a text does not have stands behind it. -/
theorem mark_behind {before after back : List Char} {c : Char}
    (h : front ++ back = before ++ c :: after) (hFront : c ∉ front) :
    ∃ left, before = front ++ left := by
  rcases List.append_eq_append_iff.1 h with ⟨left, rfl, -⟩ | ⟨more, rfl, hMore⟩
  · exact ⟨left, rfl⟩
  · cases more with
    | nil => exact ⟨[], by simp⟩
    | cons d more =>
        obtain ⟨rfl, -⟩ := List.cons.inj hMore
        exact absurd (by simp) hFront

/-- A `<` of `cs` encloses nothing that goes beyond `cs`, if another `<` follows before any
`>` does. -/
theorem Encloses.of_append {gap tail : List Char} (hOpen : '<' ∈ cs) (hGap : '>' ∉ gap)
    (h : Encloses (cs ++ (gap ++ '<' :: tail)) front inner rest) :
    ∃ behind, Encloses cs front inner behind := by
  obtain ⟨before, within, rfl, hBefore⟩ := List.eq_append_cons_of_mem hOpen
  obtain ⟨hEq, hFront, hSome, hInner⟩ := h
  rw [List.append_assoc, List.cons_append] at hEq
  obtain rfl : before = front := by
    rw [← (span_bracket hBefore _).1, hEq, (span_bracket hFront _).1]
  have hBehind : within ++ (gap ++ '<' :: tail) = inner ++ '>' :: rest :=
    (List.cons.inj (List.append_cancel_left hEq)).2
  -- the enclosed text and its `>` end before the other `<`
  have hClosed : '<' ∉ inner ++ ['>'] := by
    simpa using fun hMem => (hInner '<' hMem).1 rfl
  have hMark : inner ++ ['>'] ++ rest = within ++ gap ++ '<' :: tail := by simp [hBehind]
  obtain ⟨left, hLeft⟩ := mark_behind hMark hClosed
  rw [List.append_assoc, List.singleton_append] at hLeft
  obtain ⟨behind, rfl⟩ := mark_in_front hLeft hGap
  exact ⟨behind, rfl, hBefore, hSome, hInner⟩

/-! ## Header values -/

variable {s : String}

/-- A value with an address in angle brackets is read as that and the name in front of it. -/
theorem Encloses.parse_eq (h : Encloses (trim s.toList) front inner rest) :
    parse s = ⟨nonempty (unquoted front), nonempty (trim inner)⟩ := by
  have hFront : (trim s.toList).takeWhile (· ≠ '<') = front := by
    rw [h.eq, (span_bracket h.front _).1]
  simp only [parse, ofChars, bracketed?_eq_some_iff.2 ⟨front, rest, h⟩, hFront]

theorem Encloses.address_eq (h : Encloses (trim s.toList) front inner rest) :
    (parse s).address = nonempty (trim inner) :=
  congrArg address h.parse_eq

theorem address_eq_whole (h : ∀ front inner rest, ¬Encloses (trim s.toList) front inner rest) :
    (parse s).address = nonempty (trim s.toList) := by
  have hNone : bracketed? (trim s.toList) = none := by
    rw [Option.eq_none_iff_forall_ne_some]
    intro inner hInner
    obtain ⟨front, rest, hEncloses⟩ := bracketed?_eq_some_iff.1 hInner
    exact h front inner rest hEncloses
  simp only [parse, ofChars, hNone]

/-- Trimming a value leaves what is enclosed. -/
theorem Encloses.trim (h : Encloses cs front inner rest) :
    Encloses (trim cs) (front.dropWhile isBlank) inner (dropEnd isBlank rest) where
  eq := by
    have hOpen : isBlank '<' = false := by decide
    have hClose : isBlank '>' = false := by decide
    rw [h.eq, Text.trim_marks hOpen hClose]
  front hMem := h.front ((List.dropWhile_suffix isBlank).subset hMem)
  ne_nil := h.ne_nil
  inner := h.inner

end Mailroom.Address
