import Mailroom.Proofs.Rule.Duration

/-!
# The blanks in a duration

A phrase is a count and the name of a unit of time, with blanks around the two words and
between them. The blanks around them do not matter. Between them there has to be one
space: a phrase with two spaces there, or with a blank of another kind, is no duration,
and the whole of it is taken for a moment.

The gap can be read off the text: behind the blanks at the start and the digits, it is
all that comes before the next character that is no blank. So a text that is a phrase
has one gap, and whether it is a duration is a question about this gap.
-/

namespace Mailroom.Text

private theorem not_isBlank_of_isDigit {c : Char} (h : c.isDigit = true) : isBlank c = false := by
  simp only [Char.isDigit, Bool.and_eq_true, decide_eq_true_eq] at h
  have hLow : 48 ≤ c.toNat := h.1
  have hHigh : c.toNat ≤ 57 := h.2
  simp only [isBlank, Bool.or_eq_false_iff, Bool.and_eq_false_iff, decide_eq_false_iff_not,
    beq_eq_false_iff_ne]
  omega

end Mailroom.Text

namespace Mailroom.Rule

open Mailroom.Text (isBlank)
open Mailroom.Sql.Moment (Span)

/-! ## Phrases -/

/-- The names of the units of time, for one and for several. -/
def unitNames : List String :=
  ["second", "seconds", "minute", "minutes", "hour", "hours", "day", "days", "month",
    "months", "year", "years"]

private theorem mem_unitNames_iff {unit : String} :
    unit ∈ unitNames ↔ ∃ span, Span.ofName? unit = some span := by
  constructor
  · intro h
    have hEach : ∀ unit ∈ unitNames, (Span.ofName? unit).isSome = true := by decide
    exact Option.isSome_iff_exists.1 (hEach unit h)
  · rintro ⟨span, h⟩
    unfold Span.ofName? at h
    split at h
    all_goals first
      | decide
      | cases h

/-- A count and the name of a unit, with blanks around them and between them. -/
structure Phrase where
  before : List Char
  count : List Char
  gap : List Char
  unit : String
  after : List Char
  before_blank : ∀ c ∈ before, isBlank c = true
  count_some : count ≠ []
  count_digits : ∀ c ∈ count, c.isDigit = true
  gap_some : gap ≠ []
  gap_blank : ∀ c ∈ gap, isBlank c = true
  unit_name : unit ∈ unitNames
  after_blank : ∀ c ∈ after, isBlank c = true

namespace Phrase

variable (p : Phrase)

/-- The two words and the blanks between them. -/
def words : List Char := p.count ++ (p.gap ++ p.unit.toList)

/-- The phrase as it is written. -/
def text : String := String.ofList (p.before ++ p.words ++ p.after)

private theorem unit_not_blank : p.unit.toList ≠ [] ∧ ∀ c ∈ p.unit.toList, isBlank c = false := by
  have hEach : ∀ unit ∈ unitNames,
      unit.toList ≠ [] ∧ unit.toList.all (!isBlank ·) = true := by decide
  obtain ⟨hSome, hAll⟩ := hEach p.unit p.unit_name
  exact ⟨hSome, by simpa using hAll⟩

/-- **Without the blanks around it**, a phrase is its words. -/
theorem trim_text : Text.trim p.text.toList = p.words := by
  obtain ⟨hUnit, hBlank⟩ := p.unit_not_blank
  rw [text, String.toList_ofList]
  refine Text.trim_append p.before_blank p.after_blank (fun c hc => ?_) fun c hc => ?_
  · obtain ⟨d, ds, hCount⟩ := List.exists_cons_of_ne_nil p.count_some
    have hFirst : p.words.head? = some d := by rw [words, hCount]; rfl
    rw [hFirst, Option.mem_some_iff] at hc
    exact Text.not_isBlank_of_isDigit (p.count_digits c (by simp [hCount, hc]))
  · have hLast : p.words.getLast? = some (p.unit.toList.getLast hUnit) := by
      rw [words, List.getLast?_append, List.getLast?_append,
        List.getLast?_eq_some_getLast hUnit]
      rfl
    rw [hLast, Option.mem_some_iff] at hc
    exact hBlank c (hc ▸ List.getLast_mem hUnit)

/-- **The gap is read off the text.** -/
theorem gap_of_text :
    ((Text.trim p.text.toList).dropWhile Char.isDigit).takeWhile isBlank = p.gap := by
  obtain ⟨hUnit, hBlank⟩ := p.unit_not_blank
  obtain ⟨g, gs, hGap⟩ := List.exists_cons_of_ne_nil p.gap_some
  obtain ⟨u, us, hUnitCons⟩ := List.exists_cons_of_ne_nil hUnit
  have hg : g.isDigit = false := by
    rw [Bool.eq_false_iff]
    intro hDigit
    have hBlankGap := p.gap_blank g (by simp [hGap])
    rw [Text.not_isBlank_of_isDigit hDigit] at hBlankGap
    cases hBlankGap
  have hu : isBlank u = false := hBlank u (by simp [hUnitCons])
  have hRest : p.words.dropWhile Char.isDigit = p.gap ++ p.unit.toList := by
    rw [words, List.dropWhile_append_of_pos p.count_digits, hGap, List.cons_append,
      List.dropWhile_cons_of_neg (by simp [hg])]
  rw [trim_text, hRest, List.takeWhile_append_of_pos p.gap_blank, hUnitCons,
    List.takeWhile_cons_of_neg (by simp [hu]), List.append_nil]

end Phrase

/-! ## Durations -/

/-- A phrase with one space in it spells a duration. -/
theorem Phrase.spells {p : Phrase} (h : p.gap = [' ']) :
    ∃ n span, Spells p.text n span := by
  obtain ⟨span, hSpan⟩ := mem_unitNames_iff.1 p.unit_name
  refine ⟨Text.value p.count, span, String.ofList p.count, p.unit, ?_, ?_, hSpan⟩
  · rw [trimmed, p.trim_text, Phrase.words, h, ← String.toList_inj]
    simp
  · rw [String.toList_ofList, Text.natural?,
      if_pos ⟨p.count_some, List.all_eq_true.2 p.count_digits⟩]

/-- What spells a duration is a phrase with one space in it. -/
theorem Spells.phrase {value : String} {n : Nat} {span : Span} (h : Spells value n span) :
    ∃ p : Phrase, p.text = value ∧ p.gap = [' '] := by
  obtain ⟨count, unit, hValue, hCount, hSpan⟩ := h
  obtain ⟨before, after, hBefore, hAfter, hText⟩ := Text.exists_trim value.toList
  obtain ⟨hSome, hDigits⟩ := isDigit_of_natural? hCount
  have hWords : Text.trim value.toList = count.toList ++ ([' '] ++ unit.toList) := by
    have hList := congrArg String.toList hValue
    simpa [trimmed] using hList
  let p : Phrase := {
    before, count := count.toList, gap := [' '], unit, after
    before_blank := hBefore
    count_some := hSome
    count_digits := hDigits
    gap_some := by decide
    gap_blank := List.forall_mem_singleton.2 rfl
    unit_name := mem_unitNames_iff.2 ⟨span, hSpan⟩
    after_blank := hAfter }
  refine ⟨p, ?_, rfl⟩
  have hParts : p.before ++ p.words ++ p.after = value.toList := by
    rw [hText, hWords]
    rfl
  rw [Phrase.text, hParts, String.ofList_toList]

/-- **Durations have one space.** A text is a duration exactly if it is a phrase with one
space between its words. So the text of a phrase is one exactly if its own gap is that
space. -/
theorem durations_have_one_space (value : String) (p : Phrase) :
    (isRelativeDuration value = true ↔ ∃ q : Phrase, q.text = value ∧ q.gap = [' ']) ∧
      (isRelativeDuration p.text = true ↔ p.gap = [' ']) := by
  have hPhrase (value : String) :
      isRelativeDuration value = true ↔ ∃ q : Phrase, q.text = value ∧ q.gap = [' '] := by
    rw [isRelativeDuration_iff]
    constructor
    · rintro ⟨n, span, hSpells⟩
      exact hSpells.phrase
    · rintro ⟨q, rfl, hGap⟩
      exact Phrase.spells hGap
  refine ⟨hPhrase value, (hPhrase p.text).trans ⟨?_, fun hGap => ⟨p, rfl, hGap⟩⟩⟩
  -- The text is that of a phrase with one space, but it has only one gap.
  rintro ⟨q, hText, hGap⟩
  rw [← p.gap_of_text, ← hText, q.gap_of_text, hGap]

/-- Two spaces make a phrase that is no duration. -/
theorem two_spaces_are_no_duration :
    ∃ p : Phrase, p.text = "2  days" ∧ isRelativeDuration "2  days" = false := by
  let p : Phrase := {
    before := [], count := ['2'], gap := [' ', ' '], unit := "days", after := []
    before_blank := List.forall_mem_nil _
    count_some := by decide
    count_digits := List.forall_mem_singleton.2 rfl
    gap_some := by decide
    gap_blank := List.all_eq_true.1 rfl
    unit_name := by decide
    after_blank := List.forall_mem_nil _ }
  exact ⟨p, by decide, by decide⟩

end Mailroom.Rule
