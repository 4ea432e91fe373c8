import Mailroom.Proofs.Rule.DateFilter
import Mailroom.Proofs.Sql.LookBack

/-!
# Filters that look back from now

A date filter with a duration for a value compares the moment of a message with the one
that lies so far back from the clock. The query gets the duration with a minus sign in
front, reads it again, goes back, and compares the text of the moment it comes to. Where
that moment is in the years 0 to 9999, all this is a comparison of seconds. For a unit of
fixed length these are the seconds of the clock less those of the duration. How long a
month or a year is depends on the calendar, but looking back further selects no fewer
messages there too.
-/

namespace Mailroom.Rule

open Mailroom.Calendar (InYears momentText momentText_lt)
open Mailroom.Sql (compareText compareText_eq_gt)
open Mailroom.Sql.Moment (Span Reach)
open Mailroom.Store (Row)

/-! ## The moment so far back -/

/-- The value spells `n` units, and the clock can go back by them to a moment in the
years 0 to 9999. -/
structure LooksBack (now : Int) (value : String) (n : Nat) (span : Span) : Prop where
  spells : Spells value n span
  reach : Reach now n span
  inYears : InYears (span.back now n / 1000)

namespace Spells

variable {value : String} {n : Nat} {span : Span} (h : Spells value n span)
include h

private theorem nonblank? : nonblank? value = some (trimmed value) := by
  obtain ⟨count, unit, hValue, -⟩ := h
  have hSpace : ' ' ∈ (trimmed value).toList := by simp [hValue]
  have hSome : trimmed value ≠ "" := by
    intro hBlank
    rw [hBlank] at hSpace
    cases hSpace
  rw [Mailroom.nonblank?, if_neg hSome]

private theorem ofText : DateValue.ofText (trimmed value) = .relative (trimmed value) := by
  have hTrimmed : Spells (trimmed value) n span := by
    unfold Spells
    rwa [trimmed_trimmed]
  exact if_pos (isRelativeDuration_iff.2 ⟨n, span, hTrimmed⟩)

end Spells

namespace LooksBack

variable {s : Store} {ms : List Message} {now : Int} {rule : Rule} {o : Operator}
  {value : String} {n : Nat} {span : Span}

/-- **What the query compares with**: the text of the moment so far back. -/
theorem moment (h : LooksBack now value n span) :
    (DateValue.ofText (trimmed value)).moment now =
      .text (momentText (span.back now n / 1000)) := by
  have hText : Sql.Moment.text? now ("-" ++ trimmed value) =
      some (momentText (span.back now n / 1000)) := by
    rw [Sql.Moment.text?, h.spells.modifier?]
    simp only [Option.bind_eq_bind, Option.bind_some,
      Sql.Moment.before?_eq h.reach h.inYears]
    rfl
  rw [h.spells.ofText, DateValue.moment, hText]
  rfl

/-- The rows that are given are those whose text compares with it. -/
theorem given (h : LooksBack now value n span) (hHolds : s.Holds ms)
    (hOrder : o.isPattern = false)
    (hSingle : rule.Single ⟨"date_received", o.name, some value⟩) :
    ∃ rows, rule.Gives s now rows ∧ ∀ m ∈ ms, Row.encode m ∈ rows ↔
      ∃ text, m.moment? = some text ∧
        o.accepts (compareText text (momentText (span.back now n / 1000))) = true := by
  obtain ⟨rows, hGives, hRows⟩ :=
    dates_given hHolds now hOrder h.spells.nonblank? hSingle
  refine ⟨rows, hGives, fun m hm => ?_⟩
  rw [hRows m hm, h.moment]
  cases hMoment : m.moment? with
  | none => simp [compares_of_none hMoment]
  | some text =>
      rw [compares_text hMoment (Calendar.ofText?_momentText _)]
      simp

end LooksBack

/-! ## Windows -/

section

variable {s : Store} {ms : List Message} {now : Int} {value : String} {n : Nat}
  {span : Span}

/-- **Relative windows.** Where the moment so far back is in the years 0 to 9999, a
filter compares the second in which a message came with that of this moment. For a unit
of fixed length that is the second which the clock shows, less the seconds of the
duration. And for every unit, a filter for what came after that moment selects no message
that such a filter with a longer duration does not select. -/
theorem relative_windows (hHolds : s.Holds ms) (hBack : LooksBack now value n span) :
    (∀ (o : Operator) (rule : Rule), o.isPattern = false →
      rule.Single ⟨"date_received", o.name, some value⟩ →
      ∃ rows, rule.Gives s now rows ∧ ∀ m ∈ ms, ∀ millis, m.millis? = some millis →
        InYears (millis.toInt / 1000) →
        (Row.encode m ∈ rows ↔
          o.relates (millis.toInt / 1000) (span.back now n / 1000)) ∧
        ∀ unit, span.seconds? = some unit →
          (Row.encode m ∈ rows ↔
            o.relates (millis.toInt / 1000) (now / 1000 - n * unit))) ∧
    ∀ (k : Nat) (longer : String), n ≤ k → LooksBack now longer k span →
      ∀ rule wider : Rule,
        rule.Single ⟨"date_received", Operator.name .greater, some value⟩ →
        wider.Single ⟨"date_received", Operator.name .greater, some longer⟩ →
        ∃ rows more, rule.Gives s now rows ∧ wider.Gives s now more ∧
          ∀ m ∈ ms, Row.encode m ∈ rows → Row.encode m ∈ more := by
  constructor
  · intro o rule hOrder hSingle
    obtain ⟨rows, hGives, hRows⟩ := hBack.given hHolds hOrder hSingle
    refine ⟨rows, hGives, fun m hm millis hMillis hYears => ?_⟩
    have hMoment := Message.moment?_of_millis? hMillis hYears
    have hOrdered := Calendar.compareText_momentText hYears hBack.inYears
    have hSelected : Row.encode m ∈ rows ↔
        o.relates (millis.toInt / 1000) (span.back now n / 1000) := by
      rw [hRows m hm, hMoment, ← accepts_compare, ← hOrdered]
      simp
    refine ⟨hSelected, fun unit hUnit => ?_⟩
    rw [hSelected, Span.back_of_seconds? hUnit]
  · intro k longer hLe hLonger rule wider hSingle hWider
    obtain ⟨rows, hGives, hRows⟩ := hBack.given hHolds rfl hSingle
    obtain ⟨more, hMore, hMoreRows⟩ := hLonger.given hHolds rfl hWider
    refine ⟨rows, more, hGives, hMore, fun m hm hSelected => ?_⟩
    obtain ⟨text, hMoment, hAfter⟩ := (hRows m hm).1 hSelected
    refine (hMoreRows m hm).2 ⟨text, hMoment, ?_⟩
    simp only [Operator.accepts, decide_eq_true_eq, compareText_eq_gt] at hAfter ⊢
    -- The moment further back has the same text or one that comes before.
    have hSeconds : span.back now k / 1000 ≤ span.back now n / 1000 :=
      Int.ediv_le_ediv (by decide) (Span.back_le now span hLe)
    rcases hSeconds.eq_or_lt with hSame | hBefore
    · rwa [hSame]
    · exact String.lt_trans (momentText_lt hLonger.inYears hBack.inYears hBefore) hAfter

/-- At noon of 31 March 2023. Two days before is a moment of its own, and a month before
is not the end of February but 3 March. -/
theorem relative_windows_march :
    let now := 1680264000000
    let recent := bareMessage "a" "1680091200000" []
    let older := bareMessage "b" "1677672000000" []
    let s := Store.ofMessages [recent, older]
    let rule (o : Operator) (value : String) : Rule :=
      ⟨"", "all", [⟨"date_received", o.name, some value⟩], []⟩
    (∃ rows, (rule .atLeast " 2 days").Gives s now rows ∧
      Row.encode recent ∈ rows ∧ Row.encode older ∉ rows) ∧
    ∃ rows more, (rule .greater "1 month").Gives s now rows ∧
      (rule .greater "2 months").Gives s now more ∧
      ∀ m ∈ [recent, older], Row.encode m ∈ rows → Row.encode m ∈ more := by
  intro now recent older s rule
  have hHolds : s.Holds [recent, older] := ⟨rfl, by decide⟩
  have hDays : LooksBack now " 2 days" 2 .day :=
    ⟨⟨"2", "days", by decide +kernel, rfl, rfl⟩, .inr (by decide), by decide⟩
  have hMonth : LooksBack now "1 month" 1 .month :=
    ⟨⟨"1", "month", by decide +kernel, rfl, rfl⟩, .inl (by decide), by decide⟩
  have hMonths : LooksBack now "2 months" 2 .month :=
    ⟨⟨"2", "months", by decide +kernel, rfl, rfl⟩, .inl (by decide), by decide⟩
  obtain ⟨rows, hGives, hRows⟩ := (relative_windows hHolds hDays).1 .atLeast
    (rule .atLeast " 2 days") rfl ⟨.inl rfl, rfl⟩
  have hRecent := (hRows recent List.mem_cons_self 1680091200000 (by decide +kernel)
    (by decide)).2 86400 rfl
  have hOlder := (hRows older (List.mem_cons_of_mem _ List.mem_cons_self) 1677672000000
    (by decide +kernel) (by decide)).2 86400 rfl
  refine ⟨⟨rows, hGives, hRecent.2 (by decide), fun h => ?_⟩, ?_⟩
  · exact absurd (hOlder.1 h) (by decide)
  · exact (relative_windows hHolds hMonth).2 2 "2 months" (by decide) hMonths _ _
      ⟨.inl rfl, rfl⟩ ⟨.inl rfl, rfl⟩

end

end Mailroom.Rule
