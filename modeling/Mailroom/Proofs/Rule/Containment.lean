import Mailroom.Proofs.Rule.SingleFilter
import Mailroom.Proofs.Sql.Pattern

/-!
# Filters on what a field contains

The value of such a filter goes into the query between two `%`, as it is. So a filter
asks whether some part of the field is what the value says as a pattern: `%` and `_` in
it stand for other characters, and there is no way to write them as themselves. A value
without them asks for its own characters, ASCII letters in either case.

The store takes patterns up to a length only, and the two `%` count.
-/

namespace Mailroom.Rule

open Mailroom.Sql.Like (Occurs Plain matched matched_within occurs_plain)
open Mailroom.Store (Column Row)
open Mailroom.Text.Utf8 (encode)

/-! ## A filter on a row -/

section

variable {m : Message} {column : Column} {value t : String} (now : Int)

theorem parse_text {field : String} (hField : Field.ofName? field = some (.text column))
    (o : Operator) (value : Option String) :
    Filter.parse ⟨field, o.name, value⟩ = .ok (.text column o (value.getD "")) := by
  have hAdmits : (some o).filter (Field.admits (.text column)) = some o := by
    simp [Option.filter, Field.admits]
  simp only [Filter.parse, hField, Operator.ofName?_name, hAdmits]

/-- The bytes of the value, between two `%`. -/
theorem length_encode_pattern (value : String) :
    (encode ("%" ++ value ++ "%").toList).length = (encode value.toList).length + 2 := by
  simp only [String.toList_append, Text.Utf8.encode_append, List.length_append]
  have hPercent : (encode "%".toList).length = 1 := rfl
  omega

variable (hText : Row.valueOf m column = .text t)
include hText

private theorem matches?_encode (pattern : String) : matches? (Row.encode m) column pattern =
    some (matched (encode pattern.toList) (encode t.toList)) := by
  rw [matches?, Store.get_encode, hText]
  rfl

variable (hValue : '\x00' ∉ value.toList) (ht : '\x00' ∉ t.toList)
include hValue ht

private theorem holds_contains :
    (Filter.text column .contains value).holds now (Row.encode m) = true ↔
      Occurs value.toList t.toList := by
  rw [← matched_within hValue ht]
  simp [Filter.holds, matches?_encode hText]

private theorem holds_lacks :
    (Filter.text column .lacks value).holds now (Row.encode m) = true ↔
      ¬Occurs value.toList t.toList := by
  rw [← matched_within hValue ht]
  simp [Filter.holds, matches?_encode hText]

end

/-! ## What is given -/

section

variable {s : Store} {ms : List Message} {rule other : Rule} {column : Column}
  {field value : String}

/-- **Containing means matching a part.** For a field that is a text and a value, both
without zeros: the rule for containing selects the messages where the value, as a
pattern, takes some part of the field, and the rule for not containing the other ones. If
no character of the value stands for others, the value is such a part, but for the case
of ASCII letters. A value of more than 49998 bytes ends the query. -/
theorem containment_as_pattern (hHolds : s.Holds ms) (now : Int)
    (hField : Field.ofName? field = some (.text column))
    (hValue : '\x00' ∉ value.toList)
    (hContains : rule.Single ⟨field, Operator.name .contains, some value⟩)
    (hLacks : other.Single ⟨field, Operator.name .lacks, some value⟩) :
    ((encode value.toList).length ≤ 49998 →
      ∃ rows others, rule.Gives s now rows ∧ other.Gives s now others ∧
        ∀ m ∈ ms, ∀ t, Row.valueOf m column = .text t → '\x00' ∉ t.toList →
          (Row.encode m ∈ rows ↔ Occurs value.toList t.toList) ∧
          (Row.encode m ∈ others ↔ ¬Occurs value.toList t.toList) ∧
          (Plain value.toList → (Row.encode m ∈ rows ↔
            value.toList.map Char.toLower <:+: t.toList.map Char.toLower))) ∧
    (49998 < (encode value.toList).length → ms ≠ [] → ∀ r, r = rule ∨ r = other →
      ∃ query, r.compile = .ok query ∧
        s.query query.sql query.arguments now =
          .error (.store .patternTooComplex)) := by
  have hLength := length_encode_pattern value
  constructor
  · intro hShort
    have hFits (o : Operator) : (Filter.text column o value).Fits := by
      intro _
      rw [hLength, Sql.maxPattern]
      omega
    obtain ⟨rows, hGives, hRows⟩ :=
      hContains.gives (parse_text hField .contains _) (hFits .contains) hHolds now
    obtain ⟨others, hOthers, hOtherRows⟩ :=
      hLacks.gives (parse_text hField .lacks _) (hFits .lacks) hHolds now
    refine ⟨rows, others, hGives, hOthers, fun m hm t hText ht => ?_⟩
    have hSelected : Row.encode m ∈ rows ↔ Occurs value.toList t.toList :=
      (hRows m hm).trans (holds_contains now hText hValue ht)
    exact ⟨hSelected, (hOtherRows m hm).trans (holds_lacks now hText hValue ht),
      fun hPlain => hSelected.trans (occurs_plain hPlain)⟩
  · intro hLong hSome r hr
    have hTooLong : Sql.maxPattern < (encode ("%" ++ value ++ "%").toList).length := by
      rw [hLength, Sql.maxPattern]
      omega
    rcases hr with rfl | rfl
    · exact hContains.fails (parse_text hField .contains _) rfl hTooLong hHolds hSome now
    · exact hLacks.fails (parse_text hField .lacks _) rfl hTooLong hHolds hSome now

/-- A message of which only its subject is known. -/
def titledMessage (id subject : String) : Message :=
  { bareMessage id "0" [] with
    payload := { Part.blank with headers := [⟨"Subject", subject⟩] } }

private theorem valueOf_titledMessage (id subject : String) :
    Row.valueOf (titledMessage id subject) .subject = .text subject := by
  have hFirst : Message.firstHeader? "Subject" [⟨"Subject", subject⟩] = some subject := by
    simp [Message.firstHeader?]
  exact congrArg Row.optionalText hFirst

/-- Two subjects, one with the value in capital letters. -/
theorem containment_as_pattern_capitals :
    let invoice := titledMessage "a" "1000 EURO"
    let greeting := titledMessage "b" "Hello"
    let s := Store.ofMessages [invoice, greeting]
    let rule (o : Operator) : Rule := ⟨"", "any", [⟨"subject", o.name, some "euro"⟩], []⟩
    ∃ rows others, (rule .contains).Gives s 0 rows ∧ (rule .lacks).Gives s 0 others ∧
      Row.encode invoice ∈ rows ∧ Row.encode invoice ∉ others ∧
      Row.encode greeting ∉ rows ∧ Row.encode greeting ∈ others := by
  intro invoice greeting s rule
  have hHolds : s.Holds [invoice, greeting] := ⟨rfl, by decide⟩
  have hField : Field.ofName? "subject" = some (.text .subject) := rfl
  have hSingle (o : Operator) : (rule o).Single ⟨"subject", o.name, some "euro"⟩ :=
    ⟨.inr rfl, rfl⟩
  obtain ⟨rows, others, hGives, hOthers, hRows⟩ := (containment_as_pattern hHolds 0 hField
    (by decide) (hSingle .contains) (hSingle .lacks)).1 (by decide)
  have hInvoice := hRows invoice List.mem_cons_self "1000 EURO"
    (valueOf_titledMessage _ _) (by decide)
  have hGreeting := hRows greeting (List.mem_cons_of_mem _ List.mem_cons_self) "Hello"
    (valueOf_titledMessage _ _) (by decide)
  have hOccurs : Occurs "euro".toList "1000 EURO".toList := by decide
  have hAbsent : ¬Occurs "euro".toList "Hello".toList := by decide
  exact ⟨rows, others, hGives, hOthers, hInvoice.1.2 hOccurs,
    fun h => hInvoice.2.1.1 h hOccurs, fun h => hAbsent (hGreeting.1.1 h),
    hGreeting.2.1.2 hAbsent⟩

/-- A percent sign stands for any text, so a subject is selected that has none. -/
theorem percent_is_no_text :
    let invoice := titledMessage "a" "1000 euro"
    let rule : Rule :=
      ⟨"", "all", [⟨"subject", Operator.name .contains, some "100%"⟩], []⟩
    Row.valueOf invoice .subject = .text "1000 euro" ∧
      ¬"100%".toList.map Char.toLower <:+: "1000 euro".toList.map Char.toLower ∧
      ∃ rows, rule.Gives (Store.ofMessages [invoice]) 0 rows ∧
        Row.encode invoice ∈ rows := by
  intro invoice rule
  have hText : Row.valueOf invoice .subject = .text "1000 euro" :=
    valueOf_titledMessage _ _
  have hHolds : (Store.ofMessages [invoice]).Holds [invoice] := ⟨rfl, by decide⟩
  have hSingle : rule.Single ⟨"subject", Operator.name .contains, some "100%"⟩ :=
    ⟨.inl rfl, rfl⟩
  have hField : Field.ofName? "subject" = some (.text .subject) := rfl
  have hFits : (Filter.text .subject .contains "100%").Fits := fun _ => by decide +kernel
  obtain ⟨rows, hGives, hRows⟩ :=
    hSingle.gives (parse_text hField .contains _) hFits hHolds 0
  have hOccurs : Occurs "100%".toList "1000 euro".toList := by decide
  have hSelected := (holds_contains 0 hText (by decide) (by decide)).2 hOccurs
  have hAbsent : '%' ∉ "1000 euro".toList.map Char.toLower := by decide
  have hPercent : '%' ∈ "100%".toList.map Char.toLower := by decide
  exact ⟨hText, fun h => hAbsent (h.subset hPercent), rows, hGives,
    (hRows invoice List.mem_cons_self).2 hSelected⟩

end

end Mailroom.Rule
