import Mailroom.Proofs.Rule.Duration
import Mailroom.Proofs.Rule.QueryText
import Mailroom.Proofs.Rule.Validity

/-!
# Which rules compile

A rule compiles if its mode is one of two names and each of its filters is sound: the
field and the operator have names that are known, and if the field is a date, then the
operator is no pattern and there is a value that is not blank. Nothing else is asked of
a rule, and of a filter on a text no value.

A rule that does not compile is refused for one thing. It is the mode, if that is wrong,
and else what is wrong with the first filter that is not sound: its field, or if that is
known its operator, or if that is right too its value. The reasons exclude one another,
so the error says which it is.

The argument of a sound filter is told from what the filter says, too.
-/

namespace Mailroom.Rule

/-! ## Names -/

/-- The fields that are texts. -/
def textFields : List String := ["from", "to", "subject"]

/-- The fields that are dates. -/
def dateFields : List String := ["date_received", "date_sent"]

/-- The operators that take a pattern. -/
def patternOperators : List String := ["contains", "ncontains"]

/-- The operators that compare by order. -/
def orderOperators : List String := ["eq", "ne", "gt", "lt", "gte", "lte"]

/-- The fields with their names. -/
def Field.table : List (String × Field) :=
  [("from", .text .sender), ("to", .text .recipient), ("subject", .text .subject),
    ("date_received", .date false), ("date_sent", .date true)]

/-- The operators with their names. -/
def Operator.table : List (String × Operator) :=
  [("contains", contains), ("ncontains", lacks), ("eq", equal), ("ne", unequal),
    ("gt", greater), ("lt", less), ("gte", atLeast), ("lte", atMost)]

/-- A reader of names that gives what a table has for a name, and nothing for any other name, is
the table. -/
theorem eq_some_iff_mem_table {α : Type} {read : String → Option α} {table : List (String × α)}
    (hEach : ∀ entry ∈ table, read entry.1 = some entry.2)
    (hOther : ∀ name, name ∉ table.map Prod.fst → read name = none) {name : String} {a : α} :
    read name = some a ↔ (name, a) ∈ table := by
  refine ⟨fun h => ?_, hEach (name, a)⟩
  by_cases hNamed : name ∈ table.map Prod.fst
  · obtain ⟨entry, hEntry, rfl⟩ := List.mem_map.1 hNamed
    rw [hEach entry hEntry] at h
    cases h
    exact hEntry
  · rw [hOther name hNamed] at h
    cases h

private theorem Field.ofName?_eq_some_iff {name : String} {field : Field} :
    ofName? name = some field ↔ (name, field) ∈ table := by
  refine eq_some_iff_mem_table (by decide) fun other hOther => ?_
  unfold ofName?
  split <;> first | rfl | exact absurd (by decide) hOther

private theorem Operator.ofName?_eq_some_iff {name : String} {o : Operator} :
    ofName? name = some o ↔ (name, o) ∈ table := by
  refine eq_some_iff_mem_table (by decide) fun other hOther => ?_
  unfold ofName?
  split <;> first | rfl | exact absurd (by decide) hOther

private theorem mem_textFields_iff {name : String} :
    name ∈ textFields ↔ ∃ column, Field.ofName? name = some (.text column) := by
  simp [Field.ofName?_eq_some_iff, Field.table, textFields, exists_or]

private theorem mem_dateFields_iff {name : String} :
    name ∈ dateFields ↔ ∃ sentOnly, Field.ofName? name = some (.date sentOnly) := by
  simp [Field.ofName?_eq_some_iff, Field.table, dateFields, exists_or]

private theorem mem_patternOperators_iff {name : String} : name ∈ patternOperators ↔
    ∃ o, Operator.ofName? name = some o ∧ o.isPattern = true := by
  simp [Operator.ofName?_eq_some_iff, Operator.table, patternOperators, Operator.isPattern,
    or_and_right, exists_or, and_assoc]

private theorem mem_orderOperators_iff {name : String} : name ∈ orderOperators ↔
    ∃ o, Operator.ofName? name = some o ∧ o.isPattern = false := by
  simp [Operator.ofName?_eq_some_iff, Operator.table, orderOperators, Operator.isPattern,
    or_and_right, exists_or, and_assoc]

private theorem mem_fields_iff {name : String} :
    name ∈ textFields ++ dateFields ↔ ∃ field, Field.ofName? name = some field := by
  rw [List.mem_append, mem_textFields_iff, mem_dateFields_iff]
  constructor
  · rintro (⟨column, h⟩ | ⟨sentOnly, h⟩)
    · exact ⟨_, h⟩
    · exact ⟨_, h⟩
  · rintro ⟨field, h⟩
    cases field with
    | text column => exact .inl ⟨column, h⟩
    | date sentOnly => exact .inr ⟨sentOnly, h⟩

private theorem mem_operators_iff {name : String} :
    name ∈ patternOperators ++ orderOperators ↔ ∃ o, Operator.ofName? name = some o := by
  rw [List.mem_append, mem_patternOperators_iff, mem_orderOperators_iff]
  constructor
  · rintro (⟨o, h, -⟩ | ⟨o, h, -⟩)
    · exact ⟨o, h⟩
    · exact ⟨o, h⟩
  · rintro ⟨o, h⟩
    cases hPattern : o.isPattern with
    | true => exact .inl ⟨o, h, hPattern⟩
    | false => exact .inr ⟨o, h, hPattern⟩

/-! ## Sound filters -/

namespace FilterText

variable (t : FilterText)

/-- What a filter has to be like. -/
structure Sound : Prop where
  field : t.field ∈ textFields ++ dateFields
  operator : t.operator ∈ patternOperators ++ orderOperators
  date : t.field ∈ dateFields →
    t.operator ∉ patternOperators ∧ ∃ v ∈ t.value, trimmed v ≠ ""

/-- What is wrong with a filter that is not: one thing, and the error that says so. -/
inductive Fault : Error → Prop
  | field (unknown : t.field ∉ textFields ++ dateFields) :
      Fault (.filterField t.field)
  | operator (field : t.field ∈ textFields ++ dateFields)
      (wrong : t.operator ∉ patternOperators ++ orderOperators ∨
        t.field ∈ dateFields ∧ t.operator ∈ patternOperators) :
      Fault (.filterOperator t.operator t.field)
  | value (field : t.field ∈ dateFields) (operator : t.operator ∈ orderOperators)
      (blank : ∀ v ∈ t.value, trimmed v = "") :
      Fault (.filterDate t.field)

/-- The argument that a sound filter passes on. -/
inductive Passes : String → Prop
  | pattern (field : t.field ∈ textFields) (operator : t.operator ∈ patternOperators) :
      Passes ("%" ++ t.value.getD "" ++ "%")
  | text (field : t.field ∈ textFields) (operator : t.operator ∈ orderOperators) :
      Passes (t.value.getD "")
  | relative {v : String} (field : t.field ∈ dateFields)
      (operator : t.operator ∈ orderOperators) (value : t.value = some v)
      (duration : isRelativeDuration v = true) : Passes ("-" ++ trimmed v)
  | absolute {v : String} (field : t.field ∈ dateFields)
      (operator : t.operator ∈ orderOperators) (value : t.value = some v)
      (moment : isRelativeDuration v = false) : Passes (trimmed v)

end FilterText

/-- A filter is sound, or something is wrong with it. -/
theorem sound_or_fault (t : FilterText) : t.Sound ∨ ∃ e, t.Fault e := by
  by_cases hField : t.field ∈ textFields ++ dateFields
  · by_cases hWrong : t.operator ∉ patternOperators ++ orderOperators ∨
        t.field ∈ dateFields ∧ t.operator ∈ patternOperators
    · exact .inr ⟨_, .operator hField hWrong⟩
    · rw [not_or, not_not, not_and] at hWrong
      obtain ⟨hOperator, hNoPattern⟩ := hWrong
      by_cases hBlank : t.field ∈ dateFields ∧ ∀ v ∈ t.value, trimmed v = ""
      · have hOrder : t.operator ∈ orderOperators :=
          (List.mem_append.1 hOperator).resolve_left (hNoPattern hBlank.1)
        exact .inr ⟨_, .value hBlank.1 hOrder hBlank.2⟩
      · refine .inl ⟨hField, hOperator, fun hDate => ⟨hNoPattern hDate, ?_⟩⟩
        simpa using fun hAll => hBlank ⟨hDate, hAll⟩
  · exact .inr ⟨_, .field hField⟩

/-! ## Reading filters -/

section

variable {t : FilterText} {f : Filter} {e : Error}

/-- **What is wrong with a filter** is what reading it reports. -/
theorem parse_of_fault (h : t.Fault e) : Filter.parse t = .error e := by
  cases h with
  | field unknown =>
      have hNone : Field.ofName? t.field = none := by
        rw [mem_fields_iff] at unknown
        exact Option.eq_none_iff_forall_ne_some.2 fun field h => unknown ⟨field, h⟩
      simp only [Filter.parse, hNone]
  | operator field wrong =>
      obtain ⟨field, hField⟩ := mem_fields_iff.1 field
      have hNone : (Operator.ofName? t.operator).filter field.admits = none := by
        rw [Option.filter_eq_none_iff]
        intro o ho
        rcases wrong with hUnknown | ⟨hDate, hPattern⟩
        · exact absurd (mem_operators_iff.2 ⟨o, ho⟩) hUnknown
        · obtain ⟨sentOnly, hSame⟩ := mem_dateFields_iff.1 hDate
          obtain ⟨o', ho', hIs⟩ := mem_patternOperators_iff.1 hPattern
          rw [hField] at hSame
          rw [ho] at ho'
          cases hSame
          cases ho'
          simp [Field.admits, hIs]
      simp only [Filter.parse, hField, hNone]
  | value field operator blank =>
      obtain ⟨sentOnly, hField⟩ := mem_dateFields_iff.1 field
      obtain ⟨o, hOperator, hOrder⟩ := mem_orderOperators_iff.1 operator
      have hAdmits : (some o).filter (Field.admits (.date sentOnly)) = some o := by
        simp [Option.filter, Field.admits, hOrder]
      have hBlank : t.value.bind nonblank? = none := by
        rw [Option.bind_eq_none_iff]
        exact fun v hv => nonblank?_eq_none_iff.2 (blank v hv)
      simp only [Filter.parse, hField, hOperator, hAdmits, hBlank]

/-- A sound filter is read. -/
theorem parse_of_sound (h : t.Sound) : ∃ f, Filter.parse t = .ok f := by
  obtain ⟨field, hField⟩ := mem_fields_iff.1 h.field
  obtain ⟨o, hOperator⟩ := mem_operators_iff.1 h.operator
  cases field with
  | text column =>
      have hAdmits : (some o).filter (Field.admits (.text column)) = some o := by
        simp [Option.filter, Field.admits]
      exact ⟨.text column o (t.value.getD ""), by
        simp only [Filter.parse, hField, hOperator, hAdmits]⟩
  | date sentOnly =>
      obtain ⟨hNoPattern, v, hv, hSome⟩ := h.date (mem_dateFields_iff.2 ⟨sentOnly, hField⟩)
      have hOrder : o.isPattern = false := by
        rw [Bool.eq_false_iff]
        exact fun hIs => hNoPattern (mem_patternOperators_iff.2 ⟨o, hOperator, hIs⟩)
      have hAdmits : (some o).filter (Field.admits (.date sentOnly)) = some o := by
        simp [Option.filter, Field.admits, hOrder]
      have hValue : t.value.bind nonblank? = some (trimmed v) := by
        rw [Option.mem_def.1 hv, Option.bind_some, nonblank?, if_neg hSome]
      exact ⟨.date sentOnly o (.ofText (trimmed v)), by
        simp only [Filter.parse, hField, hOperator, hAdmits, hValue]⟩

private theorem not_sound_of_fault (h : t.Fault e) : ¬t.Sound := by
  intro hSound
  obtain ⟨f, hParse⟩ := parse_of_sound hSound
  rw [parse_of_fault h] at hParse
  cases hParse

private theorem sound_of_parse_ok (h : Filter.parse t = .ok f) : t.Sound := by
  refine (sound_or_fault t).resolve_right ?_
  rintro ⟨e, hFault⟩
  rw [parse_of_fault hFault] at h
  cases h

private theorem fault_of_parse_error (h : Filter.parse t = .error e) : t.Fault e := by
  rcases sound_or_fault t with hSound | ⟨e', hFault⟩
  · obtain ⟨f, hParse⟩ := parse_of_sound hSound
    rw [h] at hParse
    cases hParse
  · rw [parse_of_fault hFault] at h
    cases h
    exact hFault

private theorem isRelativeDuration_trimmed (v : String) :
    isRelativeDuration (trimmed v) = isRelativeDuration v := by
  unfold isRelativeDuration
  rw [trimmed, String.toList_ofList, Text.trim_trim]

/-- **The argument of a filter** is told from what the filter says. -/
theorem passes_of_parse (h : Filter.parse t = .ok f) : t.Passes f.argument := by
  have hSound := sound_of_parse_ok h
  cases reads_of_parse h with
  | text field operator =>
      have hText := mem_textFields_iff.2 ⟨_, field⟩
      simp only [Filter.argument]
      split
      · next hPattern =>
        exact .pattern hText (mem_patternOperators_iff.2 ⟨_, operator, hPattern⟩)
      · next hOrder =>
        exact .text hText
          (mem_orderOperators_iff.2 ⟨_, operator, Bool.eq_false_iff.2 hOrder⟩)
  | date field operator =>
      have hDate := mem_dateFields_iff.2 ⟨_, field⟩
      obtain ⟨hNoPattern, v, hv, -⟩ := hSound.date hDate
      have hOrder := (List.mem_append.1 hSound.operator).resolve_left hNoPattern
      have hValue : t.trimmedValue = trimmed v := by
        rw [FilterText.trimmedValue, Option.mem_def.1 hv, Option.getD_some]
      rw [hValue, DateValue.ofText, isRelativeDuration_trimmed]
      cases hDuration : isRelativeDuration v with
      | true => exact .relative hDate hOrder hv hDuration
      | false => exact .absolute hDate hOrder hv hDuration

end

/-! ## Rules -/

/-- Why a rule does not compile: its mode has no meaning, or else one of its filters is
the first that is not sound. -/
inductive Refused (rule : Rule) : Error → Prop
  | mode (unknown : ¬(rule.matchMode = "all" ∨ rule.matchMode = "any")) :
      Refused rule (.matchMode rule.matchMode)
  | filter {before after : List FilterText} {t : FilterText} {e : Error}
      (mode : rule.matchMode = "all" ∨ rule.matchMode = "any")
      (filters : rule.filters = before ++ t :: after) (sound : ∀ s ∈ before, s.Sound)
      (fault : t.Fault e) : Refused rule e

private theorem parse_mode_eq_error {name : String} {e : Error}
    (h : MatchMode.parse name = .error e) :
    ¬(name = "all" ∨ name = "any") ∧ e = .matchMode name := by
  unfold MatchMode.parse at h
  split at h
  · cases h
  · split at h
    · cases h
    · next hAll hAny =>
      cases h
      exact ⟨not_or.2 ⟨hAll, hAny⟩, rfl⟩

private theorem name_cases (mode : MatchMode) : mode.name = "all" ∨ mode.name = "any" := by
  cases mode with
  | all => exact .inl rfl
  | any => exact .inr rfl

private theorem Refused.code {rule : Rule} {e : Error} (h : rule.Refused e) :
    e.code = .invalidRule := by
  cases h with
  | mode unknown => rfl
  | filter mode filters sound fault => cases fault <;> rfl

/-- A rule that compiles has nothing in it to be refused for. -/
theorem compiles_of_ok {rule : Rule} {query : Query} (h : rule.compile = .ok query) :
    (rule.matchMode = "all" ∨ rule.matchMode = "any") ∧
      (∀ t ∈ rule.filters, t.Sound) ∧
        List.Forall₂ FilterText.Passes rule.filters query.arguments := by
  obtain ⟨mode, filters, hMode, hFilters, rfl⟩ := compile_eq_ok h
  refine ⟨hMode ▸ name_cases mode, fun t ht => ?_, ?_⟩
  · have hRead := List.mem_map_of_mem (f := Filter.parse) ht
    rw [hFilters] at hRead
    obtain ⟨f, -, hParse⟩ := List.mem_map.1 hRead
    exact sound_of_parse_ok hParse.symm
  · have hSame : List.Forall₂ Eq (rule.filters.map Filter.parse) (filters.map .ok) := by
      rw [hFilters]
      exact List.forall₂_refl _
    have hEach : List.Forall₂ (fun t f => Filter.parse t = .ok f) rule.filters filters :=
      List.forall₂_map_right_iff.1 (List.forall₂_map_left_iff.1 hSame)
    exact List.forall₂_map_right_iff.2 (hEach.imp fun _ _ => passes_of_parse)

/-- A rule that does not is refused for one thing. -/
theorem refused_of_error {rule : Rule} {e : Error} (h : rule.compile = .error e) :
    rule.Refused e := by
  cases hMode : MatchMode.parse rule.matchMode with
  | error e' =>
      obtain ⟨hUnknown, rfl⟩ := parse_mode_eq_error hMode
      simp only [compile, hMode, bind, Except.bind, Except.error.injEq] at h
      exact h ▸ .mode hUnknown
  | ok mode =>
      have hFilters : rule.filters.mapM Filter.parse = .error e := by
        cases hFilters : rule.filters.mapM Filter.parse with
        | error e' => simpa [compile, hMode, hFilters, bind, Except.bind] using h
        | ok filters => simp [compile, hMode, hFilters, bind, Except.bind, pure, Except.pure] at h
      obtain ⟨before, t, after, hSplit, hBefore, hFault⟩ := first_error_of_mapM hFilters
      refine .filter (name_of_parse hMode ▸ name_cases mode) hSplit (fun s hs => ?_)
        (fault_of_parse_error hFault)
      obtain ⟨f, hParse⟩ := hBefore s hs
      exact sound_of_parse_ok hParse

private theorem not_compiles_of_refused {rule : Rule} {e : Error} (h : rule.Refused e) :
    ¬((rule.matchMode = "all" ∨ rule.matchMode = "any") ∧ ∀ t ∈ rule.filters, t.Sound) := by
  rintro ⟨hMode, hSound⟩
  cases h with
  | mode unknown => exact unknown hMode
  | filter _ filters _ fault => exact not_sound_of_fault fault (hSound _ (by simp [filters]))

/-- **Which rules compile**: those whose mode has a meaning and whose filters are sound.
They pass on one argument for each filter, in order. The others are refused as rules that
are not valid, for their mode, or for the first filter that is not sound. -/
theorem compile_outcome (rule : Rule) :
    ((∃ query, rule.compile = .ok query) ↔
      (rule.matchMode = "all" ∨ rule.matchMode = "any") ∧ ∀ t ∈ rule.filters, t.Sound) ∧
    match rule.compile with
    | .ok query => List.Forall₂ FilterText.Passes rule.filters query.arguments
    | .error e => rule.Refused e ∧ e.code = .invalidRule := by
  cases hCompile : rule.compile with
  | ok query =>
      obtain ⟨hMode, hSound, hPasses⟩ := compiles_of_ok hCompile
      exact ⟨⟨fun _ => ⟨hMode, hSound⟩, fun _ => ⟨query, rfl⟩⟩, hPasses⟩
  | error e =>
      have hRefused := refused_of_error hCompile
      refine ⟨⟨?_, fun h => absurd h (not_compiles_of_refused hRefused)⟩,
        hRefused, hRefused.code⟩
      rintro ⟨query, hOk⟩
      cases hOk

end Mailroom.Rule
