import Mailroom.Proofs.Rule.Selection

/-!
# Values stay out of the text of a query

A value that the user writes into a filter travels as an argument. The text of
the query is made of the columns, the mode, and one clause for each filter, and
a clause is made of the filter's field and operator; of a value it tells only
whether it is a duration, where the field is a date. So two rules that agree on
these have one text, letter by letter, and what looks like a piece of a query in
a value has no way into it.

Each clause has one placeholder, and no other part of the text has a question
mark in it. The argument for the placeholder is made of the one filter.
-/

namespace Mailroom.Rule

open Mailroom.Store (Column)
open Mailroom.Sql (Token)

/-! ## What a filter shows of itself -/

/-- Whether a filter is about a date. -/
def FilterText.isDate (t : FilterText) : Bool :=
  match Field.ofName? t.field with
  | some (.date _) => true
  | _ => false

/-- Whether a filter's operator takes a pattern. -/
def FilterText.isPattern (t : FilterText) : Bool :=
  (Operator.ofName? t.operator).any Operator.isPattern

/-- The value as a date filter takes it. -/
def FilterText.trimmedValue (t : FilterText) : String := trimmed (t.value.getD "")

/-- What the text of a query may tell of a filter: its field and its operator,
and, of a date, whether the value is a duration. -/
def FilterText.shape (t : FilterText) : String × String × Option Bool :=
  (t.field, t.operator,
    if t.isDate then some (isRelativeDuration t.trimmedValue) else none)

/-- The argument that a value becomes. A text is taken as it is, or as a pattern
with anything around it; a date without the blanks around it, and with a sign in
front if it is a duration. -/
def FilterText.argument (t : FilterText) : String :=
  if t.isDate then
    if isRelativeDuration t.trimmedValue then "-" ++ t.trimmedValue
    else t.trimmedValue
  else if t.isPattern then "%" ++ t.value.getD "" ++ "%"
  else t.value.getD ""

/-- What reading a filter makes of it. -/
inductive Reads (t : FilterText) : Filter → Prop
  | text {c : Column} {o : Operator} (field : Field.ofName? t.field = some (.text c))
      (operator : Operator.ofName? t.operator = some o) :
      Reads t (.text c o (t.value.getD ""))
  | date {sentOnly : Bool} {o : Operator}
      (field : Field.ofName? t.field = some (.date sentOnly))
      (operator : Operator.ofName? t.operator = some o) :
      Reads t (.date sentOnly o (.ofText t.trimmedValue))

/-- A value that is not blank is read without the blanks around it. -/
theorem trimmedValue_of_nonblank {t : FilterText} {v : String}
    (h : t.value.bind nonblank? = some v) : t.trimmedValue = v := by
  obtain ⟨s, hValue, hSome⟩ := Option.bind_eq_some_iff.1 h
  unfold nonblank? at hSome
  split at hSome
  · cases hSome
  · cases hSome
    rw [FilterText.trimmedValue, hValue, Option.getD_some]

theorem reads_of_parse {t : FilterText} {f : Filter}
    (h : Filter.parse t = .ok f) : Reads t f := by
  unfold Filter.parse at h
  split at h
  · cases h
  · rename_i field hField
    split at h
    · cases h
    · rename_i o ho
      have hOperator := (Option.filter_eq_some_iff.1 ho).1
      split at h
      · cases h
        exact .text hField hOperator
      · split at h
        · cases h
        · rename_i v hValue
          cases h
          rw [← trimmedValue_of_nonblank hValue]
          exact .date hField hOperator

/-! ## Clauses and arguments -/

/-- The clause that goes with a shape. No value is needed to write it down. -/
def clauseOf : String × String × Option Bool → String
  | (field, operator, duration) =>
      match Field.ofName? field, Operator.ofName? operator with
      | some (.text c), some o => (Filter.text c o "").clause
      | some (.date sentOnly), some o =>
          (Filter.date sentOnly o
            (if duration = some true then .relative "" else .absolute "")).clause
      | _, _ => ""

/-- **A clause** tells no more of a filter than its shape. -/
theorem clause_of_reads {t : FilterText} {f : Filter} (h : Reads t f) :
    f.clause = clauseOf t.shape := by
  cases h with
  | text field operator =>
      simp only [clauseOf, FilterText.shape, field, operator]
      rfl
  | date field operator =>
      simp only [clauseOf, FilterText.shape, FilterText.isDate, field, operator,
        DateValue.ofText, if_true, Option.some_inj]
      split
      · rfl
      · rfl

/-- The argument for a filter's placeholder is made of the filter. -/
theorem argument_of_reads {t : FilterText} {f : Filter} (h : Reads t f) :
    f.argument = t.argument := by
  cases h with
  | text field operator =>
      simp [Filter.argument, FilterText.argument, FilterText.isDate, field,
        FilterText.isPattern, operator]
  | date field operator =>
      simp only [FilterText.argument, FilterText.isDate, field, if_true,
        DateValue.ofText]
      split
      · rfl
      · rfl

/-- What is made of each filter that was read is made of the filters as they
were written. -/
theorem map_of_parse {α : Type} {g : Filter → α} {r : FilterText → α}
    (hEach : ∀ {t f}, Reads t f → g f = r t) {ts : List FilterText}
    {fs : List Filter} (h : ts.map Filter.parse = fs.map .ok) :
    fs.map g = ts.map r := by
  induction ts generalizing fs with
  | nil => rw [List.map_eq_nil_iff.1 h.symm, List.map_nil, List.map_nil]
  | cons t ts ih =>
      obtain ⟨f, rest, rfl, hFirst, hRest⟩ := List.map_eq_cons_iff.1 h.symm
      rw [List.map_cons, List.map_cons, ih hRest.symm,
        hEach (reads_of_parse hFirst.symm)]

/-! ## Placeholders -/

/-- No operator has a question mark in its sign. -/
theorem count_sign (o : Operator) : o.sign.toList.count '?' = 0 := by
  cases o <;> decide

private theorem count_side (v : DateValue) :
    (Filter.DateValue.side v).toList.count '?' = 1 := by
  cases v with
  | relative => exact (by decide : "datetime('now', ?)".toList.count '?' = 1)
  | absolute => exact (by decide : "?".toList.count '?' = 1)

/-- No column has one in its name. -/
theorem count_quoted (c : Column) : c.quoted.toList.count '?' = 0 := by
  cases c <;> decide

/-- **A clause has one question mark.** -/
theorem count_clause (f : Filter) : f.clause.toList.count '?' = 1 := by
  have hPlaceholder : " ?".toList.count '?' = 1 := by decide
  have hBlank : " ".toList.count '?' = 0 := by decide
  cases f with
  | text c o value =>
      simp only [Filter.clause, String.toList_append, List.count_append,
        count_quoted, count_sign, hPlaceholder, hBlank]
  | date sentOnly o v =>
      have hSent : ("( ".toList.count '?' = 0 ∧ " AND ".toList.count '?' = 0) ∧
          " LIKE '%\"".toList.count '?' = 0 ∧
            Message.sentLabel.toList.count '?' = 0 ∧
              "\"%' )".toList.count '?' = 0 := by decide
      simp only [Filter.clause]
      split
      · simp only [String.toList_append, List.count_append, count_quoted,
          count_sign, count_side, hBlank, hSent]
      · simp only [String.toList_append, List.count_append, count_quoted,
          count_sign, count_side, hBlank]

/-- Joining texts adds none to the question marks that they have, if the
separator has none. -/
theorem count_intercalate {separator : String}
    (hSeparator : separator.toList.count '?' = 0) {n : Nat} {ss : List String}
    (hEach : ∀ s ∈ ss, s.toList.count '?' = n) :
    (separator.intercalate ss).toList.count '?' = n * ss.length := by
  cases ss with
  | nil => rfl
  | cons s ss =>
      obtain ⟨hFirst, hLater⟩ := List.forall_mem_cons.1 hEach
      rw [toList_intercalate_cons, List.count_append, hFirst, List.length_cons]
      induction ss with
      | nil => simp
      | cons t ss ih =>
          obtain ⟨hNext, hRest⟩ := List.forall_mem_cons.1 hLater
          have hStep := ih (List.forall_mem_cons.2 ⟨hFirst, hRest⟩) hRest
          rw [List.flatMap_cons, List.count_append, List.count_append,
            hSeparator, hNext, List.length_cons, Nat.mul_succ]
          omega

/-- **The question marks of a query** are those of its clauses. -/
theorem count_sql (mode : MatchMode) (filters : List Filter) :
    (queryOf mode filters).sql.toList.count '?' = filters.length := by
  have hJoiner : mode.joiner.toList.count '?' = 0 := by cases mode <;> decide
  have hColumns : Store.selectList.toList.count '?' = 0 := by
    have hEach : ∀ s ∈ Column.all.map Column.quoted, s.toList.count '?' = 0 := by
      intro s hs
      obtain ⟨c, -, rfl⟩ := List.mem_map.1 hs
      exact count_quoted c
    rw [Store.selectList, count_intercalate (by decide) hEach, Nat.zero_mul]
  have hClauses : (mode.joiner.intercalate
      (filters.map Filter.clause)).toList.count '?' = filters.length := by
    have hEach : ∀ s ∈ filters.map Filter.clause, s.toList.count '?' = 1 := by
      intro s hs
      obtain ⟨f, -, rfl⟩ := List.mem_map.1 hs
      exact count_clause f
    rw [count_intercalate hJoiner hEach, List.length_map, Nat.one_mul]
  have hWords : "SELECT ".toList.count '?' = 0 ∧
      " FROM messages".toList.count '?' = 0 ∧
        " WHERE ".toList.count '?' = 0 := by decide
  simp only [queryOf, String.toList_append, List.count_append, hColumns, hWords,
    Nat.zero_add]
  cases filters with
  | nil => rfl
  | cons f fs =>
      rw [if_neg (by simp), String.toList_append, List.count_append, hClauses,
        hWords.2.2, Nat.zero_add]

/-- The words of an operator have no placeholder among them. -/
theorem count_operator (o : Operator) : o.tokens.count (.sign "?") = 0 := by
  cases o <;> decide

private theorem count_dateTokens (v : DateValue) : v.tokens.count (.sign "?") = 1 := by
  cases v <;> rfl

private theorem count_tokens (f : Filter) : f.tokens.count (.sign "?") = 1 := by
  cases f with
  | text c o value =>
      simp [Filter.tokens, List.count_append, count_operator]
  | date sentOnly o v =>
      have hSent : sentTokens.count (.sign "?") = 0 := by decide
      simp only [Filter.tokens]
      split
      · simp [List.count_append, count_operator, count_dateTokens, hSent]
      · simp [List.count_append, count_operator, count_dateTokens]

/-- Read as words, a query has as many placeholders: none of the question marks
stands in a name or in a text. -/
theorem count_queryTokens (mode : MatchMode) (filters : List Filter) :
    (queryTokens mode filters).count (.sign "?") = filters.length := by
  have hColumns : (columnTokens Column.all).count (.sign "?") = 0 := by decide
  have hLater (fs : List Filter) :
      (laterTokens mode fs).count (.sign "?") = fs.length := by
    induction fs with
    | nil => rfl
    | cons f fs ih =>
        have hStep : laterTokens mode (f :: fs) =
            .word mode.keyword :: (f.tokens ++ laterTokens mode fs) := rfl
        simp [hStep, List.count_append, ih, count_tokens]
        omega
  cases filters with
  | nil => simp [queryTokens, conditionTokens, List.count_append, hColumns]
  | cons f fs =>
      simp [queryTokens, conditionTokens, List.count_append, hColumns, hLater,
        count_tokens]
      omega

/-! ## Two rules -/

/-- **A query hides values.** Of two rules with one mode whose filters have the
same shapes, the queries have the same text, whatever the values, the names and
the actions are. There are as many placeholders and arguments as filters, and
the argument in a place is made of the filter in that place: filters with one
value there have one argument. -/
theorem query_hides_values {rule rule' : Rule} {query query' : Query}
    (hCompile : rule.compile = .ok query) (hCompile' : rule'.compile = .ok query')
    (hMode : rule.matchMode = rule'.matchMode)
    (hShapes : rule.filters.map FilterText.shape =
      rule'.filters.map FilterText.shape) :
    query.sql = query'.sql ∧
      (query.sql.toList.count '?' = rule.filters.length ∧
        (Token.ofText? query.sql).map (·.count (.sign "?")) =
          some rule.filters.length ∧
        query.arguments.length = rule.filters.length) ∧
      query.arguments = rule.filters.map FilterText.argument ∧
      ∀ (i : Nat) (t t' : FilterText), rule.filters[i]? = some t →
        rule'.filters[i]? = some t' → t.value = t'.value →
          query.arguments[i]? = query'.arguments[i]? := by
  obtain ⟨mode, filters, hName, hFilters, rfl⟩ := compile_eq_ok hCompile
  obtain ⟨mode', filters', hName', hFilters', rfl⟩ := compile_eq_ok hCompile'
  have hSameMode : mode = mode' := by
    have hParse := MatchMode.parse_name mode
    rw [← hName, hMode, hName', MatchMode.parse_name] at hParse
    exact (Except.ok.inj hParse).symm
  have hLength : filters.length = rule.filters.length := by
    simpa using (congrArg List.length hFilters).symm
  have hClauses : filters.map Filter.clause = filters'.map Filter.clause := by
    rw [map_of_parse (r := clauseOf ∘ FilterText.shape) clause_of_reads hFilters,
      map_of_parse (r := clauseOf ∘ FilterText.shape) clause_of_reads hFilters',
      ← List.map_map, ← List.map_map, hShapes]
  have hEmpty : filters.isEmpty = filters'.isEmpty := by
    simpa using congrArg List.isEmpty hClauses
  have hArguments := map_of_parse argument_of_reads hFilters
  have hArguments' := map_of_parse argument_of_reads hFilters'
  refine ⟨?_, ⟨?_, ?_, ?_⟩, hArguments, ?_⟩
  · simp only [queryOf, hSameMode, hClauses, hEmpty]
  · rw [count_sql, hLength]
  · rw [words_queryOf, Option.map_some, count_queryTokens, hLength]
  · rw [length_arguments, hLength]
  · intro i t t' ht ht' hValue
    have hShape := congrArg (·[i]?) hShapes
    simp only [List.getElem?_map, ht, ht', Option.map_some, Option.some_inj,
      FilterText.shape, Prod.mk.injEq] at hShape
    have hSame : t = t' := by
      obtain ⟨field, operator, value⟩ := t
      obtain ⟨field', operator', value'⟩ := t'
      simp_all
    show (filters.map Filter.argument)[i]? = (filters'.map Filter.argument)[i]?
    rw [hArguments, hArguments', List.getElem?_map, List.getElem?_map, ht, ht',
      hSame]

/-- A value that looks like a piece of a query, and none at all. -/
theorem query_hides_values_fragment :
    let rule : Rule := ⟨"a", "any", [⟨"subject", "contains", some "' OR ? = ? --"⟩,
      ⟨"date_sent", "gte", some " 2 days "⟩], []⟩
    let rule' : Rule := ⟨"b", "any", [⟨"subject", "contains", none⟩,
      ⟨"date_sent", "gte", some "10 months"⟩], [⟨"read", none⟩]⟩
    ∃ query query', rule.compile = .ok query ∧ rule'.compile = .ok query' ∧
      rule.filters.map FilterText.shape = rule'.filters.map FilterText.shape ∧
        query.sql = query'.sql ∧ query.sql.toList.count '?' = 2 ∧
          query.arguments = ["%' OR ? = ? --%", "-2 days"] := by
  intro rule rule'
  have hShapes : rule.filters.map FilterText.shape =
      rule'.filters.map FilterText.shape := by decide
  have hCompile : rule.compile = .ok (queryOf .any [.text .subject .contains
      "' OR ? = ? --", .date true .atLeast (.relative "2 days")]) := rfl
  have hCompile' : rule'.compile = .ok (queryOf .any [.text .subject .contains "",
      .date true .atLeast (.relative "10 months")]) := rfl
  obtain ⟨hSql, ⟨hCount, -, -⟩, hArguments, -⟩ :=
    query_hides_values hCompile hCompile' rfl hShapes
  exact ⟨_, _, rfl, rfl, hShapes, hSql, hCount, hArguments.trans (by decide)⟩

end Mailroom.Rule
