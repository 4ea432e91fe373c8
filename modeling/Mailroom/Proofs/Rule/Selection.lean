import Mailroom.Proofs.Rule.QueryCondition
import Mailroom.Proofs.Store.Contents
import Mailroom.Store.Query

/-!
# What a compiled rule selects

A filter has a meaning of its own: it holds on a row, or it does not. A
comparison with null does not hold, and neither does a pattern on null, be it
about containing or lacking. The condition of a compiled query has three truth
values and takes its arguments by their places. This module shows that the two
agree: a row is selected exactly if the rule's filters hold on it, all of them
or one of them, as the rule's mode says.

`Tests` is the invariant of the induction over the filters: evaluating the
condition of the first ones succeeds, and gives *true* exactly if they hold on
their own. Unknown and false may be mixed up on the way, and that is harmless:
neither selects the row.

## Main results

* `tests_filter`: one clause, with its argument at its place.
* `tests_joined_all`, `tests_joined_any`: clauses joined by the mode.
* `query_queryOf_iff`: when a compiled query has an answer, and which.
* `compiled_rule_selects`: the rows that a rule's query gives.
-/

namespace Mailroom.Store

open Sql (Condition)

/-! ## Rows that can be decided -/

namespace Row

/-- Whether a condition, if there is one, is true on a row. -/
def decision (condition : Option Condition) (arguments : List String) (now : Int)
    (row : Row) : Except Error Bool :=
  match condition with
  | none => .ok true
  | some c => row.satisfies c arguments now

/-- Whether a row is decided to be one that is asked for. -/
def chosen (condition : Option Condition) (arguments : List String) (now : Int)
    (row : Row) : Bool :=
  match row.decision condition arguments now with
  | .ok b => b
  | .error _ => false

variable {condition : Option Condition} {arguments : List String} {now : Int}
  {row : Row}

theorem chosen_of_decision {b : Bool}
    (h : row.decision condition arguments now = .ok b) :
    row.chosen condition arguments now = b := by
  rw [chosen, h]

theorem chosen_eq_true : row.chosen condition arguments now = true ↔
    row.decision condition arguments now = .ok true := by
  refine ⟨fun h => ?_, chosen_of_decision⟩
  cases hDecision : row.decision condition arguments now with
  | ok b => rw [← h, chosen_of_decision hDecision]
  | error e => simp [chosen, hDecision] at h

end Row

/-- A query without an error decides on each row. -/
theorem selectRows_eq_ok_iff {condition : Option Condition}
    {arguments : List String} {now : Int} {rows selected : List Row} :
    selectRows condition arguments now rows = .ok selected ↔
      (∀ row ∈ rows, ∃ b, row.decision condition arguments now = .ok b) ∧
        selected = rows.filter (Row.chosen condition arguments now) := by
  induction rows generalizing selected with
  | nil => simp [selectRows, eq_comm]
  | cons row rows ih =>
      have hStep : selectRows condition arguments now (row :: rows) =
          (row.decision condition arguments now >>= fun b =>
            selectRows condition arguments now rows >>= fun rest =>
              .ok (if b then row :: rest else rest)) := by
        cases condition with
        | none => rfl
        | some c => rfl
      rw [hStep, bind_eq_ok_iff, List.forall_mem_cons, List.filter_cons,
        Row.chosen]
      cases row.decision condition arguments now with
      | error e => simp
      | ok b =>
          simp only [Except.ok.injEq, exists_eq_left', bind_eq_ok_iff, ih]
          constructor
          · rintro ⟨rest, ⟨hAll, rfl⟩, rfl⟩
            exact ⟨⟨⟨b, rfl⟩, hAll⟩, rfl⟩
          · rintro ⟨⟨-, hAll⟩, rfl⟩
            exact ⟨_, ⟨hAll, rfl⟩, rfl⟩

end Mailroom.Store

namespace Mailroom.Rule

open Mailroom.Store (Column Row)
open Mailroom.Sql (Value Affinity Scope Fault Truth Condition Like.matched
  evalLike evalComparison compareValues)

/-! ## What a filter means -/

/-- The orders that an operator accepts; a pattern operator is about none. -/
def Operator.accepts : Operator → Ordering → Bool
  | equal, o => o = .eq
  | unequal, o => o ≠ .eq
  | greater, o => o = .gt
  | less, o => o = .lt
  | atLeast, o => o ≠ .lt
  | atMost, o => o ≠ .gt
  | contains, _ => false
  | lacks, _ => false

/-- Whether a column compares with a value as an operator demands. The value is
converted towards the column first, and null compares with nothing. -/
def compares (row : Row) (c : Column) (o : Operator) (v : Value) : Bool :=
  match compareValues (row.get c) (c.affinity.apply v) with
  | some order => o.accepts order
  | none => false

/-- Whether a column matches a pattern; nothing can be said of null. -/
def matches? (row : Row) (c : Column) (pattern : String) : Option Bool :=
  (row.get c).pattern?.map fun bytes =>
    Like.matched (Text.Utf8.encode pattern.toList) bytes

/-- The moment that a date filter compares with; null if there is none so long
ago. -/
def DateValue.moment (now : Int) : DateValue → Value
  | relative duration =>
      (Sql.Moment.text? now ("-" ++ duration)).elim .null .text
  | absolute moment => .text moment

/-- Whether a filter holds on a row. -/
def Filter.holds (now : Int) (row : Row) : Filter → Bool
  | text column operator value =>
      match operator with
      | .contains => matches? row column ("%" ++ value ++ "%") = some true
      | .lacks => matches? row column ("%" ++ value ++ "%") = some false
      | operator => compares row column operator (.text value)
  | date sentOnly operator value =>
      compares row .internalDate operator (value.moment now) &&
        (!sentOnly || matches? row .labelIds sentPattern = some true)

/-- Whether a filter as written holds on a row. -/
def FilterText.holds (now : Int) (row : Row) (f : FilterText) : Bool :=
  match Filter.parse f with
  | .ok f => f.holds now row
  | .error _ => false

/-- The condition of a query text. -/
def Query.condition? (query : Query) : Option Condition :=
  (Sql.Select.ofText? query.sql).bind (·.condition)

/-- A rule's query is within the limits of the store: its condition is not too
deep, and no pattern is too long. -/
structure WithinLimits (rule : Rule) (query : Query) : Prop where
  depth : ∀ c ∈ query.condition?, c.depth ≤ Condition.deepest
  patterns : ∀ f ∈ rule.filters, f.operator ∈ ["contains", "ncontains"] →
    (Text.Utf8.encode ("%" ++ f.value.getD "" ++ "%").toList).length ≤
      Sql.maxPattern

/-! ## Evaluating to true -/

/-- The evaluation succeeds, and gives true exactly if the statement holds. -/
def Tests (result : Except Fault Truth) (p : Prop) : Prop :=
  ∃ t, result = .ok t ∧ (t = .yes ↔ p)

private theorem Tests.ofBool {b : Bool} : Tests (.ok (Truth.ofBool b)) (b = true) :=
  ⟨_, rfl, by cases b <;> simp [Truth.ofBool]⟩

/-- The right side of `AND` is only looked at when the left side is true. -/
theorem Tests.both {scope : Scope} {a b : Condition} {p q : Prop}
    (ha : Tests (a.eval scope) p) (hb : Tests (b.eval scope) q) :
    Tests ((Condition.both a b).eval scope) (p ∧ q) := by
  obtain ⟨t, ht, hp⟩ := ha
  obtain ⟨u, hu, hq⟩ := hb
  cases t with
  | yes =>
      refine ⟨u, ?_, ?_⟩
      · simp [Condition.eval, ht, hu, bind, Except.bind]
      · rw [hq, and_iff_right (hp.1 rfl)]
  | no =>
      have hNot : ¬p := fun h => by cases hp.2 h
      exact ⟨.no, by simp [Condition.eval, ht, bind, Except.bind, pure, Except.pure],
        by simp [hNot]⟩
  | unknown =>
      have hNot : ¬p := fun h => by cases hp.2 h
      exact ⟨.unknown, by simp [Condition.eval, ht, bind, Except.bind, pure,
        Except.pure], by simp [hNot]⟩

/-- A left side of `OR` that is not true leaves it to the right side. -/
theorem Tests.either {scope : Scope} {a b : Condition} {p q : Prop}
    (ha : Tests (a.eval scope) p) (hb : Tests (b.eval scope) q) :
    Tests ((Condition.either a b).eval scope) (p ∨ q) := by
  obtain ⟨t, ht, hp⟩ := ha
  obtain ⟨u, hu, hq⟩ := hb
  have hOr (t : Truth) (h : t ≠ .yes) : t.or u = .yes ↔ u = .yes := by
    cases t <;> cases u <;> simp_all [Truth.or]
  cases t with
  | yes =>
      refine ⟨.yes, ?_, by simp [hp.1 rfl]⟩
      simp [Condition.eval, ht, bind, Except.bind, pure, Except.pure]
  | no =>
      have hNot : ¬p := fun h => by cases hp.2 h
      refine ⟨Truth.or .no u, ?_, ?_⟩
      · simp [Condition.eval, ht, hu, bind, Except.bind, pure, Except.pure]
      · rw [hOr .no (by decide), hq, or_iff_right hNot]
  | unknown =>
      have hNot : ¬p := fun h => by cases hp.2 h
      refine ⟨Truth.or .unknown u, ?_, ?_⟩
      · simp [Condition.eval, ht, hu, bind, Except.bind, pure, Except.pure]
      · rw [hOr .unknown (by decide), hq, or_iff_right hNot]

/-! ## Comparisons -/

/-- A comparison converts the side that is no column. -/
theorem align_column (v w : Value) (a : Affinity) :
    Sql.align (v, some a) (w, none) = (v, a.apply w) := by
  cases a <;> rfl

private theorem holds_comparison (o : Operator) (order : Ordering) :
    o.comparison.holds order = o.accepts order := by
  cases o <;> rfl

/-- A comparison by order. -/
theorem tests_comparison (row : Row) (c : Column) {o : Operator} (v : Value)
    (hOrder : o.isPattern = false) :
    Tests (evalComparison (row.get c, some c.affinity) (v, none) o.comparison)
      (compares row c o v = true) := by
  have hEval : evalComparison (row.get c, some c.affinity) (v, none)
      o.comparison = .ok ((compareValues (row.get c) (c.affinity.apply v)).elim
        .unknown fun order => Truth.ofBool (o.accepts order)) := by
    simp only [← holds_comparison]
    unfold evalComparison
    rw [align_column]
    cases o with
    | contains => cases hOrder
    | lacks => cases hOrder
    | _ => simp only; cases compareValues (row.get c) (c.affinity.apply v) <;> rfl
  rw [hEval, compares]
  cases compareValues (row.get c) (c.affinity.apply v) with
  | none => exact ⟨.unknown, rfl, by simp⟩
  | some order => exact Tests.ofBool

/-- A pattern that is not too long. -/
theorem evalLike_eq {row : Row} {c : Column} {pattern : String}
    (hPattern : (Text.Utf8.encode pattern.toList).length ≤ Sql.maxPattern) :
    evalLike (row.get c) (.text pattern) =
      .ok ((matches? row c pattern).elim .unknown Truth.ofBool) := by
  have hText : (Value.text pattern).pattern? =
      some (Text.Utf8.encode pattern.toList) := rfl
  unfold evalLike matches?
  simp only [hText, if_neg (Nat.not_lt.2 hPattern)]
  cases (row.get c).pattern? <;> rfl

private theorem tests_like (row : Row) (c : Column) (pattern : String)
    (hPattern : (Text.Utf8.encode pattern.toList).length ≤ Sql.maxPattern) :
    Tests (evalLike (row.get c) (.text pattern))
      (matches? row c pattern = some true) := by
  rw [evalLike_eq hPattern]
  cases matches? row c pattern with
  | none => exact ⟨.unknown, rfl, by simp⟩
  | some b => exact ⟨Truth.ofBool b, rfl, by cases b <;> simp [Truth.ofBool]⟩

/-- Null neither contains nor lacks anything. -/
theorem tests_unlike (row : Row) (c : Column) (pattern : String)
    (hPattern : (Text.Utf8.encode pattern.toList).length ≤ Sql.maxPattern) :
    Tests ((evalLike (row.get c) (.text pattern)).map Truth.not)
      (matches? row c pattern = some false) := by
  rw [evalLike_eq hPattern]
  cases matches? row c pattern with
  | none => exact ⟨.unknown, rfl, by simp⟩
  | some b =>
      refine ⟨(Truth.ofBool b).not, rfl, ?_⟩
      cases b <;> simp [Truth.ofBool, Truth.not]

/-! ## Filters -/

/-- What reading makes sure of, and what the store's limits ask for: a date is
not matched against a pattern, and a pattern is not too long. -/
def Filter.Fits : Filter → Prop
  | text _ operator value => operator.isPattern = true →
      (Text.Utf8.encode ("%" ++ value ++ "%").toList).length ≤ Sql.maxPattern
  | date _ operator _ => operator.isPattern = false

private theorem ofName?_name (c : Column) : Column.ofName? c.name = some c := by
  cases c <;> decide

theorem scope_column (row : Row) (arguments : List String) (now : Int)
    (c : Column) : (row.scope arguments now).column c.name =
      (row.get c, c.affinity) := by
  simp [Row.scope, ofName?_name]

/-- The list of a message's labels has the label of sent messages in it. -/
theorem tests_sent (row : Row) (arguments : List String) (now : Int) :
    Tests (sentCondition.eval (row.scope arguments now))
      (matches? row .labelIds sentPattern = some true) := by
  have hLike := tests_like row .labelIds sentPattern (by decide)
  simpa [sentCondition, Condition.eval, Sql.Operand.value, scope_column,
    evalComparison] using hLike

private theorem value_operand (v : DateValue) (row : Row) (now : Int)
    {arguments : List String} {k : Nat} {sentOnly : Bool} {o : Operator}
    (hArgument : arguments[k]? = some (Filter.argument (.date sentOnly o v))) :
    (v.operand k).value (row.scope arguments now) = (v.moment now, none) := by
  cases v with
  | relative duration =>
      simp [DateValue.operand, Sql.Operand.value, Row.scope, hArgument,
        Filter.argument, DateValue.moment]
  | absolute moment =>
      simp [DateValue.operand, Sql.Operand.value, Row.scope, hArgument,
        Filter.argument, DateValue.moment]

private theorem tests_text {row : Row} {arguments : List String} {now : Int} {k : Nat}
    {c : Column} {o : Operator} {value : String}
    (hFits : (Filter.text c o value).Fits)
    (hArgument : arguments[k]? = some (Filter.argument (.text c o value))) :
    Tests (((Filter.text c o value).condition k).eval
      (row.scope arguments now)) ((Filter.text c o value).holds now row = true) := by
  have hScope : (row.scope arguments now).arguments = arguments := rfl
  simp only [Filter.condition, Condition.eval, Sql.Operand.value, scope_column,
    hScope, hArgument, Option.elim_some]
  cases o with
  | contains =>
      have hLike := tests_like row c _ (hFits rfl)
      simpa [Filter.holds, Filter.argument, Operator.isPattern,
        Operator.comparison, evalComparison] using hLike
  | lacks =>
      have hUnlike := tests_unlike row c _ (hFits rfl)
      simpa [Filter.holds, Filter.argument, Operator.isPattern,
        Operator.comparison, evalComparison] using hUnlike
  | equal => exact tests_comparison row c _ rfl
  | unequal => exact tests_comparison row c _ rfl
  | greater => exact tests_comparison row c _ rfl
  | less => exact tests_comparison row c _ rfl
  | atLeast => exact tests_comparison row c _ rfl
  | atMost => exact tests_comparison row c _ rfl

theorem tests_date {row : Row} {arguments : List String} {now : Int} {k : Nat}
    {sentOnly : Bool} {o : Operator} {v : DateValue}
    (hFits : (Filter.date sentOnly o v).Fits)
    (hArgument : arguments[k]? = some (Filter.argument (.date sentOnly o v))) :
    Tests (((Filter.date sentOnly o v).condition k).eval
      (row.scope arguments now)) ((Filter.date sentOnly o v).holds now row = true) := by
  have hDate := tests_comparison row .internalDate (v.moment now) hFits
  have hValue := value_operand v row now hArgument
  have hComparison : Tests ((Condition.compare (.column Column.internalDate.name)
      o.comparison (v.operand k)).eval (row.scope arguments now))
      (compares row .internalDate o (v.moment now) = true) := by
    have hColumn : (Sql.Operand.column Column.internalDate.name).value
        (row.scope arguments now) =
          (row.get .internalDate, some Column.internalDate.affinity) := by
      simp [Sql.Operand.value, scope_column]
    simpa only [Condition.eval, hValue, hColumn] using hDate
  cases sentOnly with
  | false => simpa [Filter.condition, Filter.holds] using hComparison
  | true =>
      have hBoth := hComparison.both (tests_sent row arguments now)
      simpa [Filter.condition, Filter.holds] using hBoth

/-- **One clause**: with the filter's argument at the clause's place, the clause
is true exactly if the filter holds. -/
theorem tests_filter (row : Row) (now : Int) {arguments : List String} {k : Nat}
    {f : Filter} (hFits : f.Fits) (hArgument : arguments[k]? = some f.argument) :
    Tests ((f.condition k).eval (row.scope arguments now))
      (f.holds now row = true) := by
  cases f with
  | text c o value => exact tests_text hFits hArgument
  | date sentOnly o v => exact tests_date hFits hArgument

/-! ## Several filters -/

section Joined

variable {row : Row} {arguments : List String} {now : Int}

/-- The first of the remaining arguments, and those after it. -/
theorem arguments_cons {k : Nat} {f : Filter} {fs : List Filter}
    (h : arguments.drop k = (f :: fs).map Filter.argument) :
    arguments[k]? = some f.argument ∧
      arguments.drop (k + 1) = fs.map Filter.argument := by
  constructor
  · have hHead := congrArg (·[0]?) h
    simpa using hHead
  · rw [← List.tail_drop, h]
    rfl

private theorem tests_joined_all {k : Nat} {c : Condition} {p : Prop}
    (filters : List Filter) (hFits : ∀ f ∈ filters, f.Fits)
    (hArguments : arguments.drop k = filters.map Filter.argument)
    (hc : Tests (c.eval (row.scope arguments now)) p) :
    Tests ((joined .all k c filters).eval (row.scope arguments now))
      (p ∧ ∀ f ∈ filters, f.holds now row = true) := by
  induction filters generalizing k c p with
  | nil => simpa [joined] using hc
  | cons f fs ih =>
      obtain ⟨hFirst, hRest⟩ := arguments_cons hArguments
      have hOne := tests_filter row now (hFits f (by simp)) hFirst
      have hMore := ih (fun g hg => hFits g (by simp [hg])) hRest (hc.both hOne)
      simpa [joined, MatchMode.connect, and_assoc] using hMore

private theorem tests_joined_any {k : Nat} {c : Condition} {p : Prop}
    (filters : List Filter) (hFits : ∀ f ∈ filters, f.Fits)
    (hArguments : arguments.drop k = filters.map Filter.argument)
    (hc : Tests (c.eval (row.scope arguments now)) p) :
    Tests ((joined .any k c filters).eval (row.scope arguments now))
      (p ∨ ∃ f ∈ filters, f.holds now row = true) := by
  induction filters generalizing k c p with
  | nil => simpa [joined] using hc
  | cons f fs ih =>
      obtain ⟨hFirst, hRest⟩ := arguments_cons hArguments
      have hOne := tests_filter row now (hFits f (by simp)) hFirst
      have hMore := ih (fun g hg => hFits g (by simp [hg])) hRest
        (hc.either hOne)
      simpa [joined, MatchMode.connect, or_assoc] using hMore

end Joined

/-- Whether a mode is satisfied by filters on a row; without filters it is. -/
def MatchMode.satisfied (mode : MatchMode) (filters : List Filter) (now : Int)
    (row : Row) : Bool :=
  filters.isEmpty ||
    match mode with
    | all => filters.all (·.holds now row)
    | any => filters.any (·.holds now row)

/-- The condition of filters selects a row as their mode says. -/
theorem satisfies_conditionOf {mode : MatchMode} {filters : List Filter}
    {c : Condition} (hc : conditionOf mode filters = some c)
    (hFits : ∀ f ∈ filters, f.Fits) (row : Row) (now : Int) :
    row.satisfies c (filters.map Filter.argument) now =
      .ok (mode.satisfied filters now row) := by
  cases filters with
  | nil => cases hc
  | cons f fs =>
      cases hc
      have hArguments : ((f :: fs).map Filter.argument).drop 0 =
          (f :: fs).map Filter.argument := rfl
      obtain ⟨hFirst, hRest⟩ := arguments_cons hArguments
      have hOne := tests_filter row now (hFits f (by simp)) hFirst
      have hLater : ∀ g ∈ fs, g.Fits := fun g hg => hFits g (by simp [hg])
      have hAll : Tests ((joined mode 1 (f.condition 0) fs).eval
          (row.scope ((f :: fs).map Filter.argument) now))
          (mode.satisfied (f :: fs) now row = true) := by
        cases mode with
        | all =>
            have hJoined := tests_joined_all fs hLater hRest hOne
            simpa [MatchMode.satisfied] using hJoined
        | any =>
            have hJoined := tests_joined_any fs hLater hRest hOne
            simpa [MatchMode.satisfied] using hJoined
      obtain ⟨t, ht, hYes⟩ := hAll
      rw [Row.satisfies, ht]
      simp only [hYes, Bool.decide_eq_true]

/-! ## Rows -/

/-- Whether filters select a row, or why that cannot be said. -/
def MatchMode.selection (mode : MatchMode) (filters : List Filter) (now : Int)
    (row : Row) : Except Error Bool :=
  row.decision (conditionOf mode filters) (filters.map Filter.argument) now

/-- Whether filters are found to select a row. -/
def MatchMode.chosen (mode : MatchMode) (filters : List Filter) (now : Int)
    (row : Row) : Bool :=
  row.chosen (conditionOf mode filters) (filters.map Filter.argument) now

/-- Within the limits it can always be said. -/
theorem selection_of_fits (mode : MatchMode) {filters : List Filter}
    (hFits : ∀ f ∈ filters, f.Fits) (now : Int) (row : Row) :
    mode.selection filters now row = .ok (mode.satisfied filters now row) := by
  cases filters with
  | nil => rfl
  | cons f fs => exact satisfies_conditionOf rfl hFits row now

/-- A row of full width is what its columns hold. -/
theorem map_get {row : Row} (hWidth : row.length = Column.all.length) :
    Column.all.map row.get = row := by
  have hPlaces : Column.all.map row.get =
      (Column.all.map Column.index).map fun i => row.getD i .null := by
    rw [List.map_map]
    rfl
  rw [hPlaces, Store.Column.all_index]
  apply List.ext_getElem
  · simp [hWidth, Column.all]
  · intro i hi hRow
    simp [List.getD_eq_getElem?_getD, List.getElem?_eq_getElem hRow]

theorem mapM_ofName?_all :
    (Column.all.map Column.name).mapM Column.ofName? = some Column.all := by
  decide

/-- **The answer of a compiled query**: there is one if the condition is not too
deep and each row can be decided, and it is the rows that are selected. -/
theorem query_queryOf_iff {s : Store} {t : Store.Tables}
    (hTables : s.tables = some t)
    (hWidth : ∀ row ∈ t.rows, row.length = Column.all.length)
    {mode : MatchMode} {filters : List Filter} {now : Int} {rows : List Row} :
    s.query (queryOf mode filters).sql (queryOf mode filters).arguments now =
        .ok rows ↔
      (∀ c ∈ conditionOf mode filters, c.depth ≤ Condition.deepest) ∧
        (∀ row ∈ t.rows, ∃ b, mode.selection filters now row = .ok b) ∧
          rows = t.rows.filter (mode.chosen filters now) := by
  have hDeep : ((conditionOf mode filters).any fun c =>
      Condition.deepest < c.depth) = true ↔
        ¬∀ c ∈ conditionOf mode filters, c.depth ≤ Condition.deepest := by
    cases conditionOf mode filters with
    | none => simp
    | some c => simp
  have hSame : (t.rows.filter (mode.chosen filters now)).map
      (fun row => Column.all.map row.get) =
        t.rows.filter (mode.chosen filters now) := by
    have hRow : ∀ row ∈ t.rows.filter (mode.chosen filters now),
        Column.all.map row.get = row :=
      fun row hRow => map_get (hWidth row (List.mem_filter.1 hRow).1)
    rw [List.map_congr_left hRow, List.map_id']
  have hArguments : (queryOf mode filters).arguments =
      filters.map Filter.argument := rfl
  have hRows : t.rows.filter (Row.chosen (conditionOf mode filters)
      (filters.map Filter.argument) now) =
        t.rows.filter (mode.chosen filters now) := rfl
  rw [Store.query, ofText?_queryOf, hArguments]
  simp only [Store.run, mapM_ofName?_all, Store.getTables, hTables]
  by_cases hDepth : ∀ c ∈ conditionOf mode filters, c.depth ≤ Condition.deepest
  · rw [if_neg fun h => hDeep.1 h hDepth]
    simp only [Store.bind_eq_ok_iff, Store.selectRows_eq_ok_iff,
      Except.ok.injEq, exists_eq_left']
    constructor
    · rintro ⟨_, ⟨hAll, rfl⟩, hAnswer⟩
      rw [hRows, hSame] at hAnswer
      exact ⟨hDepth, hAll, (Except.ok.inj hAnswer).symm⟩
    · rintro ⟨-, hAll, rfl⟩
      exact ⟨_, ⟨hAll, rfl⟩, congrArg Except.ok (hRows ▸ hSame)⟩
  · rw [if_pos (hDeep.2 hDepth)]
    refine ⟨fun h => (by cases h), fun h => absurd h.1 hDepth⟩

/-- A compiled query within the limits. -/
theorem query_queryOf {s : Store} {t : Store.Tables} (hTables : s.tables = some t)
    (hWidth : ∀ row ∈ t.rows, row.length = Column.all.length)
    {mode : MatchMode} {filters : List Filter} (hFits : ∀ f ∈ filters, f.Fits)
    (hDepth : ∀ c ∈ conditionOf mode filters, c.depth ≤ Condition.deepest)
    (now : Int) :
    s.query (queryOf mode filters).sql (queryOf mode filters).arguments now =
      .ok (t.rows.filter (mode.satisfied filters now)) := by
  have hSelection := selection_of_fits mode hFits now
  refine (query_queryOf_iff hTables hWidth).2
    ⟨hDepth, fun row _ => ⟨_, hSelection row⟩, ?_⟩
  exact List.filter_congr fun row _ => (Row.chosen_of_decision (hSelection row)).symm

/-- A query of filters gives rows of the message table, and needs one. -/
theorem mem_of_query {s : Store} {mode : MatchMode} {filters : List Filter}
    {now : Int} {rows : List Row}
    (h : s.query (queryOf mode filters).sql (queryOf mode filters).arguments now =
      .ok rows) :
    ∃ t, s.tables = some t ∧
      ((∀ row ∈ t.rows, row.length = Column.all.length) →
        ∀ row ∈ rows, row ∈ t.rows) := by
  cases hTables : s.tables with
  | none =>
      rw [Store.query, ofText?_queryOf] at h
      simp only [Store.run, Store.getTables, hTables] at h
      split at h
      · cases h
      · cases h
  | some t =>
      refine ⟨t, rfl, fun hWidth row hRow => ?_⟩
      obtain ⟨-, -, rfl⟩ := (query_queryOf_iff hTables hWidth).1 h
      exact (List.mem_filter.1 hRow).1

section

variable {s : Store} {ms : List Message} {mode : MatchMode} {filters : List Filter}
  {now : Int} {rows : List Row}

theorem decided_of_query (hHolds : s.Holds ms)
    (hQuery : s.query (queryOf mode filters).sql (queryOf mode filters).arguments
      now = .ok rows) {m : Message} (hm : m ∈ ms) :
    ∃ t, mode.selection filters now (Row.encode m) = .ok t :=
  ((query_queryOf_iff hHolds.tables
    fun _ => Store.Tables.length_of_mem_ofMessages).1 hQuery).2.1 _
      (List.mem_map_of_mem hm)

/-- What a query selects of the messages in a store. -/
theorem selected_of_query (hHolds : s.Holds ms)
    (hQuery : s.query (queryOf mode filters).sql (queryOf mode filters).arguments
      now = .ok rows) :
    rows = (ms.map Row.encode).filter (mode.chosen filters now) :=
  ((query_queryOf_iff hHolds.tables
    fun _ => Store.Tables.length_of_mem_ofMessages).1 hQuery).2.2

/-- A query that has an answer has one after some messages have been taken out
and others put behind, if it is decided on these. It gives what it selects of
those that stayed, and then what it selects of those that came. -/
theorem query_after (hHolds : s.Holds ms)
    (hQuery : s.query (queryOf mode filters).sql (queryOf mode filters).arguments
      now = .ok rows) {ids : List String} {later : List Message}
    (hDecides : ∀ y ∈ later, ∃ t, mode.selection filters now (Row.encode y) = .ok t)
    {s₁ : Store} (hHolds₁ : s₁.Holds (ms.filter (·.id ∉ ids) ++ later)) :
    s₁.query (queryOf mode filters).sql (queryOf mode filters).arguments now =
      .ok (((ms.filter (·.id ∉ ids)).map Row.encode).filter (mode.chosen filters now)
        ++ (later.map Row.encode).filter (mode.chosen filters now)) := by
  have hDepth := ((query_queryOf_iff hHolds.tables
    fun _ => Store.Tables.length_of_mem_ofMessages).1 hQuery).1
  refine (query_queryOf_iff hHolds₁.tables
    fun _ => Store.Tables.length_of_mem_ofMessages).2 ⟨hDepth, ?_, ?_⟩
  · intro row hRow
    obtain ⟨m, hm, rfl⟩ := List.mem_map.1 hRow
    rcases List.mem_append.1 hm with hOld | hNew
    · exact decided_of_query hHolds hQuery (List.mem_filter.1 hOld).1
    · exact hDecides m hNew
  · rw [← List.filter_append, ← List.map_append]
    rfl

end

/-! ## Rules -/

theorem name_of_parse {s : String} {mode : MatchMode}
    (h : MatchMode.parse s = .ok mode) : s = mode.name := by
  unfold MatchMode.parse at h
  split at h
  · cases h
    assumption
  · split at h
    · cases h
      assumption
    · cases h

/-- What reading several items gives, one by one. -/
theorem map_of_mapM {ε α β : Type} {f : α → Except ε β} {xs : List α}
    {ys : List β} (h : xs.mapM f = .ok ys) : xs.map f = ys.map .ok := by
  induction xs generalizing ys with
  | nil =>
      cases h
      rfl
  | cons x xs ih =>
      rw [List.mapM_cons] at h
      cases hOne : f x with
      | error e => simp [hOne, bind, Except.bind] at h
      | ok y =>
          cases hRest : xs.mapM f with
          | error e => simp [hOne, hRest, bind, Except.bind] at h
          | ok rest =>
              simp only [hOne, hRest, bind, Except.bind, pure, Except.pure,
                Except.ok.injEq] at h
              rw [← h, List.map_cons, List.map_cons, hOne, ih hRest]

theorem ne_nil_of_mapM {ε α β : Type} {f : α → Except ε β} {xs : List α}
    {ys : List β} (h : xs.mapM f = .ok ys) (hSome : xs ≠ []) : ys ≠ [] := by
  rintro rfl
  exact hSome (List.map_eq_nil_iff.1 (map_of_mapM h))

/-- Each thing that was read was read from one of the items. -/
theorem exists_of_map {ε α β : Type} {f : α → Except ε β} {xs : List α}
    {ys : List β} (h : xs.map f = ys.map .ok) {y : β} (hy : y ∈ ys) :
    ∃ x ∈ xs, f x = .ok y := by
  have hRead : Except.ok y ∈ xs.map f := by
    rw [h]
    exact List.mem_map_of_mem hy
  exact List.mem_map.1 hRead

/-- Reading a filter keeps patterns away from dates, and a pattern is made of
the filter's value. -/
theorem fits_of_parse {t : FilterText} {f : Filter}
    (h : Filter.parse t = .ok f)
    (hPattern : t.operator ∈ ["contains", "ncontains"] →
      (Text.Utf8.encode ("%" ++ t.value.getD "" ++ "%").toList).length ≤
        Sql.maxPattern) : f.Fits := by
  have hName {o : Operator} (ho : Operator.ofName? t.operator = some o)
      (hIs : o.isPattern = true) : t.operator ∈ ["contains", "ncontains"] := by
    unfold Operator.ofName? at ho
    split at ho
    all_goals cases ho
    all_goals simp_all [Operator.isPattern]
  unfold Filter.parse at h
  split at h
  · cases h
  · split at h
    · cases h
    · rename_i field hField o ho
      obtain ⟨hOperator, hAdmits⟩ := Option.filter_eq_some_iff.1 ho
      split at h
      · cases h
        exact fun hIs => hPattern (hName hOperator hIs)
      · split at h
        · cases h
        · cases h
          simpa [Field.admits, Filter.Fits] using hAdmits

theorem compile_eq_ok {rule : Rule} {query : Query}
    (h : rule.compile = .ok query) :
    ∃ mode filters, rule.matchMode = mode.name ∧
      rule.filters.map Filter.parse = filters.map .ok ∧
      query = queryOf mode filters := by
  cases hMode : MatchMode.parse rule.matchMode with
  | error e => simp [compile, hMode, bind, Except.bind] at h
  | ok mode =>
      cases hFilters : rule.filters.mapM Filter.parse with
      | error e => simp [compile, hMode, hFilters, bind, Except.bind] at h
      | ok filters =>
          refine ⟨mode, filters, name_of_parse hMode, map_of_mapM hFilters, ?_⟩
          simp only [compile, hMode, hFilters, bind, Except.bind, pure,
            Except.pure, Except.ok.injEq] at h
          exact h.symm

/-- A rule within the limits has filters that are. -/
theorem WithinLimits.fits {rule : Rule} {query : Query}
    (h : WithinLimits rule query) {filters : List Filter}
    (hFilters : rule.filters.map Filter.parse = filters.map .ok) :
    ∀ f ∈ filters, f.Fits := by
  intro f hf
  obtain ⟨t, ht, hParse⟩ := exists_of_map hFilters hf
  exact fits_of_parse hParse (h.patterns t ht)

theorem condition?_queryOf (mode : MatchMode) (filters : List Filter) :
    (queryOf mode filters).condition? = conditionOf mode filters := by
  rw [Query.condition?, ofText?_queryOf, Option.bind_some]

theorem WithinLimits.depth_conditionOf {rule : Rule} {mode : MatchMode}
    {filters : List Filter} (h : WithinLimits rule (queryOf mode filters)) :
    ∀ c ∈ conditionOf mode filters, c.depth ≤ Condition.deepest := by
  rw [← condition?_queryOf]
  exact h.depth

end Mailroom.Rule
