import Mailroom.Proofs.Rule.Selection

/-!
# Rules with one filter

What a field, an operator and a value mean together is seen at a rule that has no other
filter. Its mode does not matter then, nor do its name and its actions, and its query
gives the rows of the messages on which the filter holds. So a statement about a filter
is a statement about the rows that the query of such a rule gives: whether the row of a
stored message is one of them.
-/

namespace Mailroom.Rule

open Mailroom.Store (Column Row)
open Mailroom.Sql (Condition)

/-- The name of an operator in a rule. -/
def Operator.name : Operator → String
  | contains => "contains"
  | lacks => "ncontains"
  | equal => "eq"
  | unequal => "ne"
  | greater => "gt"
  | less => "lt"
  | atLeast => "gte"
  | atMost => "lte"

@[simp] theorem Operator.ofName?_name (o : Operator) : ofName? o.name = some o := by
  cases o <;> rfl

/-- The rule has one filter, and a mode. -/
structure Single (rule : Rule) (f : FilterText) : Prop where
  mode : rule.matchMode = "all" ∨ rule.matchMode = "any"
  filters : rule.filters = [f]

/-- The rows that a rule's query gives on a store. -/
def Gives (rule : Rule) (s : Store) (now : Int) (rows : List Row) : Prop :=
  ∃ query, rule.compile = .ok query ∧
    s.query query.sql query.arguments now = .ok rows

/-- The query of one filter is not deep. -/
theorem depth_condition (f : Filter) (k : Nat) :
    (f.condition k).depth ≤ Condition.deepest := by
  cases f with
  | text c o value => cases o <;> simp [Filter.condition, Operator.comparison,
      Condition.depth, Sql.Operand.depth, Condition.deepest]
  | date sentOnly o v => cases sentOnly <;> cases o <;> cases v <;>
      simp [Filter.condition, sentCondition, DateValue.operand, Operator.comparison,
        Condition.depth, Sql.Operand.depth, Condition.deepest]

private theorem depth_single (mode : MatchMode) (f : Filter) :
    ∀ c ∈ conditionOf mode [f], c.depth ≤ Condition.deepest := by
  rintro c ⟨rfl⟩
  exact depth_condition f 0

/-! ## Rows that cannot be decided -/

/-- The first row already ends a query that cannot decide on it. -/
theorem selectRows_of_error {condition : Option Condition} {arguments : List String}
    {now : Int} {row : Row} {e : Error}
    (h : row.decision condition arguments now = .error e) (rows : List Row) :
    Store.selectRows condition arguments now (row :: rows) = .error e := by
  cases condition with
  | none => cases h
  | some c =>
      have hRow : row.satisfies c arguments now = .error e := h
      simp only [Store.selectRows, hRow]
      rfl

private theorem query_of_error {s : Store} {t : Store.Tables} (hTables : s.tables = some t)
    {mode : MatchMode} {filters : List Filter} {now : Int} {e : Error}
    (hDepth : ∀ c ∈ conditionOf mode filters, c.depth ≤ Condition.deepest)
    {row : Row} {rows : List Row} (hRows : t.rows = row :: rows)
    (hError : mode.selection filters now row = .error e) :
    s.query (queryOf mode filters).sql (queryOf mode filters).arguments now =
      .error e := by
  obtain ⟨_, headers⟩ := t
  cases hRows
  have hDeep : ((conditionOf mode filters).any fun c =>
      Condition.deepest < c.depth) = false := by
    rw [Option.any_eq_false]
    intro c hc
    simpa using hDepth c hc
  have hArguments : (queryOf mode filters).arguments =
      filters.map Filter.argument := rfl
  have hSelect := selectRows_of_error hError rows
  rw [Store.query, ofText?_queryOf, hArguments]
  simp only [Store.run, mapM_ofName?_all, Store.getTables, hTables, hDeep]
  simp only [bind, Except.bind, hSelect]
  rfl

/-! ## What is given -/

namespace Single

variable {rule : Rule} {t : FilterText} {f : Filter} {s : Store} {ms : List Message}

/-- The query of a rule with one filter. -/
theorem compile (h : rule.Single t) (hParse : Filter.parse t = .ok f) :
    ∃ mode, rule.compile = .ok (queryOf mode [f]) := by
  have hFilters : rule.filters.mapM Filter.parse = .ok [f] := by
    rw [h.filters, List.mapM_cons, hParse]
    rfl
  have hMode : ∃ mode, MatchMode.parse rule.matchMode = .ok mode := by
    rcases h.mode with hAll | hAny
    · exact ⟨.all, by rw [hAll]; rfl⟩
    · exact ⟨.any, by rw [hAny]; rfl⟩
  obtain ⟨mode, hMode⟩ := hMode
  exact ⟨mode, by rw [Rule.compile, hMode, hFilters]; rfl⟩

/-- **What a rule with one filter gives**: the rows on which the filter holds. -/
theorem gives_filter (h : rule.Single t) (hParse : Filter.parse t = .ok f)
    (hFits : f.Fits) (hHolds : s.Holds ms) (now : Int) :
    rule.Gives s now ((ms.map Row.encode).filter (f.holds now)) := by
  obtain ⟨mode, hCompile⟩ := h.compile hParse
  have hQuery := query_queryOf hHolds.tables
    (fun _ => Store.Tables.length_of_mem_ofMessages) (by simpa using hFits)
    (depth_single mode f) now
  have hSatisfied : mode.satisfied [f] now = f.holds now := by
    funext row
    cases mode <;> simp [MatchMode.satisfied]
  rw [hSatisfied] at hQuery
  exact ⟨_, hCompile, hQuery⟩

/-- Whether the row of a stored message is one of them. -/
theorem gives (h : rule.Single t) (hParse : Filter.parse t = .ok f) (hFits : f.Fits)
    (hHolds : s.Holds ms) (now : Int) :
    ∃ rows, rule.Gives s now rows ∧
      ∀ m ∈ ms, Row.encode m ∈ rows ↔ f.holds now (Row.encode m) = true := by
  refine ⟨_, h.gives_filter hParse hFits hHolds now, fun m hm => ?_⟩
  rw [List.mem_filter]
  exact and_iff_right (List.mem_map_of_mem hm)

/-- **A pattern that is too long** ends the query at the first message. -/
theorem fails (h : rule.Single t) {c : Column} {o : Operator} {value : String}
    (hParse : Filter.parse t = .ok (.text c o value)) (hPattern : o.isPattern = true)
    (hLong : Sql.maxPattern <
      (Text.Utf8.encode ("%" ++ value ++ "%").toList).length)
    (hHolds : s.Holds ms) (hSome : ms ≠ []) (now : Int) :
    ∃ query, rule.compile = .ok query ∧
      s.query query.sql query.arguments now =
        .error (.store .patternTooComplex) := by
  obtain ⟨mode, hCompile⟩ := h.compile hParse
  obtain ⟨m, ms, rfl⟩ := List.exists_cons_of_ne_nil hSome
  have hRows : (Store.Tables.ofMessages (m :: ms)).rows =
      Row.encode m :: ms.map Row.encode := rfl
  refine ⟨_, hCompile, query_of_error hHolds.tables (depth_single mode _) hRows ?_⟩
  have hBytes : (Sql.Value.text ("%" ++ value ++ "%")).pattern? =
      some (Text.Utf8.encode ("%" ++ value ++ "%").toList) := rfl
  have hLike (v : Sql.Value) : Sql.evalLike v (.text ("%" ++ value ++ "%")) =
      .error .patternTooComplex := by
    unfold Sql.evalLike
    rw [hBytes]
    exact if_pos hLong
  have hEval : ((Filter.text c o value).condition 0).eval
      ((Row.encode m).scope ["%" ++ value ++ "%"] now) =
        .error .patternTooComplex := by
    rcases (Operator.isPattern_iff o).1 hPattern with rfl | rfl
    · exact hLike _
    · simp only [Filter.condition, Condition.eval, Operator.comparison,
        Sql.evalComparison]
      exact congrArg (Except.map _) (hLike _)
  have hArgument : (Filter.text c o value).argument = "%" ++ value ++ "%" :=
    if_pos hPattern
  show Row.satisfies _ ((Filter.text c o value).condition 0)
    [(Filter.text c o value).argument] now = _
  rw [hArgument, Row.satisfies, hEval]

end Single

end Mailroom.Rule
