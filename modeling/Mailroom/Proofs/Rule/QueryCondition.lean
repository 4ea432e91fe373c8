import Mailroom.Proofs.Rule.QueryWords
import Mailroom.Sql.Select

/-!
# The condition of a compiled query

Reading the words of a compiled query back gives one condition for each
filter, each with the placeholder of its own place, joined from the left by
the mode's connective. The reader has fuel; a clause needs at most five steps
down to its comparison, and each further clause one more, which the number of
words always covers.
-/

namespace Mailroom.Rule

open Mailroom.Store (Column)
open Mailroom.Sql (Token Operand Comparison Condition Rest Select)
open Mailroom.Sql.Condition (readComparison readUnit readAnd readAndAfter readOr
  readOrAfter)

/-! ## Conditions -/

/-- How an operator compares. -/
def Operator.comparison : Operator → Comparison
  | contains => .like
  | lacks => .unlike
  | equal => .equal
  | unequal => .unequal
  | greater => .greater
  | less => .less
  | atLeast => .atLeast
  | atMost => .atMost

/-- What a date is compared with, given the place of its argument. -/
def DateValue.operand (k : Nat) : DateValue → Operand
  | relative _ => .momentBefore k
  | absolute _ => .argument k

/-- The condition that a message has been sent from the account. -/
def sentCondition : Condition :=
  .compare (.column Column.labelIds.name) .like (.text sentPattern)

/-- The condition of a filter, given the place of its argument. -/
def Filter.condition (k : Nat) : Filter → Condition
  | text column operator _ =>
      .compare (.column column.name) operator.comparison (.argument k)
  | date sentOnly operator value =>
      let comparison := .compare (.column Column.internalDate.name)
        operator.comparison (value.operand k)
      if sentOnly then .both comparison sentCondition else comparison

/-- The connective of a mode. -/
def MatchMode.connect : MatchMode → Condition → Condition → Condition
  | all => .both
  | any => .either

/-- A condition with those of further filters joined on, one after the other;
`k` is the place of the next argument. -/
def joined (mode : MatchMode) (k : Nat) (c : Condition) :
    List Filter → Condition
  | [] => c
  | f :: fs => joined mode (k + 1) (mode.connect c (f.condition k)) fs

/-- The condition of filters; none if there is no filter. -/
def conditionOf (mode : MatchMode) : List Filter → Option Condition
  | [] => none
  | f :: fs => some (joined mode 1 (f.condition 0) fs)

/-! ## Reading one clause -/

private theorem read_operator (o : Operator) (r : List Token) (k : Nat) :
    Comparison.read ⟨o.tokens ++ r, k⟩ = some (o.comparison, ⟨r, k⟩) := by
  cases o <;> rfl

private theorem read_date (v : DateValue) (r : List Token) (k : Nat) :
    Operand.read ⟨v.tokens ++ r, k⟩ = some (v.operand k, ⟨r, k + 1⟩) := by
  cases v <;> rfl

/-- A comparison of a column with whatever takes one argument. -/
theorem readComparison_column (n : String) (o : Operator) {side : List Token}
    {r : List Token} {k : Nat} {x : Operand}
    (hSide : Operand.read ⟨side ++ r, k⟩ = some (x, ⟨r, k + 1⟩)) :
    readComparison ⟨.name n :: (o.tokens ++ (side ++ r)), k⟩ =
      some (.compare (.column n) o.comparison x, ⟨r, k + 1⟩) := by
  have hName : Operand.read ⟨.name n :: (o.tokens ++ (side ++ r)), k⟩ =
      some (.column n, ⟨o.tokens ++ (side ++ r), k⟩) := rfl
  rw [readComparison, hName]
  simp only [Option.bind_eq_bind, Option.bind_some, read_operator, hSide]
  rfl

/-- Nothing is joined on where no `AND` follows. -/
theorem readAndAfter_stop {fuel : Nat} {c : Condition} {r : List Token}
    {k : Nat} (h : r.head? ≠ some (.word "AND")) :
    readAndAfter (fuel + 1) c ⟨r, k⟩ = some (c, ⟨r, k⟩) := by
  rw [readAndAfter]
  intro r' k' heq
  cases heq
  exact h rfl

/-- Nothing is joined on where no `OR` follows. -/
theorem readOrAfter_stop {fuel : Nat} {c : Condition} {r : List Token}
    {k : Nat} (h : r.head? ≠ some (.word "OR")) :
    readOrAfter (fuel + 1) c ⟨r, k⟩ = some (c, ⟨r, k⟩) := by
  rw [readOrAfter]
  intro r' k' heq
  cases heq
  exact h rfl

/-- The label of sent messages, up to the closing parenthesis. -/
theorem readUnit_sent (fuel : Nat) (r : List Token) (k : Nat) :
    readUnit (fuel + 1)
        ⟨.name Column.labelIds.name :: .word "LIKE" :: .text sentPattern :: r, k⟩ =
      some (sentCondition, ⟨r, k⟩) := by
  simp [readUnit, readComparison, Operand.read, Comparison.read, sentCondition]

private theorem readUnit_comparison (fuel : Nat) (n : String) (o : Operator)
    {side r : List Token} {k : Nat} {x : Operand}
    (hSide : Operand.read ⟨side ++ r, k⟩ = some (x, ⟨r, k + 1⟩)) :
    readUnit (fuel + 1) ⟨.name n :: (o.tokens ++ (side ++ r)), k⟩ =
      some (.compare (.column n) o.comparison x, ⟨r, k + 1⟩) := by
  rw [readUnit, readComparison_column n o hSide]
  intro r' k' h
  cases h

/-- A comparison restricted to sent messages, in parentheses. -/
theorem readUnit_sentOnly (fuel : Nat) (n : String) (o : Operator)
    {side r : List Token} {k : Nat} {x : Operand}
    (hSide : ∀ r, Operand.read ⟨side ++ r, k⟩ = some (x, ⟨r, k + 1⟩)) :
    readUnit (fuel + 5)
        ⟨.sign "(" :: .name n :: (o.tokens ++ (side ++ (sentTokens ++ r))), k⟩ =
      some (.both (.compare (.column n) o.comparison x) sentCondition,
        ⟨r, k + 1⟩) := by
  have hSent := readUnit_sent fuel (.sign ")" :: r) (k + 1)
  have hAnd : readAnd (fuel + 3)
      ⟨.name n :: (o.tokens ++ (side ++ (sentTokens ++ r))), k⟩ =
        some (.both (.compare (.column n) o.comparison x) sentCondition,
          ⟨.sign ")" :: r, k + 1⟩) := by
    rw [readAnd, readUnit_comparison _ n o (hSide _)]
    simp only [sentTokens, List.cons_append, List.nil_append,
      Option.bind_eq_bind, Option.bind_some]
    rw [readAndAfter, hSent]
    exact readAndAfter_stop (by simp)
  have hOr : readOr (fuel + 4)
      ⟨.name n :: (o.tokens ++ (side ++ (sentTokens ++ r))), k⟩ =
        some (.both (.compare (.column n) o.comparison x) sentCondition,
          ⟨.sign ")" :: r, k + 1⟩) := by
    rw [readOr, hAnd]
    exact readOrAfter_stop (by simp)
  rw [readUnit, hOr]
  rfl

/-- **One clause, one condition**: the words of a clause are read as the
condition of its filter, and its placeholder is the next one. -/
theorem readUnit_filter (f : Filter) {fuel : Nat} (hFuel : 5 ≤ fuel)
    (r : List Token) (k : Nat) :
    readUnit fuel ⟨f.tokens ++ r, k⟩ = some (f.condition k, ⟨r, k + 1⟩) := by
  obtain ⟨fuel, rfl⟩ : ∃ n, fuel = n + 5 := ⟨fuel - 5, by omega⟩
  cases f with
  | text c o value =>
      have hSide : Operand.read ⟨[.sign "?"] ++ r, k⟩ =
          some (.argument k, ⟨r, k + 1⟩) := rfl
      have hRead := readUnit_comparison (fuel + 4) c.name o hSide
      simpa [Filter.tokens, Filter.condition] using hRead
  | date sentOnly o value =>
      cases sentOnly with
      | false =>
          have hRead := readUnit_comparison (fuel + 4) Column.internalDate.name
            o (read_date value r k)
          simpa [Filter.tokens, Filter.condition] using hRead
      | true =>
          have hRead := readUnit_sentOnly fuel Column.internalDate.name o
            (r := r) (fun r => read_date value r k)
          simpa [Filter.tokens, Filter.condition] using hRead

/-! ## Reading several clauses -/

/-- Clauses joined by `AND`, after a first one. -/
theorem readAndAfter_filters (filters : List Filter) {fuel : Nat}
    (hFuel : filters.length + 6 ≤ fuel) (c : Condition) (k : Nat) :
    readAndAfter fuel c ⟨laterTokens .all filters, k⟩ =
      some (joined .all k c filters, ⟨[], k + filters.length⟩) := by
  induction filters generalizing fuel c k with
  | nil =>
      obtain ⟨fuel, rfl⟩ : ∃ n, fuel = n + 1 := ⟨fuel - 1, by omega⟩
      exact readAndAfter_stop (by simp [laterTokens])
  | cons f fs ih =>
      obtain ⟨fuel, rfl⟩ : ∃ n, fuel = n + 1 := ⟨fuel - 1, by omega⟩
      simp only [List.length_cons] at hFuel
      have hLater : laterTokens .all (f :: fs) =
          .word "AND" :: (f.tokens ++ laterTokens .all fs) := rfl
      rw [hLater, readAndAfter, readUnit_filter f (by omega)]
      have hCount : k + 1 + fs.length = k + (fs.length + 1) := by omega
      have hEnough : fs.length + 6 ≤ fuel := by omega
      have hRest := ih hEnough (.both c (f.condition k)) (k + 1)
      rw [hCount] at hRest
      exact hRest

/-- One clause where no `AND` follows it. -/
theorem readAnd_filter (f : Filter) {fuel : Nat} (hFuel : 6 ≤ fuel)
    {r : List Token} (hStop : r.head? ≠ some (.word "AND")) (k : Nat) :
    readAnd fuel ⟨f.tokens ++ r, k⟩ = some (f.condition k, ⟨r, k + 1⟩) := by
  obtain ⟨fuel, rfl⟩ : ∃ n, fuel = n + 2 := ⟨fuel - 2, by omega⟩
  rw [readAnd, readUnit_filter f (by omega)]
  exact readAndAfter_stop hStop

/-- No clause of this mode is read as part of the one before it. -/
theorem head?_laterTokens_any (filters : List Filter) :
    (laterTokens .any filters).head? ≠ some (.word "AND") := by
  cases filters with
  | nil => simp [laterTokens]
  | cons f fs => simp [laterTokens, MatchMode.keyword]

/-- Clauses joined by `OR`, after a first one. -/
theorem readOrAfter_filters (filters : List Filter) {fuel : Nat}
    (hFuel : filters.length + 7 ≤ fuel) (c : Condition) (k : Nat) :
    readOrAfter fuel c ⟨laterTokens .any filters, k⟩ =
      some (joined .any k c filters, ⟨[], k + filters.length⟩) := by
  induction filters generalizing fuel c k with
  | nil =>
      obtain ⟨fuel, rfl⟩ : ∃ n, fuel = n + 1 := ⟨fuel - 1, by omega⟩
      exact readOrAfter_stop (by simp [laterTokens])
  | cons f fs ih =>
      obtain ⟨fuel, rfl⟩ : ∃ n, fuel = n + 1 := ⟨fuel - 1, by omega⟩
      simp only [List.length_cons] at hFuel
      have hLater : laterTokens .any (f :: fs) =
          .word "OR" :: (f.tokens ++ laterTokens .any fs) := rfl
      rw [hLater, readOrAfter,
        readAnd_filter f (by omega) (head?_laterTokens_any fs)]
      have hCount : k + 1 + fs.length = k + (fs.length + 1) := by omega
      have hEnough : fs.length + 7 ≤ fuel := by omega
      have hRest := ih hEnough (.either c (f.condition k)) (k + 1)
      rw [hCount] at hRest
      exact hRest

/-- A clause has three words or more. -/
theorem three_le_tokens (f : Filter) : 3 ≤ f.tokens.length := by
  have hOperator (o : Operator) : 1 ≤ o.tokens.length := by cases o <;> decide
  have hDate (v : DateValue) : 1 ≤ v.tokens.length := by
    cases v <;> simp [DateValue.tokens]
  cases f with
  | text c o value =>
      have := hOperator o
      simp only [Filter.tokens, List.length_cons, List.length_append]
      simp only [List.length_nil]
      omega
  | date sentOnly o value =>
      have := hOperator o
      have := hDate value
      cases sentOnly with
      | false =>
          simp [Filter.tokens]
          omega
      | true =>
          simp [Filter.tokens]
          omega

private theorem length_laterTokens (mode : MatchMode) (filters : List Filter) :
    4 * filters.length ≤ (laterTokens mode filters).length := by
  induction filters with
  | nil => simp
  | cons f fs ih =>
      have hOne := three_le_tokens f
      have hLater : laterTokens mode (f :: fs) =
          .word mode.keyword :: (f.tokens ++ laterTokens mode fs) := rfl
      rw [hLater]
      simp only [List.length_cons, List.length_append]
      omega

/-- All clauses of a query. -/
theorem ofTokens?_clauses (mode : MatchMode) (f : Filter) (fs : List Filter) :
    Condition.ofTokens? (f.tokens ++ laterTokens mode fs) =
      some (joined mode 1 (f.condition 0) fs) := by
  have hFirst := three_le_tokens f
  have hLater := length_laterTokens mode fs
  obtain ⟨fuel, hFuel⟩ : ∃ n,
      3 * (f.tokens ++ laterTokens mode fs).length + 3 = n + 2 :=
    ⟨3 * (f.tokens ++ laterTokens mode fs).length + 1, rfl⟩
  have hEnough : fs.length + 6 ≤ fuel := by
    simp only [List.length_append] at hFuel
    omega
  have hRead : readOr (fuel + 2) ⟨f.tokens ++ laterTokens mode fs, 0⟩ =
      some (joined mode 1 (f.condition 0) fs, ⟨[], 1 + fs.length⟩) := by
    rw [readOr]
    cases mode with
    | all =>
        rw [readAnd, readUnit_filter f (by omega)]
        simp only [Option.bind_eq_bind, Option.bind_some]
        rw [readAndAfter_filters fs hEnough]
        exact readOrAfter_stop (by simp)
    | any =>
        rw [readAnd_filter f (by omega) (head?_laterTokens_any fs)]
        simp only [Option.bind_eq_bind, Option.bind_some]
        exact readOrAfter_filters fs (by omega) _ _
  rw [Condition.ofTokens?, hFuel, hRead]

/-! ## Reading the query -/

private theorem readColumns_columnTokens (c : Column) (cs : List Column)
    (r : List Token) :
    Select.readColumns (columnTokens (c :: cs) ++ .word "FROM" :: r) =
      some ((c :: cs).map Column.name, r) := by
  induction cs generalizing c with
  | nil => rfl
  | cons d cs ih =>
      have hTokens : columnTokens (c :: d :: cs) =
          .name c.name :: .sign "," :: columnTokens (d :: cs) := rfl
      rw [hTokens, List.cons_append, List.cons_append, Select.readColumns, ih d]
      rfl

/-- **The query of filters**: all columns of the message table, where the
filters' conditions hold in the mode's sense. -/
theorem ofText?_queryOf (mode : MatchMode) (filters : List Filter) :
    Select.ofText? (queryOf mode filters).sql =
      some ⟨Column.all.map Column.name, "messages",
        conditionOf mode filters⟩ := by
  rw [Select.ofText?, words_queryOf, Option.bind_some, queryTokens,
    Select.ofTokens?]
  have hColumns := readColumns_columnTokens .id Column.all.tail
    (.word "messages" :: conditionTokens mode filters)
  have hAll : Column.id :: Column.all.tail = Column.all := rfl
  rw [hAll] at hColumns
  rw [hColumns]
  cases filters with
  | nil => rfl
  | cons f fs =>
      simp only [conditionTokens, Option.bind_eq_bind, Option.bind_some,
        ofTokens?_clauses]
      rfl

end Mailroom.Rule
