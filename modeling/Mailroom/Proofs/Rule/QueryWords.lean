import Mailroom.Proofs.Sql.Words
import Mailroom.Rule.Query

/-!
# The words of a compiled query

The query of a list of filters is a text with two parts that do not depend on
the filters' values: the selected columns, and one clause for each filter.
Here it is read as words. Every clause ends in `?` or `)`, so it spells its
words whatever follows it, and clauses can be joined without looking at what
is joined. The statement that inserts a message is read in the same way, since
it names the columns by the same list.
-/

namespace Mailroom.Rule

open Mailroom.Store (Column)
open Mailroom.Sql (Token)
open Mailroom.Sql.Token (Spells words)

/-! ## Words of the parts -/

/-- The words of an operator's sign. -/
def Operator.tokens : Operator → List Token
  | contains => [.word "LIKE"]
  | lacks => [.word "NOT", .word "LIKE"]
  | equal => [.sign "="]
  | unequal => [.sign "!="]
  | greater => [.sign ">"]
  | less => [.sign "<"]
  | atLeast => [.sign ">="]
  | atMost => [.sign "<="]

/-- The words of the right side of a comparison with a date. -/
def DateValue.tokens : DateValue → List Token
  | relative _ =>
      [.word "datetime", .sign "(", .text "now", .sign ",", .sign "?",
        .sign ")"]
  | absolute _ => [.sign "?"]

/-- The pattern that stands for the label of sent messages in a list of
labels. -/
def sentPattern : String := "%\"" ++ Message.sentLabel ++ "\"%"

/-- The words that restrict a clause to sent messages, without the opening
parenthesis. -/
def sentTokens : List Token :=
  [.word "AND", .name Column.labelIds.name, .word "LIKE", .text sentPattern,
    .sign ")"]

namespace Filter

/-- The words of a filter's clause. -/
def tokens : Filter → List Token
  | text column operator _ =>
      .name column.name :: (operator.tokens ++ [.sign "?"])
  | date sentOnly operator value =>
      let comparison :=
        .name Column.internalDate.name :: (operator.tokens ++ value.tokens)
      if sentOnly then .sign "(" :: (comparison ++ sentTokens) else comparison

end Filter

/-- The word between two clauses. -/
def MatchMode.keyword : MatchMode → String
  | all => "AND"
  | any => "OR"

/-- The words of the clauses after the first one. -/
def laterTokens (mode : MatchMode) (filters : List Filter) : List Token :=
  filters.flatMap fun f => .word mode.keyword :: f.tokens

/-- The words of the condition. -/
def conditionTokens (mode : MatchMode) : List Filter → List Token
  | [] => []
  | f :: fs => .word "WHERE" :: (f.tokens ++ laterTokens mode fs)

/-- The words of a list of columns. -/
def columnTokens : List Column → List Token
  | [] => []
  | c :: cs =>
      .name c.name :: cs.flatMap fun d => [.sign ",", .name d.name]

/-- The words of a compiled query. -/
def queryTokens (mode : MatchMode) (filters : List Filter) : List Token :=
  .word "SELECT" :: (columnTokens Column.all ++
    .word "FROM" :: .word "messages" :: conditionTokens mode filters)

/-! ## Clauses -/

/-- A placeholder needs nothing after it. -/
theorem spells_placeholder : Spells ['?'] [.sign "?"] :=
  Spells.sign (fun _ => rfl) Spells.nil

private theorem spells_closing : Spells [')'] [.sign ")"] :=
  Spells.sign (fun _ => rfl) Spells.nil

/-- An unquoted word and the blank after it. -/
theorem spells_keyword {b : Char} {w : List Char}
    (hb : Token.isWordChar b = true) (hw : w.all Token.isWordChar = true) :
    Spells (b :: (w ++ [' '])) [.word (String.ofList (b :: w))] :=
  Spells.word hb hw (by decide) (Spells.blank Spells.nil)

/-- No column name has a quote in it. -/
theorem name_no_quote (c : Column) : '"' ∉ c.name.toList := by
  cases c <;> decide

/-- A quoted column name in front of a piece. -/
theorem spells_column (c : Column) {d : Char} {piece : List Char}
    {ts : List Token} (hd : d ≠ '"') (h : Spells (d :: piece) ts) :
    Spells (c.quoted.toList ++ d :: piece) (.name c.name :: ts) := by
  have hName := Spells.name (name_no_quote c) hd h
  simpa [Column.quoted] using hName

/-- An operator's sign and the blank after it. -/
theorem spells_operator (o : Operator) :
    Spells (o.sign.toList ++ [' ']) o.tokens := by
  cases o with
  | contains => exact spells_keyword (by decide) (by decide)
  | lacks =>
      exact (spells_keyword (w := "OT".toList) (by decide) (by decide)).append
        (spells_keyword (w := "IKE".toList) (by decide) (by decide))
  | equal => exact Spells.sign (fun _ => rfl) (Spells.blank Spells.nil)
  | unequal => exact Spells.sign (fun _ => rfl) (Spells.blank Spells.nil)
  | greater => exact Spells.sign (fun _ => rfl) (Spells.blank Spells.nil)
  | less => exact Spells.sign (fun _ => rfl) (Spells.blank Spells.nil)
  | atLeast => exact Spells.sign (fun _ => rfl) (Spells.blank Spells.nil)
  | atMost => exact Spells.sign (fun _ => rfl) (Spells.blank Spells.nil)

private theorem spells_side (v : DateValue) :
    Spells (Filter.DateValue.side v).toList v.tokens := by
  cases v with
  | absolute moment =>
      simpa [Filter.DateValue.side, DateValue.tokens] using spells_placeholder
  | relative duration =>
      -- `datetime('now', ?)`, taken apart from its end
      have hAfter : Spells [',', ' ', '?', ')']
          [.sign ",", .sign "?", .sign ")"] :=
        Spells.sign (fun _ => rfl) (Spells.blank
          (Spells.sign (fun _ => rfl) spells_closing))
      have hNow := Spells.text (s := "now".toList) (by decide) (by decide) hAfter
      have hOpen := Spells.sign (c := '(') (r := '\x27' :: _) (fun _ => rfl) hNow
      have hCall := Spells.word (b := 'd') (w := "atetime".toList) (by decide)
        (by decide) (by decide) hOpen
      simpa [Filter.DateValue.side, DateValue.tokens] using hCall

/-- A comparison of a column, whatever its right side is. -/
theorem spells_comparison (c : Column) (o : Operator) {side : List Char}
    {ts : List Token} (h : Spells side ts) :
    Spells (c.quoted.toList ++ ' ' :: (o.sign.toList ++ ' ' :: side))
      (.name c.name :: (o.tokens ++ ts)) := by
  have hSign := (spells_operator o).append h
  rw [List.append_assoc, List.singleton_append] at hSign
  exact spells_column c (by decide) (Spells.blank hSign)

/-- The restriction to sent messages, after the comparison. -/
theorem spells_sent :
    Spells (" AND ".toList ++ (Column.labelIds.quoted.toList ++
      (" LIKE '%\"" ++ Message.sentLabel ++ "\"%' )").toList)) sentTokens := by
  have hText : Spells ('\x27' :: (sentPattern.toList ++ "' )".toList))
      [.text sentPattern, .sign ")"] := by
    have hPattern := Spells.text (s := sentPattern.toList) (c := ' ')
      (by decide) (by decide) (Spells.blank spells_closing)
    rwa [String.ofList_toList] at hPattern
  have hLike := (spells_keyword (b := 'L') (w := "IKE".toList) (by decide)
    (by decide)).append hText
  have hColumn := spells_column .labelIds (d := ' ') (by decide)
    (Spells.blank hLike)
  have hAnd := (spells_keyword (b := 'A') (w := "ND".toList) (by decide)
    (by decide)).append hColumn
  exact Spells.blank hAnd

/-- The words of one clause; its end ends its last word. -/
theorem spells_clause (f : Filter) : Spells f.clause.toList f.tokens := by
  cases f with
  | text c o value =>
      have hClause := spells_comparison c o spells_placeholder
      simpa [Filter.clause, Filter.tokens] using hClause
  | date sentOnly o value =>
      have hComparison := spells_comparison .internalDate o (spells_side value)
      cases sentOnly with
      | false => simpa [Filter.clause, Filter.tokens] using hComparison
      | true =>
          have hOpen := Spells.sign (c := '(') (s := "(") (fun _ => rfl)
            (Spells.blank (hComparison.append spells_sent))
          simpa [Filter.clause, Filter.tokens] using hOpen

/-! ## The whole query -/

/-- Pieces joined by a separator: the first one, and each later one behind the
separator. -/
theorem toList_intercalate_cons (separator s : String) (ss : List String) :
    (separator.intercalate (s :: ss)).toList =
      s.toList ++ ss.flatMap fun t => separator.toList ++ t.toList := by
  induction ss generalizing s with
  | nil => simp
  | cons t ss ih =>
      rw [String.intercalate_cons_cons, String.toList_append,
        String.toList_append, ih t]
      simp

private theorem spells_joiner (mode : MatchMode) :
    Spells mode.joiner.toList [.word mode.keyword] := by
  cases mode with
  | all =>
      exact Spells.blank
        (spells_keyword (w := "ND".toList) (by decide) (by decide))
  | any =>
      exact Spells.blank
        (spells_keyword (w := "R".toList) (by decide) (by decide))

/-- The clauses after the first one, each behind the joiner. -/
theorem spells_later (mode : MatchMode) (filters : List Filter) :
    Spells (filters.flatMap fun f => mode.joiner.toList ++ f.clause.toList)
      (laterTokens mode filters) := by
  induction filters with
  | nil => exact Spells.nil
  | cons f fs ih =>
      have hOne := (spells_joiner mode).append (spells_clause f)
      exact hOne.append ih

/-- The columns in front of a piece. -/
theorem spells_columns (c : Column) (cs : List Column) {e : Char}
    {piece : List Char} {ts : List Token} (he : e ≠ '"')
    (h : Spells (e :: piece) ts) :
    Spells (c.quoted.toList ++
        ((cs.flatMap fun d => ", ".toList ++ d.quoted.toList) ++ e :: piece))
      (columnTokens (c :: cs) ++ ts) := by
  induction cs generalizing c with
  | nil => exact spells_column c he h
  | cons d cs ih =>
      have hComma := Spells.sign (c := ',') (s := ",") (fun _ => rfl)
        (Spells.blank (ih d))
      have hColumn := spells_column c (by decide) hComma
      simpa [columnTokens] using hColumn

/-- The columns of the message table. -/
theorem spells_selectList {e : Char} {piece : List Char} {ts : List Token}
    (he : e ≠ '"') (h : Spells (e :: piece) ts) :
    Spells (Store.selectList.toList ++ e :: piece)
      (columnTokens Column.all ++ ts) := by
  have hAll := spells_columns .id Column.all.tail he h
  rw [Store.selectList, Column.all, List.map_cons, toList_intercalate_cons,
    List.append_assoc, List.flatMap_map]
  exact hAll

/-- Everything in front of the table's name. -/
theorem spells_select :
    Spells ("SELECT ".toList ++ (Store.selectList.toList ++ " FROM ".toList))
      (.word "SELECT" :: (columnTokens Column.all ++ [.word "FROM"])) :=
  (spells_keyword (b := 'S') (w := "ELECT".toList) (by decide)
    (by decide)).append (spells_selectList (by decide) (Spells.blank
      (spells_keyword (b := 'F') (w := "ROM".toList) (by decide) (by decide))))

/-- Everything in front of the inserted values. -/
theorem spells_insert : Spells
    ("INSERT INTO messages (".toList ++ (Store.selectList.toList ++ [')']))
    ([.word "INSERT", .word "INTO", .word "messages", .sign "("] ++
      (columnTokens Column.all ++ [.sign ")"])) := by
  have hInto : Spells "INSERT INTO messages (".toList
      [.word "INSERT", .word "INTO", .word "messages", .sign "("] :=
    (spells_keyword (w := "NSERT".toList) (by decide) (by decide)).append
      ((spells_keyword (w := "NTO".toList) (by decide) (by decide)).append
        ((spells_keyword (w := "essages".toList) (by decide) (by decide)).append
          (Spells.sign (fun _ => rfl) Spells.nil)))
  exact hInto.append (spells_selectList (by decide) spells_closing)

/-- **A message is inserted** in the columns that a query selects, in the same
order, with one place for each. -/
theorem words_insertMessage : Token.ofText? Store.insertMessage =
    some ([.word "INSERT", .word "INTO", .word "messages", .sign "("] ++
      (columnTokens Column.all ++ [.sign ")"]) ++
      ([.word "VALUES", .sign "("] ++
        ((Column.all.map fun _ => .sign "?").intersperse (.sign ",") ++
          [.sign ")"]))) := by
  have hPlaces : words (" VALUES (".toList ++
      (", ".intercalate (Column.all.map fun _ => "?")).toList ++ [')']) =
        some ([.word "VALUES", .sign "("] ++
          ((Column.all.map fun _ => Token.sign "?").intersperse (.sign ",") ++
            [.sign ")"])) := by
    decide +kernel
  have hText : Store.insertMessage.toList =
      ("INSERT INTO messages (".toList ++ (Store.selectList.toList ++ [')'])) ++
        (" VALUES (".toList ++
          (", ".intercalate (Column.all.map fun _ => "?")).toList ++ [')']) := by
    have hSplit (a b c d e : String) : (a ++ b ++ c ++ d ++ e).toList =
        a.toList ++ (b.toList ++ (c.toList ++ (d.toList ++ e.toList))) := by simp
    have hOpen : ") VALUES (".toList = ')' :: " VALUES (".toList := by decide
    refine (hSplit _ _ _ _ _).trans ?_
    rw [hOpen]
    simp only [List.append_assoc, List.cons_append, List.nil_append]
    rfl
  have hAll := spells_insert (" VALUES (".toList ++
    (", ".intercalate (Column.all.map fun _ => "?")).toList ++ [')'])
  rw [hPlaces, Option.map_some] at hAll
  rw [Token.ofText?_eq_words, hText]
  exact hAll

/-- The table's name and the condition. -/
theorem words_condition (mode : MatchMode) (filters : List Filter) :
    words ("messages".toList ++ (if filters.isEmpty then ""
        else " WHERE " ++
          mode.joiner.intercalate (filters.map Filter.clause)).toList) =
      some (.word "messages" :: conditionTokens mode filters) := by
  cases filters with
  | nil =>
      show words "messages".toList = some [.word "messages"]
      decide
  | cons f fs =>
      have hClauses := (spells_clause f).append (spells_later mode fs)
      have hWhere := (spells_keyword (b := 'W') (w := "HERE".toList) (by decide)
        (by decide)).append hClauses
      have hTable := Spells.word (b := 'm') (w := "essages".toList) (by decide)
        (by decide) (by decide) (Spells.blank hWhere)
      rw [if_neg (by simp), List.map_cons, String.toList_append,
        toList_intercalate_cons, List.flatMap_map]
      exact hTable.words

/-- The words of a compiled query: the columns, the table, and the clauses with
the mode's keyword between them. -/
theorem words_queryOf (mode : MatchMode) (filters : List Filter) :
    Token.ofText? (queryOf mode filters).sql =
      some (queryTokens mode filters) := by
  have hFrom : " FROM messages".toList = " FROM ".toList ++ "messages".toList :=
    by decide
  have hSelect := spells_select ("messages".toList ++
    (if filters.isEmpty then "" else " WHERE " ++
      mode.joiner.intercalate (filters.map Filter.clause)).toList)
  rw [words_condition] at hSelect
  rw [Token.ofText?_eq_words, queryOf]
  simp only [String.toList_append, hFrom, List.append_assoc] at hSelect ⊢
  rw [hSelect]
  simp [queryTokens]

end Mailroom.Rule
