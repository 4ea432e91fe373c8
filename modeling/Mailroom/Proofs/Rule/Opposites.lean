import Mailroom.Proofs.Rule.Containment

/-!
# Operators that are the opposite of one another

Each operator on a text has an opposite: not to contain is the opposite of containing, to
be different that of being the same, and at most that of greater. A filter and the filter
with the opposite operator part the messages that have the field between them.

A message without the field is on neither side. Its row has null there, null compares
with nothing, and nothing can be said of what it contains. So rules that have all cases
covered by a filter and its opposite still pass over a message that has no such header.
-/

namespace Mailroom.Rule

open Mailroom.Sql (compareText)
open Mailroom.Store (Column Row)
open Mailroom.Text.Utf8 (encode)

/-! ## Opposite operators -/

/-- The operator that holds of a text where the other one does not. -/
def Operator.opposite : Operator → Operator
  | contains => lacks
  | lacks => contains
  | equal => unequal
  | unequal => equal
  | greater => atMost
  | atMost => greater
  | less => atLeast
  | atLeast => less

private theorem Operator.isPattern_opposite (o : Operator) :
    o.opposite.isPattern = o.isPattern := by
  cases o <;> rfl

private theorem Operator.accepts_opposite {o : Operator} (hOrder : o.isPattern = false)
    (order : Ordering) : o.opposite.accepts order = !o.accepts order := by
  cases o with
  | contains => cases hOrder
  | lacks => cases hOrder
  | _ => cases order <;> rfl

/-! ## One row -/

section

variable {row : Row} {column : Column} {t : String} (now : Int) (o : Operator)
  (value : String)

private theorem matches?_of_text (hText : row.get column = .text t) (pattern : String) :
    ∃ b, matches? row column pattern = some b := by
  rw [matches?, hText]
  exact ⟨_, rfl⟩

private theorem compares_of_text (hText : row.get column = .text t)
    (hAffinity : column.affinity = .text) (o : Operator) :
    compares row column o (.text value) = o.accepts (compareText t value) := by
  rw [compares, hText, hAffinity]
  rfl

/-- **A field that is there** satisfies one of two opposites. -/
theorem holds_opposite (hText : row.get column = .text t)
    (hAffinity : column.affinity = .text) :
    (Filter.text column o.opposite value).holds now row =
      !(Filter.text column o value).holds now row := by
  have hOrder (hOrder : o.isPattern = false) :
      compares row column o.opposite (.text value) =
        !compares row column o (.text value) := by
    rw [compares_of_text value hText hAffinity, compares_of_text value hText hAffinity,
      Operator.accepts_opposite hOrder]
  obtain ⟨b, hMatches⟩ := matches?_of_text hText ("%" ++ value ++ "%")
  cases o with
  | contains => cases b <;> simp [Filter.holds, Operator.opposite, hMatches]
  | lacks => cases b <;> simp [Filter.holds, Operator.opposite, hMatches]
  | _ => exact hOrder rfl

/-- **A field that is not there** satisfies nothing. -/
theorem not_holds_of_null (hNull : row.get column = .null) :
    (Filter.text column o value).holds now row = false := by
  have hCompares (o : Operator) : compares row column o (.text value) = false := by
    rw [compares, hNull]
    rfl
  have hMatches (pattern : String) : matches? row column pattern = none := by
    rw [matches?, hNull]
    rfl
  cases o with
  | contains => simp [Filter.holds, hMatches]
  | lacks => simp [Filter.holds, hMatches]
  | _ => exact hCompares _

end

/-- An ASCII character is one byte, each time. -/
theorem length_encode_replicate {c : Char} (h : c.toNat < 0x80) (n : Nat) :
    (encode (List.replicate n c)).length = n := by
  induction n with
  | zero => rfl
  | succ n ih =>
      rw [List.replicate_succ, Text.Utf8.encode_cons_ascii h, List.length_cons, ih]

/-! ## What is given -/

/-- The text that a message has in a column, if the column is a field for filters on
texts. -/
def fieldText? (m : Message) : Column → Option String
  | .sender => m.envelope.sender
  | .recipient => m.envelope.recipient
  | .subject => m.envelope.subject
  | _ => none

section

variable {s : Store} {ms : List Message} {rule other : Rule} {column : Column}
  {field : String} {value : Option String}

/-- The columns of such fields are texts, or null where the message has none. -/
theorem get_field (hField : Field.ofName? field = some (.text column)) (m : Message) :
    column.affinity = .text ∧
      (Row.encode m).get column = Row.optionalText (fieldText? m column) := by
  rw [Store.get_encode]
  unfold Field.ofName? at hField
  split at hField
  all_goals cases hField
  all_goals exact ⟨rfl, rfl⟩

private theorem fits_text (o : Operator) {v : String}
    (hShort : o.isPattern = true → (encode v.toList).length ≤ 49998) :
    (Filter.text column o v).Fits := by
  intro hPattern
  have hValue := hShort hPattern
  rw [length_encode_pattern, Sql.maxPattern]
  omega

/-- A message has the field exactly if one of two opposites holds of it. -/
theorem holds_or_holds_opposite (hField : Field.ofName? field = some (.text column))
    (now : Int) (o : Operator) (v : String) (m : Message) :
    ((Filter.text column o v).holds now (Row.encode m) ||
      (Filter.text column o.opposite v).holds now (Row.encode m)) =
        (fieldText? m column).isSome := by
  obtain ⟨hAffinity, hGet⟩ := get_field hField m
  cases hText : fieldText? m column with
  | none =>
      rw [hText] at hGet
      rw [not_holds_of_null now o v hGet, not_holds_of_null now o.opposite v hGet]
      rfl
  | some t =>
      rw [hText] at hGet
      rw [holds_opposite now o v hGet hAffinity, Bool.or_not_self]
      rfl

/-- Two opposites do not both hold of a message. -/
theorem not_holds_and_holds_opposite (hField : Field.ofName? field = some (.text column))
    (now : Int) (o : Operator) (v : String) (m : Message) :
    ((Filter.text column o v).holds now (Row.encode m) &&
      (Filter.text column o.opposite v).holds now (Row.encode m)) = false := by
  obtain ⟨hAffinity, hGet⟩ := get_field hField m
  cases hText : fieldText? m column with
  | none =>
      rw [hText] at hGet
      rw [not_holds_of_null now o v hGet, Bool.false_and]
  | some t =>
      rw [hText] at hGet
      rw [holds_opposite now o v hGet hAffinity, Bool.and_not_self]

/-- **Opposites part the messages that have the field.** Of two rules with one filter on
a text, with one value and opposite operators, no message is selected by both, and those
selected by one of them are all that have the field. If the operators are about
containing and the value has more than 49998 bytes, both queries end at the first
message. -/
theorem opposites_part_messages (hHolds : s.Holds ms) (now : Int)
    (hField : Field.ofName? field = some (.text column)) (o : Operator)
    (hRule : rule.Single ⟨field, o.name, value⟩)
    (hOther : other.Single ⟨field, o.opposite.name, value⟩) :
    ((o.isPattern = true → (encode (value.getD "").toList).length ≤ 49998) →
      ∃ ps qs : List Message, rule.Gives s now (ps.map Row.encode) ∧
        other.Gives s now (qs.map Row.encode) ∧ ps.Disjoint qs ∧
          ∀ m, m ∈ ps ∨ m ∈ qs ↔ m ∈ ms ∧ (fieldText? m column).isSome = true) ∧
    (o.isPattern = true → 49998 < (encode (value.getD "").toList).length → ms ≠ [] →
      ∀ r, r = rule ∨ r = other → ∃ query, r.compile = .ok query ∧
        s.query query.sql query.arguments now = .error (.store .patternTooComplex)) := by
  constructor
  · intro hShort
    let chosen (o : Operator) (m : Message) : Bool :=
      (Filter.text column o (value.getD "")).holds now (Row.encode m)
    have hGives (o' : Operator) (r : Rule) (hSingle : r.Single ⟨field, o'.name, value⟩)
        (hSame : o'.isPattern = o.isPattern) :
        r.Gives s now ((ms.filter (chosen o')).map Row.encode) := by
      have hRows := hSingle.gives_filter (parse_text hField o' value)
        (fits_text o' (hSame ▸ hShort)) hHolds now
      rw [List.filter_map] at hRows
      exact hRows
    refine ⟨ms.filter (chosen o), ms.filter (chosen o.opposite), hGives o rule hRule rfl,
      hGives o.opposite other hOther o.isPattern_opposite, fun m hm hm' => ?_, fun m => ?_⟩
    · have hBoth : (chosen o m && chosen o.opposite m) = false :=
        not_holds_and_holds_opposite hField now o _ m
      rw [(List.mem_filter.1 hm).2, (List.mem_filter.1 hm').2] at hBoth
      cases hBoth
    · have hOne : (chosen o m || chosen o.opposite m) = (fieldText? m column).isSome :=
        holds_or_holds_opposite hField now o _ m
      rw [List.mem_filter, List.mem_filter, ← and_or_left, ← Bool.or_eq_true, hOne]
  · intro hPattern hLong hSome r hr
    have hTooLong : Sql.maxPattern <
        (encode ("%" ++ value.getD "" ++ "%").toList).length := by
      rw [length_encode_pattern, Sql.maxPattern]
      omega
    rcases hr with rfl | rfl
    · exact hRule.fails (parse_text hField o value) hPattern hTooLong hHolds hSome now
    · exact hOther.fails (parse_text hField o.opposite value)
        (o.isPattern_opposite.trans hPattern) hTooLong hHolds hSome now

/-- Two messages, one of which has no subject. -/
theorem opposites_part_messages_titled :
    let titled := titledMessage "a" "News"
    let untitled := bareMessage "b" "0" []
    let s := Store.ofMessages [titled, untitled]
    let rule (o : Operator) : Rule := ⟨"", "any", [⟨"subject", o.name, some "old"⟩], []⟩
    ∃ ps qs : List Message, (rule .contains).Gives s 0 (ps.map Row.encode) ∧
      (rule .lacks).Gives s 0 (qs.map Row.encode) ∧ ps.Disjoint qs ∧
        (titled ∈ ps ∨ titled ∈ qs) ∧ ¬(untitled ∈ ps ∨ untitled ∈ qs) := by
  intro titled untitled s rule
  have hHolds : s.Holds [titled, untitled] := ⟨rfl, by decide⟩
  have hField : Field.ofName? "subject" = some (.text .subject) := rfl
  have hSingle (o : Operator) : (rule o).Single ⟨"subject", o.name, some "old"⟩ :=
    ⟨.inr rfl, rfl⟩
  obtain ⟨ps, qs, hGives, hOther, hDisjoint, hParts⟩ :=
    (opposites_part_messages hHolds 0 hField .contains (hSingle .contains)
      (hSingle .lacks)).1 fun _ => by decide
  have hTitled : (fieldText? titled .subject).isSome = true := by decide
  have hUntitled : (fieldText? untitled .subject).isSome = false := by decide
  refine ⟨ps, qs, hGives, hOther, hDisjoint,
    (hParts titled).2 ⟨List.mem_cons_self, hTitled⟩, fun h => ?_⟩
  have hSome := ((hParts untitled).1 h).2
  rw [hUntitled] at hSome
  cases hSome

/-- A message without a subject is passed over by every operator, and so by both of two
opposites. With a value that is too long there is no answer at all. -/
theorem opposites_pass_over :
    let untitled := bareMessage "a" "0" []
    let s := Store.ofMessages [untitled]
    let rule (o : Operator) (value : String) : Rule :=
      ⟨"", "all", [⟨"subject", o.name, some value⟩], []⟩
    let long := String.ofList (List.replicate 49999 'a')
    (∀ o, (rule o "old").Gives s 0 []) ∧
      ∀ o, o.isPattern = true → ∃ query, (rule o long).compile = .ok query ∧
        s.query query.sql query.arguments 0 = .error (.store .patternTooComplex) := by
  intro untitled s rule long
  have hHolds : s.Holds [untitled] := ⟨rfl, by decide⟩
  have hField : Field.ofName? "subject" = some (.text .subject) := rfl
  have hSingle (o : Operator) (value : String) :
      (rule o value).Single ⟨"subject", o.name, some value⟩ := ⟨.inl rfl, rfl⟩
  have hNull : (Row.encode untitled).get .subject = .null := (get_field hField untitled).2
  have hLong : Sql.maxPattern < (encode ("%" ++ long ++ "%").toList).length := by
    rw [length_encode_pattern, String.toList_ofList, length_encode_replicate (by decide),
      Sql.maxPattern]
    omega
  constructor
  · intro o
    have hRows := (hSingle o "old").gives_filter (parse_text hField o _)
      (fits_text o fun _ => by decide) hHolds 0
    have hNot := not_holds_of_null 0 o "old" hNull
    rw [List.map_cons, List.map_nil, List.filter_cons_of_neg (by simp [hNot])] at hRows
    exact hRows
  · intro o hPattern
    exact (hSingle o long).fails (parse_text hField o _) hPattern hLong hHolds
      (List.cons_ne_nil _ _) 0

end

end Mailroom.Rule
