import Mailroom.Proofs.Calendar.Stamp
import Mailroom.Proofs.Rule.Duration
import Mailroom.Proofs.Rule.SingleFilter

/-!
# Filters on the date of a message

A row keeps the moment that a message came as a text, in a column that converts what it
is compared with towards numbers. A date is no number, so for it nothing is converted,
and the two texts are compared. In the years 0 to 9999 that is the comparison of the
moments, and a date without a time stands between two days.

A value that reads as a number is converted, though, and then no text is compared: each
text comes after each number. So a filter with the year `2024` for a value does not ask
whether a message came in that year or before it.
-/

namespace Mailroom

open Calendar (Date Stamp InYears dateText dayNumber momentText)
open Sql (Value Numeral compareText compareBytes compareValues)
open Store (Row)

/-! ## The moment of a message -/

namespace Message

/-- The milliseconds since 1970 that the date of a message is read as. -/
def millis? (m : Message) : Option Int64 := int64OfText? (trimmed m.internalDate)

private theorem moment?_eq (m : Message) :
    m.moment? = m.millis?.bind fun ms => Calendar.momentOfMillis? ms.toInt := rfl

/-- **The text that a row keeps**: parts of a second are dropped, down to the second
before, also for moments before 1970. -/
theorem moment?_of_millis? {m : Message} {ms : Int64} (h : m.millis? = some ms)
    (hYears : InYears (ms.toInt / 1000)) :
    m.moment? = some (momentText (ms.toInt / 1000)) := by
  have hFirst : Calendar.firstDay ≤ dayNumber ⟨0, 1, 1⟩ := by decide
  have hLast : dayNumber ⟨10000, 1, 1⟩ ≤ Calendar.lastDay := by decide
  have hDay : Calendar.firstDay ≤ ms.toInt / 86400000 ∧
      ms.toInt / 86400000 ≤ Calendar.lastDay := by
    unfold InYears at hYears
    omega
  rw [moment?_eq, h, Option.bind_some, Calendar.momentOfMillis?, if_pos hDay]

end Message

/-! ## Numbers and texts -/

namespace Sql

/-- A numeral becomes a number, and each text comes after each number. -/
theorem compareValues_text_toValue (s : String) (n : Numeral) :
    compareValues (.text s) n.toValue = some .gt := by
  have hReal (x : Float) : compareValues (.text s) (ofReal x) = some .gt := by
    unfold ofReal
    split
    · rfl
    · rfl
  have hWord (i : Int) (x : Float) :
      compareValues (.text s) (Numeral.toValue.word i x) = some .gt := by
    unfold Numeral.toValue.word
    split
    · rfl
    · exact hReal x
  unfold Numeral.toValue
  simp only
  split
  · split
    · split
      · rfl
      · exact hWord _ _
    · exact hWord _ _
  · exact hReal _

end Sql

namespace Rule

/-! ## Operators on integers -/

/-- How an operator compares integers. -/
def Operator.relates : Operator → Int → Int → Prop
  | equal, a, b => a = b
  | unequal, a, b => a ≠ b
  | greater, a, b => b < a
  | less, a, b => a < b
  | atLeast, a, b => b ≤ a
  | atMost, a, b => a ≤ b
  | contains, _, _ => False
  | lacks, _, _ => False

instance : ∀ (o : Operator) (a b : Int), Decidable (o.relates a b)
  | .equal, a, b => inferInstanceAs (Decidable (a = b))
  | .unequal, a, b => inferInstanceAs (Decidable (a ≠ b))
  | .greater, a, b => inferInstanceAs (Decidable (b < a))
  | .less, a, b => inferInstanceAs (Decidable (a < b))
  | .atLeast, a, b => inferInstanceAs (Decidable (b ≤ a))
  | .atMost, a, b => inferInstanceAs (Decidable (a ≤ b))
  | .contains, _, _ => inferInstanceAs (Decidable False)
  | .lacks, _, _ => inferInstanceAs (Decidable False)

theorem accepts_compare (o : Operator) (a b : Int) :
    o.accepts (compare a b) = true ↔ o.relates a b := by
  cases o <;> simp [Operator.accepts, Operator.relates, Int.compare_eq_lt,
    Int.compare_eq_gt]

/-- How an operator compares a moment with a day that starts at `start`. No moment is a
day, so the two kinds of *greater* are the same, and the two kinds of *less*. -/
def Operator.relatesToDay : Operator → Int → Int → Prop
  | equal, _, _ => False
  | unequal, _, _ => True
  | greater, a, start => start ≤ a
  | atLeast, a, start => start ≤ a
  | less, a, start => a < start
  | atMost, a, start => a < start
  | contains, _, _ => False
  | lacks, _, _ => False

private theorem accepts_day {o : Operator} (hOrder : o.isPattern = false) (a start : Int) :
    o.accepts (if start ≤ a then .gt else .lt) = true ↔ o.relatesToDay a start := by
  cases o with
  | contains => cases hOrder
  | lacks => cases hOrder
  | _ =>
      split
      all_goals simp [Operator.accepts, Operator.relatesToDay]
      all_goals omega

/-! ## What is given -/

section

variable {s : Store} {ms : List Message} {now : Int} {rule : Rule} {o : Operator}
  {value v : String}

private theorem parse_date (hOrder : o.isPattern = false) (hValue : nonblank? value = some v) :
    Filter.parse ⟨"date_received", o.name, some value⟩ =
      .ok (.date false o (.ofText v)) := by
  have hField : Field.ofName? "date_received" = some (.date false) := rfl
  have hAdmits : (some o).filter (Field.admits (.date false)) = some o := by
    simp [Option.filter, Field.admits, hOrder]
  simp only [Filter.parse, hField, Operator.ofName?_name, hAdmits, Option.bind_some,
    hValue]

/-- **What a rule with a filter on the date gives**: the rows whose moment compares with
that of the value. -/
theorem dates_given (hHolds : s.Holds ms) (now : Int) (hOrder : o.isPattern = false)
    (hValue : nonblank? value = some v)
    (hSingle : rule.Single ⟨"date_received", o.name, some value⟩) :
    ∃ rows, rule.Gives s now rows ∧ ∀ m ∈ ms, Row.encode m ∈ rows ↔
      compares (Row.encode m) .internalDate o ((DateValue.ofText v).moment now) = true := by
  obtain ⟨rows, hGives, hRows⟩ :=
    hSingle.gives (parse_date hOrder hValue) hOrder hHolds now
  refine ⟨rows, hGives, fun m hm => ?_⟩
  rw [hRows m hm]
  simp [Filter.holds]

/-- A message without a moment compares with nothing. -/
theorem compares_of_none {m : Message} (h : m.moment? = none) (v : Value) :
    compares (Row.encode m) .internalDate o v = false := by
  unfold compares
  rw [Store.get_encode, Row.valueOf, h]
  rfl

/-- The moment of a message compares with a text that is no numeral as texts do. -/
theorem compares_text {m : Message} {moment text : String} (h : m.moment? = some moment)
    (hText : Numeral.ofText? text = none) :
    compares (Row.encode m) .internalDate o (.text text) =
      o.accepts (compareText moment text) := by
  have hApply : Sql.Affinity.apply .numeric (.text text) = .text text := by
    rw [Sql.Affinity.apply, hText]
  unfold compares
  rw [Store.get_encode, Row.valueOf, h, Store.Column.affinity_internalDate, hApply]
  rfl

/-- It comes after each text that is a numeral. -/
theorem compares_numeral {m : Message} {moment text : String}
    (h : m.moment? = some moment) {n : Numeral} (hText : Numeral.ofText? text = some n) :
    compares (Row.encode m) .internalDate o (.text text) = o.accepts .gt := by
  have hApply : Sql.Affinity.apply .numeric (.text text) = n.toValue := by
    rw [Sql.Affinity.apply, hText]
  have hOrder : compareValues (Row.optionalText (some moment)) n.toValue = some .gt :=
    Sql.compareValues_text_toValue moment n
  unfold compares
  rw [Store.get_encode, Row.valueOf, h, Store.Column.affinity_internalDate, hApply, hOrder]

end

/-! ## Moments and dates -/

/-- A value with a dash after its first digits is neither a duration nor a numeral. -/
theorem absolute_of_dash {value v : String} (hValue : nonblank? value = some v)
    {ds tail : List Char} (hSome : ds ≠ []) (hDigits : ∀ c ∈ ds, c.isDigit = true)
    (hText : v.toList = ds ++ '-' :: tail) :
    DateValue.ofText v = .absolute v ∧ Numeral.ofText? v = none := by
  constructor
  · have hTrim : Text.trim v.toList = ds ++ '-' :: tail :=
      (trim_of_nonblank? hValue).trans hText
    rw [DateValue.ofText, not_isRelativeDuration_of_dash hDigits hTrim]
    rfl
  · rw [← String.ofList_toList (s := v), hText]
    have hSign : Numeral.IsSign [] := .inl rfl
    exact Numeral.ofText?_dashed hSign hSome hDigits tail

/-- That is what a date starts with. -/
theorem absolute_of_dateText {value v : String} (hValue : nonblank? value = some v)
    {day : Date} (hDay : day.Written) {tail : List Char}
    (hText : v.toList = dateText day ++ tail) :
    DateValue.ofText v = .absolute v ∧ Numeral.ofText? v = none := by
  rw [hDay.dateText_eq, List.append_assoc] at hText
  exact absolute_of_dash hValue (Calendar.padded_ne_nil _ _)
    (fun c hc => Calendar.isDigit_of_mem_padded hc) hText

section

variable {s : Store} {ms : List Message} {rule : Rule} {o : Operator}
  {value v : String}

/-- **Absolute dates compare as moments.** For each message in a store whose date is in
the years 0 to 9999: a value that is a moment is compared with the second in which the
message came, and a value that is a day with the day's start. A message without a
readable date is selected by no operator. -/
theorem absolute_dates_compare (hHolds : s.Holds ms) (now : Int)
    (hOrder : o.isPattern = false) (hValue : nonblank? value = some v)
    (hSingle : rule.Single ⟨"date_received", o.name, some value⟩) :
    ∃ rows, rule.Gives s now rows ∧ ∀ m ∈ ms,
      (m.millis? = none → Row.encode m ∉ rows) ∧
      ∀ millis, m.millis? = some millis → InYears (millis.toInt / 1000) →
        (∀ stamp : Stamp, stamp.Valid → v = stamp.text →
          (Row.encode m ∈ rows ↔ o.relates (millis.toInt / 1000) stamp.seconds)) ∧
        ∀ day : Date, day.Written → v = String.ofList (dateText day) →
          (Row.encode m ∈ rows ↔
            o.relatesToDay (millis.toInt / 1000) (dayNumber day * 86400)) := by
  obtain ⟨rows, hGives, hRows⟩ := dates_given hHolds now hOrder hValue hSingle
  refine ⟨rows, hGives, fun m hm => ⟨fun hNone => ?_, fun millis hMillis hYears => ?_⟩⟩
  · have hMoment : m.moment? = none := by rw [Message.moment?_eq, hNone]; rfl
    rw [hRows m hm, compares_of_none hMoment]
    exact Bool.false_ne_true
  · have hMoment := Message.moment?_of_millis? hMillis hYears
    refine ⟨fun stamp hStamp hText => ?_, fun day hDay hText => ?_⟩
    · have hAbsolute := absolute_of_dateText hValue hStamp.date
        (by rw [hText, Stamp.text, String.toList_ofList])
      rw [hRows m hm, hAbsolute.1, DateValue.moment, compares_text hMoment hAbsolute.2,
        hText, ← Stamp.momentText_seconds hStamp,
        Calendar.compareText_momentText hYears (Stamp.inYears_seconds hStamp),
        accepts_compare]
    · have hList : v.toList = dateText day ++ [] := by
        rw [hText, String.toList_ofList, List.append_nil]
      have hAbsolute := absolute_of_dateText hValue hDay hList
      rw [hRows m hm, hAbsolute.1, DateValue.moment, compares_text hMoment hAbsolute.2,
        hText, Calendar.compareText_dateText hYears hDay, accepts_day hOrder]

/-- One millisecond before 1970, the last second of 1969 is not over. -/
theorem absolute_dates_compare_floored :
    let early := bareMessage "a" "-1" []
    let undated := bareMessage "b" "soon" []
    let rule : Rule := ⟨"", "all",
      [⟨"date_received", Operator.name .atMost, some " 1969-12-31 23:59:59 "⟩], []⟩
    ∃ rows, rule.Gives (Store.ofMessages [early, undated]) 0 rows ∧
      Row.encode early ∈ rows ∧ Row.encode undated ∉ rows := by
  intro early undated rule
  have hHolds : (Store.ofMessages [early, undated]).Holds [early, undated] :=
    ⟨rfl, by decide⟩
  have hValue : nonblank? " 1969-12-31 23:59:59 " = some "1969-12-31 23:59:59" := by
    decide
  have hSingle : rule.Single ⟨"date_received", Operator.name .atMost,
      some " 1969-12-31 23:59:59 "⟩ := ⟨.inl rfl, rfl⟩
  obtain ⟨rows, hGives, hRows⟩ := absolute_dates_compare hHolds 0 rfl hValue hSingle
  have hEarly := (hRows early List.mem_cons_self).2 (-1) (by decide) (by decide)
  have hUndated := hRows undated (List.mem_cons_of_mem _ List.mem_cons_self)
  have hStamp := hEarly.1 ⟨⟨1969, 12, 31⟩, 23, 59, 59⟩
    ⟨by decide, by decide, by decide, by decide⟩ (by decide +kernel)
  exact ⟨rows, hGives, hStamp.2 (by decide), hUndated.1 (by decide)⟩

end

/-! ## Any other values -/

section

variable {s : Store} {ms : List Message} {rule : Rule} {o : Operator}
  {value v : String}

/-- **Absolute values compare as texts, unless they read as numbers.** The bytes of a
value that is no duration are compared with those of the moment that a row keeps, but a
value that is a numeral comes before all of them. -/
theorem absolute_values_compare (hHolds : s.Holds ms) (now : Int)
    (hOrder : o.isPattern = false) (hValue : nonblank? value = some v)
    (hAbsolute : isRelativeDuration v = false)
    (hSingle : rule.Single ⟨"date_received", o.name, some value⟩) :
    ∃ rows, rule.Gives s now rows ∧ ∀ m ∈ ms, ∀ moment, m.moment? = some moment →
      (Row.encode m ∈ rows ↔ o.accepts (if (Numeral.ofText? v).isSome then .gt
        else compareBytes (Text.Utf8.encode moment.toList)
          (Text.Utf8.encode v.toList)) = true) := by
  obtain ⟨rows, hGives, hRows⟩ := dates_given hHolds now hOrder hValue hSingle
  refine ⟨rows, hGives, fun m hm moment hMoment => ?_⟩
  have hDate : DateValue.ofText v = .absolute v := by
    rw [DateValue.ofText, hAbsolute]
    rfl
  rw [hRows m hm, hDate, DateValue.moment]
  cases hNumeral : Numeral.ofText? v with
  | none =>
      rw [compares_text hMoment hNumeral, Sql.compareText_eq_compareBytes]
      rfl
  | some n =>
      rw [compares_numeral hMoment hNumeral]
      rfl

/-- A month of a year is no number, and its moments come after it. -/
theorem absolute_values_compare_month :
    let message := bareMessage "a" "1703289600000" []
    let rule : Rule := ⟨"", "any",
      [⟨"date_received", Operator.name .greater, some "2023-12 "⟩], []⟩
    ∃ rows, rule.Gives (Store.ofMessages [message]) 0 rows ∧
      Row.encode message ∈ rows := by
  intro message rule
  have hHolds : (Store.ofMessages [message]).Holds [message] := ⟨rfl, by decide⟩
  have hValue : nonblank? "2023-12 " = some "2023-12" := by decide
  have hSingle : rule.Single ⟨"date_received", Operator.name .greater,
      some "2023-12 "⟩ := ⟨.inr rfl, rfl⟩
  obtain ⟨rows, hGives, hRows⟩ :=
    absolute_values_compare hHolds 0 rfl hValue (by decide) hSingle
  have hMessage := hRows message List.mem_cons_self "2023-12-23 00:00:00"
    (by decide +kernel)
  exact ⟨rows, hGives, hMessage.2 (by decide +kernel)⟩

/-- A bare year is a number, and no moment comes before it, whatever the texts say. -/
theorem year_is_no_text :
    let message := bareMessage "a" "1703289600000" []
    let rule : Rule := ⟨"", "all",
      [⟨"date_received", Operator.name .less, some "2024"⟩], []⟩
    isRelativeDuration "2024" = false ∧
      message.moment? = some "2023-12-23 00:00:00" ∧
      Operator.accepts .less (compareBytes
        (Text.Utf8.encode "2023-12-23 00:00:00".toList)
        (Text.Utf8.encode "2024".toList)) = true ∧
      ∃ rows, rule.Gives (Store.ofMessages [message]) 0 rows ∧
        Row.encode message ∉ rows := by
  intro message rule
  have hMoment : message.moment? = some "2023-12-23 00:00:00" := by decide +kernel
  have hAbsolute : DateValue.ofText "2024" = .absolute "2024" := by decide
  obtain ⟨n, hNumeral⟩ : ∃ n, Numeral.ofText? "2024" = some n :=
    Option.isSome_iff_exists.1 (by decide)
  have hHolds : (Store.ofMessages [message]).Holds [message] := ⟨rfl, by decide⟩
  have hValue : nonblank? "2024" = some "2024" := by decide
  have hSingle : rule.Single ⟨"date_received", Operator.name .less, some "2024"⟩ :=
    ⟨.inl rfl, rfl⟩
  obtain ⟨rows, hGives, hRows⟩ := dates_given hHolds 0 rfl hValue hSingle
  refine ⟨by decide, hMoment, by decide, rows, hGives, ?_⟩
  rw [hRows message List.mem_cons_self, hAbsolute, DateValue.moment,
    compares_numeral hMoment hNumeral]
  decide

end

end Rule

end Mailroom
