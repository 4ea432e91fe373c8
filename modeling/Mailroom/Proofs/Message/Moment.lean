import Mailroom.Proofs.Calendar.Elapsed
import Mailroom.Proofs.Rule.DateFilter

/-!
# When a message came, as a text

A message has its date in milliseconds since 1970, and a row has it as a text. In the years
0 to 9999 nothing is lost on the way but parts of a second, and these are dropped down to
the second before, also for moments before 1970. The text names the day of the calendar and
the time of day that are so many seconds after, or before, the start of 1970; and as texts,
byte by byte, dates are ordered as their seconds are.
-/

namespace Mailroom.Message

open Calendar (InYears Stamp momentText)
open Sql (compareBytes)
open Store (Row)

variable {m : Message} {ms : Int64}

/-- The text of a date is that of the stamp of its moment. -/
theorem moment?_eq_text (hDate : m.millis? = some ms) (hYears : InYears (ms.toInt / 1000)) :
    m.moment? = some (Stamp.ofSeconds (ms.toInt / 1000)).text := by
  have hText := Stamp.momentText_seconds (Stamp.valid_ofSeconds hYears)
  rw [Stamp.seconds_ofSeconds] at hText
  rw [moment?_of_millis? hDate hYears, hText]

/-- Dates are ordered as their texts, byte by byte. -/
theorem compareBytes_text {s t : Int} (hs : InYears s) (ht : InYears t) :
    compareBytes (Text.Utf8.encode (Stamp.ofSeconds s).text.toList)
      (Text.Utf8.encode (Stamp.ofSeconds t).text.toList) = compare s t := by
  have hOrder := Calendar.compareText_momentText hs ht
  have hFirst := Stamp.momentText_seconds (Stamp.valid_ofSeconds hs)
  have hSecond := Stamp.momentText_seconds (Stamp.valid_ofSeconds ht)
  rw [Stamp.seconds_ofSeconds] at hFirst hSecond
  rw [← Sql.compareText_eq_compareBytes, ← hFirst, ← hSecond, hOrder]

/-- **Dates are written exactly and in order.** The date of a message in the years 0 to
9999 is written with nineteen characters, in its column too. They say a day of the calendar
and a time of day, which are as many seconds after the start of 1970 as the milliseconds
make, rounded down. And the texts of two such dates are ordered, byte by byte, as their
seconds. -/
theorem moments_exact_and_ordered (hDate : m.millis? = some ms)
    (hYears : InYears (ms.toInt / 1000)) :
    ∃ (s : Stamp) (text : String), s.Valid ∧ s.sinceEpoch = ms.toInt / 1000 ∧
      m.moment? = some text ∧ text.length = 19 ∧ s.Says text ∧
      (Row.encode m).get .internalDate = .text text ∧
      ∀ (m' : Message) (ms' : Int64), m'.millis? = some ms' → InYears (ms'.toInt / 1000) →
        ∃ text', m'.moment? = some text' ∧
          compareBytes (Text.Utf8.encode text.toList) (Text.Utf8.encode text'.toList) =
            compare (ms.toInt / 1000) (ms'.toInt / 1000) := by
  have hValid := Stamp.valid_ofSeconds hYears
  have hText := moment?_eq_text hDate hYears
  have hSays := Stamp.says_text hValid
  refine ⟨_, _, hValid, ?_, hText, hSays.length, hSays, ?_, ?_⟩
  · rw [← Stamp.seconds_eq hValid, Stamp.seconds_ofSeconds]
  · rw [Store.get_encode, Row.valueOf, hText, Row.optionalText]
  · intro m' ms' hDate' hYears'
    exact ⟨_, moment?_eq_text hDate' hYears', compareBytes_text hYears hYears'⟩

/-- A millisecond before 1970 is written as the second before it, and comes before a leap
day. -/
theorem moments_exact_and_ordered_early :
    let early := bareMessage "a" " -1\n" []
    let leap := bareMessage "b" "951782400000" []
    early.millis? = some (-1) ∧ leap.millis? = some 951782400000 ∧
      ∃ (s : Stamp) (text text' : String), s.sinceEpoch = -1 ∧ early.moment? = some text ∧
        s.Says text ∧ leap.moment? = some text' ∧
        compareBytes (Text.Utf8.encode text.toList) (Text.Utf8.encode text'.toList) = .lt := by
  intro early leap
  have hEarly : early.millis? = some (-1) := by decide
  have hLeap : leap.millis? = some 951782400000 := by decide
  obtain ⟨s, text, -, hSeconds, hText, -, hSays, -, hOrder⟩ :=
    moments_exact_and_ordered hEarly (by decide)
  obtain ⟨text', hText', hLess⟩ := hOrder leap _ hLeap (by decide)
  exact ⟨hEarly, hLeap, s, text, text', hSeconds.trans (by decide), hText, hSays, hText',
    hLess.trans (by decide)⟩

end Mailroom.Message
