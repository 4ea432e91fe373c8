import Mailroom.Proofs.Rule.SentLabel
import Mailroom.Proofs.Rule.SingleFilter
import Mailroom.Proofs.Sql.Pattern

/-!
# What the check for sent messages takes for their label

A filter on the date that a message was sent looks for the quoted label in the text of
the message's labels. The label of sent messages is found there, but it is not the only
one. A pattern does not tell capital letters from small ones. And a quote that is part
of a label is written with a backslash in front of it, so it looks like the one with
which a label starts.

What ends the quoted label in the text is a closing quote, though. A quote that is part
of a label has its backslash there. So only the end of a label is taken for the label of
sent messages, and only from its start or from a quote in it on.
-/

namespace Mailroom.Rule

open Mailroom.Json (Printable escape hexDigit quote quoteBody)
open Mailroom.Sql (Condition Truth)
open Mailroom.Sql.Like (Blurred Plain Within covers_within matched_within occurs_plain
  infix_append_cons suffix_append_cons)
open Mailroom.Store (Row)
open Mailroom.Text.Utf8 (encode)

/-! ## Ends of lists -/

section

variable {α : Type} {q : α} {t a b : List α}

/-- What starts with an element that it does not have again starts no earlier than the
last of these. -/
theorem suffix_append_mark (hMark : q ∉ t) : q :: t <:+ a ++ q :: b ↔ q :: t <:+ q :: b := by
  constructor
  · intro h
    rcases List.suffix_or_suffix_of_suffix h (List.suffix_append a (q :: b)) with hEnd | hEnd
    · exact hEnd
    · rcases List.suffix_cons_iff.1 hEnd with hSame | hInside
      · exact hSame ▸ List.suffix_rfl
      · exact absurd (hInside.subset List.mem_cons_self) hMark
  · exact fun h => h.trans (List.suffix_append a (q :: b))

/-- It does not start where there is none. -/
theorem suffix_append_of_notMem (hFront : q ∉ a) : q :: t <:+ a ++ b ↔ q :: t <:+ b := by
  constructor
  · rintro ⟨front, hList⟩
    rcases List.append_eq_append_iff.1 hList with ⟨x, rfl, hRest⟩ | ⟨x, rfl, rfl⟩
    · cases x with
      | nil => exact ⟨[], hRest⟩
      | cons c x =>
          cases hRest
          exact absurd (by simp) hFront
    · exact List.suffix_append x (q :: t)
  · exact fun h => h.trans (List.suffix_append a b)

end

/-! ## The quoted label in a quoted text -/

/-- The label of sent messages in small letters, behind a quote. -/
def sentEnd : List Char := "\"sent".toList

private theorem toLower_eq_quote {c : Char} (h : c.toLower = '"') : c = '"' := by
  have hCode := congrArg Char.toNat h
  rw [Sql.Like.toNat_toLower] at hCode
  have hQuote : Sql.Like.fold c.toNat = 34 := hCode
  refine Char.toNat_inj.1 (show c.toNat = 34 from ?_)
  unfold Sql.Like.fold at hQuote
  split at hQuote
  all_goals omega

private theorem toLower_of_control {c : Char} (h : c.toNat < 32) : c.toLower ∉ sentEnd := by
  have hPrintable : sentEnd.all (32 ≤ ·.toNat) = true := by decide
  intro hMem
  have hCode := of_decide_eq_true (List.all_eq_true.1 hPrintable _ hMem)
  rw [Sql.Like.toNat_toLower, Sql.Like.fold, if_neg (by omega)] at hCode
  omega

/-- How a character is written: as it is; or, a quote, with a backslash in front of it;
or as a backslash and what has no quote in it. -/
theorem escape_shape (c : Char) : (escape c = [c] ∧ c ≠ '"') ∨
    (c = '"' ∧ escape c = ['\\', '"']) ∨
      ∃ code, escape c = '\\' :: code ∧ '"' ∉ code.map Char.toLower ∧
        c.toLower ∉ sentEnd := by
  have hHex : ∀ n < 16, (hexDigit n).toLower ≠ '"' := by decide
  unfold escape
  split
  · next h => exact .inr (.inl ⟨h, rfl⟩)
  next hQuote =>
  split
  · next h => exact .inr (.inr ⟨_, rfl, by decide, by rw [h]; decide⟩)
  split
  · next h => exact .inr (.inr ⟨_, rfl, by decide, by rw [h]; decide⟩)
  split
  · next h => exact .inr (.inr ⟨_, rfl, by decide, by rw [h]; decide⟩)
  split
  · next h => exact .inr (.inr ⟨_, rfl, by decide, by rw [h]; decide⟩)
  split
  · next h => exact .inr (.inr ⟨_, rfl, by decide, toLower_of_control (by omega)⟩)
  split
  · next h => exact .inr (.inr ⟨_, rfl, by decide, toLower_of_control (by omega)⟩)
  split
  · next h =>
    refine .inr (.inr ⟨_, rfl, ?_, toLower_of_control h⟩)
    have hFirst := hHex (c.toNat / 16) (by omega)
    have hSecond := hHex (c.toNat % 16) (by omega)
    simp [hFirst.symm, hSecond.symm]
  · exact .inl ⟨rfl, hQuote⟩

/-- A text with one quote does not have two. -/
theorem not_infix_of_count {front : List Char} (h : front.count '"' ≤ 1) :
    ¬sentEnd ++ ['"'] <:+: front := by
  intro hInfix
  have hCount := hInfix.count_le '"'
  have hTwo : (sentEnd ++ ['"']).count '"' = 2 := by decide
  omega

/-- Behind something with at most one quote: the closing quote of the label is that of
the text. -/
theorem infix_quoteBody {front : List Char} (h : front.count '"' ≤ 1) (l : List Char) :
    sentEnd ++ ['"'] <:+: front ++ ((quoteBody l).map Char.toLower ++ ['"']) ↔
      sentEnd <:+ front ++ l.map Char.toLower := by
  -- On the text, with what was written since the last backslash in `front`.
  induction l generalizing front with
  | nil =>
      have hClose : sentEnd ++ ['"'] <:+: front ++ ['"'] ↔ sentEnd <:+ front := by
        rw [List.infix_concat_iff, List.suffix_append_self_iff]
        exact or_iff_left (not_infix_of_count h)
      simpa [quoteBody] using hClose
  | cons c l ih =>
      have hBody : quoteBody (c :: l) = escape c ++ quoteBody l := rfl
      have hSlash : '\\' ∉ sentEnd ++ ['"'] := by decide
      rcases escape_shape c with ⟨hEscape, hc⟩ | ⟨rfl, hEscape⟩ | ⟨code, hEscape, hCode, hc⟩
      · have hCount : (front ++ [c.toLower]).count '"' ≤ 1 := by
          have hOther : c.toLower ≠ '"' := fun hSame => hc (toLower_eq_quote hSame)
          simpa [List.count_append, hOther] using h
        have hNext := ih hCount
        simpa [hBody, hEscape] using hNext
      · have hOne : ['"'].count '"' ≤ 1 := by decide
        have hNext := ih hOne
        have hMark : sentEnd <:+ front ++ '"' :: l.map Char.toLower ↔
            sentEnd <:+ '"' :: l.map Char.toLower := suffix_append_mark (by decide)
        have hText : front ++ ((quoteBody ('"' :: l)).map Char.toLower ++ ['"']) =
            front ++ '\\' :: (['"'] ++ ((quoteBody l).map Char.toLower ++ ['"'])) := by
          rw [hBody, hEscape]
          rfl
        rw [hText, infix_append_cons hSlash, or_iff_right (not_infix_of_count h), hNext]
        exact hMark.symm
      · have hCount : (code.map Char.toLower).count '"' ≤ 1 := by
          rw [List.count_eq_zero_of_not_mem hCode]
          exact Nat.zero_le 1
        have hNext := ih hCount
        have hText : front ++ ((quoteBody (c :: l)).map Char.toLower ++ ['"']) =
            front ++ '\\' :: (code.map Char.toLower ++
              ((quoteBody l).map Char.toLower ++ ['"'])) := by
          rw [hBody, hEscape, List.cons_append, List.map_cons, List.map_append,
            List.cons_append, List.append_assoc]
          rfl
        have hInside : sentEnd <:+ code.map Char.toLower ++ l.map Char.toLower ↔
            sentEnd <:+ l.map Char.toLower := suffix_append_of_notMem hCode
        rw [hText, infix_append_cons hSlash, or_iff_right (not_infix_of_count h), hNext,
          hInside, List.map_cons, suffix_append_cons hc]

/-- The codes of the quoted label between two `%` are those of its pattern. -/
theorem within_quotedSent {cs : List Char} (h : Printable cs) :
    Within quotedSent cs ↔ sentEnd ++ ['"'] <:+: cs.map Char.toLower := by
  have hNul : '\x00' ∉ (String.ofList cs).toList := by
    rw [String.toList_ofList]
    exact fun hMem => absurd (h _ hMem) (by decide)
  have hLiteral : Sql.Like.Literal quotedSent := by
    unfold Sql.Like.Literal
    decide
  have hPlain : Plain "\"SENT\"".toList := by
    have hAll : "\"SENT\"".toList.all
        (fun p => p ≠ '%' ∧ p ≠ '_' ∧ ¬Blurred p) = true := by decide
    exact fun p hp => of_decide_eq_true (List.all_eq_true.1 hAll p hp)
  have hMatched := matched_within (v := "\"SENT\"") (by decide) hNul
  rw [occurs_plain hPlain, String.toList_ofList] at hMatched
  rw [Within, ← covers_within hLiteral, ← characters_sentPattern]
  exact hMatched

/-- **When the quoted label stands in a label as it is written**: at its end. -/
theorem within_quote (l : String) : Within quotedSent (quote l.toList) ↔
    sentEnd <:+ '"' :: l.toList.map Char.toLower := by
  have hOne : ['"'].count '"' ≤ 1 := by decide
  have hBody := infix_quoteBody hOne l.toList
  have hText : (quote l.toList).map Char.toLower =
      ['"'] ++ ((quoteBody l.toList).map Char.toLower ++ ['"']) := by
    rw [quote, List.map_append, List.map_cons]
    rfl
  have hPrintable : Printable (quote l.toList) := Json.printable_quoteText (some l)
  rw [within_quotedSent hPrintable, hText]
  exact hBody

/-! ## The check -/

/-- Whether a label ends, from its start or from a quote in it on, in the label of sent
messages, with letters of either case. -/
def LooksSent (label : String) : Prop :=
  sentEnd <:+ '"' :: label.toList.map Char.toLower

instance : DecidablePred LooksSent :=
  fun _ => inferInstanceAs (Decidable (_ <:+ _))

/-- Each row of a message has labels, so the check is true or false. -/
theorem matches?_labels (m : Message) : matches? (Row.encode m) .labelIds sentPattern =
    some (decide (∃ l ∈ m.labelIds, LooksSent l)) := by
  obtain ⟨b, hb⟩ : ∃ b, matches? (Row.encode m) .labelIds sentPattern = some b := by
    rw [matches?, Store.get_encode]
    exact ⟨_, rfl⟩
  have hSent := matches?_sent m
  simp only [within_quote] at hSent
  rw [hb, Option.some_inj] at hSent ⊢
  rw [Bool.eq_iff_iff, decide_eq_true_eq]
  exact hSent

/-- **The check reads labels by their ends.** What a filter on sent messages adds to one
on received messages is true on the row of a message exactly if one of its labels looks
like that of sent messages. That label itself does. -/
theorem sent_check_reads_labels (m : Message) (mode : MatchMode) (o : Operator)
    (v : DateValue) (arguments : List String) (now : Int) :
    (queryOf mode [.date true o v]).condition? =
        (queryOf mode [.date false o v]).condition?.map (Condition.both · sentCondition) ∧
      sentCondition.eval ((Row.encode m).scope arguments now) =
        .ok (Truth.ofBool (decide (∃ l ∈ m.labelIds, LooksSent l))) ∧
      ((∃ l ∈ m.labelIds, LooksSent l) ↔ m.hasLabel Message.sentLabel = true ∨
        ∃ l ∈ m.labelIds, l ≠ Message.sentLabel ∧ LooksSent l) := by
  refine ⟨?_, ?_, ?_⟩
  · rw [condition?_queryOf, condition?_queryOf]
    rfl
  · have hShort : (encode sentPattern.toList).length ≤ Sql.maxPattern := by decide
    have hLike : Sql.evalLike ((Row.encode m).get .labelIds) (.text sentPattern) = _ :=
      evalLike_eq hShort
    rw [matches?_labels] at hLike
    simpa [sentCondition, Condition.eval, Sql.Operand.value, scope_column,
      Sql.evalComparison] using hLike
  · have hSent : LooksSent Message.sentLabel := by decide
    rw [Message.hasLabel, List.contains_iff_mem]
    constructor
    · rintro ⟨l, hl, hLooks⟩
      by_cases hSame : l = Message.sentLabel
      · exact .inl (hSame ▸ hl)
      · exact .inr ⟨l, hl, hSame, hLooks⟩
    · rintro (hMem | ⟨l, hl, -, hLooks⟩)
      · exact ⟨_, hMem, hSent⟩
      · exact ⟨l, hl, hLooks⟩

/-- Small letters are taken for the label of sent messages, and so is a quote in front of
it. Neither message has that label, and both are selected as sent. -/
theorem small_letters_look_sent :
    let small := bareMessage "a" "1703289600000" ["sent"]
    let marked := bareMessage "b" "1703289600000" ["\"SENT"]
    let rule : Rule := ⟨"", "all",
      [⟨"date_sent", Operator.name .atLeast, some "2000-01-01"⟩], []⟩
    small.hasLabel Message.sentLabel = false ∧
      marked.hasLabel Message.sentLabel = false ∧
        ∃ rows, rule.Gives (Store.ofMessages [small, marked]) 0 rows ∧
          Row.encode small ∈ rows ∧ Row.encode marked ∈ rows := by
  intro small marked rule
  have hHolds : (Store.ofMessages [small, marked]).Holds [small, marked] :=
    ⟨rfl, by decide⟩
  have hSingle : rule.Single ⟨"date_sent", Operator.name .atLeast, some "2000-01-01"⟩ :=
    ⟨.inl rfl, rfl⟩
  have hParse : Filter.parse ⟨"date_sent", Operator.name .atLeast, some "2000-01-01"⟩ =
      .ok (.date true .atLeast (.absolute "2000-01-01")) := rfl
  obtain ⟨rows, hGives, hRows⟩ := hSingle.gives hParse rfl hHolds 0
  have hSmall := hRows small List.mem_cons_self
  have hMarked := hRows marked (List.mem_cons_of_mem _ List.mem_cons_self)
  exact ⟨by decide, by decide, rows, hGives, hSmall.2 (by decide +kernel),
    hMarked.2 (by decide +kernel)⟩

end Mailroom.Rule
