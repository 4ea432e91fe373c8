import Mailroom.Proofs.Rule.Selection
import Mailroom.Proofs.Sql.Within
import Mailroom.Proofs.Store.ReadBack

/-!
# The label of sent messages

A row keeps the labels of a message as the text of a JSON list. Whether a
message was sent is asked of that text: it has to have the quoted label in it.
Commas and brackets separate the labels, and the quoted label has none, so it
stands in the text of the list exactly if it stands in the text of one label.

Each label is thus asked on its own. The labels of the inbox and of messages not
read yet do not answer for the label of sent messages, so it does not matter to
it if they come and go.
-/

namespace Mailroom.Rule

open Mailroom.Json (Printable later listed compact quote)
open Mailroom.Store (Row)
open Mailroom.Sql.Like (Within within_append within_nil characters covers_within)

/-! ## Lists of strings -/

/-- The characters that separate the items of a list. -/
def separators : List Char := ['[', ',', ']']

section

variable {w : List Nat}
  (hSeparators : ∀ c ∈ separators, Sql.Like.fold c.toNat ∉ w.map Sql.Like.fold)
include hSeparators

private theorem within_separator {c : Char} (hc : c ∈ separators) {front : List Char}
    (hFront : Printable front) (back : List Char) :
    Within w (front ++ c :: back) ↔ Within w front ∨ Within w back := by
  have hCode : ∀ c ∈ separators, 0 < c.toNat ∧ c.toNat < 0x80 := by
    simp [separators]
  obtain ⟨hPos, hAscii⟩ := hCode c hc
  refine within_append hPos hAscii (hSeparators c hc) (fun d hd => ?_) back
  exact Nat.lt_of_lt_of_le (by decide) (hFront d hd)

variable (hw : w ≠ [])
include hw

/-- Items behind something else. -/
theorem within_append_later {α : Type} {text : α → List Char} {xs : List α}
    (hText : ∀ x ∈ xs, Printable (text x)) {front : List Char}
    (hFront : Printable front) : Within w (front ++ later ']' text xs) ↔
      Within w front ∨ ∃ x ∈ xs, Within w (text x) := by
  induction xs generalizing front with
  | nil =>
      rw [later, within_separator hSeparators (by decide) hFront]
      simp [within_nil hw]
  | cons x xs ih =>
      obtain ⟨hHead, hTail⟩ := List.forall_mem_cons.1 hText
      rw [later, List.cons_append,
        within_separator hSeparators (by decide) hFront, ih hTail hHead]
      simp

/-- **What stands in a list of strings** stands in one of the strings, as it is
written in quotes. -/
theorem within_ofStrings (ss : List String) :
    Within w (Json.ofStrings ss).render.toList ↔
      ∃ s ∈ ss, Within w (quote s.toList) := by
  have hRender : (Json.ofStrings ss).render.toList =
      [] ++ '[' :: listed ']' compact (ss.map Json.ofString) := by
    rw [Json.ofStrings, Json.render, String.toList_ofList, Json.compact_array]
    rfl
  have hText : ∀ j ∈ ss.map Json.ofString, Printable (compact j) := by
    intro j hj
    obtain ⟨s, -, rfl⟩ := List.mem_map.1 hj
    exact Json.printable_quoteText (some s)
  rw [hRender, within_separator hSeparators (by decide) Json.printable_nil]
  cases ss with
  | nil =>
      have hClose := within_separator hSeparators (c := ']') (by decide)
        Json.printable_nil []
      have hEmpty : ¬Within w [']'] := by
        simpa [within_nil hw] using hClose
      simpa [within_nil hw, listed] using hEmpty
  | cons s ss =>
      obtain ⟨hHead, hTail⟩ := List.forall_mem_cons.1 hText
      rw [List.map_cons, listed,
        within_append_later hSeparators hw hTail hHead]
      have hQuote (s : String) : compact (Json.ofString s) = quote s.toList := rfl
      simp [within_nil hw, hQuote]

end

/-! ## The quoted label -/

/-- The characters of the label in quotes. -/
def quotedSent : List Nat := (quote Message.sentLabel.toList).map Char.toNat

theorem characters_sentPattern :
    characters (Text.Utf8.encode sentPattern.toList) =
      Sql.Like.anyText :: (quotedSent ++ [Sql.Like.anyText]) := by
  decide

/-- **A row is that of a sent message** if the label in quotes stands in one of
the message's labels in quotes. -/
theorem matches?_sent (m : Message) :
    matches? (Row.encode m) .labelIds sentPattern = some true ↔
      ∃ l ∈ m.labelIds, Within quotedSent (quote l.toList) := by
  have hLiteral : Sql.Like.Literal quotedSent := by
    unfold Sql.Like.Literal
    decide
  have hSeparators :
      ∀ c ∈ separators, Sql.Like.fold c.toNat ∉ quotedSent.map Sql.Like.fold := by
    simp only [separators, List.forall_mem_cons]
    exact ⟨by decide, by decide, by decide, List.forall_mem_nil _⟩
  rw [← within_ofStrings hSeparators (by decide), matches?, Store.get_encode]
  show some (Sql.Like.covers (characters (Text.Utf8.encode sentPattern.toList))
    _) = some true ↔ _
  rw [characters_sentPattern, Option.some_inj, covers_within hLiteral]
  rfl

/-- Labels that come and go without a say in whether a message was sent. -/
def incidental : List String := [Message.inboxLabel, Message.unreadLabel]

private theorem not_within_incidental :
    ∀ l ∈ incidental, ¬Within quotedSent (quote l.toList) := by
  unfold Within
  decide

/-- **Labels added and incidental ones removed** leave a sent message one. -/
theorem matches?_sent_mono {m m' : Message}
    (hKept : ∀ l ∈ m.labelIds, l ∉ incidental → l ∈ m'.labelIds)
    (h : matches? (Row.encode m) .labelIds sentPattern = some true) :
    matches? (Row.encode m') .labelIds sentPattern = some true := by
  rw [matches?_sent] at h ⊢
  obtain ⟨l, hl, hWithin⟩ := h
  exact ⟨l, hKept l hl fun hIncidental =>
    not_within_incidental l hIncidental hWithin, hWithin⟩

end Mailroom.Rule
