import Mailroom.Proofs.Address.QuotedName

/-!
# Addresses in display form

A mailbox is displayed as its name and, in angle brackets, its address; without a name, as the
brackets alone. From this form it is read again, and nothing that follows the brackets matters.
This asks of the name that it has no `<`, and that neither blanks nor quotes stand around it;
anything may stand within, a `>`, a quote or the end of a line too.
-/

namespace Mailroom.Address

open Text (trim isBlank dropEnd)

/-- A display name with nothing around it that reading takes off, and without a `<`. -/
structure IsName (name : List Char) : Prop where
  ne_nil : name ≠ []
  trimmed : trim name = name
  unopened : '<' ∉ name
  first : name.head? ≠ some '"'
  last : name.getLast? ≠ some '"'

/-- A mailbox with an address, whose name and address reading leaves as they are. -/
structure IsPrintable (a : Address) : Prop where
  address : ∃ addr, a.address = some addr ∧ IsAddress addr.toList
  name : ∀ name, a.name = some name → IsName name.toList

/-! ## Names -/

/-- Blanks in front of a name are taken off anyway. -/
theorem unquoted_dropWhile (cs : List Char) : unquoted (cs.dropWhile isBlank) = unquoted cs := by
  rw [unquoted, Text.trim_dropWhile, unquoted]

/-- **A name is read as it is**, from the text in front of the brackets. -/
theorem unquoted_name {name : List Char} (h : IsName name) : unquoted (name ++ [' ']) = name := by
  have hTrim : trim (name ++ [' ']) = name := by
    have hBefore : ∀ c ∈ ([] : List Char), isBlank c = true := by simp
    have hAfter : ∀ c ∈ [' '], isBlank c = true := by simp [isBlank]
    have hAround := Text.trim_around hBefore hAfter name
    rwa [List.nil_append, h.trimmed] at hAround
  have hFirst : name.dropWhile (fun c => decide (c = '"')) = name :=
    Text.dropWhile_eq_self fun c hc => decide_eq_false fun hQuote => h.first (hQuote ▸ hc)
  have hLast : dropEnd (fun c => decide (c = '"')) name = name :=
    Text.dropEnd_eq_self fun c hc => decide_eq_false fun hQuote => h.last (hQuote ▸ hc)
  rw [unquoted, hTrim, hFirst, hLast, h.trimmed]

/-! ## The display form -/

/-- What stands in front of the brackets. -/
def namePart : Option String → List Char
  | some name => name.toList ++ [' ']
  | none => []

private theorem toList_display (name : Option String) (addr : String) :
    (display ⟨name, some addr⟩).toList = namePart name ++ '<' :: (addr.toList ++ ['>']) := by
  cases name <;> simp [display, namePart]

/-- **The first `<` of a display form encloses the address.** -/
theorem encloses_display {name : Option String} {addr : String}
    (hName : ∀ n, name = some n → '<' ∉ n.toList) (hAddr : IsAddress addr.toList)
    (rest : String) : Encloses (display ⟨name, some addr⟩ ++ rest).toList (namePart name)
      addr.toList rest.toList where
  eq := by simp [toList_display]
  front := by
    cases name with
    | none => simp [namePart]
    | some n => simp [namePart, hName n rfl]
  ne_nil := hAddr.ne_nil
  inner := hAddr.unbracketed

private theorem nonempty_namePart {name : Option String}
    (h : ∀ n, name = some n → IsName n.toList) :
    nonempty (unquoted (namePart name)) = name := by
  cases name with
  | none => rfl
  | some n =>
      rw [namePart, unquoted_name (h n rfl), nonempty_eq_some (h n rfl).ne_nil,
        String.ofList_toList]

/-- **A mailbox is read from its display form**, whatever text follows it. -/
theorem parse_display (a : Address) (h : a.IsPrintable) (rest : String) :
    parse (a.display ++ rest) = a := by
  obtain ⟨name, address⟩ := a
  obtain ⟨addr, rfl, hAddr⟩ := h.address
  have hName : ∀ n, name = some n → IsName n.toList := h.name
  have hEncloses := (encloses_display (fun n hn => (hName n hn).unopened) hAddr rest).trim
  rw [hEncloses.parse_eq, unquoted_dropWhile, nonempty_namePart hName, hAddr.trimmed,
    nonempty_eq_some hAddr.ne_nil, String.ofList_toList]

/-- A name with a `>`, a quote, a comma and the end of a line in it, and another mailbox
behind. -/
theorem parse_display_odd :
    let odd : Address := ⟨some "a> \"b\",\nc", some "a@b c"⟩
    odd.IsPrintable ∧ parse (odd.display ++ ", \"d\" <e@f>") = odd := by
  intro odd
  have hOdd : odd.IsPrintable := by
    refine ⟨⟨_, rfl, by decide⟩, ?_⟩
    rintro name hName
    cases hName
    exact ⟨by decide, by decide, by decide, by decide, by decide⟩
  exact ⟨hOdd, parse_display odd hOdd _⟩

end Mailroom.Address
