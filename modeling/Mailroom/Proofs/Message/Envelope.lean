import Mailroom.Proofs.Address.Bracket
import Mailroom.Proofs.Store.Contents

/-!
# The envelope of a message

The envelope of a message that was fetched is a projection of its headers: the first header
named exactly `From`, `To` or `Subject` counts, and all others of that name do not, wherever
they stand. One pass over the headers finds it, if each header fills the place of its name
only while that is empty. So the envelope does not depend on headers behind one of the same
name, nor on how headers of different names are mixed.

A subject is the value of its header as it stands. An address is the text in the brackets of
the value, if there is some that is not blank, and otherwise the value without the blanks
around it. So a value that is not blank always gives an address, and an angle bracket is left
in it only where the whole value is.
-/

namespace Mailroom

open Text (trim)
open Address (Encloses)

/-! ## The first header of a name -/

/-- The value of the first header of a name, or none if there is no such header. -/
inductive IsFirst (headers : List Header) (name : String) : Option String → Prop
  | found {before after : List Header} {h : Header} (split : headers = before ++ h :: after)
      (same : h.name = name) (first : ∀ x ∈ before, x.name ≠ name) :
      IsFirst headers name (some h.value)
  | missing (absent : ∀ x ∈ headers, x.name ≠ name) : IsFirst headers name none

namespace Message

variable {headers before after : List Header} {name : String}

private theorem isFirst_firstHeader? (headers : List Header) (name : String) :
    IsFirst headers name (firstHeader? name headers) := by
  unfold firstHeader?
  cases hFound : headers.find? (·.name = name) with
  | none => exact .missing (by simpa using hFound)
  | some h =>
      obtain ⟨hSame, before, after, hSplit, hBefore⟩ := List.find?_eq_some_iff_append.1 hFound
      exact .found hSplit (of_decide_eq_true hSame) (by simpa using hBefore)

private theorem firstHeader?_cons (h : Header) (headers : List Header) (name : String) :
    firstHeader? name (h :: headers) =
      if h.name = name then some h.value else firstHeader? name headers := by
  by_cases hName : h.name = name
  · simp [firstHeader?, hName]
  · simp [firstHeader?, hName]

/-- The first header of a name is the first among the headers of that name. -/
theorem firstHeader?_eq_head? (headers : List Header) (name : String) :
    firstHeader? name headers = (headers.filter (·.name = name)).head?.map (·.value) := by
  rw [firstHeader?, List.head?_filter]

/-- A header behind one of the same name is the first one of no name. -/
theorem firstHeader?_later {h : Header} (hDouble : ∃ x ∈ before, x.name = h.name)
    (name : String) :
    firstHeader? name (before ++ h :: after) = firstHeader? name (before ++ after) := by
  simp only [firstHeader?, List.find?_append]
  by_cases hName : h.name = name
  · obtain ⟨x, hx, hSame⟩ := hDouble
    have hSome : (before.find? (·.name = name)).isSome = true :=
      List.find?_isSome.2 ⟨x, hx, by simp [hSame, hName]⟩
    obtain ⟨first, hFirst⟩ := Option.isSome_iff_exists.1 hSome
    simp [hFirst]
  · simp [hName]

end Message

/-! ## One pass -/

/-- What a header adds to an envelope: it fills the place of its name if that is empty. -/
def Envelope.fill (e : Envelope) (h : Header) : Envelope :=
  if h.name = "From" ∧ e.sender = none then
    { e with sender := some (Message.addressOf h.value) }
  else if h.name = "To" ∧ e.recipient = none then
    { e with recipient := some (Message.addressOf h.value) }
  else if h.name = "Subject" ∧ e.subject = none then { e with subject := some h.value }
  else e

/-- An envelope with what headers add to it. -/
def Envelope.join (e : Envelope) (headers : List Header) : Envelope where
  sender := e.sender.or ((Message.firstHeader? "From" headers).map Message.addressOf)
  recipient := e.recipient.or ((Message.firstHeader? "To" headers).map Message.addressOf)
  subject := e.subject.or (Message.firstHeader? "Subject" headers)

/-- Filling in the first header is a part of adding all of them. -/
theorem Envelope.join_fill (e : Envelope) (h : Header) (headers : List Header) :
    (e.fill h).join headers = e.join (h :: headers) := by
  obtain ⟨sender, recipient, subject⟩ := e
  by_cases hFrom : h.name = "From"
  · cases sender <;> simp [fill, join, Message.firstHeader?_cons, hFrom]
  by_cases hTo : h.name = "To"
  · cases recipient <;> simp [fill, join, Message.firstHeader?_cons, hTo]
  by_cases hSubject : h.name = "Subject"
  · cases subject <;> simp [fill, join, Message.firstHeader?_cons, hSubject]
  · simp [fill, join, Message.firstHeader?_cons, hFrom, hTo, hSubject]

/-- **One pass over headers** adds the first of each name. -/
theorem Envelope.foldl_fill (headers : List Header) (e : Envelope) :
    headers.foldl fill e = e.join headers := by
  induction headers generalizing e with
  | nil => simp [join, Message.firstHeader?]
  | cons h headers ih => rw [List.foldl_cons, ih, join_fill]

/-- The envelope without anything in it. -/
def Envelope.blank : Envelope := ⟨none, none, none⟩

namespace Message

private theorem envelope_of_fetched {m : Message} (h : m.storedEnvelope = none) :
    m.envelope = ⟨(firstHeader? "From" m.payload.headers).map addressOf,
      (firstHeader? "To" m.payload.headers).map addressOf,
      firstHeader? "Subject" m.payload.headers⟩ := by
  rw [envelope, h]

/-- **The envelope is found in one pass.** -/
theorem envelope_eq_pass {m : Message} (h : m.storedEnvelope = none) :
    m.envelope = m.payload.headers.foldl Envelope.fill Envelope.blank := by
  rw [Envelope.foldl_fill, envelope_of_fetched h]
  rfl

/-- A message with other headers. -/
def withHeaders (m : Message) (headers : List Header) : Message :=
  { m with payload := { m.payload with headers } }

private theorem envelope_withHeaders {m : Message} (h : m.storedEnvelope = none)
    {headers : List Header}
    (hSame : ∀ name, firstHeader? name headers = firstHeader? name m.payload.headers) :
    (m.withHeaders headers).envelope = m.envelope := by
  rw [envelope_of_fetched h, envelope_of_fetched (m := m.withHeaders headers) h]
  simp only [withHeaders, hSame]

/-! ## The address in a value -/

/-- What there is to know of the address in a value. -/
structure IsAddressIn (value address : String) : Prop where
  trimmed : trimmed address = address
  blank : address = "" → Mailroom.trimmed value = ""
  plain : ('<' ∉ address.toList ∧ '>' ∉ address.toList) ∨ address = Mailroom.trimmed value

private theorem getD_nonempty (cs : List Char) (s : String) :
    (Address.nonempty cs).getD s = if cs = [] then s else String.ofList cs := by
  unfold Address.nonempty
  split <;> rfl

/-- **The address in a value** is what its first `<` encloses, if that is not blank, and else
the value without the blanks around it. -/
theorem addressOf_cases (value : String) :
    addressOf value = trimmed value ∨
      ∃ front inner rest, Encloses (trim value.toList) front inner rest ∧ trim inner ≠ [] ∧
        addressOf value = String.ofList (trim inner) := by
  rw [addressOf]
  by_cases hEncloses : ∃ front inner rest, Encloses (trim value.toList) front inner rest
  · obtain ⟨front, inner, rest, h⟩ := hEncloses
    rw [h.address_eq, getD_nonempty]
    by_cases hBlank : trim inner = []
    · exact .inl (if_pos hBlank)
    · exact .inr ⟨front, inner, rest, h, hBlank, if_neg hBlank⟩
  · refine .inl ?_
    rw [Address.address_eq_whole fun front inner rest h => hEncloses ⟨front, inner, rest, h⟩,
      getD_nonempty]
    split
    · rfl
    · rfl

private theorem isAddressIn_addressOf (value : String) : IsAddressIn value (addressOf value) := by
  rcases addressOf_cases value with hWhole | ⟨front, inner, rest, h, hSome, hInner⟩
  · rw [hWhole]
    exact ⟨trimmed_trimmed value, fun hBlank => hBlank, .inr rfl⟩
  · have hPlain : ∀ c ∈ trim inner, c ≠ '<' ∧ c ≠ '>' := fun c hc =>
      h.inner c ((Text.trim_isInfix inner).subset hc)
    rw [hInner]
    refine ⟨?_, fun hEmpty => absurd (String.ofList_eq_empty_iff.1 hEmpty) hSome, .inl ?_⟩
    · rw [trimmed, String.toList_ofList, Text.trim_trim]
    · rw [String.toList_ofList]
      exact ⟨fun hMem => (hPlain _ hMem).1 rfl, fun hMem => (hPlain _ hMem).2 rfl⟩

/-! ## The envelope -/

/-- The envelope of a message is a projection of its headers. -/
structure Projects (m : Message) : Prop where
  sender : ∃ value?, IsFirst m.payload.headers "From" value? ∧
    m.envelope.sender = value?.map addressOf
  recipient : ∃ value?, IsFirst m.payload.headers "To" value? ∧
    m.envelope.recipient = value?.map addressOf
  subject : IsFirst m.payload.headers "Subject" m.envelope.subject

private theorem projects {m : Message} (h : m.storedEnvelope = none) : m.Projects := by
  have hFirst := isFirst_firstHeader? m.payload.headers
  refine ⟨⟨_, hFirst "From", ?_⟩, ⟨_, hFirst "To", ?_⟩, ?_⟩
  · rw [envelope_of_fetched h]
  · rw [envelope_of_fetched h]
  · rw [envelope_of_fetched h]
    exact hFirst "Subject"

/-- **What the envelope of a fetched message is, and what it does not depend on.** It is made
of the first header of each name, as one pass finds them. A header behind one of the same name
makes no difference, nor does the order of headers of different names. Each address is
trimmed, empty only for a blank value, and has no angle brackets unless it is the value as a
whole. -/
theorem envelope_of_headers (m : Message) (h : m.storedEnvelope = none) :
    m.Projects ∧
      m.envelope = m.payload.headers.foldl Envelope.fill Envelope.blank ∧
      (∀ before x after, m.payload.headers = before ++ x :: after →
        (∃ y ∈ before, y.name = x.name) →
        (m.withHeaders (before ++ after)).envelope = m.envelope) ∧
      (∀ headers : List Header,
        (∀ name, headers.filter (·.name = name) = m.payload.headers.filter (·.name = name)) →
        (m.withHeaders headers).envelope = m.envelope) ∧
      ∀ value, IsAddressIn value (addressOf value) := by
  refine ⟨projects h, envelope_eq_pass h, ?_, ?_, isAddressIn_addressOf⟩
  · intro before x after hSplit hDouble
    refine envelope_withHeaders h fun name => ?_
    rw [hSplit, firstHeader?_later hDouble]
  · intro headers hSame
    refine envelope_withHeaders h fun name => ?_
    rw [firstHeader?_eq_head?, hSame name, firstHeader?_eq_head?]

/-- A message whose headers are doubled and mixed. -/
theorem envelope_of_headers_mixed :
    let double : Header := ⟨"From", "B <b@example.com>"⟩
    let headers : List Header := [⟨"from", "x"⟩, ⟨"Subject", " s "⟩, ⟨"From", "A <a@example.com>"⟩]
    let m := (bareMessage "a" "0" []).withHeaders (headers ++ double :: [⟨"To", " <> "⟩])
    m.storedEnvelope = none ∧ m.Projects ∧
      (m.withHeaders (headers ++ [⟨"To", " <> "⟩])).envelope = m.envelope ∧
      (m.withHeaders (⟨"To", " <> "⟩ :: headers ++ [double])).envelope = m.envelope ∧
      m.envelope = ⟨some "a@example.com", some "<>", some " s "⟩ := by
  intro double headers m
  obtain ⟨hProjects, hPass, hDouble, hMixed, -⟩ := envelope_of_headers m rfl
  refine ⟨rfl, hProjects, hDouble headers double _ rfl (by decide), hMixed _ fun name => ?_, ?_⟩
  · by_cases hTo : "To" = name
    · subst hTo
      decide
    · simp [m, Message.withHeaders, headers, List.filter_cons, hTo]
  · rw [hPass]
    decide

end Message

end Mailroom
