import Mailroom.Proofs.Address.Bracket
import Mailroom.Proofs.Store.StoredRow

/-!
# A display name in quotes

The sender of a message chooses the display name, and may put into the quotes whatever there
is to put: an angle bracket, or a whole other mailbox. The quotes do not keep a `<` of the
name from being the first one of the value. So a name without a `<` has no influence on the
address; one whose first `<` encloses some text puts that text in the place of the address,
and one whose first `<` encloses none leaves the whole value as the address. The columns of
the sender and of the recipient follow.
-/

namespace Mailroom.Address

open Text (trim isBlank dropEnd)
open Store (Row)

/-- A display name in quotes with an address in angle brackets behind it, and what follows. -/
def quoted (name addr rest : List Char) : String :=
  String.ofList ('"' :: (name ++ '"' :: ' ' :: '<' :: (addr ++ '>' :: rest)))

/-- A text that may stand in angle brackets and is an address as it stands. -/
structure IsAddress (addr : List Char) : Prop where
  ne_nil : addr ≠ []
  trimmed : trim addr = addr
  unbracketed : ∀ c ∈ addr, c ≠ '<' ∧ c ≠ '>'

instance (addr : List Char) : Decidable (IsAddress addr) :=
  decidable_of_iff (addr ≠ [] ∧ trim addr = addr ∧ addr.all fun c => c ≠ '<' && c ≠ '>')
    ⟨fun ⟨hSome, hTrimmed, hInner⟩ => ⟨hSome, hTrimmed, by simpa using hInner⟩,
      fun h => ⟨h.ne_nil, h.trimmed, by simpa using h.unbracketed⟩⟩

/-- A header value has this address, and the address columns of a message with such a header
hold it; without an address they hold the value itself. -/
structure ReadAs (value : String) (address? : Option String) : Prop where
  address : (parse value).address = address?
  sender : ∀ m : Message, m.storedEnvelope = none →
    Message.firstHeader? "From" m.payload.headers = some value →
      (Row.encode m).stored.get .sender = .text (address?.getD (trimmed value))
  recipient : ∀ m : Message, m.storedEnvelope = none →
    Message.firstHeader? "To" m.payload.headers = some value →
      (Row.encode m).stored.get .recipient = .text (address?.getD (trimmed value))

private theorem readAs_address (value : String) : ReadAs value (parse value).address where
  address := rfl
  sender m hFetched hFrom := by
    simp [Row.valueOf, Row.optionalText, Message.envelope, hFetched, hFrom, Message.addressOf]
  recipient m hFetched hTo := by
    simp [Row.valueOf, Row.optionalText, Message.envelope, hFetched, hTo, Message.addressOf]

theorem readAs_iff {value : String} {address? : Option String} :
    ReadAs value address? ↔ (parse value).address = address? :=
  ⟨ReadAs.address, fun h => h ▸ readAs_address value⟩

theorem nonempty_eq_some {cs : List Char} (h : cs ≠ []) :
    nonempty cs = some (String.ofList cs) := if_neg h

private theorem eq_of_nonempty {cs ds : List Char} (h : nonempty cs = some (String.ofList ds)) :
    cs = ds := by
  unfold nonempty at h
  split at h
  · cases h
  · exact String.ofList_injective (Option.some.inj h)

/-! ## What the first `<` of the value encloses -/

variable {name addr rest front inner behind : List Char}

private theorem trim_quoted (name addr rest : List Char) :
    trim (quoted name addr rest).toList =
      '"' :: (name ++ (['"', ' '] ++ '<' :: (addr ++ '>' :: dropEnd isBlank rest))) := by
  have hQuote : isBlank '"' = false := by decide
  have hBracket : isBlank '>' = false := by decide
  have hTrim := Text.trim_marks hQuote hBracket [] (name ++ '"' :: ' ' :: '<' :: addr) rest
  simpa [quoted] using hTrim

private theorem bracket_mem (name addr rest : List Char) :
    '<' ∈ trim (quoted name addr rest).toList := by
  simp [trim_quoted]

/-- Without a `<` in the name, the address is what is enclosed. -/
theorem encloses_address (hAddr : IsAddress addr) (hName : '<' ∉ name) :
    Encloses (trim (quoted name addr rest).toList) ('"' :: (name ++ ['"', ' '])) addr
      (dropEnd isBlank rest) where
  eq := by simp [trim_quoted]
  front := by simp [hName]
  ne_nil := hAddr.ne_nil
  inner := hAddr.unbracketed

/-- **With a `<` in the name, what is enclosed is what the name encloses.** The quote behind
the name changes nothing about it. -/
theorem encloses_quoted_iff (hOpen : '<' ∈ name) (addr rest : List Char) :
    (∃ front behind, Encloses (trim (quoted name addr rest).toList) front inner behind) ↔
      ∃ front behind, Encloses name front inner behind := by
  rw [trim_quoted]
  constructor
  · rintro ⟨front, behind, h⟩
    obtain ⟨before, -, hName⟩ := (encloses_cons (by decide)).1 h
    obtain ⟨left, hLeft⟩ := hName.of_append hOpen (by decide)
    exact ⟨before, left, hLeft⟩
  · rintro ⟨front, behind, h⟩
    exact ⟨_, _, (encloses_cons (by decide)).2 ⟨front, rfl, h.append _⟩⟩

private theorem Encloses.mem (h : Encloses name front inner behind) : '<' ∈ name := by
  simp [h.eq]

/-! ## The address -/

private theorem readAs_of_unopened (hAddr : IsAddress addr) (hName : '<' ∉ name) :
    ReadAs (quoted name addr rest) (some (String.ofList addr)) := by
  rw [readAs_iff, (encloses_address hAddr hName).address_eq, hAddr.trimmed]
  exact nonempty_eq_some hAddr.ne_nil

private theorem readAs_of_encloses (h : Encloses name front inner behind) :
    ReadAs (quoted name addr rest) (nonempty (trim inner)) := by
  obtain ⟨before, left, hValue⟩ :=
    (encloses_quoted_iff h.mem addr rest).2 ⟨front, behind, h⟩
  exact readAs_iff.2 hValue.address_eq

private theorem readAs_of_unclosed (hOpen : '<' ∈ name)
    (hNone : ∀ front inner behind, ¬Encloses name front inner behind) (addr rest : List Char) :
    ReadAs (quoted name addr rest) (some (trimmed (quoted name addr rest))) := by
  have hText : trim (quoted name addr rest).toList ≠ [] :=
    List.ne_nil_of_mem (bracket_mem name addr rest)
  rw [readAs_iff, address_eq_whole, nonempty_eq_some hText]
  · rfl
  · intro front inner behind h
    obtain ⟨before, left, hName⟩ := (encloses_quoted_iff hOpen addr rest).1 ⟨front, behind, h⟩
    exact hNone before inner left hName

/-- **What a display name in quotes does to the address.** A name without a `<` does nothing;
one whose first `<` encloses some text puts that text in its place, and one whose first `<`
encloses none the whole value. So the address in the angle brackets behind the quotes is read,
and stored, exactly if the name has no `<` or encloses that very address itself. -/
theorem quoted_name_read (addr : List Char) (hAddr : IsAddress addr) (name rest : List Char) :
    ('<' ∉ name → ReadAs (quoted name addr rest) (some (String.ofList addr))) ∧
      (∀ front inner behind, Encloses name front inner behind →
        ReadAs (quoted name addr rest) (nonempty (trim inner))) ∧
      ('<' ∈ name → (∀ front inner behind, ¬Encloses name front inner behind) →
        ReadAs (quoted name addr rest) (some (trimmed (quoted name addr rest)))) ∧
      (ReadAs (quoted name addr rest) (some (String.ofList addr)) ↔
        '<' ∉ name ∨
          ∃ front inner behind, Encloses name front inner behind ∧ trim inner = addr) := by
  refine ⟨readAs_of_unopened hAddr, fun _ _ _ => readAs_of_encloses,
    fun hOpen hNone => readAs_of_unclosed hOpen hNone addr rest, ?_⟩
  constructor
  · intro hRead
    by_cases hOpen : '<' ∈ name
    · by_cases hClosed : ∃ front inner behind, Encloses name front inner behind
      · obtain ⟨front, inner, behind, h⟩ := hClosed
        have hSame := (readAs_of_encloses h).address.symm.trans hRead.address
        exact .inr ⟨front, inner, behind, h, eq_of_nonempty hSame⟩
      · exfalso
        have hWhole := readAs_of_unclosed hOpen
          (fun front inner behind h => hClosed ⟨front, inner, behind, h⟩) addr rest
        have hSame : trim (quoted name addr rest).toList = addr :=
          String.ofList_injective (Option.some.inj (hWhole.address.symm.trans hRead.address))
        exact (hAddr.unbracketed '<' (hSame ▸ bracket_mem name addr rest)).1 rfl
    · exact .inl hOpen
  · rintro (hName | ⟨front, inner, behind, h, rfl⟩)
    · exact readAs_of_unopened hAddr hName
    · rw [← nonempty_eq_some hAddr.ne_nil]
      exact readAs_of_encloses h

/-- A name that only looks like a list of two, and one that holds another mailbox. -/
theorem quoted_name_read_boss :
    ReadAs (quoted "Doe, Jane".toList "jane@example.com".toList ", Bob <bob@example.com>".toList)
        (some (String.ofList "jane@example.com".toList)) ∧
      ReadAs (quoted "Boss <boss@example.com>".toList "eve@example.org".toList [])
        (nonempty (trim "boss@example.com".toList)) :=
  ⟨(quoted_name_read _ ⟨by decide, by decide, by simp⟩ _ _).1 (by decide),
    (quoted_name_read _ ⟨by decide, by decide, by simp⟩ _ _).2.1 "Boss ".toList
      "boss@example.com".toList [] ⟨by decide, by decide, by decide, by simp⟩⟩

/-- **A quoted display name can decide the address.** It does with neither a quote nor a
backslash in it. -/
theorem quoted_name_chooses :
    ¬∀ name addr rest : List Char, '"' ∉ name → '\\' ∉ name → IsAddress addr →
      (parse (quoted name addr rest)).address = some (String.ofList addr) := by
  intro hAll
  have hEve := hAll "Boss <boss@example.com>".toList "eve@example.org".toList [] (by decide)
    (by decide) ⟨by decide, by decide, by simp⟩
  revert hEve
  decide

end Mailroom.Address
