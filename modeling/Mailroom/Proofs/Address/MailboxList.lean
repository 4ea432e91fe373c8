import Mailroom.Proofs.Address.QuotedName
import Mailroom.Proofs.Text.Splitting

/-!
# Lists of mailboxes

A header for the recipients may hold a list of mailboxes with commas between them, and blanks
around each. A mailbox is an address, which stands alone or in angle brackets behind a display
name. The address of a value is looked for at its first `<`, and a comma does not end the
search. So what is read is the first mailbox of the list that has brackets, not the first one:
bare mailboxes in front of it are taken for a part of its display name. If none has brackets,
the whole list is taken for an address.

The address of the first mailbox is read if it has brackets or is the only one. Behind a bare
one it is read only by chance, if the first mailbox with brackets has the same address.
-/

namespace Mailroom.Address

open Text (trim isBlank)

/-- A mailbox of a list: an address, which is in angle brackets if it has a display name, and
the blanks around it. -/
structure Mailbox where
  before : List Char
  name? : Option (List Char)
  addr : List Char
  after : List Char

namespace Mailbox

/-- Whether the address is in angle brackets. -/
def isNamed (m : Mailbox) : Bool := m.name?.isSome

/-- A mailbox as it is written. -/
def text (m : Mailbox) : List Char :=
  match m.name? with
  | none => m.before ++ m.addr ++ m.after
  | some name => m.before ++ name ++ ' ' :: '<' :: (m.addr ++ '>' :: m.after)

/-- A mailbox that can be written in a list: its display name has no `<`, and its address is
one that has no comma. -/
structure IsWritable (m : Mailbox) : Prop where
  before : ∀ c ∈ m.before, isBlank c = true
  after : ∀ c ∈ m.after, isBlank c = true
  name : ∀ name ∈ m.name?, '<' ∉ name
  addr : IsAddress m.addr
  comma : ',' ∉ m.addr

instance (m : Mailbox) : Decidable m.IsWritable :=
  decidable_of_iff (m.before.all isBlank ∧ m.after.all isBlank ∧
      (∀ name ∈ m.name?, '<' ∉ name) ∧ IsAddress m.addr ∧ ',' ∉ m.addr)
    ⟨fun ⟨before, after, name, addr, comma⟩ =>
        ⟨List.all_eq_true.1 before, List.all_eq_true.1 after, name, addr, comma⟩,
      fun h => ⟨List.all_eq_true.2 h.before, List.all_eq_true.2 h.after, h.name, h.addr, h.comma⟩⟩

/-- An address alone. -/
def bare (addr : String) : Mailbox := ⟨[], none, addr.toList, []⟩

/-- A display name and an address, behind a space. -/
def named (name addr : String) : Mailbox := ⟨[' '], some name.toList, addr.toList, []⟩

end Mailbox

/-- Mailboxes with commas between them. -/
def listed (ms : List Mailbox) : String := String.ofList (Text.join ',' (ms.map Mailbox.text))

/-! ## What the first `<` encloses -/

variable {m : Mailbox} {ms : List Mailbox}

private theorem Mailbox.name?_eq_none (hBare : m.isNamed = false) : m.name? = none :=
  Option.not_isSome_iff_eq_none.1 (by simpa [isNamed] using hBare)

private theorem notMem_blanks {c : Char} {cs : List Char} (hBlanks : ∀ d ∈ cs, isBlank d = true)
    (hc : isBlank c = false) : c ∉ cs := fun hMem => by simp [hBlanks c hMem] at hc

private theorem Mailbox.IsWritable.unopened (h : m.IsWritable) (hBare : m.isNamed = false) :
    '<' ∉ m.text := by
  have hOpen : isBlank '<' = false := by decide
  have hAddr : '<' ∉ m.addr := fun hMem => (h.addr.unbracketed '<' hMem).1 rfl
  simp [text, name?_eq_none hBare, hAddr, notMem_blanks h.before hOpen, notMem_blanks h.after hOpen]

/-- A mailbox with brackets encloses its address, whatever follows. -/
theorem Mailbox.IsWritable.encloses (h : m.IsWritable) {name : List Char}
    (hName : m.name? = some name) (more : List Char) :
    Encloses (m.text ++ more) (m.before ++ name ++ [' ']) m.addr (m.after ++ more) where
  eq := by simp [text, hName]
  front := by
    have hOpen : isBlank '<' = false := by decide
    simp [notMem_blanks h.before hOpen, h.name name hName]
  ne_nil := h.addr.ne_nil
  inner := h.addr.unbracketed

private theorem Encloses.prepend {cs front inner rest : List Char}
    (h : Encloses cs front inner rest) {before : List Char} (hBefore : '<' ∉ before) :
    Encloses (before ++ cs) (before ++ front) inner rest where
  eq := by simp [h.eq]
  front := by simp [hBefore, h.front]
  ne_nil := h.ne_nil
  inner := h.inner

/-- The text of a list begins with the text of its first mailbox. -/
theorem exists_join_cons (m : Mailbox) (ms : List Mailbox) :
    ∃ more, Text.join ',' ((m :: ms).map Mailbox.text) = m.text ++ more := by
  cases ms with
  | nil => exact ⟨[], by simp [Text.join]⟩
  | cons next ms => exact ⟨_, rfl⟩

/-- Mailboxes without brackets, each with a comma behind it, have no `<`. -/
theorem unopened_front (h : ∀ m ∈ ms, m.IsWritable) (hBare : ∀ m ∈ ms, m.isNamed = false) :
    '<' ∉ (ms.map Mailbox.text).flatMap (· ++ [',']) := by
  intro hMem
  obtain ⟨text, hText, hMem⟩ := List.mem_flatMap.1 hMem
  obtain ⟨b, hb, rfl⟩ := List.mem_map.1 hText
  have hComma : '<' ∉ [','] := by decide
  exact (List.mem_append.1 hMem).elim ((h b hb).unopened (hBare b hb)) hComma

/-- **What the first `<` of a list encloses** is the address of the first mailbox that has
brackets. -/
theorem encloses_listed {bare : List Mailbox} (hBare : ∀ b ∈ bare, b.IsWritable)
    (hUnnamed : ∀ b ∈ bare, b.isNamed = false) (h : m.IsWritable) (hNamed : m.isNamed = true)
    (later : List Mailbox) :
    ∃ front rest, Encloses (listed (bare ++ m :: later)).toList front m.addr rest := by
  obtain ⟨name, hName⟩ := Option.isSome_iff_exists.1 hNamed
  obtain ⟨more, hMore⟩ := exists_join_cons m later
  have hText : (listed (bare ++ m :: later)).toList =
      (bare.map Mailbox.text).flatMap (· ++ [',']) ++ (m.text ++ more) := by
    rw [listed, String.toList_ofList, List.map_append, List.map_cons, Text.join_append,
      ← List.map_cons, hMore]
  rw [hText]
  exact ⟨_, _, (h.encloses hName more).prepend (unopened_front hBare hUnnamed)⟩

/-- Without brackets there is no `<` in a list. -/
theorem unopened_listed (h : ∀ m ∈ ms, m.IsWritable) (hBare : ∀ m ∈ ms, m.isNamed = false) :
    '<' ∉ (listed ms).toList := by
  rw [listed, String.toList_ofList]
  rcases List.eq_nil_or_concat ms with rfl | ⟨front, last, rfl⟩
  · simp [Text.join]
  · rw [List.concat_eq_append] at h hBare ⊢
    rw [List.map_append, List.map_singleton, Text.join_append, Text.join]
    refine fun hMem => (List.mem_append.1 hMem).elim ?_
      ((h last (by simp)).unopened (hBare last (by simp)))
    exact unopened_front (fun b hb => h b (List.mem_append_left _ hb))
      fun b hb => hBare b (List.mem_append_left _ hb)

/-! ## What is read -/

private theorem readAs_found (h : ∀ x ∈ ms, x.IsWritable)
    (hFound : ms.find? Mailbox.isNamed = some m) :
    ReadAs (listed ms) (some (String.ofList m.addr)) := by
  obtain ⟨hNamed, bare, later, rfl, hBare⟩ := List.find?_eq_some_iff_append.1 hFound
  have hAddr := (h m (by simp)).addr
  obtain ⟨front, rest, hEncloses⟩ := encloses_listed
    (fun b hb => h b (List.mem_append_left _ hb)) (fun b hb => by simpa using hBare b hb)
    (h m (by simp)) hNamed later
  rw [readAs_iff, hEncloses.trim.address_eq, hAddr.trimmed]
  exact nonempty_eq_some hAddr.ne_nil

private theorem mem_addr {c : Char} (h : c ∈ m.addr) : c ∈ m.text := by
  unfold Mailbox.text
  cases m.name? with
  | none => simp [h]
  | some name => simp [h]

/-- A list is not blank: the address of its first mailbox is not. -/
theorem trim_listed_ne_nil (h : m.IsWritable) (ms : List Mailbox) :
    trim (listed (m :: ms)).toList ≠ [] := by
  obtain ⟨c, rest, hAddr⟩ := List.exists_cons_of_ne_nil h.addr.ne_nil
  obtain ⟨more, hMore⟩ := exists_join_cons m ms
  have hMem : c ∈ (listed (m :: ms)).toList := by
    rw [listed, String.toList_ofList, hMore]
    exact List.mem_append_left _ (mem_addr (by simp [hAddr]))
  have hc : isBlank c = false := by
    refine Text.head?_trim m.addr c ?_
    rw [h.addr.trimmed, hAddr]
    rfl
  exact List.ne_nil_of_mem (Text.mem_trim hMem hc)

private theorem readAs_whole (h : ∀ x ∈ m :: ms, x.IsWritable)
    (hBare : ∀ x ∈ m :: ms, x.isNamed = false) :
    ReadAs (listed (m :: ms)) (some (trimmed (listed (m :: ms)))) := by
  have hTrim : '<' ∉ trim (listed (m :: ms)).toList := fun hMem =>
    unopened_listed h hBare ((Text.trim_isInfix _).subset hMem)
  rw [readAs_iff, parse_eq_bare hTrim]
  exact nonempty_eq_some (trim_listed_ne_nil (h m (by simp)) ms)

/-- One mailbox without brackets is its address. -/
theorem trimmed_listed_bare (h : m.IsWritable) (hBare : m.isNamed = false) :
    trimmed (listed [m]) = String.ofList m.addr := by
  have hText : (listed [m]).toList = m.before ++ m.addr ++ m.after := by
    simp [listed, Text.join, Mailbox.text, Mailbox.name?_eq_none hBare]
  rw [trimmed, hText, Text.trim_around h.before h.after, h.addr.trimmed]

/-- A list of several is not the address of the first: there is a comma in it. -/
theorem trimmed_listed_ne (h : m.IsWritable) (next : Mailbox) (ms : List Mailbox) :
    trimmed (listed (m :: next :: ms)) ≠ String.ofList m.addr := by
  intro hSame
  have hMem : ',' ∈ trim (listed (m :: next :: ms)).toList := by
    refine Text.mem_trim ?_ (by decide)
    simp [listed, Text.join]
  rw [String.ofList_injective hSame] at hMem
  exact h.comma hMem

/-- **What is read of a list** is the address of the first mailbox that has brackets, or the
whole list if none has. So the address of the first mailbox is read exactly if it has brackets,
or is the only one, or if the first with brackets behind it has the same address. -/
theorem listed_read (m : Mailbox) (ms : List Mailbox) (h : ∀ x ∈ m :: ms, x.IsWritable) :
    (∀ x, (m :: ms).find? Mailbox.isNamed = some x →
        ReadAs (listed (m :: ms)) (some (String.ofList x.addr))) ∧
      ((m :: ms).find? Mailbox.isNamed = none →
        ReadAs (listed (m :: ms)) (some (trimmed (listed (m :: ms))))) ∧
      (ReadAs (listed (m :: ms)) (some (String.ofList m.addr)) ↔
        m.isNamed = true ∨ ms = [] ∨
          ∃ x, ms.find? Mailbox.isNamed = some x ∧ x.addr = m.addr) := by
  have hNamed : ∀ x, (m :: ms).find? Mailbox.isNamed = some x →
      ReadAs (listed (m :: ms)) (some (String.ofList x.addr)) := fun x => readAs_found h
  have hWhole : (m :: ms).find? Mailbox.isNamed = none →
      ReadAs (listed (m :: ms)) (some (trimmed (listed (m :: ms)))) := fun hNone =>
    readAs_whole h fun x hx => by simpa using List.find?_eq_none.1 hNone x hx
  refine ⟨hNamed, hWhole, ?_⟩
  cases hFirst : m.isNamed with
  | true =>
      have hRead := hNamed m (List.find?_cons_of_pos hFirst)
      simpa using hRead
  | false =>
      have hFind : (m :: ms).find? Mailbox.isNamed = ms.find? Mailbox.isNamed :=
        List.find?_cons_of_neg (by simp [hFirst])
      rw [hFind] at hNamed hWhole
      cases hLater : ms.find? Mailbox.isNamed with
      | some x =>
          have hRead := hNamed x hLater
          have hSome : ms ≠ [] := by
            rintro rfl
            cases hLater
          simp only [readAs_iff, Option.some.injEq] at hRead ⊢
          rw [hRead]
          simp only [Option.some.injEq, Bool.false_eq_true, hSome, exists_eq_left', false_or]
          exact ⟨fun hSame => String.ofList_injective hSame, fun hSame => hSame ▸ rfl⟩
      | none =>
          have hRead := hWhole hLater
          rw [readAs_iff] at hRead ⊢
          rw [hRead]
          cases ms with
          | nil => simp [trimmed_listed_bare (h m (by simp)) hFirst]
          | cons next ms => simp [trimmed_listed_ne (h m (by simp)) next ms]

/-- Lists of a bare mailbox and one with brackets, in both orders, and of bare ones alone. -/
theorem listed_read_second :
    let first := Mailbox.bare "a@example.com"
    let second := Mailbox.named "B" "b@example.com"
    ReadAs (listed [first, second]) (some (String.ofList second.addr)) ∧
      ¬ReadAs (listed [first, second]) (some (String.ofList first.addr)) ∧
      ReadAs (listed [second, first]) (some (String.ofList second.addr)) ∧
      ReadAs (listed [first, first]) (some (trimmed (listed [first, first]))) := by
  intro first second
  have hMixed := listed_read first [second] (by decide)
  have hOther : ¬(first.isNamed = true ∨ [second] = [] ∨
      ∃ x, [second].find? Mailbox.isNamed = some x ∧ x.addr = first.addr) := by
    rintro (hNamed | hNone | ⟨x, hx, hSame⟩)
    · cases hNamed
    · cases hNone
    · cases hx
      revert hSame
      decide
  exact ⟨hMixed.1 second rfl, fun hRead => hOther (hMixed.2.2.1 hRead),
    (listed_read second [first] (by decide)).1 second rfl,
    (listed_read first [first] (by decide)).2.1 rfl⟩

/-- **The first mailbox of a list is not always read.** It is not in a list of two whose first
one is bare, with names and addresses that have no quotes, commas, brackets or blanks. -/
theorem bare_mailbox_passed_over :
    ¬∀ (m : Mailbox) (ms : List Mailbox),
      (∀ x ∈ m :: ms, x.IsWritable ∧ (∀ name ∈ x.name?, ∀ c ∈ name, c ∉ ['"', ',', '<', '>']) ∧
        ∀ c ∈ x.addr, isBlank c = false) →
      (parse (listed (m :: ms))).address = some (String.ofList m.addr) := by
  intro hAll
  let first := Mailbox.bare "a@example.com"
  let second := Mailbox.named "B" "b@example.com"
  have hWritable : ∀ x ∈ [first, second], x.IsWritable := by decide
  have hPlain : ∀ x ∈ [first, second],
      (∀ name ∈ x.name?, ∀ c ∈ name, c ∉ ['"', ',', '<', '>']) ∧
        ∀ c ∈ x.addr, isBlank c = false := by
    simp [first, second, Mailbox.bare, Mailbox.named, isBlank]
  have hRead := hAll first [second] fun x hx => ⟨hWritable x hx, hPlain x hx⟩
  revert hRead
  decide

end Mailroom.Address
