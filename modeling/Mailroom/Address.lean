import Mailroom.Text.Blank

/-!
# Mail addresses

The first mailbox of an address header. `Jane <jane@example.com>` has a display name and an address;
a text without a closed, nonempty pair of angle brackets at its first `<` is an address as it
stands. Quotes around a display name are not part of the name.
-/

namespace Mailroom

/-- A mailbox: a display name, an address, or both. -/
structure Address where
  name : Option String
  address : Option String
deriving DecidableEq, Repr

namespace Address

open Text (trim isBlank dropEnd)

/-- A text, unless it is empty. -/
def nonempty (cs : List Char) : Option String :=
  if cs = [] then none else some (String.ofList cs)

/-- A display name without the blanks and the quotes around it. -/
def unquoted (cs : List Char) : List Char :=
  trim (dropEnd (· = '"') ((trim cs).dropWhile (· = '"')))

/-- The characters between the first `<` and the `>` that closes it. -/
def bracketed? (cs : List Char) : Option (List Char) :=
  match cs.dropWhile (· ≠ '<') with
  | [] => none
  | _ :: rest =>
      let inner := rest.takeWhile fun c => c ≠ '<' ∧ c ≠ '>'
      if inner ≠ [] ∧ (rest.drop inner.length).head? = some '>' then some inner else none

/-- The first mailbox of a header value. -/
def ofChars (cs : List Char) : Address :=
  let text := trim cs
  match bracketed? text with
  | some inner => ⟨nonempty (unquoted (text.takeWhile (· ≠ '<'))), nonempty (trim inner)⟩
  | none => ⟨none, nonempty text⟩

/-- The first mailbox of a header value. -/
def parse (s : String) : Address := ofChars s.toList

theorem bracketed?_eq_none {cs : List Char} (h : '<' ∉ cs) : bracketed? cs = none := by
  have all_dropped : cs.dropWhile (· ≠ '<') = [] := by
    induction cs with
    | nil => rfl
    | cons c r ih =>
        have other : c ≠ '<' := fun hEq => h (by simp [hEq])
        rw [List.dropWhile_cons_of_pos (by simpa using other)]
        exact ih fun hr => h (List.mem_cons_of_mem _ hr)
  rw [bracketed?, all_dropped]

theorem parse_eq_bare {s : String} (h : '<' ∉ trim s.toList) :
    parse s = ⟨none, nonempty (trim s.toList)⟩ := by
  simp [parse, ofChars, bracketed?_eq_none h]

/-- A mailbox in display form. -/
def display : Address → String
  | ⟨some name, some address⟩ => name ++ " <" ++ address ++ ">"
  | ⟨none, some address⟩ => "<" ++ address ++ ">"
  | ⟨some name, none⟩ => name
  | ⟨none, none⟩ => ""

end Address

end Mailroom
