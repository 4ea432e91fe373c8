/-!
# Blank characters

The characters that count as white space throughout the library: the twenty-five characters with
the Unicode property `White_Space`. Trimming a text, and telling whether a text is blank, both
mean this class and no other.
-/

namespace Mailroom.Text

/-- Unicode `White_Space`. -/
def isBlank (c : Char) : Bool :=
  let n := c.toNat
  (9 ≤ n && n ≤ 13) || n == 0x20 || n == 0x85 || n == 0xA0 || n == 0x1680 ||
    (0x2000 ≤ n && n ≤ 0x200A) || n == 0x2028 || n == 0x2029 || n == 0x202F || n == 0x205F ||
    n == 0x3000

/-- Drops the trailing elements that satisfy `p`. -/
def dropEnd (p : Char → Bool) (cs : List Char) : List Char :=
  (cs.reverse.dropWhile p).reverse

/-- Drops the blank characters at both ends. -/
def trim (cs : List Char) : List Char :=
  dropEnd isBlank (cs.dropWhile isBlank)

/-- A text that neither starts nor ends with a blank is left alone. -/
theorem trim_eq_self {cs : List Char} (first : ∀ c ∈ cs.head?, isBlank c = false)
    (last : ∀ c ∈ cs.getLast?, isBlank c = false) : trim cs = cs := by
  have front : cs.dropWhile isBlank = cs := by
    cases cs with
    | nil => rfl
    | cons c r => simp [List.dropWhile, first c (by simp)]
  have back : cs.reverse.dropWhile isBlank = cs.reverse := by
    cases h : cs.reverse with
    | nil => rfl
    | cons c r =>
        have : cs.getLast? = some c := by
          rw [← List.head?_reverse, h]; rfl
        simp [List.dropWhile, last c (by simp [this])]
  rw [trim, front, dropEnd, back, List.reverse_reverse]

end Mailroom.Text

namespace Mailroom

/-- The text without the blank characters at both ends. -/
def trimmed (s : String) : String := String.ofList (Text.trim s.toList)

/-- The trimmed text, unless nothing is left of it. -/
def nonblank? (s : String) : Option String :=
  if trimmed s = "" then none else some (trimmed s)

end Mailroom
