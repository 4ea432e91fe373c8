/-!
# Patterns

A `LIKE` pattern: `%` stands for any text, `_` for one character, and any other character for
itself, ASCII letters in either case. A text or a pattern is given as bytes and ends at its first
zero. Bytes that are no UTF-8 still make characters, by a rule that is more generous than UTF-8.

`table` matches a pattern against every suffix of a text at once, from the pattern's end to its
start, so the work is the product of the two lengths.
-/

namespace Mailroom.Sql.Like

/-! ## Characters -/

/-- Stands for a character that is none. -/
def replacement : Nat := 0xFFFD

/-- The bits of a character that its first byte carries. -/
def leadBits (b : UInt8) : Nat :=
  let n := b.toNat
  if n < 0xE0 then n - 0xC0
  else if n < 0xF0 then n - 0xE0
  else if n < 0xF8 then n - 0xF0
  else if n < 0xFC then n - 0xF8
  else if n < 0xFE then n - 0xFC
  else 0

/-- The character with the given bits: one written with more bytes than it needs is none, nor is
half of a surrogate pair or one of the two last characters of the first plane. -/
def ofBits (n : Nat) : Nat :=
  if n < 0x80 ∨ (n &&& 0xFFFFF800) = 0xD800 ∨ n / 2 = 0x7FFF then replacement else n

/-- The characters of bytes up to the first zero; `begun` holds the bits of a character of which a
first byte has been read. It takes up all continuation bytes that follow, and loses the bits beyond
its thirty-two. A continuation byte without a character before it stands for itself. -/
def charactersFrom : Option Nat → List UInt8 → List Nat
  | begun, [] => (begun.map ofBits).toList
  | begun, b :: bs =>
      let n := b.toNat
      match begun with
      | some bits =>
          if 0x80 ≤ n ∧ n < 0xC0 then
            charactersFrom (some ((bits * 64 + (n - 0x80)) % 0x100000000)) bs
          else if n = 0 then [ofBits bits]
          else if n < 0x80 then ofBits bits :: n :: charactersFrom none bs
          else ofBits bits :: charactersFrom (some (leadBits b)) bs
      | none =>
          if n = 0 then []
          else if n < 0xC0 then n :: charactersFrom none bs
          else charactersFrom (some (leadBits b)) bs

/-- The characters of bytes up to the first zero. -/
def characters (bytes : List UInt8) : List Nat := charactersFrom none bytes

/-! ## Matching -/

/-- An ASCII letter in lower case, any other character as it is. -/
def fold (n : Nat) : Nat := if 65 ≤ n ∧ n ≤ 90 then n + 32 else n

/-- One answer for each suffix: whether some suffix of it was matched. -/
def anySuffix : List Bool → List Bool
  | [] => []
  | b :: r =>
      let after := anySuffix r
      (b || after.headD false) :: after

private theorem length_anySuffix (bs : List Bool) : (anySuffix bs).length = bs.length := by
  induction bs with
  | nil => rfl
  | cons b r ih => simp [anySuffix, ih]

/-- The character `%`. -/
def anyText : Nat := 37

/-- The character `_`. -/
def anyCharacter : Nat := 95

/-- For each suffix of the text, the longest first, whether the pattern matches it whole. -/
def table (text : List Nat) : List Nat → List Bool
  | [] => List.replicate text.length false ++ [true]
  | p :: ps =>
      let after := table text ps
      if p = anyText then anySuffix after
      else if p = anyCharacter then after.tail ++ [false]
      else List.zipWith (fun c b => fold c = fold p && b) text after.tail ++ [false]

theorem length_table (text pattern : List Nat) :
    (table text pattern).length = text.length + 1 := by
  induction pattern with
  | nil => simp [table]
  | cons p ps ih =>
      simp only [table]
      split
      · rw [length_anySuffix, ih]
      · split
        · simp [ih]
        · simp [List.length_zipWith, ih]

/-- Whether a pattern matches a text, both given as bytes. -/
def matched (pattern text : List UInt8) : Bool :=
  (table (characters text) (characters pattern)).headD false

end Mailroom.Sql.Like
