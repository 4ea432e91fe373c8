/-!
# Splitting a text at a character
-/

namespace Mailroom.Text

/-- The pieces of a text between the places where a character stands. -/
def split (sep : Char) : List Char → List (List Char)
  | [] => [[]]
  | c :: r =>
      if c = sep then [] :: split sep r
      else
        match split sep r with
        | [] => [[c]]
        | piece :: pieces => (c :: piece) :: pieces

theorem split_ne_nil (sep : Char) (cs : List Char) : split sep cs ≠ [] := by
  induction cs with
  | nil => simp [split]
  | cons c r ih =>
      unfold split
      split
      · simp
      · split <;> simp

/-- Pieces with a character between them. -/
def join (sep : Char) : List (List Char) → List Char
  | [] => []
  | [piece] => piece
  | piece :: next :: pieces => piece ++ sep :: join sep (next :: pieces)

theorem join_split (sep : Char) (cs : List Char) : join sep (split sep cs) = cs := by
  induction cs with
  | nil => rfl
  | cons c r ih =>
      unfold split
      split
      · next h =>
          cases hs : split sep r with
          | nil => exact absurd hs (split_ne_nil sep r)
          | cons piece pieces => rw [hs] at ih; simp [join, ih, h]
      · cases hs : split sep r with
        | nil => exact absurd hs (split_ne_nil sep r)
        | cons piece pieces =>
            rw [hs] at ih
            cases pieces with
            | nil => simpa [join] using ih
            | cons next rest => simpa [join] using ih

/-- What stands before the first occurrence of a character, and what stands after it; the whole text
and nothing where it does not occur. -/
def cut (sep : Char) (cs : List Char) : List Char × List Char :=
  (cs.takeWhile (· ≠ sep), (cs.dropWhile (· ≠ sep)).drop 1)

end Mailroom.Text
