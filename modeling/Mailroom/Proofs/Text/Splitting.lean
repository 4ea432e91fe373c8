import Mailroom.Text.Split

/-!
# Splitting and joining

A text split at a character has the pieces of what stands in front of an occurrence of it, and
then those of what stands behind. Pieces that do not have the character themselves are found
again in the text that they are joined to.
-/

namespace Mailroom.Text

variable {sep : Char}

/-- The first piece is what stands in front of the character. -/
theorem split_append {front : List Char} (h : sep ∉ front)
    (back : List Char) : split sep (front ++ sep :: back) = front :: split sep back := by
  induction front with
  | nil => simp [split]
  | cons c front ih =>
      have hc : c ≠ sep := fun hSame => h (by simp [hSame])
      rw [List.cons_append, split, if_neg hc, ih fun hMem => h (List.mem_cons_of_mem c hMem)]

theorem split_of_notMem {cs : List Char} (h : sep ∉ cs) :
    split sep cs = [cs] := by
  induction cs with
  | nil => rfl
  | cons c cs ih =>
      have hc : c ≠ sep := fun hSame => h (by simp [hSame])
      rw [split, if_neg hc, ih fun hMem => h (List.mem_cons_of_mem c hMem)]

/-- **The pieces on both sides** of the character. -/
theorem split_append_cons (front back : List Char) :
    split sep (front ++ sep :: back) = split sep front ++ split sep back := by
  induction front with
  | nil => simp [split]
  | cons c front ih =>
      by_cases hc : c = sep
      · simp [split, hc, ih]
      · obtain ⟨piece, pieces, hPieces⟩ := List.exists_cons_of_ne_nil (split_ne_nil sep front)
        simp [split, hc, ih, hPieces]

/-- Pieces in front of others each have the character behind them. -/
theorem join_append (front : List (List Char)) (piece : List Char) (back : List (List Char)) :
    join sep (front ++ piece :: back) = front.flatMap (· ++ [sep]) ++ join sep (piece :: back) := by
  induction front with
  | nil => rfl
  | cons first front ih =>
      obtain ⟨next, rest, hRest⟩ :=
        List.exists_cons_of_ne_nil (List.append_ne_nil_of_right_ne_nil front
          (List.cons_ne_nil piece back))
      rw [List.cons_append, hRest, join, ← hRest, ih]
      simp

/-- A piece of a text stands in it. -/
theorem isInfix_of_mem_split {piece cs : List Char} (h : piece ∈ split sep cs) :
    piece <:+: cs := by
  obtain ⟨front, back, hPieces⟩ := List.append_of_mem h
  have hText : join sep (front ++ piece :: back) = cs := by rw [← hPieces, join_split]
  have hPrefix : piece <+: join sep (piece :: back) := by
    cases back with
    | nil => exact List.prefix_rfl
    | cons next back => exact List.prefix_append piece _
  rw [join_append] at hText
  obtain ⟨rest, hRest⟩ := hPrefix
  exact ⟨front.flatMap (· ++ [sep]), rest, by rw [List.append_assoc, hRest, hText]⟩

/-- What stands before a character does not end in a text without it. -/
theorem cut_append {front : List Char} (h : sep ∉ front) (back : List Char) :
    (cut sep (front ++ back)).1 = front ++ (cut sep back).1 :=
  List.takeWhile_append_of_pos fun c hc => by
    have hNe : c ≠ sep := fun hSame => h (hSame ▸ hc)
    simpa using hNe

/-- **What stands before and behind** the first occurrence. -/
theorem cut_append_cons {front : List Char} (h : sep ∉ front) (back : List Char) :
    cut sep (front ++ sep :: back) = (front, back) := by
  have hFront : ∀ c ∈ front, decide (c ≠ sep) = true := fun c hc => by
    have hNe : c ≠ sep := fun hSame => h (hSame ▸ hc)
    simpa using hNe
  rw [cut, List.takeWhile_append_of_pos hFront, List.dropWhile_append_of_pos hFront]
  simp

end Mailroom.Text
