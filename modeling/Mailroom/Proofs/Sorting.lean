import Mailroom.Sync.Plan
import Mailroom.Yaml.Layout
import Mathlib.Data.List.Sort

/-!
# Sorting by insertion

Ids and the keys of a document are sorted by merging, which is fast but recurses on
halves of a list. Inserting the items one by one gives the same list and follows the list
itself, so what is sorted in a run that is given in full can be computed.
-/

namespace Mailroom

/-- An item belongs between those that it may not stand before and those that it may. -/
private theorem orderedInsert_append {α : Type} {le : α → α → Bool} {x : α}
    {before behind : List α} (hBefore : ∀ y ∈ before, (!le x y) = true)
    (hBehind : ∀ y ∈ behind, le x y = true) :
    (before ++ behind).orderedInsert (fun a b => le a b = true) x =
      before ++ x :: behind := by
  induction before with
  | nil =>
      cases behind with
      | nil => rfl
      | cons y behind => exact if_pos (hBehind y List.mem_cons_self)
  | cons y before ih =>
      have hLater : ¬ le x y = true := by
        simpa using hBefore y List.mem_cons_self
      have hRest := ih fun z hz => hBefore z (List.mem_cons_of_mem y hz)
      rw [List.cons_append, List.orderedInsert_cons, if_neg hLater, hRest, List.cons_append]

/-- **Merging and inserting sort alike**, equal items included. -/
theorem mergeSort_eq_insertionSort {α : Type} {le : α → α → Bool}
    (hTrans : ∀ a b c, le a b = true → le b c = true → le a c = true)
    (hTotal : ∀ a b, (le a b || le b a) = true) (xs : List α) :
    xs.mergeSort le = xs.insertionSort (fun a b => le a b = true) := by
  induction xs with
  | nil => simp
  | cons x xs ih =>
      obtain ⟨before, behind, hSorted, hRest, hBefore⟩ :=
        List.mergeSort_cons hTrans hTotal x xs
      have hOrder := List.pairwise_mergeSort hTrans hTotal (x :: xs)
      rw [hSorted, List.pairwise_append, List.pairwise_cons] at hOrder
      rw [hSorted, List.insertionSort_cons, ← ih, hRest]
      exact (orderedInsert_append hBefore hOrder.2.1.1).symm

/-- Ids in order. -/
theorem Sync.ordered_eq (ids : List String) :
    ordered ids = ids.eraseDups.insertionSort (fun a b => decide (a ≤ b) = true) := by
  refine mergeSort_eq_insertionSort (fun a b c hab hbc => ?_) (fun a b => ?_) _
  · rw [decide_eq_true_eq] at hab hbc ⊢
    exact String.le_trans hab hbc
  · rw [Bool.or_eq_true, decide_eq_true_eq, decide_eq_true_eq]
    exact String.le_total a b

/-- The words of scanned texts, with their keys in order. -/
theorem Yaml.Scan.linear_eq : linear = fun s => linearFrom 0
    (s.keys.insertionSort fun a b => decide (a.position ≤ b.position) = true)
    s.words.reverse := by
  funext s
  rw [linear, mergeSort_eq_insertionSort]
  · intro a b c hab hbc
    rw [decide_eq_true_eq] at hab hbc ⊢
    exact hab.trans hbc
  · intro a b
    rw [Bool.or_eq_true, decide_eq_true_eq, decide_eq_true_eq]
    exact Nat.le_total _ _

end Mailroom
