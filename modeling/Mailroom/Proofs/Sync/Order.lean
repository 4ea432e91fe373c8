import Mailroom.Proofs.Text.Utf8Order
import Mailroom.Sync.Reconcile
import Mathlib.Data.Finset.Card

/-!
# The order of a plan

A plan lists ids in the order of their bytes, each once. That determines the
list from its members alone, however they were collected and in whatever order
they came, so a plan is a function of two sets: what is remote and what is
stored. The lengths of its lists are the sizes of the differences.
-/

namespace Mailroom.Text.Utf8

/-- One text before another, by the bytes of their UTF-8. -/
def Before (s t : String) : Prop := encode s.toList < encode t.toList

theorem before_iff {s t : String} : Before s t ↔ s < t := encode_lt_iff

end Mailroom.Text.Utf8

namespace Mailroom.Sync

open Mailroom.Text.Utf8 (Before before_iff)

/-! ## Ids in order -/

private theorem nodup_eraseDups (ids : List String) : ids.eraseDups.Nodup := by
  -- each step removes what it keeps from the rest, so the rest gets no longer
  induction hLength : ids.length using Nat.strongRecOn generalizing ids with
  | ind n ih =>
      cases ids with
      | nil => exact List.nodup_nil
      | cons id ids =>
          have hShorter : (ids.filter fun x => !x == id).length < n := by
            have := List.length_filter_le (fun x => !x == id) ids
            rw [List.length_cons] at hLength
            omega
          rw [List.eraseDups_cons, List.nodup_cons]
          refine ⟨?_, ih _ hShorter _ rfl⟩
          rw [List.mem_eraseDups]
          simp

theorem nodup_ordered (ids : List String) : (ordered ids).Nodup :=
  (List.mergeSort_perm _ _).nodup_iff.2 (nodup_eraseDups ids)

private theorem le_ordered (ids : List String) : (ordered ids).Pairwise (· ≤ ·) := by
  have hTrans : ∀ a b c : String, decide (a ≤ b) = true → decide (b ≤ c) = true →
      decide (a ≤ c) = true := by
    intro a b c hab hbc
    rw [decide_eq_true_eq] at hab hbc ⊢
    exact String.le_trans hab hbc
  have hTotal : ∀ a b : String, (decide (a ≤ b) || decide (b ≤ a)) = true := by
    intro a b
    rw [Bool.or_eq_true, decide_eq_true_eq, decide_eq_true_eq]
    exact String.le_total a b
  refine (List.pairwise_mergeSort hTrans hTotal ids.eraseDups).imp ?_
  intro a b hab
  exact of_decide_eq_true hab

/-- **Ids in order are in the order of their bytes.** -/
theorem pairwise_ordered (ids : List String) :
    (ordered ids).Pairwise Before := by
  refine List.Pairwise.imp₂ ?_ (le_ordered ids) (nodup_ordered ids)
  intro a b hle hne
  rw [before_iff, ← String.not_le]
  exact fun hge => hne (String.le_antisymm hle hge)

theorem nodup_of_before {ids : List String} (h : ids.Pairwise Before) :
    ids.Nodup := by
  refine h.imp ?_
  intro a b hab heq
  rw [before_iff, heq] at hab
  exact String.lt_irrefl b hab

/-- The ids themselves do not matter, only which there are. -/
theorem eq_ordered {xs ids : List String} (hOrder : xs.Pairwise Before)
    (hMem : ∀ x, x ∈ xs ↔ x ∈ ids) : xs = ordered ids := by
  have hPerm : xs.Perm (ordered ids) := by
    rw [List.perm_ext_iff_of_nodup (nodup_of_before hOrder) (nodup_ordered ids)]
    intro x
    rw [hMem, mem_ordered]
  refine hPerm.eq_of_pairwise ?_ hOrder (pairwise_ordered ids)
  intro a b _ _ hab hba
  exact absurd (before_iff.1 hba) (String.lt_asymm (before_iff.1 hab))

/-! ## Sizes -/

theorem nodup_collect {seen : List String} (ids : List String)
    (h : seen.Nodup) : (collect seen ids).Nodup := by
  induction ids generalizing seen with
  | nil => exact h
  | cons id ids ih =>
      rw [collect, List.foldl_cons]
      refine ih ?_
      split
      · exact h
      · rename_i hNew
        rw [List.nodup_append]
        refine ⟨h, List.nodup_singleton id, ?_⟩
        intro a ha b hb hab
        rw [hab, List.mem_singleton.1 hb] at ha
        exact hNew ha

theorem mem_collected {ids : List String} {x : String} :
    x ∈ collect [] ids ↔ x ∈ ids := by
  rw [mem_collect]
  simp

theorem length_collect (ids : List String) :
    (collect [] ids).length = ids.toFinset.card := by
  rw [← List.toFinset_card_of_nodup (nodup_collect ids List.nodup_nil)]
  congr 1
  ext x
  rw [List.mem_toFinset, List.mem_toFinset, mem_collected]

private theorem length_ordered {ids : List String} {s : Finset String}
    (h : ∀ x, x ∈ ids ↔ x ∈ s) : (ordered ids).length = s.card := by
  rw [← List.toFinset_card_of_nodup (nodup_ordered ids)]
  congr 1
  ext x
  rw [List.mem_toFinset, mem_ordered, h]

theorem toFinset_toFetch (remote stored : List String) :
    (Plan.between remote stored).toFetch.toFinset =
      remote.toFinset \ stored.toFinset := by
  ext x
  rw [List.mem_toFinset, Plan.mem_toFetch, Finset.mem_sdiff, List.mem_toFinset,
    List.mem_toFinset]

theorem length_toFetch (remote stored : List String) :
    (Plan.between remote stored).toFetch.length =
      (remote.toFinset \ stored.toFinset).card := by
  refine length_ordered fun x => ?_
  simp

theorem length_toDelete (remote stored : List String) :
    (Plan.between remote stored).toDelete.length =
      (stored.toFinset \ remote.toFinset).card := by
  refine length_ordered fun x => ?_
  simp

/-! ## Plans -/

/-- The order in which ids were scanned, or how often, does not matter. -/
theorem between_collect (ids stored : List String) :
    (Plan.between (collect [] ids) stored).toFetch =
      (Plan.between ids stored).toFetch := by
  refine eq_ordered (pairwise_ordered _) fun x => ?_
  rw [Plan.mem_toFetch, mem_collected]
  simp

end Mailroom.Sync
