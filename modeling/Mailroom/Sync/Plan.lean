/-!
# What a sync has to do

Given the ids on the remote side and those in the local store, the ids to fetch and the ids to
delete, each in the order of ids and none twice.
-/

namespace Mailroom.Sync

/-- Ids in order, each once. -/
def ordered (ids : List String) : List String :=
  ids.eraseDups.mergeSort (fun a b => decide (a ≤ b))

theorem mem_ordered {ids : List String} {x : String} : x ∈ ordered ids ↔ x ∈ ids := by
  rw [ordered, List.mem_mergeSort, List.mem_eraseDups]

/-- What a sync has to do. -/
structure Plan where
  toFetch : List String
  toDelete : List String
deriving DecidableEq, Repr

namespace Plan

/-- What is remote and not local is to be fetched, what is local and not remote to be deleted. -/
def between (remote stored : List String) : Plan where
  toFetch := ordered (remote.filter (· ∉ stored))
  toDelete := ordered (stored.filter (· ∉ remote))

theorem mem_toFetch {remote stored : List String} {x : String} :
    x ∈ (between remote stored).toFetch ↔ x ∈ remote ∧ x ∉ stored := by
  simp [between, mem_ordered]

theorem mem_toDelete {remote stored : List String} {x : String} :
    x ∈ (between remote stored).toDelete ↔ x ∈ stored ∧ x ∉ remote := by
  simp [between, mem_ordered]

/-- Whether there is nothing to do. -/
def isEmpty (p : Plan) : Bool := p.toFetch.isEmpty && p.toDelete.isEmpty

/-- There is nothing to do just if the same ids are on both sides. -/
theorem isEmpty_between {remote stored : List String} :
    (between remote stored).isEmpty = true ↔ ∀ x, x ∈ remote ↔ x ∈ stored := by
  rw [isEmpty, Bool.and_eq_true, List.isEmpty_iff, List.isEmpty_iff,
    List.eq_nil_iff_forall_not_mem, List.eq_nil_iff_forall_not_mem]
  simp only [mem_toFetch, mem_toDelete, not_and, Decidable.not_not]
  exact ⟨fun ⟨h, h'⟩ x => ⟨h x, h' x⟩, fun h => ⟨fun x => (h x).1, fun x => (h x).2⟩⟩

end Plan

end Mailroom.Sync
