import Mailroom.Proofs.Sync.Chain
import Mathlib.Algebra.Order.Floor.Div

/-!
# Paging through a mailbox

A mailbox whose pages are not laid out cuts the list of its keys into pieces: the page
of a token starts at the offset that the token spells, and it names the offset behind
its last key as long as there is a key there. With pages of one size these offsets are
the multiples of the size, so the pages are pieces that fit together, and no key is left
out or listed twice where one ends and the next begins.

A scan with a limit reads whole pages, so it gets as far as the limit rounded up to the
page size, or to the end.
-/

namespace Mailroom.Mailbox

open Mailroom.Sync (Chain chain_of_numbered idsOf listRequests listRequests_of_numbered)
open Mailroom.Text.Utf8 (Before before_iff)

/-! ## Mailboxes as they are filled -/

/-- The keys are in the order of their bytes, the pages are not laid out, and listing
does not fail. -/
structure Plain (b : Mailbox) : Prop where
  order : b.keys.Pairwise Before
  pages : b.pages = none
  lists : b.Lists

private theorem plain_empty : empty.Plain where
  order := List.Pairwise.nil
  pages := rfl
  lists := fun f hf => by cases hf

private theorem mem_keys_putSorted {key : String} {m : Message} {ms : List (String × Message)}
    {k : String} (h : k ∈ (putSorted key m ms).map (·.1)) :
    k = key ∨ k ∈ ms.map (·.1) := by
  induction ms with
  | nil => exact .inl (List.mem_singleton.1 h)
  | cons p r ih =>
      obtain ⟨j, x⟩ := p
      simp only [putSorted] at h
      split at h
      · rcases List.mem_cons.1 h with hSame | hRest
        · exact .inl hSame
        · exact .inr (List.mem_cons_of_mem _ hRest)
      · split at h
        · exact List.mem_cons.1 h
        · rcases List.mem_cons.1 h with hSame | hRest
          · exact .inr (List.mem_cons.2 (.inl hSame))
          · exact (ih hRest).imp_right (List.mem_cons_of_mem _)

private theorem pairwise_putSorted {key : String} (m : Message) {ms : List (String × Message)}
    (h : (ms.map (·.1)).Pairwise Before) :
    ((putSorted key m ms).map (·.1)).Pairwise Before := by
  induction ms with
  | nil => exact List.pairwise_singleton _ _
  | cons p r ih =>
      obtain ⟨j, x⟩ := p
      have hHead := (List.pairwise_cons.1 h).1
      have hRest := (List.pairwise_cons.1 h).2
      simp only [putSorted]
      split
      · rename_i hSame
        exact List.pairwise_cons.2 ⟨by rwa [hSame], hRest⟩
      · rename_i hOther
        split
        · rename_i hBefore
          rw [← before_iff] at hBefore
          refine List.pairwise_cons.2 ⟨fun k hk => ?_, h⟩
          rcases List.mem_cons.1 hk with rfl | hk
          · exact hBefore
          · exact before_iff.2 (String.lt_trans (before_iff.1 hBefore)
              (before_iff.1 (hHead k hk)))
        · rename_i hAfter
          refine List.pairwise_cons.2 ⟨fun k hk => ?_, ih hRest⟩
          rcases mem_keys_putSorted hk with rfl | hk
          · rw [before_iff, ← String.not_le]
            exact fun hle => hOther (String.le_antisymm hle (String.not_lt.1 hAfter))
          · exact hHead k hk

/-- What happens to a mailbox: a message is put in under its id, one is taken out, one is
relabelled, or a call other than listing is set to fail or not to fail any more. -/
inductive Edit
  | put (m : Message)
  | erase (id : String)
  | relabel (id : String) (change : Rule.LabelChange)
  | fail (kind : CallKind) (other : kind ≠ .list) (id : String)
      (answer : Option (Nat × String))

/-- The mailbox after an edit. -/
def edit (b : Mailbox) : Edit → Mailbox
  | .put m => b.put m.id m
  | .erase id => b.erase id
  | .relabel id change => b.changeLabels id change
  | .fail kind _ id answer => b.setFailure kind id answer

private theorem keys_changeLabels (b : Mailbox) (id : String) (change : Rule.LabelChange) :
    (b.changeLabels id change).keys = b.keys := by
  rw [keys, changeLabels, List.map_map]
  refine List.map_congr_left fun p _ => ?_
  obtain ⟨k, m⟩ := p
  by_cases hKey : k = id
  · simp [hKey]
  · simp [hKey]

private theorem Plain.edit {b : Mailbox} (h : b.Plain) (e : Edit) : (b.edit e).Plain := by
  cases e with
  | put m => exact ⟨pairwise_putSorted m h.order, h.pages, h.lists⟩
  | erase id =>
      have hOrder : (b.erase id).keys.Pairwise Before :=
        h.order.sublist (List.filter_sublist.map _)
      exact ⟨hOrder, h.pages, h.lists⟩
  | relabel id change =>
      have hOrder : (b.changeLabels id change).keys.Pairwise Before := by
        rw [keys_changeLabels]
        exact h.order
      exact ⟨hOrder, h.pages, h.lists⟩
  | fail kind other id answer =>
      refine ⟨h.order, h.pages, fun f hf => ?_⟩
      cases answer with
      | none => exact h.lists f (List.mem_filter.1 hf).1
      | some answer =>
          rcases List.mem_cons.1 hf with rfl | hf
          · exact other
          · exact h.lists f (List.mem_filter.1 hf).1

/-- **A mailbox is plain, whatever was done to it.** -/
theorem plain_edits (edits : List Edit) : (edits.foldl Mailbox.edit empty).Plain := by
  have hAll {b : Mailbox} (h : b.Plain) : (edits.foldl Mailbox.edit b).Plain := by
    induction edits generalizing b with
    | nil => exact h
    | cons e edits ih => exact ih (h.edit e)
  exact hAll plain_empty

/-! ## Pieces -/

/-- Pieces of one size fit together. -/
theorem flatMap_pieces {α : Type} (xs : List α) (size count : Nat) :
    (List.range count).flatMap (fun i => (xs.drop (i * size)).take size) =
      xs.take (count * size) := by
  induction count with
  | zero => simp
  | succ count ih =>
      rw [List.range_succ, List.flatMap_append, ih, List.flatMap_singleton,
        Nat.succ_mul, List.take_add]

variable {b : Mailbox} {size : Nat}

/-- The number of pages: one at least, and else as many as it takes. -/
def pageCount (b : Mailbox) (size : Nat) : Nat := max 1 (b.messages.length ⌈/⌉ size)

/-- The page of this number. -/
def piece (b : Mailbox) (size i : Nat) : IdPage := b.page (tokenAt (i * size)) size

private theorem ids_piece (h : b.pages = none) (size i : Nat) :
    (b.piece size i).ids = (b.keys.drop (i * size)).take size := by
  simp only [piece, page, h]
  show (b.keys.drop (start (tokenAt (i * size)))).take size = _
  rw [start_tokenAt]

private theorem lt_pageCount_iff (hSize : 0 < size) (i : Nat) :
    i + 1 < b.pageCount size ↔ (i + 1) * size < b.messages.length := by
  have hCeil := ceilDiv_le_iff_le_mul (b := b.messages.length) (c := i + 1) hSize
  rw [Nat.mul_comm size] at hCeil
  rw [pageCount]
  omega

private theorem nextToken_piece (h : b.pages = none) (hSize : 0 < size) (i : Nat) :
    (b.piece size i).nextToken =
      if i + 1 < b.pageCount size then tokenAt ((i + 1) * size) else none := by
  rw [piece, nextToken_of_none h, start_tokenAt]
  simp only [lt_pageCount_iff hSize]
  have hNext : (i + 1) * size = i * size + size := Nat.succ_mul i size
  generalize i * size = offset at hNext ⊢
  rw [hNext]
  by_cases hMore : offset + size < b.messages.length
  · have hWhole : min size (b.messages.length - offset) = size := by omega
    rw [hWhole, if_pos hMore, if_pos hMore, tokenAt, if_neg (by omega)]
  · rw [if_neg hMore, if_neg (by omega)]

private theorem isSome_tokenAt (hSize : 0 < size) (i : Nat) :
    (tokenAt ((i + 1) * size)).isSome := by
  have hSome : (i + 1) * size ≠ 0 := Nat.mul_ne_zero (Nat.succ_ne_zero i) (by omega)
  rw [tokenAt, if_neg hSome]
  rfl

/-- So many pages, from the first on. -/
def pieces (b : Mailbox) (size count : Nat) : List IdPage :=
  (List.range count).map (b.piece size)

private theorem length_pieces (b : Mailbox) (size count : Nat) :
    (b.pieces size count).length = count := by
  rw [pieces, List.length_map, List.length_range]

private theorem take_pieces (b : Mailbox) (size k count : Nat) :
    (b.pieces size count).take k = b.pieces size (min k count) := by
  rw [pieces, pieces, ← List.map_take, List.take_range]

/-- **The pages of a mailbox are a chain.** -/
theorem chain_pieces (h : b.Plain) (hSize : 0 < size) :
    Chain provider size none b (b.pieces size (b.pageCount size)) := by
  have hSome : 0 < b.pageCount size := Nat.le_max_left _ _
  have hChain := chain_of_numbered (fun i => h.lists.list_eq (tokenAt (i * size)) size)
    (isSome_tokenAt hSize) (fun i _ => nextToken_piece h.pages hSize i) hSome
  rw [Nat.zero_mul, Nat.sub_zero, ← List.range_eq_range'] at hChain
  exact hChain

private theorem listRequests_pieces (h : b.pages = none) (hSize : 0 < size) {k : Nat}
    (hk : k ≤ b.pageCount size) :
    listRequests size none (b.pieces size k) =
      (List.range k).map fun i => .list (tokenAt (i * size)) size := by
  let token (i : Nat) : Option String := tokenAt (i * size)
  have hNext (i : Nat) (_ : i < b.pageCount size) : (b.piece size i).nextToken =
      if i + 1 < b.pageCount size then token (i + 1) else none :=
    nextToken_piece h hSize i
  have hCount : 0 + k ≤ b.pageCount size := by omega
  have hNumbered := listRequests_of_numbered size hNext hCount
  have hFirst : token 0 = none := by
    show tokenAt (0 * size) = none
    rw [Nat.zero_mul]
    rfl
  rwa [← List.range_eq_range', hFirst] at hNumbered

/-- **The pages are pieces of the keys, and none is missing between them.** -/
theorem idsOf_pieces (h : b.pages = none) (size k : Nat) :
    idsOf (b.pieces size k) = b.keys.take (k * size) := by
  rw [idsOf, pieces, List.flatMap_map]
  simp only [ids_piece h]
  exact flatMap_pieces b.keys size k

/-- The pages hold all keys. -/
theorem length_le_pageCount (b : Mailbox) (hSize : 0 < size) :
    b.messages.length ≤ b.pageCount size * size := by
  rw [Nat.mul_comm]
  exact (ceilDiv_le_iff_le_mul hSize).1 (Nat.le_max_right _ _)

/-- There are no more pages than are allowed. -/
theorem pageCount_le (h : b.pages = none) (hSize : 0 < size) :
    b.pageCount size ≤ provider.pagesLeft b := by
  have hFewer : b.messages.length ⌈/⌉ size ≤ b.messages.length := by
    rw [ceilDiv_le_iff_le_mul hSize]
    exact Nat.le_mul_of_pos_left _ hSize
  simp only [provider, h, pageCount]
  omega

end Mailroom.Mailbox

namespace Mailroom.Sync

open Mailroom.Mailbox (provider tokenAt)
open Mailroom.Text.Utf8 (Before)

/-! ## How far a scan gets -/

/-- How many of so many ids a scan reads: all, or up to the end of the page that brings
it to the limit. -/
def reach (size limit count : Nat) : Nat :=
  if limit = 0 ∨ count ≤ size * (limit ⌈/⌉ size) then count
  else size * (limit ⌈/⌉ size)

/-- **The page with which a scan has enough**: with it the scan has got as far as it
reaches, and it is the last page if that is the end. -/
theorem last_page {size limit count k : Nat} (hSize : 0 < size)
    (h : IsLeast {k | k + 1 = max 1 (count ⌈/⌉ size) ∨
      limit ≠ 0 ∧ limit ≤ min ((k + 1) * size) count} k) :
    k + 1 = max 1 (reach size limit count ⌈/⌉ size) ∧
      min ((k + 1) * size) count = reach size limit count ∧
      (k + 1 < max 1 (count ⌈/⌉ size) ↔ reach size limit count < count) := by
  obtain ⟨hEnough, hLeast⟩ := h
  have hEnough : k + 1 = max 1 (count ⌈/⌉ size) ∨
      limit ≠ 0 ∧ limit ≤ min (size * (k + 1)) count := by
    rwa [Nat.mul_comm size]
  have hPages (j : Nat) : count ⌈/⌉ size ≤ j ↔ count ≤ size * j :=
    ceilDiv_le_iff_le_mul hSize
  have hLimit (j : Nat) : limit ⌈/⌉ size ≤ j ↔ limit ≤ size * j :=
    ceilDiv_le_iff_le_mul hSize
  rw [Nat.mul_comm (k + 1)]
  by_cases hWhole : limit = 0 ∨ count ≤ size * (limit ⌈/⌉ size)
  · rw [reach, if_pos hWhole]
    have hLast : max 1 (count ⌈/⌉ size) - 1 + 1 = max 1 (count ⌈/⌉ size) := by omega
    have hAtMost := hLeast (.inl hLast)
    have hAll : k + 1 = max 1 (count ⌈/⌉ size) := by
      rcases hEnough with hAll | ⟨hSome, hReached⟩
      · exact hAll
      · -- a limit that is reached here is reached on the last page
        have hCeil := (hLimit (k + 1)).2 (by omega)
        have hFar := Nat.mul_le_mul_left size hCeil
        have hCount := (hPages (k + 1)).2 ((hWhole.resolve_left hSome).trans hFar)
        omega
    have hCount := (hPages (k + 1)).1 (by omega)
    refine ⟨hAll, by omega, by omega⟩
  · rw [reach, if_neg hWhole]
    obtain ⟨hSome, hShort⟩ := not_or.1 hWhole
    have hFirst : 0 < limit ⌈/⌉ size := by
      have := hLimit 0
      omega
    have hFewer : ¬count ⌈/⌉ size ≤ limit ⌈/⌉ size := fun h => hShort ((hPages _).1 h)
    have hReached : limit ≤ size * (limit ⌈/⌉ size) := (hLimit _).1 le_rfl
    have hIndex : limit ⌈/⌉ size - 1 + 1 = limit ⌈/⌉ size := by omega
    have hAtMost : k ≤ limit ⌈/⌉ size - 1 := by
      refine hLeast (.inr ⟨hSome, ?_⟩)
      rw [hIndex, Nat.mul_comm]
      omega
    have hAtLeast : limit ⌈/⌉ size ≤ k + 1 := by
      rcases hEnough with hAll | ⟨-, hReached⟩
      · omega
      · exact (hLimit _).2 (by omega)
    have hPage : k + 1 = limit ⌈/⌉ size := by omega
    have hSame : size * (limit ⌈/⌉ size) ⌈/⌉ size = limit ⌈/⌉ size :=
      smul_ceilDiv hSize (limit ⌈/⌉ size)
    rw [hPage, hSame]
    refine ⟨by omega, by omega, by omega⟩

/-- Ids that are all different are collected as they are. -/
theorem collect_of_nodup {seen ids : List String} (h : (seen ++ ids).Nodup) :
    collect seen ids = seen ++ ids := by
  induction ids generalizing seen with
  | nil => rw [List.append_nil, collect, List.foldl_nil]
  | cons id ids ih =>
      have hNew : id ∉ seen := fun hOld =>
        (List.nodup_append.1 h).2.2 id hOld id List.mem_cons_self rfl
      rw [collect, List.foldl_cons, if_neg hNew]
      refine (ih ?_).trans ?_
      · rwa [List.append_assoc, List.singleton_append]
      · rw [List.append_assoc, List.singleton_append]

/-! ## Scanning a mailbox -/

/-- The first pages bring so many keys, or all if there are not so many. -/
theorem card_taken {b : Mailbox} (h : b.Plain) {size : Nat} (hSize : 0 < size) (k : Nat) :
    (scannedIds ((b.pieces size (b.pageCount size)).take k)).card =
      min (k * size) b.messages.length := by
  have hNodup (n : Nat) : (b.keys.take n).Nodup :=
    nodup_of_before (h.order.sublist (List.take_sublist _ _))
  rw [Mailbox.take_pieces, scannedIds, Mailbox.idsOf_pieces h.pages,
    List.toFinset_card_of_nodup (hNodup _), List.length_take, Mailbox.keys, List.length_map]
  -- past the last page there are no more keys
  have hAll := b.length_le_pageCount hSize
  rcases Nat.le_total k (b.pageCount size) with hFew | hMany
  · rw [Nat.min_eq_left hFew]
  · have hMore := Nat.mul_le_mul_right size hMany
    rw [Nat.min_eq_right hMany, Nat.min_eq_right hAll, Nat.min_eq_right (hAll.trans hMore)]

/-- **What a scan of a mailbox finds**: the first keys, up to the end of the page that
brings it to the limit. It asks for the pages at the multiples of the page size, which
hold these keys one after the other. -/
theorem scan_pages_mailbox (o : Options) {b : Mailbox} (h : b.Plain)
    {w : World (Traced Mailbox)} (hRemote : w.remote.state = b) :
    let size := max 1 (min o.pageSize 500)
    let count := b.messages.length
    let found := reach size o.scanLimit count
    let pages := List.range (max 1 (found ⌈/⌉ size))
    ∃ w', scan provider.traced o w = (.ok ⟨b.keys.take found, decide (found < count)⟩, w') ∧
      w'.remote.calls.reverse = w.remote.calls.reverse ++
        pages.map (fun i => .list (tokenAt (i * size)) size) ∧
      pages.flatMap (fun i => (b.page (tokenAt (i * size)) size).ids) = b.keys.take found ∧
      (b.keys.take found).Pairwise Before := by
  intro size count found pages
  have hSize : 0 < size := Nat.le_max_left _ _
  have hKeys : b.keys.length = count := List.length_map _
  have hFirst (n : Nat) : (b.keys.take n).Pairwise Before :=
    h.order.sublist (List.take_sublist _ _)
  have hNodup (n : Nat) : (b.keys.take n).Nodup := nodup_of_before (hFirst n)
  obtain ⟨k, r, hLeast, hWalk⟩ := (Mailbox.chain_pieces h hSize).exists_walk o.scanLimit []
  simp only [enough_iff, card_taken h hSize, Mailbox.length_pieces] at hLeast hWalk
  have hCount : k + 1 ≤ b.pageCount size := by
    have hSome : 1 ≤ b.pageCount size := Nat.le_max_left _ _
    have hAtMost := hLeast.2 (.inl (Nat.sub_add_cancel hSome))
    omega
  obtain ⟨hLast, hFound, hMore⟩ := last_page hSize hLeast
  rw [Mailbox.take_pieces, Nat.min_eq_left hCount] at hWalk
  have hIds : idsOf (b.pieces size (k + 1)) = b.keys.take found := by
    rw [Mailbox.idsOf_pieces h.pages, List.take_eq_take_min, hKeys, hFound]
  have hFuel : (b.pieces size (k + 1)).length ≤ provider.pagesLeft b := by
    rw [Mailbox.length_pieces]
    exact hCount.trans (Mailbox.pageCount_le h.pages hSize)
  subst hRemote
  obtain ⟨log, hScan⟩ := scan_of_walk hWalk hFuel
  have hCut : decide (k + 1 < (w.remote.state).pageCount size) = decide (found < count) :=
    decide_eq_decide.2 hMore
  have hPages : pages = List.range (k + 1) := congrArg List.range hLast.symm
  rw [hIds, collect_of_nodup (hNodup _), List.nil_append, hCut] at hScan
  refine ⟨_, hScan, ?_, ?_, hFirst _⟩
  · rw [List.reverse_append, List.reverse_reverse, hPages]
    exact congrArg _ (Mailbox.listRequests_pieces h.pages hSize hCount)
  · rw [hPages, ← hIds, idsOf, Mailbox.pieces, List.flatMap_map]
    rfl

/-- Five messages on pages of two: a limit of three takes in the second page whole. -/
theorem scan_pages_mailbox_of_five :
    let letters := ["e", "b", "a", "d", "c"]
    let mailbox := (letters.map fun id => Mailbox.Edit.put (bareMessage id "0" [])).foldl
      Mailbox.edit Mailbox.empty
    let o : Options := ⟨2, 3⟩
    let w : World (Traced Mailbox) := ⟨⟨mailbox, []⟩, Store.fresh, 0, []⟩
    mailbox.Plain ∧
      ∃ w', scan provider.traced o w = (.ok ⟨["a", "b", "c", "d"], true⟩, w') ∧
        w'.remote.calls.reverse = [.list none 2, .list (some (natText 2)) 2] := by
  intro letters mailbox o w
  have hPlain : mailbox.Plain := Mailbox.plain_edits _
  have hKeys : mailbox.keys.take 4 = ["a", "b", "c", "d"] := by decide
  have hFive : mailbox.messages.length = 5 := by decide
  have hSize : max 1 (min o.pageSize 500) = 2 := by decide
  have hReach : reach 2 o.scanLimit 5 = 4 := by decide
  have hPages : 4 ⌈/⌉ 2 = 2 := by decide
  obtain ⟨w', hScan, hCalls, -, -⟩ := scan_pages_mailbox o hPlain (w := w) rfl
  rw [hSize, hFive, hReach] at hScan hCalls
  rw [hKeys] at hScan
  rw [hPages] at hCalls
  exact ⟨hPlain, w', hScan, hCalls⟩

end Mailroom.Sync
