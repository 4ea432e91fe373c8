import Mailroom.Proofs.Sync.Effect
import Mathlib.Order.Bounds.Basic
import Mathlib.Tactic.IntervalCases

/-!
# Chains of pages

A listing that comes to an end is a chain of pages: each names the one after it, and
the last one names none. A scan reads a chain from its front. It stops with the first
page at which one of two things is so: there is no page after it, or as many ids have
been collected as the limit asks for. The end of the listing is looked for before the
limit, so a scan that gets to its limit on the last page has read the whole listing and
does not call it cut off.

The pages of a mailbox are such a chain: they are numbered, and each names the number,
or the offset, of the next.
-/

namespace Mailroom.Sync

variable {σ : Type}

/-- The pages that come from a token on, each but the first asked for with the token of
the one before it, up to one that has no token. -/
inductive Chain (p : Provider σ) (size : Nat) :
    Option String → σ → List IdPage → Prop
  | last {token r page r'} (list : p.list token size r = (.ok page, r'))
      (more : page.nextToken = none) : Chain p size token r [page]
  | next {token r page next r₁ pages} (list : p.list token size r = (.ok page, r₁))
      (more : page.nextToken = some next) (rest : Chain p size (some next) r₁ pages) :
      Chain p size token r (page :: pages)

private theorem Chain.ne_nil {p : Provider σ} {size : Nat} {token : Option String} {r : σ}
    {pages : List IdPage} (h : Chain p size token r pages) : pages ≠ [] := by
  cases h with
  | last list more => exact List.cons_ne_nil _ _
  | next list more rest => exact List.cons_ne_nil _ _

/-! ## Where a walk ends -/

/-- The page of this index is the last one, or there are as many ids as the limit asks
for up to it. -/
def Enough (limit : Nat) (seen : List String) (pages : List IdPage) (k : Nat) : Prop :=
  k + 1 = pages.length ∨
    limit ≠ 0 ∧ limit ≤ (collect seen (idsOf (pages.take (k + 1)))).length

private theorem enough_succ {limit : Nat} {seen : List String} {page : IdPage}
    {pages : List IdPage} {k : Nat} :
    Enough limit seen (page :: pages) (k + 1) ↔
      Enough limit (collect seen page.ids) pages k := by
  simp [Enough, idsOf, collect_append]

theorem enough_iff {limit : Nat} {pages : List IdPage} {k : Nat} :
    Enough limit [] pages k ↔ k + 1 = pages.length ∨
      limit ≠ 0 ∧ limit ≤ (scannedIds (pages.take (k + 1))).card := by
  rw [Enough, length_collect, scannedIds]

/-- **A walk through a chain ends with the first page that is enough**, and it was cut
off there unless this is the last one. -/
theorem Chain.exists_walk {p : Provider σ} {size : Nat} {token : Option String} {r : σ}
    {pages : List IdPage} (h : Chain p size token r pages) (limit : Nat)
    (seen : List String) :
    ∃ k r', IsLeast {k | Enough limit seen pages k} k ∧
      Walk p size limit token seen r (pages.take (k + 1))
        (decide (k + 1 < pages.length)) r' := by
  induction h generalizing seen with
  | last list more =>
      exact ⟨0, _, ⟨.inl rfl, fun k _ => Nat.zero_le k⟩, .last list more⟩
  | next list more rest ih =>
      rename_i token r page next r₁ pages
      by_cases hLimit : limit ≠ 0 ∧ limit ≤ (collect seen page.ids).length
      · have hEnough : Enough limit seen (page :: pages) 0 := by
          refine .inr ⟨hLimit.1, ?_⟩
          simpa [idsOf] using hLimit.2
        have hMore : 0 + 1 < (page :: pages).length := by
          have := List.length_pos_of_ne_nil rest.ne_nil
          rw [List.length_cons]
          omega
        refine ⟨0, r₁, ⟨hEnough, fun k _ => Nat.zero_le k⟩, ?_⟩
        rw [decide_eq_true hMore]
        exact .cut list more hLimit
      · obtain ⟨k, r', ⟨hEnough, hLeast⟩, hWalk⟩ := ih (collect seen page.ids)
        refine ⟨k + 1, r', ⟨enough_succ.2 hEnough, ?_⟩, ?_⟩
        · intro j hj
          cases j with
          | zero =>
              -- the first page is neither the last one nor up to the limit
              rcases hj with hLast | ⟨hSome, hReached⟩
              · have := List.length_pos_of_ne_nil rest.ne_nil
                rw [List.length_cons] at hLast
                omega
              · refine absurd ⟨hSome, ?_⟩ hLimit
                simpa [idsOf] using hReached
          | succ j => exact Nat.succ_le_succ (hLeast (enough_succ.1 hj))
        · have hSame : decide (k + 1 + 1 < (page :: pages).length) =
              decide (k + 1 < pages.length) := by
            rw [List.length_cons, decide_eq_decide]
            omega
          rw [hSame, List.take_succ_cons]
          exact .next list more hLimit hWalk

/-! ## Numbered pages -/

/-- Pages with numbers are a chain, if each but the last one names the one of the next
number. -/
theorem chain_of_numbered {p : Provider σ} {size : Nat} {r : σ} {page : Nat → IdPage}
    {token : Nat → Option String} {count : Nat}
    (hList : ∀ i, p.list (token i) size r = (.ok (page i), r))
    (hToken : ∀ i, (token (i + 1)).isSome)
    (hNext : ∀ i, i < count →
      (page i).nextToken = if i + 1 < count then token (i + 1) else none)
    {i : Nat} (hi : i < count) :
    Chain p size (token i) r ((List.range' i (count - i)).map page) := by
  induction hLeft : count - i generalizing i with
  | zero => omega
  | succ left ih =>
      rw [List.range'_succ, List.map_cons]
      by_cases hMore : i + 1 < count
      · obtain ⟨next, hSome⟩ := Option.isSome_iff_exists.1 (hToken i)
        have hPage : (page i).nextToken = some next := by
          rw [hNext i hi, if_pos hMore, hSome]
        have hRest := ih hMore (by omega)
        rw [hSome] at hRest
        exact .next (hList i) hPage hRest
      · have hNone : left = 0 := by omega
        subst hNone
        exact .last (hList i) (by rw [hNext i hi, if_neg hMore])

/-- The requests for numbered pages have their tokens. -/
theorem listRequests_of_numbered (size : Nat) {page : Nat → IdPage}
    {token : Nat → Option String} {count : Nat}
    (hNext : ∀ i, i < count →
      (page i).nextToken = if i + 1 < count then token (i + 1) else none)
    {i m : Nat} (h : i + m ≤ count) :
    listRequests size (token i) ((List.range' i m).map page) =
      (List.range' i m).map fun j => .list (token j) size := by
  induction m generalizing i with
  | zero => rfl
  | succ m ih =>
      rw [List.range'_succ, List.map_cons, List.map_cons, listRequests]
      cases m with
      | zero => rfl
      | succ m =>
          rw [hNext i (by omega), if_pos (by omega), ih (by omega)]

end Mailroom.Sync

namespace Mailroom.Mailbox

open Mailroom.Sync (Chain chain_of_numbered)

/-- The token of the page that starts here: none for the first one. -/
def tokenAt (start : Nat) : Option String :=
  if start = 0 then none else some (natText start)

private theorem tokenAt_succ (n : Nat) : tokenAt (n + 1) = some (natText (n + 1)) :=
  if_neg (Nat.succ_ne_zero n)

theorem start_tokenAt (n : Nat) : start (tokenAt n) = n := by
  cases n with
  | zero => rfl
  | succ n => rw [tokenAt_succ, start_natText]

/-- No listing is set to fail. -/
def Lists (b : Mailbox) : Prop := ∀ f ∈ b.failures, f.kind ≠ .list

theorem Lists.list_eq {b : Mailbox} (h : b.Lists) (token : Option String) (size : Nat) :
    provider.list token size b = (.ok (b.page token size), b) := by
  simp only [provider, call, failure?_of_kind h]

theorem ids_laidOut {b : Mailbox} {pages : List (List String)}
    (h : b.pages = some pages) (i size : Nat) :
    (b.page (tokenAt i) size).ids = pages[i]?.getD [] := by
  simp only [page, h]
  show pages[start (tokenAt i)]?.getD [] = _
  rw [start_tokenAt]

/-- **The pages that are laid out are a chain.** -/
theorem chain_laidOut {b : Mailbox} (h : b.Lists) {pages : List (List String)}
    (hPages : b.pages = some pages) (size : Nat) :
    Chain provider size none b
      ((List.range (max 1 pages.length)).map fun i => b.page (tokenAt i) size) := by
  have hNext (i : Nat) (_ : i < max 1 pages.length) :
      (b.page (tokenAt i) size).nextToken =
        if i + 1 < max 1 pages.length then tokenAt (i + 1) else none := by
    rw [nextToken_of_some hPages, start_tokenAt, tokenAt_succ]
    refine if_congr ?_ rfl rfl
    omega
  have hToken (i : Nat) : (tokenAt (i + 1)).isSome := by
    rw [tokenAt_succ]
    rfl
  have hSome : 0 < max 1 pages.length := Nat.le_max_left _ _
  have hChain := chain_of_numbered (fun i => h.list_eq (tokenAt i) size) hToken hNext hSome
  rwa [Nat.sub_zero, ← List.range_eq_range'] at hChain

end Mailroom.Mailbox

namespace Mailroom.Sync

variable {σ : Type}

/-! ## What a scan reads -/

/-- A scan has read a chain of pages up to the one of this index: it has asked for
these pages, each with the token of the one before it, and for nothing else, and it has
found their ids, each once. -/
structure ReadUpTo (o : Options) (w w' : World (Traced σ)) (scanned : Scan)
    (pages : List IdPage) (k : Nat) : Prop where
  calls : w'.remote.calls.reverse = w.remote.calls.reverse ++
    listRequests o.size none (pages.take (k + 1))
  once : scanned.ids.Nodup
  ids : scanned.ids.toFinset = scannedIds (pages.take (k + 1))
  truncated : scanned.truncated = true ↔ k + 1 < pages.length
  whole : scanned.truncated = false → ∀ page ∈ pages, ∀ id ∈ page.ids, id ∈ scanned.ids

/-- **A scan reads a chain up to the first page that is the last one or gets to the
limit**, and it is cut off if that is not the last one. It does end well, if it is
given the time for these pages. -/
theorem scan_reads_chain {p : Provider σ} (o : Options) {w : World (Traced σ)}
    {pages : List IdPage} (hChain : Chain p o.size none w.remote.state pages) :
    ∃ k, IsLeast {k | k + 1 = pages.length ∨
          o.scanLimit ≠ 0 ∧ o.scanLimit ≤ (scannedIds (pages.take (k + 1))).card} k ∧
      (k < p.pagesLeft w.remote.state →
        ∃ scanned w', scan p.traced o w = (.ok scanned, w')) ∧
      ∀ scanned w', scan p.traced o w = (.ok scanned, w') →
        ReadUpTo o w w' scanned pages k := by
  obtain ⟨k, r, hLeast, hWalk⟩ := hChain.exists_walk o.scanLimit []
  simp only [enough_iff] at hLeast
  refine ⟨k, hLeast, fun hFuel => ?_, fun scanned w' hScan => ?_⟩
  · have hLength : (pages.take (k + 1)).length ≤ p.pagesLeft w.remote.state := by
      rw [List.length_take]
      omega
    obtain ⟨log, hScan⟩ := scan_of_walk hWalk hLength
    exact ⟨_, _, hScan⟩
  · obtain ⟨read, r', -, hRead, hIds, hRemote, -⟩ := walk_of_scan hScan
    obtain ⟨rfl, hTruncated⟩ := hRead.unique hWalk
    have hMem (id : String) : id ∈ scanned.ids ↔ id ∈ idsOf (pages.take (k + 1)) := by
      rw [hIds, mem_collected]
    exact {
      calls := by
        rw [hRemote]
        simp
      once := by
        rw [hIds]
        exact nodup_collect _ List.nodup_nil
      ids := by
        ext id
        rw [List.mem_toFinset, hMem, scannedIds, List.mem_toFinset]
      truncated := by rw [hTruncated, decide_eq_true_iff]
      whole := by
        intro hWhole page hPage id hid
        rw [hTruncated, decide_eq_false_iff_not, Nat.not_lt] at hWhole
        rw [hMem, List.take_of_length_le hWhole]
        exact List.mem_flatMap.2 ⟨page, hPage, hid⟩ }

/-- The third and last page brings the third id, which is the limit: nothing is cut
off. -/
theorem scan_reads_chain_to_limit :
    let mailbox := { Mailbox.empty with pages := some [["b", "a"], ["a"], ["c"]] }
    let o : Options := ⟨2, 3⟩
    let w : World (Traced Mailbox) := ⟨⟨mailbox, []⟩, Store.fresh, 0, []⟩
    let pages := (List.range 3).map fun i => mailbox.page (Mailbox.tokenAt i) o.size
    Chain Mailbox.provider o.size none mailbox pages ∧
      ∃ scanned w', scan Mailbox.provider.traced o w = (.ok scanned, w') ∧
        ReadUpTo o w w' scanned pages 2 ∧ scanned.truncated = false := by
  intro mailbox o w pages
  have hLists : mailbox.Lists := fun f hf => by cases hf
  have hChain : Chain Mailbox.provider o.size none mailbox pages :=
    Mailbox.chain_laidOut hLists rfl o.size
  have hIds (k : Nat) : scannedIds (pages.take k) =
      (((List.range 3).take k).flatMap fun i =>
        [["b", "a"], ["a"], ["c"]][i]?.getD []).toFinset := by
    rw [scannedIds, idsOf, ← List.map_take, List.flatMap_map]
    simp only [Mailbox.ids_laidOut (b := mailbox) rfl]
  obtain ⟨k, ⟨hEnough, hLeast⟩, hEnds, hReads⟩ :=
    scan_reads_chain (p := Mailbox.provider) o (w := w) hChain
  have hLast : k ≤ 2 := hLeast (.inl rfl)
  have hThree : k = 2 := by
    rcases hEnough with hLast | ⟨-, hReached⟩
    · exact Nat.succ.inj hLast
    · rw [hIds] at hReached
      interval_cases k
      · exact absurd hReached (by decide)
      · exact absurd hReached (by decide)
      · rfl
  subst hThree
  obtain ⟨scanned, w', hScan⟩ := hEnds (by decide)
  have hRead := hReads scanned w' hScan
  refine ⟨hChain, scanned, w', hScan, hRead, ?_⟩
  rw [← Bool.not_eq_true, hRead.truncated]
  decide

end Mailroom.Sync
