import Mailroom.Proofs.Sync.Chain

/-!
# What the limit of a scan bounds

The limit of a scan is a number of ids, not of pages. A page that brings an id that was
not there before takes the scan nearer to its limit; a page that brings none, because it
is empty or repeats what was listed, does not. So a scan asks for at most as many pages
as its limit says, and one more for each page that brought nothing; and it comes to an
end if there are only so many of those, however long the listing is.

The bound of the loop that is part of the definition has no part in this: from the
limit and the idle pages on, every bound gives the same scan.
-/

namespace Mailroom.Sync

variable {σ : Type}

/-! ## Idle pages -/

/-- How many pages bring no id that is not there yet. -/
def idle : Finset String → List IdPage → Nat
  | _, [] => 0
  | seen, page :: pages =>
      (if page.ids.toFinset ⊆ seen then 1 else 0) +
        idle (seen ∪ page.ids.toFinset) pages

private theorem scannedIds_cons (page : IdPage) (pages : List IdPage) :
    scannedIds (page :: pages) = page.ids.toFinset ∪ scannedIds pages := by
  rw [scannedIds, scannedIds, idsOf, idsOf, List.flatMap_cons, List.toFinset_append]

/-- **There are no more pages than ids and idle pages**: each other page brings an id. -/
theorem length_le_idle (seen : Finset String) (pages : List IdPage) :
    pages.length + seen.card ≤ idle seen pages + (seen ∪ scannedIds pages).card := by
  induction pages generalizing seen with
  | nil => simp [idle, scannedIds, idsOf]
  | cons page pages ih =>
      have hRest := ih (seen ∪ page.ids.toFinset)
      rw [List.length_cons, idle, scannedIds_cons, ← Finset.union_assoc]
      by_cases hIdle : page.ids.toFinset ⊆ seen
      · rw [if_pos hIdle]
        rw [Finset.union_eq_left.2 hIdle] at hRest ⊢
        omega
      · have hMore : seen.card < (seen ∪ page.ids.toFinset).card := by
          refine Finset.card_lt_card (Finset.ssubset_iff_subset_ne.2
            ⟨Finset.subset_union_left, fun hSame => hIdle ?_⟩)
          rw [hSame]
          exact Finset.subset_union_right
        rw [if_neg hIdle]
        omega

/-- More pages have as many idle ones, or more. -/
theorem idle_mono (seen : Finset String) {pages all : List IdPage}
    (h : pages <+: all) : idle seen pages ≤ idle seen all := by
  induction pages generalizing seen all with
  | nil => exact Nat.zero_le _
  | cons page pages ih =>
      obtain ⟨rest, rfl⟩ := h
      rw [List.cons_append, idle, idle]
      exact Nat.add_le_add_left (ih _ (List.prefix_append pages rest)) _

/-! ## Following pages -/

/-- Pages that come one after the other from a token on, each with the token of another
one after it; and the last of these tokens. -/
inductive Follows (p : Provider σ) (size : Nat) :
    Option String → σ → List IdPage → Option String → σ → Prop
  | nil {token r} : Follows p size token r [] token r
  | cons {token r page next r₁ pages token' r'}
      (list : p.list token size r = (.ok page, r₁)) (more : page.nextToken = some next)
      (rest : Follows p size (some next) r₁ pages token' r') :
      Follows p size token r (page :: pages) token' r'

/-- Pages that are followed are the front of a chain. -/
theorem Follows.prefix_of_chain {p : Provider σ} {size : Nat} {token token' : Option String}
    {r r' : σ} {pages all : List IdPage} (h : Follows p size token r pages token' r')
    (hChain : Chain p size token r all) : pages <+: all := by
  induction h generalizing all with
  | nil => exact List.nil_prefix
  | cons list more rest ih =>
      cases hChain with
      | last list' more' =>
          rw [list] at list'
          cases list'
          rw [more] at more'
          cases more'
      | next list' more' rest' =>
          rw [list] at list'
          cases list'
          rw [more] at more'
          cases more'
          exact List.cons_prefix_cons.2 ⟨rfl, ih rest'⟩

/-- A scan either goes on with the next page, or this page decides it, whatever the
bound. -/
theorem scanFrom_cases (p : Provider σ) (size limit : Nat) (token : Option String)
    (seen : List String) (w : World (Traced σ)) :
    (∃ page next r, p.list token size w.remote.state = (.ok page, r) ∧
        page.nextToken = some next ∧
        ¬(limit ≠ 0 ∧ limit ≤ (collect seen page.ids).length) ∧
        ∀ f, scanFrom p.traced size limit (f + 1) token seen w =
          scanFrom p.traced size limit f (some next) (collect seen page.ids)
            (listed w r token size)) ∨
      ∃ out : Except Stop Scan × World (Traced σ),
        (∀ f, scanFrom p.traced size limit (f + 1) token seen w = out) ∧
        out.2.remote.calls = .list token size :: w.remote.calls := by
  cases hCall : p.list token size w.remote.state with
  | mk result r =>
      have hList := remote_list hCall
      cases result with
      | error stop =>
          refine .inr ⟨(.error stop, listed w r token size), fun f => ?_, rfl⟩
          rw [scanFrom, Call.bind_of_error hList]
      | ok page =>
          cases hNext : page.nextToken with
          | none =>
              refine .inr ⟨(.ok ⟨collect seen page.ids, false⟩, listed w r token size),
                fun f => ?_, rfl⟩
              rw [scanFrom, Call.bind_of_ok hList]
              simp only [hNext]
              rfl
          | some next =>
              by_cases hLimit : limit ≠ 0 ∧ limit ≤ (collect seen page.ids).length
              · refine .inr ⟨scanFrom p.traced size limit 1 token seen w,
                  fun f => ?_, ?_⟩
                · rw [scanFrom, scanFrom, Call.bind_of_ok hList, Call.bind_of_ok hList]
                  simp only [hNext, if_pos hLimit]
                · rw [scanFrom, Call.bind_of_ok hList]
                  simp only [hNext, if_pos hLimit]
                  rfl
              · exact .inl ⟨page, next, r, rfl, hNext, hLimit,
                  fun f => scanFrom_next hCall hNext hLimit⟩

/-- **A scan follows pages below the limit.** Then it has come to its bound, or it asks
for one page more, which decides it whatever is added to the bound. -/
theorem scanFrom_follows (p : Provider σ) (size limit fuel : Nat)
    (token : Option String) (seen : List String) (w : World (Traced σ)) :
    ∃ pages token' r', Follows p size token w.remote.state pages token' r' ∧
      (pages ≠ [] → limit ≠ 0 → (collect seen (idsOf pages)).length < limit) ∧
      ((pages.length = fuel ∧
          (scanFrom p.traced size limit fuel token seen w).2.remote.calls =
            (listRequests size token pages).reverse ++ w.remote.calls) ∨
        ((scanFrom p.traced size limit fuel token seen w).2.remote.calls =
            .list token' size ::
              ((listRequests size token pages).reverse ++ w.remote.calls) ∧
          ∀ more, scanFrom p.traced size limit (fuel + more) token seen w =
            scanFrom p.traced size limit fuel token seen w)) := by
  induction fuel generalizing token seen w with
  | zero =>
      exact ⟨[], token, w.remote.state, .nil, fun h => absurd rfl h, .inl ⟨rfl, rfl⟩⟩
  | succ fuel ih =>
      rcases scanFrom_cases p size limit token seen w with
        ⟨page, next, r, hList, hNext, hBelow, hSame⟩ | ⟨out, hSame, hCalls⟩
      · obtain ⟨pages, token', r', hFollows, hRest, hOut⟩ :=
          ih (some next) (collect seen page.ids) (listed w r token size)
        refine ⟨page :: pages, token', r', .cons hList hNext hFollows, ?_, ?_⟩
        · intro _ hLimit
          rw [idsOf, List.flatMap_cons, ← collect_append]
          by_cases hNone : pages = []
          · subst hNone
            exact Nat.lt_of_not_le fun hReached => hBelow ⟨hLimit, hReached⟩
          · exact hRest hNone hLimit
        · have hCalls : (listRequests size token (page :: pages)).reverse ++
              w.remote.calls = (listRequests size (some next) pages).reverse ++
                (listed w r token size).remote.calls := by
            simp [listRequests, hNext, listed]
          rw [hSame, hCalls]
          rcases hOut with ⟨hLength, hCalls⟩ | ⟨hCalls, hMore⟩
          · exact .inl ⟨by rw [List.length_cons, hLength], hCalls⟩
          · refine .inr ⟨hCalls, fun more => ?_⟩
            rw [Nat.add_right_comm, hSame, hMore]
      · refine ⟨[], token, w.remote.state, .nil, fun h => absurd rfl h, .inr ⟨?_, ?_⟩⟩
        · rw [hSame, hCalls]
          rfl
        · intro more
          rw [Nat.add_right_comm, hSame, hSame]

/-- Below the limit there are fewer pages than the limit and the idle ones. -/
theorem length_lt_of_below {limit : Nat} (hLimit : limit ≠ 0) {pages : List IdPage}
    (hBelow : pages ≠ [] → limit ≠ 0 → (collect [] (idsOf pages)).length < limit) :
    pages.length < limit + idle ∅ pages := by
  by_cases hNone : pages = []
  · subst hNone
    exact Nat.lt_add_right _ (Nat.pos_of_ne_zero hLimit)
  · have hFew := hBelow hNone hLimit
    have hLength := length_le_idle ∅ pages
    rw [length_collect] at hFew
    rw [Finset.card_empty, Finset.empty_union, scannedIds] at hLength
    omega

/-! ## The bound -/

/-- How far a scan gets with a limit: it follows pages and asks for at most one more,
and these are no more requests than the limit says and pages brought nothing. -/
structure WithinLimit (p : Provider σ) (o : Options) (w w' : World (Traced σ))
    (pages : List IdPage) (asked : List Request) : Prop where
  follows : ∃ token r, Follows p o.size none w.remote.state pages token r ∧
    (asked = [] ∨ asked = [.list token o.size])
  calls : w'.remote.calls.reverse = w.remote.calls.reverse ++
    (listRequests o.size none pages ++ asked)
  length : (listRequests o.size none pages ++ asked).length ≤ o.scanLimit + idle ∅ pages

private theorem calls_scan (p : Provider σ) (o : Options) (w : World σ) :
    (scan p o w).2.remote =
      (scanFrom p o.size o.scanLimit (p.pagesLeft w.remote) none [] w).2.remote := by
  rw [scan, Call.bind_of_ok (Session.get_apply w), Call.bind_apply]
  cases scanFrom p o.size o.scanLimit (p.pagesLeft w.remote) none [] w with
  | mk result w' =>
      cases result with
      | error stop => rfl
      | ok scanned => rfl

/-- **A scan with a limit asks for at most that many pages, and one more for each page
that brings no new id.** If there are at most `n` such pages, the loop ends: from
`limit + n` on its bound is without effect. -/
theorem scan_bounded (p : Provider σ) (o : Options) (hLimit : o.scanLimit ≠ 0)
    (w : World (Traced σ)) :
    (∃ pages asked, WithinLimit p o w (scan p.traced o w).2 pages asked) ∧
      ∀ n, (∀ pages token r, Follows p o.size none w.remote.state pages token r →
          idle ∅ pages ≤ n) →
        ∀ fuel, o.scanLimit + n ≤ fuel →
          scanFrom p.traced o.size o.scanLimit fuel none [] w =
            scanFrom p.traced o.size o.scanLimit (o.scanLimit + n) none [] w := by
  constructor
  · obtain ⟨pages, token, r, hFollows, hBelow, hOut⟩ :=
      scanFrom_follows p o.size o.scanLimit (p.pagesLeft w.remote.state) none [] w
    have hLength := length_lt_of_below hLimit hBelow
    have hRemote := calls_scan p.traced o w
    rcases hOut with ⟨-, hCalls⟩ | ⟨hCalls, -⟩
    · refine ⟨pages, [], ⟨token, r, hFollows, .inl rfl⟩, ?_, ?_⟩
      · rw [hRemote]
        refine (congrArg List.reverse hCalls).trans ?_
        simp
      · rw [List.append_nil, length_listRequests]
        omega
    · refine ⟨pages, [.list token o.size], ⟨token, r, hFollows, .inr rfl⟩, ?_, ?_⟩
      · rw [hRemote]
        refine (congrArg List.reverse hCalls).trans ?_
        simp
      · rw [List.length_append, length_listRequests, List.length_singleton]
        omega
  · intro n hIdle fuel hFuel
    obtain ⟨pages, token, r, hFollows, hBelow, hOut⟩ :=
      scanFrom_follows p o.size o.scanLimit (o.scanLimit + n) none [] w
    have hLength := length_lt_of_below hLimit hBelow
    have hFew := hIdle pages token r hFollows
    rcases hOut with ⟨hAll, -⟩ | ⟨-, hMore⟩
    · omega
    · rw [← hMore (fuel - (o.scanLimit + n)), Nat.add_sub_cancel' hFuel]

/-- One of three pages repeats an id: with a limit of two, three pages are enough. -/
theorem scan_bounded_idle :
    let mailbox := { Mailbox.empty with pages := some [["a"], ["a"], ["b"]] }
    let o : Options := ⟨500, 2⟩
    let w : World (Traced Mailbox) := ⟨⟨mailbox, []⟩, Store.fresh, 0, []⟩
    o.scanLimit ≠ 0 ∧
      (∃ pages asked, WithinLimit Mailbox.provider o w
        (scan Mailbox.provider.traced o w).2 pages asked) ∧
      ∀ fuel, 3 ≤ fuel →
        scanFrom Mailbox.provider.traced 500 2 fuel none [] w =
          scanFrom Mailbox.provider.traced 500 2 3 none [] w := by
  intro mailbox o w
  have hLimit : o.scanLimit ≠ 0 := by decide
  obtain ⟨hWithin, hEnds⟩ := scan_bounded Mailbox.provider o hLimit w
  refine ⟨hLimit, hWithin, hEnds 1 fun pages token r hFollows => ?_⟩
  have hLists : mailbox.Lists := fun f hf => by cases hf
  have hChain := Mailbox.chain_laidOut hLists rfl o.size
  refine (idle_mono ∅ (hFollows.prefix_of_chain hChain)).trans ?_
  let page (i : Nat) : IdPage := mailbox.page (Mailbox.tokenAt i) o.size
  show idle ∅ [page 0, page 1, page 2] ≤ 1
  have hIds (i : Nat) : (page i).ids = [["a"], ["a"], ["b"]][i]?.getD [] :=
    Mailbox.ids_laidOut rfl i o.size
  simp only [idle, hIds]
  decide

/-- A listing that names one and the same page for ever. -/
def endless : Provider Unit where
  list _ _ := pure ⟨["a"], some "again"⟩
  get _ := Call.fail (.refused 404 "")
  profile := Call.fail (.refused 404 "")
  resolve _ := pure none
  modify _ _ := pure ()
  pagesLeft _ := 0

/-- Reading such a listing takes up any bound. -/
theorem scanFrom_endless {size limit : Nat} (hLimit : 1 < limit) (fuel : Nat)
    (token : Option String) {seen : List String} (hSeen : seen = [] ∨ seen = ["a"])
    (w : World (Traced Unit)) :
    (scanFrom endless.traced size limit fuel token seen w).1 = .error .unending := by
  induction fuel generalizing token seen w with
  | zero => rfl
  | succ fuel ih =>
      have hCollect : collect seen ["a"] = ["a"] := by
        rcases hSeen with rfl | rfl
        · rfl
        · rfl
      have hBelow : ¬(limit ≠ 0 ∧ limit ≤ (collect seen ["a"]).length) := by
        rw [hCollect, List.length_singleton]
        omega
      have hList : endless.list token size w.remote.state =
          (.ok ⟨["a"], some "again"⟩, ()) := rfl
      rw [scanFrom_next hList rfl hBelow]
      exact ih _ (.inr hCollect) _

/-- Three pages with one id are all read, though the limit is two; and a listing that
goes on like this is read without an end. -/
theorem repeats_pass_limit :
    let mailbox := { Mailbox.empty with pages := some [["a"], ["a"], ["a"]] }
    let o : Options := ⟨500, 2⟩
    let w : World (Traced Mailbox) := ⟨⟨mailbox, []⟩, Store.fresh, 0, []⟩
    let pages := (List.range 3).map fun i => mailbox.page (Mailbox.tokenAt i) o.size
    (Chain Mailbox.provider o.size none mailbox pages ∧
        (∀ page ∈ pages, page.ids ≠ []) ∧
        ∃ scanned w', scan Mailbox.provider.traced o w = (.ok scanned, w') ∧
          o.scanLimit < w'.remote.calls.length) ∧
      ∀ fuel, (scanFrom endless.traced o.size o.scanLimit fuel none []
        ⟨⟨(), []⟩, Store.fresh, 0, []⟩).1 = .error .unending := by
  intro mailbox o w pages
  have hLists : mailbox.Lists := fun f hf => by cases hf
  have hIds (i : Nat) : (mailbox.page (Mailbox.tokenAt i) o.size).ids =
      [["a"], ["a"], ["a"]][i]?.getD [] := Mailbox.ids_laidOut rfl i o.size
  have hChain : Chain Mailbox.provider o.size none mailbox pages :=
    Mailbox.chain_laidOut hLists rfl o.size
  have hOne (page : IdPage) (hPage : page ∈ pages) : page.ids = ["a"] := by
    obtain ⟨i, hi, rfl⟩ := List.mem_map.1 hPage
    rw [hIds]
    rw [List.mem_range] at hi
    interval_cases i <;> rfl
  refine ⟨⟨hChain, fun page hPage => by simp [hOne page hPage], ?_⟩, ?_⟩
  · obtain ⟨k, r, ⟨hEnough, -⟩, hWalk⟩ := hChain.exists_walk o.scanLimit []
    have hLast : k + 1 = pages.length := by
      refine (enough_iff.1 hEnough).resolve_right fun hReached => ?_
      have hFew : scannedIds (pages.take (k + 1)) ⊆ {"a"} := by
        intro id hid
        obtain ⟨page, hPage, hMem⟩ := List.mem_flatMap.1 (List.mem_toFinset.1 hid)
        rw [hOne page (List.mem_of_mem_take hPage)] at hMem
        simpa using hMem
      have hCard := hReached.2.trans (Finset.card_le_card hFew)
      exact absurd hCard (by decide)
    rw [hLast, List.take_length] at hWalk
    obtain ⟨log, hScan⟩ := scan_of_walk (w := w) hWalk (by decide)
    refine ⟨_, _, hScan, ?_⟩
    show 2 < ((listRequests o.size none pages).reverse ++ []).length
    rw [List.append_nil, List.length_reverse, length_listRequests]
    decide
  · exact fun fuel => scanFrom_endless (by decide) fuel none (.inl rfl) _

end Mailroom.Sync
