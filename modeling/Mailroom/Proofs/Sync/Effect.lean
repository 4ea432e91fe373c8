import Mailroom.Proofs.Sync.Listing
import Mailroom.Proofs.Sync.Order

/-!
# What a sync does

A sync that ends well has walked through the listing, fetched what is listed
and not stored, in the order of bytes, and deleted what is stored and not
listed, unless the walk was cut off. Its calls are those of the walk and of
the fetching, and there are no others; its report counts the differences of the
two sets of ids.

## Main results

* `run_of_walk`: a walk and fetched messages make a sync.
* `run_of_stop`: a call that stops ends a sync with the messages before it.
* `run_course`: there is no other way for a sync to go.
* `sync_effect`: what a sync that ended well did.
-/

namespace Mailroom.Sync

open Mailroom.Session (Ends)
open Mailroom.Store (Row Tables headerRows)
open Mailroom.Text.Utf8 (Before)

variable {σ : Type}

/-- What is to be deleted: nothing if the scan was cut off. -/
def deletions (scanned : Scan) (stored : List String) : List String :=
  if scanned.truncated then []
  else (Plan.between scanned.ids stored).toDelete

/-- The messages that are left: those stored before, of them only the scanned
ones unless the scan was cut off, and then those fetched. -/
def left (scanned : Scan) (ms fetched : List Message) : List Message :=
  (if scanned.truncated then ms else ms.filter (·.id ∈ scanned.ids)) ++ fetched

/-! ## The parts of a sync -/

theorem scan_of_walk {p : Provider σ} {o : Options} {w : World (Traced σ)}
    {pages : List IdPage} {truncated : Bool} {r : σ}
    (h : Walk p o.size o.scanLimit none [] w.remote.state pages truncated r)
    (hFuel : pages.length ≤ p.pagesLeft w.remote.state) :
    Ends (scan p.traced o) w (.ok ⟨collect [] (idsOf pages), truncated⟩)
      ⟨r, (listRequests o.size none pages).reverse ++ w.remote.calls⟩
      w.store := by
  have hGet : Ends (get : Session (Traced σ) _) w (.ok w) w.remote w.store :=
    ⟨w.log, rfl⟩
  rw [scan]
  refine hGet.bind fun w₁ hr₁ hs₁ hn₁ => ?_
  have hScan := scanFrom_of_walk h hFuel (w := w₁) (by rw [hr₁])
  rw [hr₁, hs₁] at hScan
  refine hScan.bind fun w₂ hr₂ hs₂ hn₂ => ?_
  refine (Ends.log _ _ w₂).bind fun w₃ hr₃ hs₃ hn₃ => ?_
  exact Ends.pure (hr₃.trans hr₂) (hs₃.trans hs₂)

/-- A scan goes through pages, or it stops and has done nothing but ask for
them. -/
theorem scan_or_stops (p : Provider σ) (o : Options) (w : World (Traced σ)) :
    (∃ pages truncated r, pages.length ≤ p.pagesLeft w.remote.state ∧
      Walk p o.size o.scanLimit none [] w.remote.state pages truncated r) ∨
    ∃ stop r asked, (∀ q ∈ asked, q.isList) ∧ r.calls = asked ++ w.remote.calls ∧
      Ends (scan p.traced o) w (.error stop) r w.store := by
  rcases walk_or_stops p o.size o.scanLimit (p.pagesLeft w.remote.state) none []
      w with hWalk | ⟨stop, r, asked, hLists, hCalls, hStop⟩
  · exact .inl hWalk
  · refine .inr ⟨stop, r, asked, hLists, hCalls, ?_⟩
    obtain ⟨log, hStop⟩ := hStop
    refine ⟨log, ?_⟩
    rw [scan, Call.bind_of_ok (Session.get_apply w)]
    exact Call.bind_of_error hStop

/-- A scan that ends well is a walk, and has found what is on its pages. -/
theorem walk_of_scan {p : Provider σ} {o : Options} {w w' : World (Traced σ)}
    {scanned : Scan} (h : scan p.traced o w = (.ok scanned, w')) :
    ∃ pages r, pages.length ≤ p.pagesLeft w.remote.state ∧
      Walk p o.size o.scanLimit none [] w.remote.state pages scanned.truncated r ∧
      scanned.ids = collect [] (idsOf pages) ∧
      w'.remote = ⟨r, (listRequests o.size none pages).reverse ++ w.remote.calls⟩ ∧
      w'.store = w.store := by
  rcases scan_or_stops p o w with ⟨pages, truncated, r, hFuel, hWalk⟩ |
    ⟨stop, r, asked, -, -, hStop⟩
  · obtain ⟨hResult, hRemote, hStore⟩ := (scan_of_walk hWalk hFuel).eq_of_apply h
    cases hResult
    exact ⟨pages, r, hFuel, hWalk, rfl, hRemote, hStore⟩
  · cases (hStop.eq_of_apply h).1

/-- After the scan come the fetching, the deleting and the report; the lines of
the log between them change nothing. -/
theorem run_of_scan {p : Provider σ} {o : Options} {w : World σ} {scanned : Scan}
    {r : σ} {stored : List String} {result : Except Stop Report} {r' : σ}
    {s : Store} (hScan : Ends (scan p o) w (.ok scanned) r w.store)
    (hStored : w.store.ids = .ok stored)
    (hRest : ∀ (line : Nat → Nat → String) (w' : World σ), w'.remote = r →
      w'.store = w.store →
        Ends (fetch p (Plan.between scanned.ids stored).toFetch >>= fun fetched =>
          delete (deletions scanned stored) >>= fun deleted =>
            Session.info (line fetched deleted) >>= fun _ =>
              pure (⟨scanned.ids.length, fetched, deleted⟩ : Report))
          w' result r' s) :
    Ends (run p o) w result r' s := by
  rw [run]
  refine hScan.bind fun w₁ hr₁ hs₁ hn₁ => ?_
  have hRead : w₁.store.ids = .ok stored := by rw [hs₁, hStored]
  refine (Ends.read hRead).bind fun w₂ hr₂ hs₂ hn₂ => ?_
  simp only
  split
  · refine (Ends.log _ _ w₂).bind fun w₃ hr₃ hs₃ hn₃ => ?_
    refine (Ends.log _ _ w₃).bind fun w₄ hr₄ hs₄ hn₄ => ?_
    exact hRest _ w₄ (hr₄.trans (hr₃.trans (hr₂.trans hr₁)))
      (hs₄.trans (hs₃.trans (hs₂.trans hs₁)))
  · refine (Ends.log _ _ w₂).bind fun w₃ hr₃ hs₃ hn₃ => ?_
    exact hRest _ w₃ (hr₃.trans (hr₂.trans hr₁)) (hs₃.trans (hs₂.trans hs₁))

/-- Deleting what is to be deleted leaves what is left: nothing fetched is
deleted, since it has been scanned. -/
theorem filter_deletions {scanned : Scan} {ms fetched : List Message}
    (hFetched : ∀ m ∈ fetched, m.id ∈ scanned.ids) :
    (ms ++ fetched).filter (·.id ∉ deletions scanned (ms.map (·.id))) =
      left scanned ms fetched := by
  unfold deletions left
  cases scanned.truncated with
  | true => simp
  | false =>
      have hNew : fetched.filter (fun m => decide
          (m.id ∉ (Plan.between scanned.ids (ms.map (·.id))).toDelete)) = fetched := by
        rw [List.filter_eq_self]
        intro m hm
        rw [decide_eq_true_eq, Plan.mem_toDelete]
        exact fun h => h.2 (hFetched m hm)
      have hOld : ms.filter (fun m => decide
          (m.id ∉ (Plan.between scanned.ids (ms.map (·.id))).toDelete)) =
            ms.filter (·.id ∈ scanned.ids) := by
        refine List.filter_congr fun m hm => ?_
        rw [decide_eq_decide, Plan.mem_toDelete]
        have hStored : m.id ∈ ms.map (·.id) := List.mem_map_of_mem hm
        simp [hStored]
      simp only [Bool.false_eq_true, if_false, List.filter_append]
      rw [hNew, hOld]

/-! ## The course of a sync -/

/-- The requests for the messages fetched. -/
def getRequests (fetched : List Message) : List Request :=
  fetched.map fun m => .get m.id

/-- How a sync goes that starts with a provider like this and with these
messages stored: how it ends, how it leaves the provider, and which messages
are stored then. -/
inductive Course (p : Provider σ) (o : Options) (t : Traced σ)
    (ms : List Message) : Except Stop Report → Traced σ → List Message → Prop
  | unlisted {stop r asked} (onlyLists : ∀ q ∈ asked, q.isList) :
      Course p o t ms (.error stop) ⟨r, asked ++ t.calls⟩ ms
  | unfetched {pages truncated r₁ fetched id later r₂ stop r₃}
      (walk : Walk p o.size o.scanLimit none [] t.state pages truncated r₁)
      (plan : (Plan.between (idsOf pages) (ms.map (·.id))).toFetch =
        fetched.map (·.id) ++ id :: later)
      (fetches : Fetches p (fetched.map (·.id)) r₁ fetched r₂)
      (get : p.get id r₂ = (.error stop, r₃)) :
      Course p o t ms (.error stop)
        ⟨r₃, .get id :: (getRequests fetched).reverse ++
          ((listRequests o.size none pages).reverse ++ t.calls)⟩ (ms ++ fetched)
  | done {pages truncated r₁ fetched r₂}
      (fuel : pages.length ≤ p.pagesLeft t.state)
      (walk : Walk p o.size o.scanLimit none [] t.state pages truncated r₁)
      (plan : (Plan.between (idsOf pages) (ms.map (·.id))).toFetch =
        fetched.map (·.id))
      (fetches : Fetches p (fetched.map (·.id)) r₁ fetched r₂) :
      Course p o t ms
        (.ok ⟨(collect [] (idsOf pages)).length, fetched.length,
          (deletions ⟨collect [] (idsOf pages), truncated⟩
            (ms.map (·.id))).length⟩)
        ⟨r₂, (getRequests fetched).reverse ++
          ((listRequests o.size none pages).reverse ++ t.calls)⟩
        (left ⟨collect [] (idsOf pages), truncated⟩ ms fetched)

/-- What is fetched is new to the store. -/
theorem nodup_append_fetched {ms fetched : List Message} {ids : List String}
    (hNodup : (ms.map (·.id)).Nodup)
    (hPlan : (fetched.map (·.id)).Sublist
      (Plan.between ids (ms.map (·.id))).toFetch) :
    ((ms ++ fetched).map (·.id)).Nodup := by
  have hFetched : (fetched.map (·.id)).Nodup := (nodup_ordered _).sublist hPlan
  rw [List.map_append, List.nodup_append]
  refine ⟨hNodup, hFetched, ?_⟩
  intro a ha b hb hab
  have hNew := Plan.mem_toFetch.1 (hPlan.mem hb)
  rw [hab] at ha
  exact hNew.2 ha

/-- **A walk and the messages fetched after it make a sync.** -/
theorem run_of_walk {p : Provider σ} {o : Options} {w : World (Traced σ)}
    {pages : List IdPage} {truncated : Bool} {r₁ r₂ : σ}
    {ms fetched : List Message}
    (hWalk : Walk p o.size o.scanLimit none [] w.remote.state pages truncated r₁)
    (hFuel : pages.length ≤ p.pagesLeft w.remote.state)
    (hHolds : w.store.Holds ms)
    (hPlan : (Plan.between (idsOf pages) (ms.map (·.id))).toFetch =
      fetched.map (·.id))
    (hFetches : Fetches p (fetched.map (·.id)) r₁ fetched r₂) :
    Ends (run p.traced o) w
      (.ok ⟨(collect [] (idsOf pages)).length, fetched.length,
        (deletions ⟨collect [] (idsOf pages), truncated⟩
          (ms.map (·.id))).length⟩)
      ⟨r₂, (getRequests fetched).reverse ++
        ((listRequests o.size none pages).reverse ++ w.remote.calls)⟩
      (Store.ofMessages (left ⟨collect [] (idsOf pages), truncated⟩ ms
        fetched)) := by
  have hNodup : ((ms ++ fetched).map (·.id)).Nodup :=
    nodup_append_fetched hHolds.nodup (by rw [hPlan])
  have hScanned : ∀ m ∈ fetched, m.id ∈ collect [] (idsOf pages) := by
    intro m hm
    have hFetch : m.id ∈ fetched.map (·.id) := List.mem_map_of_mem hm
    rw [← hPlan, Plan.mem_toFetch] at hFetch
    exact mem_collected.2 hFetch.1
  refine run_of_scan (scan_of_walk hWalk hFuel) hHolds.ids
    fun line w₁ hr₁ hs₁ => ?_
  have hHolds₁ : w₁.store.Holds ms := by rwa [hs₁]
  have hFetch : Ends (fetch p.traced (fetched.map (·.id))) w₁
      (.ok (0 + (fetched.map (·.id)).length)) _ _ :=
    fetchFrom_of_fetches (by rwa [hr₁]) hHolds₁ hNodup
  rw [Nat.zero_add, List.length_map, hr₁] at hFetch
  rw [between_collect, hPlan]
  refine hFetch.bind fun w₂ hr₂ hs₂ hn₂ => ?_
  have hHolds₂ : w₂.store.Holds (ms ++ fetched) := by
    rw [hs₂]
    exact ⟨rfl, hNodup⟩
  have hDelete := delete_of_holds
    (deletions ⟨collect [] (idsOf pages), truncated⟩ (ms.map (·.id))) hHolds₂
  rw [filter_deletions hScanned] at hDelete
  refine hDelete.bind fun w₃ hr₃ hs₃ hn₃ => ?_
  refine (Ends.log _ _ w₃).bind fun w₄ hr₄ hs₄ hn₄ => ?_
  refine Ends.pure ?_ (hs₄.trans hs₃)
  rw [hr₄, hr₃, hr₂, List.map_map]
  rfl

/-- A call that stops ends a sync; what was fetched before is stored. -/
theorem run_of_stop {p : Provider σ} {o : Options} {w : World (Traced σ)}
    {pages : List IdPage} {truncated : Bool} {r₁ r₂ r₃ : σ}
    {ms fetched : List Message} {id : String} {later : List String} {stop : Stop}
    (hWalk : Walk p o.size o.scanLimit none [] w.remote.state pages truncated r₁)
    (hFuel : pages.length ≤ p.pagesLeft w.remote.state)
    (hHolds : w.store.Holds ms)
    (hPlan : (Plan.between (idsOf pages) (ms.map (·.id))).toFetch =
      fetched.map (·.id) ++ id :: later)
    (hFetches : Fetches p (fetched.map (·.id)) r₁ fetched r₂)
    (hStop : p.get id r₂ = (.error stop, r₃)) :
    Ends (run p.traced o) w (.error stop)
      ⟨r₃, .get id :: (getRequests fetched).reverse ++
        ((listRequests o.size none pages).reverse ++ w.remote.calls)⟩
      (Store.ofMessages (ms ++ fetched)) := by
  have hFirst : (fetched.map (·.id)).Sublist
      (Plan.between (idsOf pages) (ms.map (·.id))).toFetch := by
    rw [hPlan]
    exact List.sublist_append_left _ _
  have hNodup := nodup_append_fetched hHolds.nodup hFirst
  refine run_of_scan (scan_of_walk hWalk hFuel) hHolds.ids
    fun line w₁ hr₁ hs₁ => ?_
  have hHolds₁ : w₁.store.Holds ms := by rwa [hs₁]
  have hFetch : Ends (fetch p.traced (fetched.map (·.id) ++ id :: later)) w₁
      (.error stop) _ _ :=
    fetchFrom_of_stop (by rwa [hr₁]) hStop hHolds₁ hNodup
  rw [between_collect, hPlan]
  rw [hr₁, List.map_map] at hFetch
  exact hFetch.stop

/-- Messages fetched for a plan carry the ids of the plan. -/
theorem map_id_of_plan {p : Provider σ} {o : Options} {r r₁ r₂ : σ}
    {pages : List IdPage} {truncated : Bool} {stored ids : List String}
    {fetched : List Message} (hCarries : Carries p o r)
    (hWalk : Walk p o.size o.scanLimit none [] r pages truncated r₁)
    (hFetches : Fetches p ids r₁ fetched r₂)
    (hPlan : ids.Sublist (Plan.between (idsOf pages) stored).toFetch) :
    fetched.map (·.id) = ids :=
  hFetches.map_id hCarries hWalk fun _ hid =>
    (Plan.mem_toFetch.1 (hPlan.mem hid)).1

/-- **Every sync has a course**: it stops at a listing, or it stops at a
message, or it ends well. -/
theorem run_course {p : Provider σ} (o : Options) {w : World (Traced σ)}
    {ms : List Message} (hHolds : w.store.Holds ms)
    (hCarries : Carries p o w.remote.state) :
    ∃ result r held, Course p o w.remote ms result r held ∧
      Ends (run p.traced o) w result r (Store.ofMessages held) := by
  rcases scan_or_stops p o w with ⟨pages, truncated, r₁, hFuel, hWalk⟩ |
    ⟨stop, r, asked, hLists, hCalls, hScan⟩
  · rcases fetches_or_stops p
        (Plan.between (idsOf pages) (ms.map (·.id))).toFetch r₁ with
      ⟨fetched, r₂, hFetches⟩ |
      ⟨before, id, later, fetched, r₂, stop, r₃, hPlan, hFetches, hGet⟩
    · have hIds := map_id_of_plan hCarries hWalk hFetches (List.Sublist.refl _)
      rw [← hIds] at hFetches
      exact ⟨_, _, _, .done hFuel hWalk hIds.symm hFetches,
        run_of_walk hWalk hFuel hHolds hIds.symm hFetches⟩
    · have hIds := map_id_of_plan hCarries hWalk hFetches
        (by rw [hPlan]; exact List.sublist_append_left _ _)
      subst hIds
      exact ⟨_, _, _, .unfetched hWalk hPlan hFetches hGet,
        run_of_stop hWalk hFuel hHolds hPlan hFetches hGet⟩
  · refine ⟨.error stop, r, ms, ?_, ?_⟩
    · obtain ⟨state, calls⟩ := r
      subst hCalls
      exact .unlisted hLists
    · rw [← hHolds.eq_ofMessages, run]
      exact hScan.stop

/-- A store without tables stops a sync after the scan at the latest. -/
theorem run_without_tables (p : Provider σ) (o : Options) {w : World (Traced σ)}
    (hNone : w.store.tables = none) :
    ∃ stop r asked, (∀ q ∈ asked, q.isList) ∧ r.calls = asked ++ w.remote.calls ∧
      Ends (run p.traced o) w (.error stop) r w.store := by
  rcases scan_or_stops p o w with ⟨pages, truncated, r, hFuel, hWalk⟩ |
    ⟨stop, r, asked, hLists, hCalls, hScan⟩
  · have hIds : w.store.ids = .error (.store (.noTable "messages")) := by
      simp [Store.ids, Store.getTables, hNone, bind, Except.bind]
    refine ⟨.failed (.store (.noTable "messages")),
      ⟨r, (listRequests o.size none pages).reverse ++ w.remote.calls⟩,
      (listRequests o.size none pages).reverse, ?_, rfl, ?_⟩
    · intro q hq
      exact isList_of_mem_listRequests (List.mem_reverse.1 hq)
    · rw [run]
      refine (scan_of_walk hWalk hFuel).bind fun w₁ hr₁ hs₁ hn₁ => ?_
      rw [← hs₁] at hIds
      have hRead := Ends.read_stop (f := fun s _ => s.ids) hIds
      rw [hr₁, hs₁] at hRead
      exact hRead.stop
  · refine ⟨stop, r, asked, hLists, hCalls, ?_⟩
    rw [run]
    exact hScan.stop

/-! ## The effect -/

/-- The ids in a store. -/
def storedIds (s : Store) : Finset String := (s.ids.toOption.getD []).toFinset

theorem storedIds_of_holds {s : Store} {ms : List Message} (h : s.Holds ms) :
    storedIds s = (ms.map (·.id)).toFinset := by
  rw [storedIds, h.ids]
  rfl

/-- The ids on pages, as a set. -/
def scannedIds (pages : List IdPage) : Finset String := (idsOf pages).toFinset

/-- What a sync did between two worlds: it listed these pages, up to the end or
up to the limit, fetched these messages, and reported this. -/
structure Effect (p : Provider σ) (o : Options) (w w' : World (Traced σ))
    (report : Report) (t : Tables) (pages : List IdPage) (truncated : Bool)
    (fetched : List Message) : Prop where
  before : w.store.tables = some t
  listed : ∃ r, Walk p o.size o.scanLimit none [] w.remote.state pages truncated r ∧
    Fetches p (fetched.map (·.id)) r fetched w'.remote.state
  calls : w'.remote.calls.reverse = w.remote.calls.reverse ++
    (listRequests o.size none pages ++ getRequests fetched)
  order : (fetched.map (·.id)).Pairwise Before
  missing : (fetched.map (·.id)).toFinset = scannedIds pages \ storedIds w.store
  after : w'.store.tables =
    some ((if truncated then t else t.restrict (idsOf pages)).append fetched)
  stored : storedIds w'.store =
    if truncated then storedIds w.store ∪ scannedIds pages else scannedIds pages
  report : report =
    ⟨(scannedIds pages).card, (scannedIds pages \ storedIds w.store).card,
      if truncated then 0 else (storedIds w.store \ scannedIds pages).card⟩

/-- The ids that are left. -/
theorem mem_left {ids : List String} {truncated : Bool} {ms fetched : List Message}
    {x : String} (hPlan : (Plan.between ids (ms.map (·.id))).toFetch =
      fetched.map (·.id)) :
    x ∈ (left ⟨collect [] ids, truncated⟩ ms fetched).map (·.id) ↔
      (truncated = true ∧ x ∈ ms.map (·.id)) ∨ x ∈ ids := by
  have hFetched : x ∈ fetched.map (·.id) ↔ x ∈ ids ∧ x ∉ ms.map (·.id) := by
    rw [← hPlan, Plan.mem_toFetch]
  rw [left, List.map_append, List.mem_append, hFetched]
  cases truncated with
  | true =>
      simp only [if_true, true_and]
      tauto
  | false =>
      have hKept : x ∈ (ms.filter (·.id ∈ collect [] ids)).map (·.id) ↔
          x ∈ ms.map (·.id) ∧ x ∈ ids := by
        simp only [List.mem_map, List.mem_filter, decide_eq_true_eq,
          mem_collected]
        constructor
        · rintro ⟨m, ⟨hm, hId⟩, rfl⟩
          exact ⟨⟨m, hm, rfl⟩, hId⟩
        · rintro ⟨⟨m, hm, rfl⟩, hId⟩
          exact ⟨m, ⟨hm, hId⟩, rfl⟩
      simp only [Bool.false_eq_true, if_false, false_and, false_or]
      rw [hKept]
      tauto

/-- Messages that are left, as tables. -/
theorem ofMessages_left (ids : List String) (truncated : Bool)
    (ms fetched : List Message) :
    Tables.ofMessages (left ⟨collect [] ids, truncated⟩ ms fetched) =
      (if truncated then Tables.ofMessages ms
        else (Tables.ofMessages ms).restrict ids).append fetched := by
  rw [left, ← Tables.append_ofMessages]
  cases truncated with
  | true => rfl
  | false =>
      have hSame : ms.filter (·.id ∈ collect [] ids) = ms.filter (·.id ∈ ids) := by
        refine List.filter_congr fun m _ => ?_
        rw [decide_eq_decide, mem_collected]
      simp only [Bool.false_eq_true, if_false]
      rw [hSame, Tables.restrict_ofMessages]

private theorem length_deletions (ids stored : List String) (truncated : Bool) :
    (deletions ⟨collect [] ids, truncated⟩ stored).length =
      if truncated then 0 else (stored.toFinset \ ids.toFinset).card := by
  cases truncated with
  | true => rfl
  | false =>
      have hSame : (collect [] ids).toFinset = ids.toFinset := by
        ext x
        rw [List.mem_toFinset, List.mem_toFinset, mem_collected]
      simp only [deletions, Bool.false_eq_true, if_false]
      rw [length_toDelete, hSame]

private theorem nodup_left {ids : List String} {truncated : Bool}
    {ms fetched : List Message} (hNodup : ((ms ++ fetched).map (·.id)).Nodup) :
    ((left ⟨collect [] ids, truncated⟩ ms fetched).map (·.id)).Nodup := by
  refine hNodup.sublist (List.Sublist.map _ ?_)
  rw [left]
  split
  · exact List.Sublist.refl _
  · exact List.filter_sublist.append (List.Sublist.refl _)

/-- **A sync that ends well** has asked for the pages of a listing and then for
the missing messages, in the order of the bytes of their ids, and for nothing
else. It has put them behind what was there and removed what was not listed,
unless the listing was cut off. -/
theorem sync_effect (p : Provider σ) (o : Options) (ops : List Store.Operation)
    {w w' : World (Traced σ)} {report : Report}
    (hStore : w.store = Store.fresh.after ops)
    (hCarries : Carries p o w.remote.state)
    (hRun : run p.traced o w = (.ok report, w')) :
    ∃ t pages truncated fetched,
      Effect p o w w' report t pages truncated fetched := by
  rcases Store.after_holds ops with hNone | ⟨ms, hHolds⟩
  · rw [← hStore] at hNone
    obtain ⟨stop, r, asked, -, -, hStop⟩ := run_without_tables p o hNone
    cases (hStop.eq_of_apply hRun).1
  rw [← hStore] at hHolds
  obtain ⟨result, r, held, hCourse, hEnds⟩ := run_course o hHolds hCarries
  obtain ⟨hReport, hRemote, hAfter⟩ := hEnds.eq_of_apply hRun
  cases hCourse with
  | unlisted => cases hReport
  | unfetched => cases hReport
  | done fuel walk plan fetches =>
      rename_i pages truncated r₁ fetched r₂
      cases hReport
      have hNodup : ((ms ++ fetched).map (·.id)).Nodup :=
        nodup_append_fetched hHolds.nodup (by rw [plan])
      have hHolds' : w'.store.Holds
          (left ⟨collect [] (idsOf pages), truncated⟩ ms fetched) := by
        rw [hAfter]
        exact ⟨rfl, nodup_left hNodup⟩
      have hMissing : (fetched.map (·.id)).toFinset =
          scannedIds pages \ storedIds w.store := by
        rw [← plan, toFinset_toFetch, storedIds_of_holds hHolds, scannedIds]
      refine ⟨Tables.ofMessages ms, pages, truncated, fetched, ?_⟩
      exact {
        before := hHolds.tables
        listed := ⟨r₁, walk, by rw [hRemote]; exact fetches⟩
        calls := by
          rw [hRemote]
          simp
        order := by
          rw [← plan]
          exact pairwise_ordered _
        missing := hMissing
        after := by rw [hHolds'.tables, ofMessages_left]
        stored := by
          rw [storedIds_of_holds hHolds', storedIds_of_holds hHolds]
          ext x
          rw [List.mem_toFinset, mem_left plan]
          cases truncated with
          | true => simp [scannedIds]
          | false => simp [scannedIds]
        report := by
          have hFetched := congrArg List.length plan
          rw [length_toFetch, List.length_map] at hFetched
          rw [length_collect, length_deletions, storedIds_of_holds hHolds,
            scannedIds, hFetched] }

/-- A page that names one id twice; one message is missing, and one is stored
that is not listed. -/
theorem sync_effect_repeated :
    let a := bareMessage "a" "0" []
    let b := bareMessage "b" "0" []
    let z := bareMessage "z" "0" []
    let ops : List Store.Operation := [.ensureSchema, .insert b, .insert z]
    let mailbox := { (Mailbox.empty.put b.id b).put a.id a with
      pages := some [["b", "a", "b"]] }
    let o : Options := ⟨2, 0⟩
    let w : World (Traced Mailbox) := ⟨⟨mailbox, []⟩, Store.fresh.after ops, 0, []⟩
    Carries Mailbox.provider o mailbox ∧
      ∃ report w', run Mailbox.provider.traced o w = (.ok report, w') ∧
        ∃ t pages truncated fetched,
          Effect Mailbox.provider o w w' report t pages truncated fetched := by
  intro a b z ops mailbox o w
  have hHolds : w.store.Holds [b, z] := Store.holds_of_nodup [b, z] (by decide)
  have hKeyed : mailbox.Keyed := (Mailbox.keyed_empty.put b).put a
  have hCarries : Carries Mailbox.provider o mailbox := carries_of_keyed hKeyed o
  have hWalk : Walk Mailbox.provider o.size o.scanLimit none [] mailbox
      [⟨["b", "a", "b"], none⟩] false mailbox := .last rfl rfl
  have hPlan : (Plan.between (idsOf [⟨["b", "a", "b"], none⟩])
      ([b, z].map (·.id))).toFetch = [a].map (·.id) := by
    have hMissing : ["b", "a", "b"].filter (· ∉ ["b", "z"]) = ["a"] := by decide
    refine (eq_ordered (List.pairwise_singleton _ _) fun x => ?_).symm
    show x ∈ ["a"] ↔ x ∈ ["b", "a", "b"].filter (· ∉ ["b", "z"])
    rw [hMissing]
  have hFind : mailbox.find? "a" = some a := Mailbox.find?_put_self _ _ _
  have hFetches : Fetches Mailbox.provider ["a"] mailbox [a] mailbox :=
    .cons (Mailbox.get_of_find? rfl hFind) .nil
  obtain ⟨log, hRun⟩ := run_of_walk hWalk (by decide) hHolds hPlan hFetches
  exact ⟨hCarries, _, _, hRun, sync_effect Mailbox.provider o ops rfl hCarries hRun⟩

end Mailroom.Sync
