import Mailroom.Proofs.Provider.Interruption
import Mailroom.Proofs.Sync.Effect

/-!
# Stopping a sync and making it again

A sync with a mailbox is stopped at one of its calls, whichever it is. If the
call asks for a page, the store is as it was. If it asks for a message, the
messages before it have been stored and nothing has been deleted. Made again,
the sync asks for the messages that are still missing and leaves the store as
it would be if nothing had been stopped.

The second sync lists the same pages, so what it is missing is what was missing
minus what the first one stored; ids in order are determined by which there
are, so that is the end of the first sync's plan.

## Main results

* `stoppable_run`: a sync can be stopped at any of its calls.
* `between_append`: what is missing once the first messages are stored.
* `run_again`: the second sync.
* `halted_of_stop`: what the first sync has stored.
* `stopped_sync_resumes`: the two syncs together, next to a whole one.
-/

namespace Mailroom.Sync

open Mailroom.Mailbox (provider unreliable behind)
open Mailroom.Session (Ends Stoppable Follows)
open Mailroom.Store (Row Tables)
open Mailroom.Text.Utf8 (Before)

variable {σ : Type}

/-! ## A sync can be stopped -/

section

variable {p : Provider σ} {states : σ → Prop}

private theorem stoppable_scanFrom
    (hList : ∀ token size r, states r → states (p.list token size r).2)
    (size limit fuel : Nat) (token : Option String) (seen : List String) :
    Stoppable states (scanFrom p.scheduled.traced size limit fuel token seen) := by
  induction fuel generalizing token seen with
  | zero => exact .throw .unending
  | succ fuel ih =>
      rw [scanFrom]
      refine (Stoppable.remote (.list token size) (hList token size)).bind
        fun page => ?_
      simp only
      split
      · exact .pure _
      · split
        · exact (Stoppable.log _ _).bind fun _ => .pure _
        · exact ih _ _

private theorem stoppable_fetchFrom
    (hGet : ∀ id r, states r → states (p.get id r).2) (total fetched : Nat)
    (ids : List String) :
    Stoppable states (fetchFrom p.scheduled.traced total fetched ids) := by
  induction ids generalizing fetched with
  | nil => exact .pure _
  | cons id ids ih =>
      rw [fetchFrom]
      refine (Stoppable.remote (.get id) (hGet id)).bind fun m => ?_
      refine (Stoppable.write _).bind fun _ => ?_
      simp only
      split
      · exact (Stoppable.log _ _).bind fun _ => ih _
      · exact ih _

private theorem stoppable_delete (ids : List String) :
    Stoppable states (delete ids : Session (Traced (Scheduled σ)) Nat) := by
  induction ids with
  | nil => exact .pure _
  | cons id ids ih =>
      rw [delete]
      exact (Stoppable.write _).bind fun _ => ih.bind fun _ => .pure _

/-- **A sync can be stopped** at any of its calls, and leaves the provider in a
state that listing and fetching keep to. -/
theorem stoppable_run
    (hList : ∀ token size r, states r → states (p.list token size r).2)
    (hGet : ∀ id r, states r → states (p.get id r).2) (o : Options) :
    Stoppable states (run p.scheduled.traced o) := by
  have hScan : Stoppable states (scan p.scheduled.traced o) := by
    refine Stoppable.inspect (fun w => ?_) fun w schedule => rfl
    exact (stoppable_scanFrom hList _ _ _ _ _).bind fun _ =>
      (Stoppable.log _ _).bind fun _ => .pure _
  have hRest (scanned : Scan) (plan : Plan) (toDelete : List String)
      (line : Nat → Nat → String) : Stoppable states
      (fetch p.scheduled.traced plan.toFetch >>= fun fetched =>
        delete toDelete >>= fun deleted =>
          Session.info (line fetched deleted) >>= fun _ =>
            pure (⟨scanned.ids.length, fetched, deleted⟩ : Report)) :=
    (stoppable_fetchFrom hGet _ _ _).bind fun _ =>
      (stoppable_delete _).bind fun _ => (Stoppable.log _ _).bind fun _ => .pure _
  rw [run]
  refine hScan.bind fun scanned => (Stoppable.read _).bind fun stored => ?_
  simp only
  split
  · exact (Stoppable.log _ _).bind fun _ => (Stoppable.log _ _).bind fun _ =>
      hRest _ _ _ _
  · exact (Stoppable.log _ _).bind fun _ => hRest _ _ _ _

end

/-! ## The second sync -/

/-- What is missing once the first messages are stored is the rest. -/
theorem between_append {ids : List String} {ms stored : List Message}
    {rest : List String} (hPlan : (Plan.between ids (ms.map (·.id))).toFetch =
      stored.map (·.id) ++ rest) :
    (Plan.between ids ((ms ++ stored).map (·.id))).toFetch = rest := by
  have hOrder : (stored.map (·.id) ++ rest).Pairwise Before := by
    rw [← hPlan]
    exact pairwise_ordered _
  have hNodup := nodup_of_before hOrder
  rw [List.nodup_append] at hNodup
  refine (eq_ordered (List.pairwise_append.1 hOrder).2.1 fun x => ?_).symm
  have hMissing : x ∈ stored.map (·.id) ++ rest ↔
      x ∈ ids ∧ x ∉ ms.map (·.id) := by
    rw [← hPlan, Plan.mem_toFetch]
  rw [List.mem_append] at hMissing
  rw [List.mem_filter, decide_eq_true_eq, List.map_append, List.mem_append]
  constructor
  · intro hx
    have hOld := hMissing.1 (.inr hx)
    refine ⟨hOld.1, fun hHeld => ?_⟩
    rcases hHeld with hHeld | hHeld
    · exact hOld.2 hHeld
    · exact hNodup.2.2 x hHeld x hx rfl
  · rintro ⟨hListed, hNew⟩
    rw [not_or] at hNew
    exact (hMissing.2 ⟨hListed, hNew.1⟩).resolve_left hNew.2

/-- Where a message is stored first does not show in the end. -/
theorem left_append {scanned : Scan} {ms stored rest : List Message}
    (hStored : ∀ m ∈ stored, m.id ∈ scanned.ids) :
    left scanned (ms ++ stored) rest = left scanned ms (stored ++ rest) := by
  have hKept : stored.filter (·.id ∈ scanned.ids) = stored := by
    rw [List.filter_eq_self]
    exact fun m hm => decide_eq_true (hStored m hm)
  unfold left
  cases scanned.truncated with
  | true => simp
  | false => simp [hKept]

/-- **The second sync** asks for the rest, and ends with the store of a whole
sync. -/
theorem run_again {o : Options} {b : Mailbox} {pages : List IdPage}
    {truncated : Bool} {ms stored rest : List Message}
    {w : World (Traced (Scheduled Mailbox))}
    (hFuel : pages.length ≤ provider.pagesLeft b)
    (hWalk : Walk provider o.size o.scanLimit none [] b pages truncated b)
    (hPlan : (Plan.between (idsOf pages) (ms.map (·.id))).toFetch =
      stored.map (·.id) ++ rest.map (·.id))
    (hFetches : Fetches provider (rest.map (·.id)) b rest b)
    (hRemote : w.remote = ⟨⟨b, []⟩, []⟩) (hHolds : w.store.Holds (ms ++ stored)) :
    ∃ report, Ends (run unreliable o) w (.ok report)
      ⟨⟨b, []⟩, (getRequests rest).reverse ++
        ((listRequests o.size none pages).reverse ++ [])⟩
      (Store.ofMessages
        (left ⟨collect [] (idsOf pages), truncated⟩ ms (stored ++ rest))) := by
  have hListed : ∀ m ∈ stored, m.id ∈ collect [] (idsOf pages) := by
    intro m hm
    have hPlanned : m.id ∈ (Plan.between (idsOf pages) (ms.map (·.id))).toFetch := by
      rw [hPlan]
      exact List.mem_append_left _ (List.mem_map_of_mem hm)
    exact mem_collected.2 (Plan.mem_toFetch.1 hPlanned).1
  have hEnds := run_of_walk (p := provider.scheduled) (o := o) (w := w)
    (by rw [hRemote]; exact hWalk.scheduled) (by rw [hRemote]; exact hFuel) hHolds
    (between_append hPlan) hFetches.scheduled
  rw [left_append hListed, hRemote] at hEnds
  exact ⟨_, hEnds⟩

/-- A reliable mailbox makes for a sync that ends well. -/
theorem run_of_reliable {b : Mailbox} (h : b.Reliable) (hKeyed : b.Keyed)
    (o : Options) {w : World (Traced (Scheduled Mailbox))} {ms : List Message}
    (hRemote : w.remote = ⟨⟨b, []⟩, []⟩) (hHolds : w.store.Holds ms) :
    ∃ report r s, Ends (run unreliable o) w (.ok report) r s := by
  obtain ⟨pages, truncated, hFuel, hWalk⟩ := exists_walk h o
  have hFound : ∀ id ∈ (Plan.between (idsOf pages) (ms.map (·.id))).toFetch,
      ∃ m, b.find? id = some m := by
    intro id hid
    obtain ⟨page, hPage, hListed⟩ :=
      List.mem_flatMap.1 (Plan.mem_toFetch.1 hid).1
    obtain ⟨token, rfl⟩ := hWalk.same.2 page hPage
    exact h.find_of_listed hListed
  obtain ⟨fetched, hFetches⟩ := exists_fetches h hFound
  have hIds := map_id_of_plan (carries_of_keyed hKeyed o) hWalk hFetches
    (List.Sublist.refl _)
  rw [← hIds] at hFetches
  have hPlan : (Plan.between (idsOf pages) (ms.map (·.id))).toFetch =
      ([] : List Message).map (·.id) ++ fetched.map (·.id) := hIds.symm
  have hHolds' : w.store.Holds (ms ++ []) := by rwa [List.append_nil]
  obtain ⟨report, hEnds⟩ := run_again hFuel hWalk hPlan hFetches hRemote hHolds'
  exact ⟨report, _, _, hEnds⟩

/-! ## The two syncs -/

/-- A sync of a store with a mailbox whose calls fail as scheduled. -/
def sync (o : Options) (b : Mailbox) (schedule : List (Option Stop)) (s : Store)
    (now : Int) : Except Stop Report × World (Traced (Scheduled Mailbox)) :=
  run unreliable o ⟨⟨⟨b, schedule⟩, []⟩, s, now, []⟩

private theorem sync_of_ends {o : Options} {b : Mailbox} {schedule : List (Option Stop)}
    {s s' : Store} {now : Int} {result : Except Stop Report}
    {r : Traced (Scheduled Mailbox)}
    (h : Ends (run unreliable o) ⟨⟨⟨b, schedule⟩, []⟩, s, now, []⟩ result r s') :
    (sync o b schedule s now).1 = result ∧
      (sync o b schedule s now).2.remote = r ∧
      (sync o b schedule s now).2.store = s' := h.result

/-- The calls made, the first one first. -/
def made (w : World (Traced (Scheduled Mailbox))) : List Request :=
  w.remote.calls.reverse

/-- The id of the message that a request asks for. -/
def messageId? : Request → Option String
  | .get id => some id
  | _ => none

/-- What a sync has stored when call number `n`, counted from zero, is stopped.
If the call asks for a page, that is nothing; if it asks for a message, the
messages that come before that one in the order of the missing ids. -/
inductive Halted (o : Options) (b : Mailbox) (s : Store) (n : Nat) :
    Request → List Message → Prop
  | listing {token size} : Halted o b s n (.list token size) []
  | fetching {pages truncated stored id later}
      (walk : Walk provider o.size o.scanLimit none [] b pages truncated b)
      (position : n = pages.length + stored.length)
      (order : (stored.map (·.id) ++ id :: later).Pairwise Before)
      (missing : (stored.map (·.id) ++ id :: later).toFinset =
        scannedIds pages \ storedIds s)
      (found : ∀ m ∈ stored, b.find? m.id = some m) :
      Halted o b s n (.get id) stored

/-- A sync that ended well next to one made after these messages were stored:
the two leave the same store, and the messages that the second one asks for are
the others. -/
structure Completes (stored : List Message)
    (whole again : Except Stop Report × World (Traced (Scheduled Mailbox))) :
    Prop where
  ends : ∃ report, again.1 = .ok report
  store : again.2.store = whole.2.store
  split : (made whole.2).filterMap messageId? =
    stored.map (·.id) ++ (made again.2).filterMap messageId?
  once : ((made whole.2).filterMap messageId?).Nodup

/-- A sync that was stopped at call number `n`, and the one made after it, next
to one that was not stopped. -/
structure Resumes (o : Options) (b : Mailbox) (s : Store) (n : Nat) (stop : Stop)
    (whole cut again : Except Stop Report × World (Traced (Scheduled Mailbox)))
    (stored : List Message) : Prop where
  stopped : cut.1 = .error stop
  calls : made cut.2 = (made whole.2).take (n + 1)
  remote : behind cut.2.remote = b
  halted : ∃ q, (made whole.2)[n]? = some q ∧ Halted o b s n q stored
  kept : cut.2.store.tables = s.tables.map (·.append stored)
  completes : ∀ report, whole.1 = .ok report → Completes stored whole again

/-- A sync that is to be stopped at one of its calls stops there. -/
theorem sync_stops (o : Options) (b : Mailbox) (s : Store) (now : Int) {n : Nat}
    (stop : Stop) (h : n < (made (sync o b [] s now).2).length) :
    ∃ w, sync o b (stopAfter n stop) s now = (.error stop, w) ∧
      made w = (made (sync o b [] s now).2).take (n + 1) ∧
      behind w.remote = b := by
  have hList (token : Option String) (size : Nat) (r : Mailbox) (hr : r = b) :
      (provider.list token size r).2 = b :=
    (Mailbox.list_cases rfl).1.trans hr
  have hGet (id : String) (r : Mailbox) (hr : r = b) :
      (provider.get id r).2 = b :=
    (Mailbox.get_cases rfl).1.trans hr
  obtain ⟨calls, hFollows⟩ := stoppable_run hList hGet o
    ⟨⟨⟨b, []⟩, []⟩, s, now, []⟩ rfl rfl
  have hCalls : (sync o b [] s now).2.remote.calls = calls := by
    rw [← List.append_nil calls]
    exact hFollows.calls
  rw [made, hCalls, List.length_reverse] at h
  obtain ⟨w, hRun, hMade, hBehind⟩ := hFollows.stops n stop h
  refine ⟨w, hRun, ?_, hBehind⟩
  rw [made, made, hCalls, hMade, List.append_nil, List.take_reverse]

/-- The last call of the first ones. -/
theorem getElem?_of_take {α : Type} {l later : List α} {a : α} {n : Nat}
    (h : (a :: later).reverse = l.take (n + 1)) (hLength : n < l.length) :
    l[n]? = some a := by
  have hLater : later.length = n := by
    have hLengths := congrArg List.length h
    rw [List.length_reverse, List.length_take, List.length_cons] at hLengths
    omega
  rw [← List.getElem?_take_of_lt (Nat.lt_succ_self n), ← h, List.reverse_cons,
    ← hLater, ← List.length_reverse, List.getElem?_concat_length]

/-- The calls of a sync, and the messages among them. -/
theorem messageIds_of_calls {size : Nat} {pages : List IdPage}
    {fetched : List Message} {w : World (Traced (Scheduled Mailbox))}
    (h : w.remote.calls = (getRequests fetched).reverse ++
      ((listRequests size none pages).reverse ++ [])) :
    (made w).filterMap messageId? = fetched.map (·.id) := by
  have hPages (token : Option String) :
      (listRequests size token pages).filterMap messageId? = [] := by
    rw [List.filterMap_eq_nil_iff]
    intro q hq
    have hKind := isList_of_mem_listRequests hq
    cases q with
    | list token size => rfl
    | get id => cases hKind
    | profile => cases hKind
    | label name => cases hKind
    | modify id change => cases hKind
  have hMessages : (getRequests fetched).filterMap messageId? =
      fetched.map (·.id) := by
    rw [getRequests, List.filterMap_map, ← List.filterMap_eq_map]
    rfl
  rw [made, h, List.append_nil, List.reverse_append, List.reverse_reverse,
    List.reverse_reverse, List.filterMap_append, hPages, hMessages,
    List.nil_append]

/-- A whole sync that ended well. -/
theorem whole_sync {o : Options} {b : Mailbox} {s : Store} {now : Int}
    {ms : List Message} {report : Report} (hKeyed : b.Keyed) (hHolds : s.Holds ms)
    (hOk : (sync o b [] s now).1 = .ok report) :
    ∃ pages truncated fetched, pages.length ≤ provider.pagesLeft b ∧
      Walk provider o.size o.scanLimit none [] b pages truncated b ∧
      (Plan.between (idsOf pages) (ms.map (·.id))).toFetch = fetched.map (·.id) ∧
      Fetches provider (fetched.map (·.id)) b fetched b ∧
      (sync o b [] s now).2.remote.calls = (getRequests fetched).reverse ++
        ((listRequests o.size none pages).reverse ++ []) ∧
      (sync o b [] s now).2.store = Store.ofMessages
        (left ⟨collect [] (idsOf pages), truncated⟩ ms fetched) := by
  have hCarries : Carries provider.scheduled o ⟨b, []⟩ :=
    Carries.scheduled (carries_of_keyed hKeyed o)
  obtain ⟨result, r, held, hCourse, hEnds⟩ := run_course o
    (p := provider.scheduled) (w := ⟨⟨⟨b, []⟩, []⟩, s, now, []⟩) hHolds hCarries
  obtain ⟨hResult, hRemote, hStore⟩ := sync_of_ends hEnds
  rw [hOk] at hResult
  cases hCourse with
  | unlisted => cases hResult
  | unfetched => cases hResult
  | done fuel walk plan fetches =>
      have hWalk := walk.behind
      have hSame := hWalk.same.1
      have hFetches := fetches.behind
      have hSame' := hFetches.same.1
      rw [hSame] at hWalk hFetches hSame'
      rw [hSame'] at hFetches
      exact ⟨_, _, _, fuel, hWalk, plan, hFetches, by rw [hRemote], hStore⟩

/-- The ids of the messages before a call that was stopped, and of those from
it on, are what was missing. -/
theorem plan_of_missing {pages : List IdPage} {s : Store} {ms : List Message}
    {ids : List String} (hHolds : s.Holds ms) (order : ids.Pairwise Before)
    (missing : ids.toFinset = scannedIds pages \ storedIds s) :
    (Plan.between (idsOf pages) (ms.map (·.id))).toFetch = ids := by
  refine (eq_ordered order fun x => ?_).symm
  rw [← List.mem_toFinset, missing, storedIds_of_holds hHolds, scannedIds,
    Finset.mem_sdiff, List.mem_toFinset, List.mem_toFinset, List.mem_filter,
    decide_eq_true_eq]

/-- What a stopped sync has stored is what a whole one fetches first. -/
theorem rest_of_halted {o : Options} {b : Mailbox} {s : Store} {n : Nat}
    {q : Request} {stored ms fetched : List Message} {pages : List IdPage}
    {truncated : Bool} (hHalted : Halted o b s n q stored) (hHolds : s.Holds ms)
    (hWalk : Walk provider o.size o.scanLimit none [] b pages truncated b)
    (hPlan : (Plan.between (idsOf pages) (ms.map (·.id))).toFetch =
      fetched.map (·.id))
    (hFetches : Fetches provider (fetched.map (·.id)) b fetched b) :
    ∃ rest, fetched = stored ++ rest ∧
      Fetches provider (rest.map (·.id)) b rest b := by
  cases hHalted with
  | listing => exact ⟨fetched, rfl, hFetches⟩
  | fetching walk position order missing found =>
      rename_i pages' truncated' id later
      obtain ⟨hPages, -⟩ := hWalk.unique walk
      subst hPages
      have hIds : fetched.map (·.id) = stored.map (·.id) ++ id :: later := by
        rw [← hPlan, plan_of_missing hHolds order missing]
      rw [hIds] at hFetches
      obtain ⟨first, rest, b₁, hSplit, hFirst, hRest⟩ := hFetches.split
      obtain ⟨hSame, hFound⟩ := hFirst.same
      have hStored : first = stored := by
        have hBoth : first.map some = stored.map some := by
          rw [← hFound, List.map_map]
          exact List.map_congr_left found
        exact List.map_injective_iff.2 (Option.some_injective _) hBoth
      rw [hStored] at hSplit
      rw [hSame] at hRest
      refine ⟨rest, hSplit, ?_⟩
      have hRestIds : rest.map (·.id) = id :: later := by
        rw [hSplit, List.map_append] at hIds
        exact List.append_cancel_left hIds
      rwa [hRestIds]

/-- **A sync made again completes the one that was stopped.** -/
theorem completes_of_halted {o : Options} {b : Mailbox} {s s' : Store} {n : Nat}
    {q : Request} {stored ms : List Message} {now : Int} {report : Report}
    (hKeyed : b.Keyed) (hHolds : s.Holds ms) (hHalted : Halted o b s n q stored)
    (hHolds' : s'.Holds (ms ++ stored))
    (hOk : (sync o b [] s now).1 = .ok report) (now' : Int) :
    Completes stored (sync o b [] s now) (sync o b [] s' now') := by
  obtain ⟨pages, truncated, fetched, hFuel, hWalk, hPlan, hFetches, hCalls,
    hStore⟩ := whole_sync hKeyed hHolds hOk
  have hOnce : (fetched.map (·.id)).Nodup := by
    rw [← hPlan]
    exact nodup_ordered _
  obtain ⟨rest, rfl, hRest⟩ :=
    rest_of_halted hHalted hHolds hWalk hPlan hFetches
  rw [List.map_append] at hPlan
  obtain ⟨report', hEnds⟩ := run_again
    (w := ⟨⟨⟨b, []⟩, []⟩, s', now', []⟩) hFuel hWalk hPlan hRest rfl hHolds'
  obtain ⟨hResult, hRemote, hStore'⟩ := sync_of_ends hEnds
  exact {
    ends := ⟨report', hResult⟩
    store := hStore'.trans hStore.symm
    split := by
      rw [messageIds_of_calls hCalls, List.map_append,
        messageIds_of_calls (by rw [hRemote])]
    once := by rwa [messageIds_of_calls hCalls] }

/-- A run that has asked for pages alone was stopped at a page. -/
theorem list_of_take {calls asked : List Request} {n : Nat}
    (h : asked.reverse = calls.take (n + 1)) (hCall : n < calls.length)
    (onlyLists : ∀ q ∈ asked, q.isList) :
    ∃ token size, calls[n]? = some (.list token size) := by
  cases asked with
  | nil =>
      have hLengths := congrArg List.length h
      rw [List.length_take, List.reverse_nil, List.length_nil] at hLengths
      omega
  | cons q asked =>
      have hKind := onlyLists q List.mem_cons_self
      cases q with
      | list token size => exact ⟨token, size, getElem?_of_take h hCall⟩
      | get id => cases hKind
      | profile => cases hKind
      | label name => cases hKind
      | modify id change => cases hKind

/-- Where a sync of messages stops. -/
theorem halted_of_stop {o : Options} {b : Mailbox} {s : Store} {n : Nat}
    {stop : Stop} {now : Int} {ms : List Message}
    {w : World (Traced (Scheduled Mailbox))} {calls : List Request}
    (hKeyed : b.Keyed) (hHolds : s.Holds ms)
    (hCut : sync o b (stopAfter n stop) s now = (.error stop, w))
    (hMade : made w = calls.take (n + 1)) (hCall : n < calls.length) :
    ∃ q stored, calls[n]? = some q ∧ Halted o b s n q stored ∧
      w.store.Holds (ms ++ stored) := by
  have hCarries : Carries provider.scheduled o ⟨b, stopAfter n stop⟩ :=
    Carries.scheduled (carries_of_keyed hKeyed o)
  obtain ⟨result, r, held, hCourse, hEnds⟩ := run_course o
    (p := provider.scheduled)
    (w := ⟨⟨⟨b, stopAfter n stop⟩, []⟩, s, now, []⟩) hHolds hCarries
  obtain ⟨hResult, hRemote, hStore⟩ := hEnds.eq_of_apply hCut
  cases hCourse with
  | done => cases hResult
  | unlisted onlyLists =>
      rw [made, hRemote, List.append_nil] at hMade
      obtain ⟨token, size, hLast⟩ := list_of_take hMade hCall onlyLists
      refine ⟨_, [], hLast, .listing, ?_⟩
      rw [hStore, List.append_nil]
      exact ⟨rfl, hHolds.nodup⟩
  | unfetched walk plan fetches get =>
      rename_i pages truncated r₁ stored id later r₂ stop' r₃
      rw [made, hRemote, List.append_nil] at hMade
      have hLast := getElem?_of_take hMade hCall
      have hPosition : n = pages.length + stored.length := by
        have hLengths := congrArg List.length hMade
        rw [List.length_take] at hLengths
        simp [getRequests, length_listRequests] at hLengths
        omega
      have hWalk := walk.behind
      rw [hWalk.same.1] at hWalk
      have hFound : ∀ m ∈ stored, b.find? m.id = some m := by
        have hFetches := fetches.behind
        rw [walk.behind.same.1] at hFetches
        have hFinds := hFetches.same.2
        rw [List.map_map] at hFinds
        exact List.map_inj_left.1 hFinds
      have hOrder : (stored.map (·.id) ++ id :: later).Pairwise Before := by
        rw [← plan]
        exact pairwise_ordered _
      have hMissing : (stored.map (·.id) ++ id :: later).toFinset =
          scannedIds pages \ storedIds s := by
        rw [← plan, toFinset_toFetch, storedIds_of_holds hHolds, scannedIds]
      refine ⟨_, stored, hLast,
        .fetching hWalk hPosition hOrder hMissing hFound, ?_⟩
      rw [hStore]
      have hFirst : (stored.map (·.id)).Sublist
          (Plan.between (idsOf pages) (ms.map (·.id))).toFetch := by
        rw [plan]
        exact List.sublist_append_left _ _
      exact ⟨rfl, nodup_append_fetched hHolds.nodup hFirst⟩

/-- A store without tables is left as it is, since nothing but pages is asked
for. -/
theorem halted_without_tables {o : Options} {b : Mailbox} {s : Store} {n : Nat}
    {stop : Stop} {now : Int} {w : World (Traced (Scheduled Mailbox))}
    {calls : List Request} (hNone : s.tables = none)
    (hCut : sync o b (stopAfter n stop) s now = (.error stop, w))
    (hMade : made w = calls.take (n + 1)) (hCall : n < calls.length) :
    ∃ q, calls[n]? = some q ∧ Halted o b s n q [] ∧ w.store = s := by
  obtain ⟨stop', r, asked, hLists, hCalls, hEnds⟩ := run_without_tables
    provider.scheduled o (w := ⟨⟨⟨b, stopAfter n stop⟩, []⟩, s, now, []⟩) hNone
  obtain ⟨-, hRemote, hStore⟩ := hEnds.eq_of_apply hCut
  rw [made, hRemote, hCalls, List.append_nil] at hMade
  obtain ⟨token, size, hLast⟩ := list_of_take hMade hCall hLists
  exact ⟨_, hLast, .listing, hStore⟩

private theorem fails_without_tables {o : Options} {b : Mailbox} {s : Store} {now : Int}
    {report : Report} (hNone : s.tables = none) :
    (sync o b [] s now).1 ≠ .ok report := by
  obtain ⟨stop, r, asked, -, -, hEnds⟩ := run_without_tables provider.scheduled o
    (w := ⟨⟨⟨b, []⟩, []⟩, s, now, []⟩) hNone
  rw [(sync_of_ends hEnds).1]
  intro h
  cases h

/-- **A sync that is stopped, and made again, ends as if it had not been.** -/
theorem stopped_sync_resumes (o : Options) (b : Mailbox) (hKeyed : b.Keyed)
    (ops : List Store.Operation) (now now' : Int) (n : Nat) (stop : Stop)
    (hCall : n < (made (sync o b [] (Store.fresh.after ops) now).2).length) :
    let s := Store.fresh.after ops
    let whole := sync o b [] s now
    let cut := sync o b (stopAfter n stop) s now
    let again := sync o (behind cut.2.remote) [] cut.2.store now'
    (∃ stored, Resumes o b s n stop whole cut again stored) ∧
      (b.Reliable → s.tables ≠ none → ∃ report, whole.1 = .ok report) := by
  intro s whole cut again
  obtain ⟨w, hRun, hMade, hBehind⟩ := sync_stops o b s now stop hCall
  have hCut : cut = (.error stop, w) := hRun
  have hRemote : behind cut.2.remote = b := by rw [hCut, hBehind]
  have hAgain : again = sync o b [] w.store now' := by
    show sync o (behind cut.2.remote) [] cut.2.store now' = _
    rw [hRemote, hCut]
  have hResumes {q : Request} {stored : List Message}
      (hLast : (made whole.2)[n]? = some q) (hHalted : Halted o b s n q stored)
      (hKept : w.store.tables = s.tables.map (·.append stored))
      (hCompletes : ∀ report, whole.1 = .ok report →
        Completes stored whole (sync o b [] w.store now')) :
      Resumes o b s n stop whole cut again stored := {
    stopped := by rw [hCut]
    calls := by
      rw [hCut]
      exact hMade
    remote := hRemote
    halted := ⟨q, hLast, hHalted⟩
    kept := by
      rw [hCut]
      exact hKept
    completes := by
      rw [hAgain]
      exact hCompletes }
  rcases Store.after_holds ops with hNone | ⟨ms, hHolds⟩
  · obtain ⟨q, hLast, hHalted, hStore⟩ :=
      halted_without_tables hNone hRun hMade hCall
    have hKept : w.store.tables = s.tables.map (·.append []) := by
      rw [hStore, hNone, Option.map_none]
    refine ⟨⟨[], hResumes hLast hHalted hKept fun report hOk => ?_⟩, ?_⟩
    · exact absurd hOk (fails_without_tables hNone)
    · exact fun _ hTables => absurd hNone hTables
  · obtain ⟨q, stored, hLast, hHalted, hHolds'⟩ :=
      halted_of_stop hKeyed hHolds hRun hMade hCall
    have hKept : w.store.tables = s.tables.map (·.append stored) := by
      rw [hHolds'.tables, hHolds.tables, Option.map_some,
        Tables.append_ofMessages]
    refine ⟨⟨stored, hResumes hLast hHalted hKept fun report hOk => ?_⟩, ?_⟩
    · exact completes_of_halted hKeyed hHolds hHalted hHolds' hOk now'
    · intro hReliable _
      obtain ⟨report, r, s', hEnds⟩ := run_of_reliable hReliable hKeyed o
        (w := ⟨⟨⟨b, []⟩, []⟩, s, now, []⟩) rfl hHolds
      exact ⟨report, (sync_of_ends hEnds).1⟩

/-- A sync of two messages, stopped at the second one. -/
theorem stopped_sync_resumes_second :
    let a := bareMessage "a" "0" []
    let b := bareMessage "b" "0" []
    let ops : List Store.Operation := [.ensureSchema]
    let mailbox := { (Mailbox.empty.put b.id b).put a.id a with
      pages := some [["b", "a"]] }
    let o : Options := ⟨2, 0⟩
    let s := Store.fresh.after ops
    let whole := sync o mailbox [] s 0
    let cut := sync o mailbox (stopAfter 2 .interrupted) s 0
    let again := sync o (behind cut.2.remote) [] cut.2.store 1
    mailbox.Keyed ∧ 2 < (made whole.2).length ∧
      (∃ stored, Resumes o mailbox s 2 .interrupted whole cut again stored) ∧
      ∃ report, whole.1 = .ok report := by
  intro a b ops mailbox o s whole cut again
  have hKeyed : mailbox.Keyed := (Mailbox.keyed_empty.put b).put a
  have hFirst : mailbox.find? "a" = some a := Mailbox.find?_put_self _ _ _
  have hSecond : mailbox.find? "b" = some b :=
    (Mailbox.find?_put_ne (by decide) a).trans (Mailbox.find?_put_self _ _ _)
  have hReliable : mailbox.Reliable := by
    refine ⟨rfl, fun pages hPages ids hIds id hid => ?_⟩
    cases hPages
    rw [List.mem_singleton.1 hIds, List.mem_pair] at hid
    rcases hid with rfl | rfl
    · exact ⟨b, hSecond⟩
    · exact ⟨a, hFirst⟩
  have hHolds : s.Holds [] := Store.holds_of_nodup [] List.nodup_nil
  have hWalk : Walk provider o.size o.scanLimit none [] mailbox
      [⟨["b", "a"], none⟩] false mailbox := .last rfl rfl
  have hPlan : (Plan.between (idsOf [⟨["b", "a"], none⟩])
      (([] : List Message).map (·.id))).toFetch =
        ([] : List Message).map (·.id) ++ [a, b].map (·.id) := by
    have hOrder : ["a", "b"].Pairwise Before := by
      rw [List.pairwise_pair, Before]
      decide
    refine (eq_ordered hOrder fun x => ?_).symm
    show x ∈ ["a", "b"] ↔ x ∈ ["b", "a"].filter (· ∉ [])
    simp [or_comm]
  have hFetches : Fetches provider ["a", "b"] mailbox [a, b] mailbox :=
    .cons (Mailbox.get_of_find? rfl hFirst)
      (.cons (Mailbox.get_of_find? rfl hSecond) .nil)
  obtain ⟨report, hEnds⟩ := run_again (o := o)
    (w := ⟨⟨⟨mailbox, []⟩, []⟩, s, 0, []⟩) (by decide) hWalk hPlan hFetches rfl
    hHolds
  have hCall : 2 < (made whole.2).length := by
    rw [made, show whole.2.remote = _ from (sync_of_ends hEnds).2.1]
    decide
  obtain ⟨hResumes, hEndsWell⟩ :=
    stopped_sync_resumes o mailbox hKeyed ops 0 1 2 .interrupted hCall
  have hTables : s.tables ≠ none := by
    rw [hHolds.tables]
    exact Option.some_ne_none _
  exact ⟨hKeyed, hCall, hResumes, hEndsWell hReliable hTables⟩

end Mailroom.Sync
