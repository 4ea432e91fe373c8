import Mailroom.Proofs.Store.AnyRows
import Mailroom.Proofs.Sync.Effect

/-!
# Nothing left to sync

A store is settled with a mailbox if a scan of the mailbox finds no id that is
not stored, and if the stored ids are among those it finds, unless it was cut
off. A sync that ends well leaves such a store, whatever was in it before, and
a sync of such a store asks for pages and does nothing else.

The store is any store whose ids can be read: for what a sync fetches and
deletes it does not matter what else is in its rows.
-/

namespace Mailroom.Sync

open Mailroom.Mailbox (provider)
open Mailroom.Session (Contract Ends)

/-! ## Ids on the way -/

/-- The provider is this mailbox, and the store is this one. -/
structure Joins (b : Mailbox) (s : Store) (w : World (Traced Mailbox)) : Prop where
  remote : w.remote.state = b
  store : w.store = s

/-- The provider is this mailbox, and these ids are stored. -/
structure Stored (b : Mailbox) (ids : List String) (w : World (Traced Mailbox)) :
    Prop where
  remote : w.remote.state = b
  legible : w.store.Legible ids

/-- Nothing is said of a world in which a session has stopped. -/
def Anywhere (_ : Stop) (_ : World (Traced Mailbox)) : Prop := True

private theorem stored_log {b : Mailbox} {ids : List String} {level : LogLevel}
    {text : String} : Contract (Stored b ids) (Session.log level text)
      (fun _ => Stored b ids) Anywhere :=
  Contract.log_same fun _ _ hw => ⟨hw.remote, hw.legible⟩

/-- What is fetched is stored behind what is there. -/
theorem fetchFrom_stored {b : Mailbox} (hKeyed : b.Keyed) (total n : Nat)
    (ids later : List String) :
    Contract (Stored b ids) (fetchFrom provider.traced total n later)
      (fun _ => Stored b (ids ++ later)) Anywhere := by
  induction later generalizing n ids with
  | nil =>
      rw [fetchFrom, List.append_nil]
      exact Contract.pure fun _ hw => hw
  | cons id later ih =>
      have hGet : Contract (Stored b ids) (Session.remote (provider.traced.get id))
          (fun m w => m.id = id ∧ Stored b ids w) Anywhere := by
        refine Contract.remote (fun w m r hw hCall => ?_) fun _ _ _ _ _ => trivial
        obtain ⟨hMade, -⟩ := Provider.record_eq hCall
        obtain ⟨hSame, hFound⟩ := Mailbox.get_cases hMade
        have hFind := hFound m rfl
        rw [hw.remote] at hFind
        exact ⟨hKeyed id m hFind, hSame.trans hw.remote, hw.legible⟩
      have hInsert (m : Message) : Contract (fun w => m.id = id ∧ Stored b ids w)
          (Session.write (·.insert m)) (fun _ => Stored b (ids ++ [id]))
          Anywhere := by
        refine Contract.write (fun w s hw hWrite => ?_) fun _ _ _ _ => trivial
        obtain ⟨rfl, hw⟩ := hw
        exact ⟨hw.remote, hw.legible.insert hWrite⟩
      have hRest := ih (n + 1) (ids ++ [id])
      rw [List.append_assoc, List.singleton_append] at hRest
      rw [fetchFrom]
      refine hGet.bind fun m => (hInsert m).bind fun _ => ?_
      simp only
      split
      · exact stored_log.bind fun _ => hRest
      · exact hRest

/-- What is deleted is taken away from what is there. -/
theorem delete_stored {b : Mailbox} (ids gone : List String) :
    Contract (Stored b ids) (delete gone)
      (fun _ => Stored b (ids.filter (· ∉ gone))) Anywhere := by
  induction gone generalizing ids with
  | nil =>
      have hAll : ids.filter (fun id => decide (id ∉ ([] : List String))) = ids := by
        simp
      rw [delete, hAll]
      exact Contract.pure fun _ hw => hw
  | cons id gone ih =>
      have hRemove : Contract (Stored b ids) (Session.write (·.remove id))
          (fun _ => Stored b (ids.filter (· ≠ id))) Anywhere :=
        Contract.write (fun w s hw hWrite => ⟨hw.remote, hw.legible.remove hWrite⟩)
          fun _ _ _ _ => trivial
      have hFilter : (ids.filter (· ≠ id)).filter (· ∉ gone) =
          ids.filter (· ∉ id :: gone) := by
        rw [List.filter_filter]
        refine List.filter_congr fun x _ => ?_
        simp [Bool.and_comm]
      have hRest := ih (ids.filter (· ≠ id))
      rw [hFilter] at hRest
      rw [delete]
      exact hRemove.bind fun _ => hRest.bind fun _ => Contract.pure fun _ hw => hw

/-! ## Settled stores -/

/-- What a scan of the mailbox finds, if no call fails. -/
def Scans (b : Mailbox) (o : Options) (scanned : Scan) : Prop :=
  ∃ pages, pages.length ≤ provider.pagesLeft b ∧
    Walk provider o.size o.scanLimit none [] b pages scanned.truncated b ∧
    scanned.ids = collect [] (idsOf pages)

/-- A scan finds nothing to fetch and nothing to delete. -/
structure Settled (b : Mailbox) (o : Options) (s : Store) (scanned : Scan)
    (stored : List String) : Prop where
  scans : Scans b o scanned
  legible : s.Legible stored
  fetched : ∀ id ∈ scanned.ids, id ∈ stored
  deleted : scanned.truncated = false → ∀ id ∈ stored, id ∈ scanned.ids

/-- A scan finds what can be scanned. -/
theorem scan_joins {b : Mailbox} (o : Options) (s : Store) :
    Contract (Joins b s) (scan provider.traced o)
      (fun scanned w => Scans b o scanned ∧ Joins b s w) Anywhere := by
  intro w hw
  refine ⟨fun scanned w' hScan => ?_, fun _ _ _ => trivial⟩
  obtain ⟨pages, r, hFuel, hWalk, hIds, hRemote, hStore⟩ := walk_of_scan hScan
  rw [hw.remote] at hFuel hWalk
  obtain rfl := hWalk.same.1
  exact ⟨⟨pages, hFuel, hWalk, hIds⟩, by rw [hRemote], hStore.trans hw.store⟩

/-- The ids that are stored after a sync. -/
theorem settled_of_stored {b : Mailbox} {o : Options} {s : Store} {scanned : Scan}
    {ids : List String} (hScans : Scans b o scanned)
    (h : s.Legible ((ids ++ (Plan.between scanned.ids ids).toFetch).filter
      (· ∉ deletions scanned ids))) :
    Settled b o s scanned ((ids ++ (Plan.between scanned.ids ids).toFetch).filter
      (· ∉ deletions scanned ids)) := by
  have hDeletions (id : String) : id ∈ deletions scanned ids ↔
      scanned.truncated = false ∧ id ∈ ids ∧ id ∉ scanned.ids := by
    unfold deletions
    split
    · rename_i hCut
      simp [hCut]
    · rename_i hWhole
      rw [Plan.mem_toDelete]
      simp [hWhole]
  have hStored (id : String) :
      id ∈ (ids ++ (Plan.between scanned.ids ids).toFetch).filter
        (· ∉ deletions scanned ids) ↔
      (id ∈ ids ∨ id ∈ scanned.ids) ∧
        (scanned.truncated = false → id ∈ ids → id ∈ scanned.ids) := by
    rw [List.mem_filter, decide_eq_true_eq, hDeletions, List.mem_append,
      Plan.mem_toFetch]
    tauto
  refine ⟨hScans, h, fun id hScanned => ?_, fun hWhole id hid => ?_⟩
  · exact (hStored id).2 ⟨.inr hScanned, fun _ _ => hScanned⟩
  · obtain ⟨hEither, hKept⟩ := (hStored id).1 hid
    exact hEither.elim (hKept hWhole) fun hScanned => hScanned

/-- **A sync that ends well settles the store.** -/
theorem run_settles {b : Mailbox} (hKeyed : b.Keyed) (o : Options) {s : Store}
    (hStats : ∃ stats, s.stats = .ok stats) :
    Contract (Joins b s) (run provider.traced o)
      (fun _ w => w.remote.state = b ∧
        ∃ scanned stored, Settled b o w.store scanned stored) Anywhere := by
  have hRead (scanned : Scan) :
      Contract (fun w => Scans b o scanned ∧ Joins b s w)
        (Session.read fun s _ => s.ids)
        (fun ids w => Scans b o scanned ∧ Stored b ids w) Anywhere := by
    refine Contract.read (fun w ids hw hIds => ?_) fun _ _ _ _ => trivial
    obtain ⟨hScans, hRemote, rfl⟩ := hw
    exact ⟨hScans, hRemote, hIds, hStats⟩
  have hRest (scanned : Scan) (ids : List String)
      (line : Nat → Nat → String) :
      Contract (fun w => Scans b o scanned ∧ Stored b ids w)
        (fetch provider.traced (Plan.between scanned.ids ids).toFetch >>= fun fetched =>
          delete (deletions scanned ids) >>= fun deleted =>
            Session.info (line fetched deleted) >>= fun _ =>
              pure (⟨scanned.ids.length, fetched, deleted⟩ : Report))
        (fun _ w => w.remote.state = b ∧
          ∃ scanned stored, Settled b o w.store scanned stored) Anywhere := by
    rintro w ⟨hScans, hw⟩
    refine ((fetchFrom_stored hKeyed _ 0 ids _).bind fun fetched =>
      (delete_stored _ (deletions scanned ids)).bind fun deleted =>
        stored_log.bind fun _ => Contract.pure fun w' hw' => ?_) w hw
    exact ⟨hw'.remote, scanned, _, settled_of_stored hScans hw'.legible⟩
  rw [run]
  refine (scan_joins o s).bind fun scanned => (hRead scanned).bind fun ids => ?_
  have hLog (level : LogLevel) (text : String) :
      Contract (fun w => Scans b o scanned ∧ Stored b ids w)
        (Session.log level text) (fun _ w => Scans b o scanned ∧ Stored b ids w)
        Anywhere :=
    Contract.log_same fun _ _ hw => ⟨hw.1, hw.2.remote, hw.2.legible⟩
  simp only
  split
  · exact (hLog _ _).bind fun _ => (hLog _ _).bind fun _ => hRest scanned ids _
  · exact (hLog _ _).bind fun _ => hRest scanned ids _

/-- **The sync of a settled store** asks for the pages again and reports that
there was nothing to do. -/
theorem run_of_settled {b : Mailbox} {o : Options} {s : Store} {scanned : Scan}
    {stored : List String} (h : Settled b o s scanned stored) :
    ∃ asked, (∀ q ∈ asked, q.isList) ∧ ∀ w : World (Traced Mailbox), Joins b s w →
      Ends (run provider.traced o) w (.ok ⟨scanned.ids.length, 0, 0⟩)
        ⟨b, asked ++ w.remote.calls⟩ s := by
  obtain ⟨pages, hFuel, hWalk, hIds⟩ := h.scans
  have hFetch : (Plan.between scanned.ids stored).toFetch = [] := by
    rw [List.eq_nil_iff_forall_not_mem]
    intro id hid
    obtain ⟨hScanned, hMissing⟩ := Plan.mem_toFetch.1 hid
    exact hMissing (h.fetched id hScanned)
  have hDelete : deletions scanned stored = [] := by
    unfold deletions
    split
    · rfl
    · rename_i hWhole
      rw [List.eq_nil_iff_forall_not_mem]
      intro id hid
      obtain ⟨hStored, hGone⟩ := Plan.mem_toDelete.1 hid
      exact hGone (h.deleted (Bool.eq_false_of_not_eq_true hWhole) id hStored)
  refine ⟨(listRequests o.size none pages).reverse, fun q hq =>
    isList_of_mem_listRequests (List.mem_reverse.1 hq), ?_⟩
  rintro w ⟨hRemote, rfl⟩
  rw [← hRemote] at hFuel hWalk ⊢
  have hScan := scan_of_walk hWalk hFuel
  rw [← hIds] at hScan
  refine run_of_scan hScan h.legible.ids fun line w' hr hs => ?_
  rw [hFetch, hDelete]
  refine (Ends.pure hr hs).bind fun w₁ hr₁ hs₁ _ => ?_
  refine (Ends.pure hr₁ hs₁).bind fun w₂ hr₂ hs₂ _ => ?_
  refine (Ends.log _ _ w₂).bind fun w₃ hr₃ hs₃ _ => ?_
  exact Ends.pure (hr₃.trans hr₂) (hs₃.trans hs₂)

end Mailroom.Sync
