import Mailroom.Proofs.Run.Recovery
import Mailroom.Proofs.Sync.Settled

/-!
# A run after one that ended well

A run without rules is made, and then another one with the same mailbox. If the
first one ended well there is nothing left for the second one to do, whatever
was stored before, however the listing is paged and wherever it is cut off.

The first run may have synced or not, and the second one may or may not. `AtRest`
is what the first one leaves in either case, and all that the second one needs:
if the statistics that are now in the store call for a sync, the store is
settled. A forced run asks for the pages each time, and then finds nothing.

## Main results

* `syncIfNeeded_rests`: what the first run leaves.
* `run_at_rest`: the run after it.
* `second_run_rests`: the two together.
-/

namespace Mailroom.Run

open Mailroom.Mailbox (provider)
open Mailroom.Session (Contract Ends)
open Mailroom.Sync (Anywhere Joins)

/-- The profile can be asked for, the statistics can be read, and if they call
for a sync, there is nothing left to sync. -/
structure AtRest (b : Mailbox) (o : Options) (s : Store) (profile : Profile)
    (stats : Store.Stats) : Prop where
  asked : provider.profile b = (.ok profile, b)
  read : s.stats = .ok stats
  settled : Sync.isNeeded profile stats o.force = true →
    ∃ scanned stored, Sync.Settled b o.sync s scanned stored

/-- The calls of a run that has nothing to do. -/
def Idle (q : Request) : Prop := q = .profile ∨ q.isList

/-- What a run reports of a sync that had nothing to do. -/
def Unchanged (synced : Option Sync.Report) : Prop :=
  ∀ report, synced = some report → report.fetched = 0 ∧ report.deleted = 0

variable {b : Mailbox} {o : Options} {s : Store}

/-! ## The first run -/

private theorem profile_joins :
    Contract (Joins b s) (Session.remote provider.traced.profile)
      (fun profile w => provider.profile b = (.ok profile, b) ∧ Joins b s w)
      Anywhere := by
  refine Contract.remote (fun w profile r hw hCall => ?_) fun _ _ _ _ _ => trivial
  obtain ⟨hMade, -⟩ := Provider.record_eq hCall
  obtain ⟨hRemote, hStore⟩ := hw
  rw [hRemote] at hMade
  have hSame : r.state = b := (Mailbox.profile_cases hMade).1
  rw [hSame] at hMade
  exact ⟨hMade, hSame, hStore⟩

/-- **What a run that ends well leaves** is a store at rest with the mailbox,
which is as it was. -/
theorem syncIfNeeded_rests (hKeyed : b.Keyed) :
    Contract (Joins b s) (syncIfNeeded provider.traced o)
      (fun _ w => w.remote.state = b ∧
        ∃ profile stats, AtRest b o w.store profile stats) Anywhere := by
  have hRead : Contract (Joins b s) (Session.read fun s _ => s.stats)
      (fun stats w => s.stats = .ok stats ∧ Joins b s w) Anywhere := by
    refine Contract.read (fun w stats hw hStats => ?_) fun _ _ _ _ => trivial
    obtain ⟨hRemote, rfl⟩ := hw
    exact ⟨hStats, hRemote, rfl⟩
  have hLog (level : LogLevel) (text : String) :
      Contract (Joins b s) (Session.log level text) (fun _ => Joins b s)
        Anywhere :=
    Contract.log_same fun _ _ hw => ⟨hw.remote, hw.store⟩
  rw [syncIfNeeded]
  refine hRead.bind fun stats => ?_
  rintro w ⟨hStats, hw⟩
  refine (profile_joins.bind fun profile => ?_) w hw
  rintro w₁ ⟨hProfile, hw₁⟩
  refine ((hLog _ _).bind fun _ => (hLog _ _).bind fun _ => ?_) w₁ hw₁
  split
  · -- The store has been settled, so it does not matter what its statistics are.
    refine (hLog _ _).bind fun _ =>
      (Sync.run_settles hKeyed o.sync ⟨stats, hStats⟩).bind fun report =>
        Contract.pure fun w₂ hw₂ => ?_
    obtain ⟨hRemote, scanned, stored, hSettled⟩ := hw₂
    obtain ⟨stats₂, hStats₂⟩ := hSettled.legible.stats
    exact ⟨hRemote, profile, stats₂, hProfile, hStats₂,
      fun _ => ⟨scanned, stored, hSettled⟩⟩
  · rename_i hCurrent
    refine (hLog _ _).bind fun _ => Contract.pure fun w₂ hw₂ => ?_
    obtain ⟨hRemote, rfl⟩ := hw₂
    exact ⟨hRemote, profile, stats, hProfile, hStats,
      fun hNeeded => absurd hNeeded hCurrent⟩

/-! ## The second run -/

/-- Lines of the log before a session change nothing. -/
theorem ends_after_log {α : Type} {x : Session (Traced Mailbox) α} {level : LogLevel}
    {text : String} {w : World (Traced Mailbox)} {result : Except Stop α}
    {r : Traced Mailbox} (h : ∀ w' : World (Traced Mailbox), w'.remote = w.remote →
      w'.store = w.store → Ends x w' result r s) :
    Ends (Session.log level text >>= fun _ => x) w result r s :=
  (Ends.log level text w).bind fun w' hr hs _ => h w' hr hs

/-- Once the profile and the statistics are known, there is a sync or there is
not. -/
theorem ends_syncIfNeeded {w : World (Traced Mailbox)} {profile : Profile}
    {stats : Store.Stats} {synced : Option Sync.Report} {r r' : Traced Mailbox}
    (hStats : w.store.stats = .ok stats)
    (hCall : provider.traced.profile w.remote = (.ok profile, r))
    (hNeeded : Sync.isNeeded profile stats o.force = true →
      ∃ report, synced = some report ∧ ∀ w' : World (Traced Mailbox),
        w'.remote = r → w'.store = w.store →
          Ends (Sync.run provider.traced o.sync) w' (.ok report) r' s)
    (hCurrent : Sync.isNeeded profile stats o.force = false →
      synced = none ∧ r' = r ∧ s = w.store) :
    Ends (syncIfNeeded provider.traced o) w (.ok synced) r' s := by
  have hRead : Ends (Session.read fun s _ => s.stats) w (.ok stats) w.remote
      w.store := Ends.read hStats
  rw [syncIfNeeded]
  refine hRead.bind fun w₁ hr₁ hs₁ _ => ?_
  rw [← hr₁] at hCall
  refine (Ends.remote hCall).bind fun w₂ hr₂ hs₂ _ => ?_
  refine ends_after_log fun w₃ hr₃ hs₃ => ends_after_log fun w₄ hr₄ hs₄ => ?_
  have hRemote : w₄.remote = r := hr₄.trans (hr₃.trans hr₂)
  have hStore : w₄.store = w.store := hs₄.trans (hs₃.trans (hs₂.trans hs₁))
  by_cases hDue : Sync.isNeeded profile stats o.force = true
  · obtain ⟨report, rfl, hSync⟩ := hNeeded hDue
    rw [if_pos hDue]
    refine ends_after_log fun w₅ hr₅ hs₅ => ?_
    refine (hSync w₅ (hr₅.trans hRemote) (hs₅.trans hStore)).bind
      fun w₆ hr₆ hs₆ _ => ?_
    exact Ends.pure hr₆ hs₆
  · obtain ⟨rfl, rfl, rfl⟩ := hCurrent (Bool.eq_false_of_not_eq_true hDue)
    rw [if_neg hDue]
    refine ends_after_log fun w₅ hr₅ hs₅ => ?_
    exact Ends.pure (hr₅.trans hRemote) (hs₅.trans hStore)

private theorem syncIfNeeded_at_rest {profile : Profile} {stats : Store.Stats}
    (h : AtRest b o s profile stats) {w : World (Traced Mailbox)}
    (hw : Joins b s w) :
    ∃ synced asked, Unchanged synced ∧ (∀ q ∈ asked, Idle q) ∧
      Ends (syncIfNeeded provider.traced o) w (.ok synced)
        ⟨b, asked ++ w.remote.calls⟩ s := by
  obtain ⟨hRemote, rfl⟩ := hw
  have hCall : provider.traced.profile w.remote =
      (.ok profile, ⟨b, .profile :: w.remote.calls⟩) := by
    show Provider.record .profile provider.profile w.remote = _
    rw [Provider.record, hRemote, h.asked]
  by_cases hDue : Sync.isNeeded profile stats o.force = true
  · obtain ⟨scanned, stored, hSettled⟩ := h.settled hDue
    obtain ⟨lists, hLists, hSync⟩ := Sync.run_of_settled hSettled
    refine ⟨some ⟨scanned.ids.length, 0, 0⟩, lists ++ [.profile], ?_, ?_, ?_⟩
    · intro report hReport
      cases hReport
      exact ⟨rfl, rfl⟩
    · intro q hq
      rcases List.mem_append.1 hq with hq | hq
      · exact .inr (hLists q hq)
      · exact .inl (List.mem_singleton.1 hq)
    · refine ends_syncIfNeeded h.read hCall (fun _ => ⟨_, rfl, ?_⟩) ?_
      · intro w' hr hs
        have hEnds := hSync w' ⟨by rw [hr], hs⟩
        rwa [hr, ← List.singleton_append, ← List.append_assoc] at hEnds
      · intro hNot
        rw [hDue] at hNot
        cases hNot
  · refine ⟨none, [.profile], ?_, ?_, ?_⟩
    · intro report hReport
      cases hReport
    · intro q hq
      exact .inl (List.mem_singleton.1 hq)
    · exact ends_syncIfNeeded h.read hCall (fun hNeeded => absurd hNeeded hDue)
        fun _ => ⟨rfl, rfl, rfl⟩

/-- **A run at rest** asks for the profile, and for pages if it syncs, and
leaves the store as it is. -/
theorem run_at_rest (hSkip : o.skipRules = true) {profile : Profile}
    {stats : Store.Stats} (h : AtRest b o s profile stats)
    (rulesText : Option String) {w : World (Traced Mailbox)} (hw : Joins b s w) :
    ∃ synced asked, Unchanged synced ∧ (∀ q ∈ asked, Idle q) ∧
      Ends (run provider.traced o rulesText) w (.ok ⟨synced, 0, 0⟩)
        ⟨b, asked ++ w.remote.calls⟩ s := by
  obtain ⟨synced, asked, hUnchanged, hIdle, hEnds⟩ := syncIfNeeded_at_rest h hw
  refine ⟨synced, asked, hUnchanged, hIdle, ?_⟩
  rw [run_of_skip hSkip]
  refine hEnds.bind fun w₁ hr₁ hs₁ _ => ends_after_log fun w₂ hr₂ hs₂ => ?_
  exact Ends.pure (hr₂.trans hr₁) (hs₂.trans hs₁)

/-! ## The two runs -/

/-- **A run after one that ended well changes nothing.** Let a run without rules
end well. It leaves the mailbox as it was, and from every world with that mailbox
and the store that it left, such a run ends well too. That one asks for nothing
but the profile and pages of ids, leaves the store as it is, with all its rows,
and if it syncs, reports nothing fetched and nothing deleted. -/
theorem second_run_rests {o : Options} (hSkip : o.skipRules = true)
    {w w' : World (Traced Mailbox)} (hKeyed : w.remote.state.Keyed)
    {rulesText : Option String} {summary : Summary}
    (hRun : run provider.traced o rulesText w = (.ok summary, w')) :
    w'.remote.state = w.remote.state ∧
    ∀ (v : World (Traced Mailbox)) (againText : Option String),
      v.remote.state = w'.remote.state → v.store = w'.store →
      ∃ again v' since, run provider.traced o againText v = (.ok again, v') ∧
        v'.remote.calls = since ++ v.remote.calls ∧
        (∀ q ∈ since, q = .profile ∨ q.isList) ∧
        v'.remote.state = v.remote.state ∧ v'.store = v.store ∧
        ∀ report, again.sync = some report →
          report.fetched = 0 ∧ report.deleted = 0 := by
  have hFirst : Contract (Joins w.remote.state w.store)
      (run provider.traced o rulesText) (fun _ w₁ => w₁.remote.state = w.remote.state ∧
        ∃ profile stats, AtRest w.remote.state o w₁.store profile stats) Anywhere := by
    rw [run_of_skip hSkip]
    refine (syncIfNeeded_rests hKeyed).bind fun synced => ?_
    exact Contract.bind (Contract.log_same fun w₁ _ hw₁ => hw₁) fun _ =>
      Contract.pure fun w₁ hw₁ => hw₁
  obtain ⟨hSame, profile, stats, hRest⟩ := (hFirst w ⟨rfl, rfl⟩).1 summary w' hRun
  refine ⟨hSame, ?_⟩
  intro v againText hRemote hStore
  obtain ⟨synced, asked, hUnchanged, hIdle, log, hAgain⟩ :=
    run_at_rest hSkip hRest againText ⟨hRemote.trans hSame, hStore⟩
  exact ⟨_, _, asked, hAgain, rfl, hIdle, (hRemote.trans hSame).symm, hStore.symm,
    hUnchanged⟩

/-- A forced run that asks for one id at a time and stops at the first one. -/
def cutOff : Options := ⟨⟨1, 1⟩, true, true, "rules.yaml"⟩

/-- A mailbox of two messages, and a store with one that it does not have. -/
def behindTwins : World (Traced Mailbox) :=
  ⟨⟨twins, []⟩, Store.ofMessages [twin "z"], 0, []⟩

/-- The run is cut off, so it fetches one message and does not delete the one that
is gone; a further run has nothing to do. -/
theorem second_run_rests_cutOff :
    cutOff.skipRules = true ∧ twins.Keyed ∧
    (run provider.traced cutOff none behindTwins).1 =
      .ok ⟨some ⟨1, 1, 0⟩, 0, 0⟩ ∧
    ∃ again v', run provider.traced cutOff none
        (run provider.traced cutOff none behindTwins).2 = (.ok again, v') ∧
      v'.store = (run provider.traced cutOff none behindTwins).2.store ∧
      ∀ report, again.sync = some report →
        report.fetched = 0 ∧ report.deleted = 0 := by
  have hEnded : (run provider.traced cutOff none behindTwins).1 =
      .ok ⟨some ⟨1, 1, 0⟩, 0, 0⟩ := by decide +kernel
  obtain ⟨-, hAgain⟩ := second_run_rests (w := behindTwins) rfl keyed_twins
    (Prod.ext hEnded rfl)
  obtain ⟨again, v', since, hRun, -, -, -, hStore, hReport⟩ :=
    hAgain _ none rfl rfl
  exact ⟨rfl, keyed_twins, hEnded, again, v', hRun, hStore, hReport⟩

end Mailroom.Run
