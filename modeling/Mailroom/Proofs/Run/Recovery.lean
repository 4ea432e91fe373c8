import Mailroom.Proofs.Run.Reading
import Mailroom.Proofs.Sorting
import Mailroom.Proofs.Sync.Resume

/-!
# Runs after runs that failed

A run without rules is made again and again with one mailbox, each time with
calls that fail as they may. What the store holds then is always a first part
of the mailbox: the messages with the first ids in the order of bytes, as they
are in the mailbox. Syncs go on where the last one stopped, so that part only
grows, and a sync that ends well leaves the whole of it.

A run does not always sync. If the latest history id in the store is that of the
account, there is nothing to do, and a first part of a mailbox can have it as
well as the whole. So a run that ends well has either synced, and then nothing
is missing, or it has left the store as it was, with that history id in it.

## Main results

* `run_toward`: a sync, whether it ends well or not, brings the store closer.
* `attempt_toward`: and so does an attempt at a run.
* `attempts_recover`: the store after any attempts, and after one that ended
  well.
* `attempt_skips_missing`: a run can end well with a message missing.
-/

namespace Mailroom.Mailbox

/-! ## The mailbox is left alone -/

/-- The mailbox behind the provider is this one. -/
def Backs (b : Mailbox) (w : World (Traced (Scheduled Mailbox))) : Prop :=
  behind w.remote = b

/-- No call of a sync changes it, however calls are made to fail. -/
theorem readingKeeps_unreliable (b : Mailbox) :
    ReadingKeeps unreliable fun r => behind r = b where
  list token size r hr := by
    rcases unreliable_cases (rfl : unreliable.list token size r = _) with
      ⟨stop, -, hSame⟩ | hMade
    · exact hSame.trans hr
    · exact (list_cases hMade).1.trans hr
  get _ _ hr := (get_spec rfl).1.trans hr
  profile _ hr := (profile_spec rfl).1.trans hr

end Mailroom.Mailbox

namespace Mailroom.Sync

open Mailroom.Mailbox (provider unreliable behind)
open Mailroom.Session (Contract Ends)

/-! ## Syncs on the way -/

/-- The store is on its way to the mailbox: it holds the messages with the first
ids that are listed, in the order of their bytes, as they are there. -/
structure Toward (b : Mailbox) (s : Store) (ms : List Message) : Prop where
  holds : s.Holds ms
  first : ms.map (·.id) <+: ordered b.listed
  found : ∀ m ∈ ms, b.find? m.id = some m

namespace Toward

variable {b : Mailbox} {s : Store} {ms : List Message}

theorem empty (b : Mailbox) : Toward b Store.fresh.ensureSchema [] where
  holds := Store.holds_of_nodup [] List.nodup_nil
  first := List.nil_prefix
  found m hm := by cases hm

/-- What is missing are the ids after those that are there. -/
theorem missing (h : Toward b s ms) :
    ms.map (·.id) ++ (Plan.between b.listed (ms.map (·.id))).toFetch =
      ordered b.listed := by
  obtain ⟨rest, hRest⟩ := h.first
  have hAll : (Plan.between b.listed (([] : List Message).map (·.id))).toFetch =
      ms.map (·.id) ++ rest := by
    rw [hRest]
    simp [Plan.between]
  rw [show Plan.between b.listed (ms.map (·.id)) =
      Plan.between b.listed ((([] : List Message) ++ ms).map (·.id)) from rfl,
    between_append hAll, hRest]

/-- Messages that are missing, in their order, are put behind. -/
theorem append (h : Toward b s ms) {fetched : List Message} {later : List String}
    (hPlan : (Plan.between b.listed (ms.map (·.id))).toFetch =
      fetched.map (·.id) ++ later)
    (hFound : ∀ m ∈ fetched, b.find? m.id = some m) :
    Toward b (Store.ofMessages (ms ++ fetched)) (ms ++ fetched) where
  holds := by
    have hFirst : (fetched.map (·.id)).Sublist
        (Plan.between b.listed (ms.map (·.id))).toFetch := by
      rw [hPlan]
      exact List.sublist_append_left _ _
    exact ⟨rfl, nodup_append_fetched h.holds.nodup hFirst⟩
  first := by
    rw [← h.missing, hPlan, ← List.append_assoc, List.map_append]
    exact List.prefix_append _ _
  found m hm := by
    rcases List.mem_append.1 hm with hm | hm
    · exact h.found m hm
    · exact hFound m hm

/-- Nothing is deleted, since all that is stored is listed. -/
theorem left_eq (h : Toward b s ms) {ids : List String}
    (hIds : ∀ id, id ∈ ids ↔ id ∈ b.listed) (fetched : List Message) :
    left ⟨ids, false⟩ ms fetched = ms ++ fetched := by
  have hStored : ∀ m ∈ ms, m.id ∈ ids := by
    intro m hm
    have hFirst := h.first.mem (List.mem_map_of_mem hm)
    exact (hIds m.id).2 (mem_ordered.1 hFirst)
  rw [left]
  simp only [Bool.false_eq_true, if_false]
  rw [List.filter_eq_self.2 fun m hm => decide_eq_true (hStored m hm)]

end Toward

/-- A walk without a limit goes through all that is listed. -/
theorem Walk.whole_listed {b : Mailbox} {size : Nat} {r r' : Scheduled Mailbox}
    {pages : List IdPage} {truncated : Bool} (hState : r.state = b)
    (walk : Walk provider.scheduled size 0 none [] r pages truncated r') :
    r'.state = b ∧ truncated = false ∧ idsOf pages = b.listed := by
  have hWalk := walk.behind
  rw [hState] at hWalk
  have hWhole := hWalk.whole_of_unlimited
  rw [hWhole] at hWalk
  exact ⟨hWalk.same.1, hWhole, hWalk.ids_of_whole⟩

/-- Fetched messages are as they are in the mailbox. -/
theorem Fetches.found {b b' : Mailbox} {ms : List Message}
    (h : Fetches provider (ms.map (·.id)) b ms b') :
    ∀ m ∈ ms, b.find? m.id = some m := by
  have hFinds := h.same.2
  rw [List.map_map] at hFinds
  exact List.map_inj_left.1 hFinds

/-- A sync ends with further messages, and if it ends well, with all of them. -/
theorem run_ends_toward {b : Mailbox} (hKeyed : b.Keyed) {o : Options}
    (hLimit : o.scanLimit = 0) {w : World (Traced (Scheduled Mailbox))}
    (hBacks : b.Backs w) {ms : List Message} (h : Toward b w.store ms) :
    ∃ result r more, Ends (run unreliable o) w result r
        (Store.ofMessages (ms ++ more)) ∧
      Toward b (Store.ofMessages (ms ++ more)) (ms ++ more) ∧
      ∀ report, result = .ok report →
        (ms ++ more).map (·.id) = ordered b.listed := by
  have hState : w.remote.state.state = b := hBacks
  have hCarries : Carries provider.scheduled o w.remote.state := by
    refine Carries.scheduled ?_
    rw [hState]
    exact carries_of_keyed hKeyed o
  obtain ⟨result, r, held, hCourse, hEnds⟩ :=
    run_course o (p := provider.scheduled) h.holds hCarries
  cases hCourse with
  | unlisted onlyLists =>
      rename_i stop r asked
      rw [← List.append_nil ms] at hEnds
      refine ⟨.error stop, _, [], hEnds, ?_, ?_⟩
      · rw [List.append_nil, ← h.holds.eq_ofMessages]
        exact h
      · intro report hReport
        cases hReport
  | unfetched walk plan fetches get =>
      rename_i pages truncated r₁ fetched id later r₂ stop r₃
      rw [hLimit] at walk
      obtain ⟨hBehind, -, hIds⟩ := walk.whole_listed hState
      have hFetches := fetches.behind
      rw [hBehind] at hFetches
      rw [hIds] at plan
      exact ⟨_, _, fetched, hEnds, h.append plan hFetches.found,
        fun report hReport => (by cases hReport)⟩
  | done fuel walk plan fetches =>
      rename_i pages truncated r₁ fetched r₂
      rw [hLimit] at walk
      obtain ⟨hBehind, rfl, hIds⟩ := walk.whole_listed hState
      have hFetches := fetches.behind
      rw [hBehind] at hFetches
      rw [hIds] at plan
      have hAll : (ms ++ fetched).map (·.id) = ordered b.listed := by
        rw [List.map_append, ← plan, h.missing]
      have hCollected (id : String) :
          id ∈ collect [] (idsOf pages) ↔ id ∈ b.listed := by
        rw [mem_collected, hIds]
      rw [h.left_eq hCollected] at hEnds
      have hPlan : (Plan.between b.listed (ms.map (·.id))).toFetch =
          fetched.map (·.id) ++ [] := by
        rw [plan, List.append_nil]
      exact ⟨_, _, fetched, hEnds, h.append hPlan hFetches.found,
        fun report _ => hAll⟩

/-- **A sync brings the store closer to the mailbox**, and one that ends well
leaves nothing missing. -/
theorem run_toward {b : Mailbox} (hKeyed : b.Keyed) {o : Options}
    (hLimit : o.scanLimit = 0) (ms : List Message) :
    Contract (fun w => b.Backs w ∧ Toward b w.store ms) (run unreliable o)
      (fun _ w => ∃ more, Toward b w.store (ms ++ more) ∧
        (ms ++ more).map (·.id) = ordered b.listed)
      (fun _ w => ∃ more, Toward b w.store (ms ++ more)) := by
  rintro w ⟨hBacks, h⟩
  obtain ⟨result, r, more, hEnds, hToward, hWhole⟩ :=
    run_ends_toward hKeyed hLimit hBacks h
  constructor
  · intro report w' hRun
    obtain ⟨hResult, -, hStore⟩ := hEnds.eq_of_apply hRun
    rw [← hStore] at hToward
    exact ⟨more, hToward, hWhole report hResult.symm⟩
  · intro stop w' hRun
    obtain ⟨-, -, hStore⟩ := hEnds.eq_of_apply hRun
    rw [← hStore] at hToward
    exact ⟨more, hToward⟩

end Mailroom.Sync

namespace Mailroom.Run

open Mailroom.Mailbox (provider unreliable behind Backs)
open Mailroom.Session (Contract Keeps)
open Mailroom.Sync (Toward ordered storedIds storedIds_of_holds)

/-! ## Attempts -/

/-- An attempt at a run without rules and without a limit on the listing, with
calls that fail as scheduled. -/
structure Attempt where
  pageSize : Nat
  rulesFile : String
  rulesText : Option String
  schedule : List (Option Stop)
  now : Int

namespace Attempt

/-- What the attempt is to do. -/
def options (a : Attempt) : Options := ⟨⟨a.pageSize, 0⟩, false, true, a.rulesFile⟩

/-- Makes the attempt. -/
def make (a : Attempt) (b : Mailbox) (s : Store) :
    Except Stop Summary × World (Traced (Scheduled Mailbox)) :=
  run unreliable a.options a.rulesText ⟨⟨⟨b, a.schedule⟩, []⟩, s, a.now, []⟩

end Attempt

/-- The mailbox and the store after attempts, one after the other. -/
def afterAttempts (b : Mailbox) (s : Store) : List Attempt → Mailbox × Store
  | [] => (b, s)
  | a :: attempts =>
      afterAttempts (behind (a.make b s).2.remote) (a.make b s).2.store attempts

/-- Without rules, a run is a sync if that is due. -/
theorem run_of_skip {σ : Type} {p : Provider σ} {o : Options}
    (h : o.skipRules = true) (rulesText : Option String) :
    run p o rulesText = (syncIfNeeded p o >>= fun synced =>
      Session.info "Skipping rules" >>= fun _ => pure ⟨synced, 0, 0⟩) := by
  simp only [run, h, if_true]

private theorem keeps_run {b : Mailbox} (a : Attempt) :
    Keeps b.Backs (run unreliable a.options a.rulesText) := by
  rw [run_of_skip rfl]
  exact (keeps_syncIfNeeded (Mailbox.readingKeeps_unreliable b) _).bind fun _ =>
    (keeps_log _ _).bind fun _ => .pure _

/-- What an attempt that ended well leaves behind these messages: the rest of
the mailbox if it synced, and else nothing, since the latest history id among
them is that of the account. -/
inductive Settled (b : Mailbox) (ms : List Message) :
    Summary → List Message → Prop
  | synced {report more} (whole : (ms ++ more).map (·.id) = ordered b.listed) :
      Settled b ms ⟨some report, 0, 0⟩ more
  | current (latest : Store.HistoryId.latest? (ms.map (·.historyId)) =
      some b.historyId) : Settled b ms ⟨none, 0, 0⟩ []

/-- What is left when an attempt has stopped. -/
def Halfway (b : Mailbox) (ms : List Message)
    (w : World (Traced (Scheduled Mailbox))) : Prop :=
  ∃ more, Toward b w.store (ms ++ more)

private theorem syncIfNeeded_toward {b : Mailbox} (hKeyed : b.Keyed) {o : Options}
    (hLimit : o.sync.scanLimit = 0) (hForce : o.force = false)
    (ms : List Message) :
    Contract (fun w => b.Backs w ∧ Toward b w.store ms)
      (syncIfNeeded unreliable o)
      (fun synced w => ∃ more, Toward b w.store (ms ++ more) ∧
        Settled b ms ⟨synced, 0, 0⟩ more)
      (fun _ w => Halfway b ms w) := by
  let latest := Store.HistoryId.latest? (ms.map (·.historyId))
  have hAsIs {w : World (Traced (Scheduled Mailbox))}
      (h : Toward b w.store ms) : Halfway b ms w :=
    ⟨[], by rwa [List.append_nil]⟩
  have hRead : Contract (fun w => b.Backs w ∧ Toward b w.store ms)
      (Session.read fun s _ => s.stats)
      (fun stats w => stats.lastHistoryId = latest ∧ b.Backs w ∧
        Toward b w.store ms) (fun _ w => Halfway b ms w) := by
    refine Contract.read (fun w stats hw hStats => ?_) fun w e hw _ => hAsIs hw.2
    rw [hw.2.holds.stats] at hStats
    cases hStats
    exact ⟨rfl, hw⟩
  have hProfile (stats : Store.Stats) : Contract
      (fun w => stats.lastHistoryId = latest ∧ b.Backs w ∧ Toward b w.store ms)
      (Session.remote unreliable.profile)
      (fun profile w => stats.lastHistoryId = latest ∧
        profile.historyId = b.historyId ∧ b.Backs w ∧ Toward b w.store ms)
      (fun _ w => Halfway b ms w) := by
    refine Contract.remote (fun w profile r hw hCall => ?_)
      fun w stop r hw _ => hAsIs hw.2.2
    obtain ⟨hSame, hAnswer⟩ := Mailbox.profile_spec hCall
    have hBacks : behind w.remote = b := hw.2.1
    refine ⟨hw.1, ?_, hSame.trans hBacks, hw.2.2⟩
    rw [hAnswer profile rfl, hBacks]
    rfl
  rw [syncIfNeeded]
  refine hRead.bind fun stats => (hProfile stats).bind fun profile => ?_
  refine Contract.bind (Contract.log_same fun w _ hw => hw) fun _ => ?_
  refine Contract.bind (Contract.log_same fun w _ hw => hw) fun _ => ?_
  split
  · refine Contract.bind (Contract.log_same fun w _ hw => hw) fun _ => ?_
    intro w hw
    refine (Sync.run_toward hKeyed hLimit ms).bind (fun report => ?_) w hw.2.2
    refine Contract.pure fun w' hw' => ?_
    obtain ⟨more, hToward, hWhole⟩ := hw'
    exact ⟨more, hToward, .synced hWhole⟩
  · rename_i hCurrent
    refine Contract.bind (Contract.log_same fun w _ hw => hw) fun _ => ?_
    refine Contract.pure fun w hw => ?_
    obtain ⟨hLatest, hAccount, -, hToward⟩ := hw
    refine ⟨[], by rwa [List.append_nil], .current ?_⟩
    simpa [Sync.isNeeded, hForce, hLatest, hAccount] using hCurrent

/-- **An attempt brings the store closer to the mailbox.** -/
theorem attempt_toward {b : Mailbox} (hKeyed : b.Keyed) {s : Store}
    {ms : List Message} (h : Toward b s ms) (a : Attempt) :
    ∃ more, Toward b (a.make b s).2.store (ms ++ more) ∧
      ∀ summary, (a.make b s).1 = .ok summary → Settled b ms summary more := by
  have hRun : Contract (fun w => b.Backs w ∧ Toward b w.store ms)
      (run unreliable a.options a.rulesText)
      (fun summary w => ∃ more, Toward b w.store (ms ++ more) ∧
        Settled b ms summary more)
      (fun _ w => Halfway b ms w) := by
    rw [run_of_skip rfl]
    refine (syncIfNeeded_toward hKeyed rfl rfl ms).bind fun synced => ?_
    exact Contract.bind (Contract.log_same fun w _ hw => hw) fun _ =>
      Contract.pure fun w hw => hw
  obtain ⟨hOk, hStop⟩ := hRun ⟨⟨⟨b, a.schedule⟩, []⟩, s, a.now, []⟩ ⟨rfl, h⟩
  cases hMade : a.make b s with
  | mk result w =>
      cases result with
      | ok summary =>
          obtain ⟨more, hToward, hSettled⟩ := hOk summary w hMade
          refine ⟨more, hToward, fun summary' hSummary => ?_⟩
          cases hSummary
          exact hSettled
      | error stop =>
          obtain ⟨more, hToward⟩ := hStop stop w hMade
          exact ⟨more, hToward, fun summary hSummary => (by cases hSummary)⟩

private theorem attempt_remote {b : Mailbox} (a : Attempt) (s : Store) :
    behind (a.make b s).2.remote = b :=
  (keeps_run a).apply (w := ⟨⟨⟨b, a.schedule⟩, []⟩, s, a.now, []⟩) rfl

/-- Many attempts leave the mailbox as it was, and the store on its way. -/
theorem attempts_toward {b : Mailbox} (hKeyed : b.Keyed) {s : Store}
    {ms : List Message} (h : Toward b s ms) (attempts : List Attempt) :
    (afterAttempts b s attempts).1 = b ∧
      ∃ more, Toward b (afterAttempts b s attempts).2 (ms ++ more) := by
  induction attempts generalizing s ms with
  | nil => exact ⟨rfl, [], by rwa [List.append_nil]⟩
  | cons a attempts ih =>
      obtain ⟨more, hToward, -⟩ := attempt_toward hKeyed h a
      rw [afterAttempts, attempt_remote]
      obtain ⟨hSame, later, hLater⟩ := ih hToward
      exact ⟨hSame, more ++ later, by rwa [← List.append_assoc]⟩

/-- **Attempts recover.** After any attempts at a run, starting with tables that
are empty, the mailbox is as it was and the store holds a first part of it. An
attempt after them adds to that part or leaves it as it is, and if it ends well,
then it has synced and exactly the ids that are listed are stored, or it has not
and the store, left as it was, has the history id of the account for its
latest. -/
theorem attempts_recover {b : Mailbox} (hKeyed : b.Keyed)
    (attempts : List Attempt) (last : Attempt) :
    let before := afterAttempts b Store.fresh.ensureSchema attempts
    let ended := last.make before.1 before.2
    before.1 = b ∧ behind ended.2.remote = b ∧
      ∃ ms more, Toward b before.2 ms ∧ Toward b ended.2.store (ms ++ more) ∧
        ∀ summary, ended.1 = .ok summary →
          (summary.sync ≠ none → storedIds ended.2.store = b.listed.toFinset) ∧
          (summary.sync = none → ended.2.store = before.2 ∧
            before.2.stats = .ok ⟨some b.historyId, ms.length⟩) := by
  intro before ended
  obtain ⟨hSame, ms, hBefore⟩ :=
    attempts_toward hKeyed (Toward.empty b) attempts
  rw [List.nil_append] at hBefore
  have hEnded : ended = last.make b before.2 :=
    congrArg (last.make · before.2) hSame
  obtain ⟨more, hAfter, hSettled⟩ := attempt_toward hKeyed hBefore last
  rw [hEnded]
  refine ⟨hSame, attempt_remote last before.2, ms, more, hBefore, hAfter, ?_⟩
  intro summary hOk
  cases hSettled summary hOk with
  | synced whole =>
      refine ⟨fun _ => ?_, fun hNone => (by cases hNone)⟩
      rw [storedIds_of_holds hAfter.holds, whole]
      ext id
      rw [List.mem_toFinset, List.mem_toFinset, Sync.mem_ordered]
  | current latest =>
      refine ⟨fun hSome => absurd rfl hSome, fun _ => ⟨?_, ?_⟩⟩
      · rw [hAfter.holds.eq_ofMessages, List.append_nil,
          ← hBefore.holds.eq_ofMessages]
      · rw [hBefore.holds.stats, latest]

/-- A message with the history id that an account has from the start. -/
def twin (id : String) : Message := { bareMessage id "0" [] with historyId := "1000" }

/-- A mailbox of two such messages. -/
def twins : Mailbox := (Mailbox.empty.put "b" (twin "b")).put "a" (twin "a")

theorem keyed_twins : twins.Keyed :=
  (Mailbox.keyed_empty.put (twin "b")).put (twin "a")

/-- An attempt that fails at this call, counted from zero. -/
def refusedAt (n : Nat) : Attempt :=
  ⟨500, "rules.yaml", none, stopAfter n (.failed (.refused 503 "backend error")), 0⟩

/-- An attempt in which no call is made to fail, after one that failed. -/
def retried (n : Nat) : Except Stop Summary × World (Traced (Scheduled Mailbox)) :=
  let before := afterAttempts twins Store.fresh.ensureSchema [refusedAt n]
  Attempt.make ⟨500, "rules.yaml", none, [], 1⟩ before.1 before.2

/-- If the first attempt fails before it has stored a message, the second one
stores both. -/
theorem attempts_recover_twins :
    twins.Keyed ∧ (retried 2).1 = .ok ⟨some ⟨2, 2, 0⟩, 0, 0⟩ ∧
      storedIds (retried 2).2.store = twins.keys.toFinset := by
  have hEnded : (retried 2).1 = .ok ⟨some ⟨2, 2, 0⟩, 0, 0⟩ := by
    simp only [retried, afterAttempts, Attempt.make, run, syncIfNeeded, Sync.run,
      Sync.Plan.between, Sync.ordered_eq]
    decide +kernel
  obtain ⟨-, -, ms, more, -, -, hSettled⟩ := attempts_recover keyed_twins
    [refusedAt 2] ⟨500, "rules.yaml", none, [], 1⟩
  obtain ⟨hWhole, -⟩ := hSettled _ hEnded
  rw [Mailbox.listed_of_none rfl] at hWhole
  exact ⟨keyed_twins, hEnded, hWhole (Option.some_ne_none _)⟩

/-- If the first attempt has stored one of them, its history id is that of the
account, and the second attempt ends well without the other one. -/
theorem attempt_skips_missing :
    twins.Keyed ∧ (retried 3).1 = .ok ⟨none, 0, 0⟩ ∧
      storedIds (retried 3).2.store ≠ twins.keys.toFinset := by
  obtain ⟨hEnded, hIds⟩ : (retried 3).1 = .ok ⟨none, 0, 0⟩ ∧
      (retried 3).2.store.ids.toOption = some ["a"] := by
    simp only [retried, afterAttempts, Attempt.make, run, syncIfNeeded, Sync.run,
      Sync.Plan.between, Sync.ordered_eq]
    decide +kernel
  have hStored : storedIds (retried 3).2.store = {"a"} :=
    congrArg (fun ids => (ids.getD []).toFinset) hIds
  refine ⟨keyed_twins, hEnded, ?_⟩
  rw [hStored]
  decide

end Mailroom.Run
