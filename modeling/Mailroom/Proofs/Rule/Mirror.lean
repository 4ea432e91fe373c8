import Mailroom.Proofs.Provider.Schedule
import Mailroom.Proofs.Rule.Selection
import Mailroom.Rule.Application

/-!
# The store as a mirror of the mailbox

A store is consistent with a mailbox if each of its rows, with its header
lines, is that of the remote message of the row's id. Applying a rule changes
labels on the remote side first and writes the row anew afterwards, so between
the two the row of one message is behind. This module shows that it never is
more than that one, whatever calls fail: all other steps leave the store and
the mailbox consistent, and a run can stop at any of them.

The argument is one contract for each session that a rule is made of.
`InSync` is what holds between two actions, `Ahead` what holds after the labels
of a message have changed, and `Stopped` what a stop may leave.

## Main results

* `Consistent.remote_messages`: a consistent store holds remote messages.
* `applyAction_contract`: one action, with a stop at any of its calls.
* `apply_keeps_mirror`: a whole rule.
-/

namespace Mailroom.Rule

open Mailroom.Mailbox (unreliable behind)
open Mailroom.Session (Contract)
open Mailroom.Store (Row Tables HeaderRow headerRows)

/-! ## Consistency -/

/-- A row and its header lines are those of the remote message of its id. -/
def Mirrored (b : Mailbox) (t : Tables) (row : Row) : Prop :=
  ∃ m, b.find? m.id = some m ∧ row = Row.encode m ∧
    t.headers.filter (·.messageId = m.id) = headerRows m

/-- Every row of the store is that of a remote message. -/
def Consistent (s : Store) (b : Mailbox) : Prop :=
  ∀ t ∈ s.tables, ∀ row ∈ t.rows, Mirrored b t row

/-- The header lines of one message among those of all. -/
theorem filter_headers {ms : List Message} (hNodup : (ms.map (·.id)).Nodup)
    {m : Message} (hm : m ∈ ms) :
    (ms.flatMap headerRows).filter (·.messageId = m.id) = headerRows m := by
  have hOwn (m : Message) :
      (headerRows m).filter (·.messageId = m.id) = headerRows m := by
    rw [List.filter_eq_self]
    intro h hh
    obtain ⟨header, -, rfl⟩ := List.mem_map.1 hh
    simp
  have hOther {m x : Message} (h : x.id ≠ m.id) :
      (headerRows x).filter (·.messageId = m.id) = [] := by
    rw [List.filter_eq_nil_iff]
    intro h' hh'
    obtain ⟨header, -, rfl⟩ := List.mem_map.1 hh'
    simpa using h
  induction ms with
  | nil => cases hm
  | cons x ms ih =>
      rw [List.map_cons, List.nodup_cons] at hNodup
      rw [List.flatMap_cons, List.filter_append]
      rcases List.mem_cons.1 hm with rfl | hLater
      · have hNone : (ms.flatMap headerRows).filter (·.messageId = m.id) = [] := by
          rw [List.filter_flatMap, List.flatMap_eq_nil_iff]
          intro y hy
          refine hOther fun heq => hNodup.1 ?_
          rw [← heq]
          exact List.mem_map_of_mem hy
        rw [hOwn, hNone, List.append_nil]
      · have hne : x.id ≠ m.id := fun heq => hNodup.1 (by
          rw [heq]
          exact List.mem_map_of_mem hLater)
        rw [hOther hne, ih hNodup.2 hLater, List.nil_append]

/-- A remote message that a store holds is mirrored there. -/
theorem mirrored_of_holds {s : Store} {ms : List Message} (h : s.Holds ms)
    {b : Mailbox} {m : Message} (hm : m ∈ ms) (hFind : b.find? m.id = some m) :
    Mirrored b (Tables.ofMessages ms) (Row.encode m) :=
  ⟨m, hFind, rfl, filter_headers h.nodup hm⟩

private theorem consistent_of_holds {s : Store} {ms : List Message} (h : s.Holds ms)
    {b : Mailbox} (hFind : ∀ m ∈ ms, b.find? m.id = some m) :
    Consistent s b := by
  intro t ht row hRow
  rw [h.tables] at ht
  cases ht
  obtain ⟨m, hm, rfl⟩ := List.mem_map.1 hRow
  exact mirrored_of_holds h hm (hFind m hm)

theorem id_of_encode_eq {m m' : Message} (h : Row.encode m = Row.encode m') :
    m.id = m'.id := by
  have hId := congrArg (Row.get · .id) h
  simpa [Row.valueOf] using hId

/-- A consistent store that holds messages holds those of the mailbox: what it
was written from is not told apart from them. -/
theorem Consistent.remote_messages {s : Store} {b : Mailbox}
    (h : Consistent s b) {ms : List Message} (hHolds : s.Holds ms) :
    ∃ ms', s.Holds ms' ∧ ∀ m ∈ ms', b.find? m.id = some m := by
  let remote (m : Message) : Message := (b.find? m.id).getD m
  have hRemote : ∀ m ∈ ms, b.find? m.id = some (remote m) ∧
      Row.encode (remote m) = Row.encode m ∧
        headerRows (remote m) = headerRows m := by
    intro m hm
    obtain ⟨x, hFind, hRow, hHeaders⟩ := h _ hHolds.tables _
      (List.mem_map_of_mem hm)
    have hId := id_of_encode_eq hRow
    have hEq : remote m = x := by
      simp only [remote, hId, hFind, Option.getD_some]
    rw [hEq]
    refine ⟨by rw [hId, hFind], hRow.symm, ?_⟩
    rw [← hHeaders, ← hId]
    exact filter_headers hHolds.nodup hm
  have hIds : (ms.map remote).map (·.id) = ms.map (·.id) := by
    rw [List.map_map]
    exact List.map_congr_left fun m hm => id_of_encode_eq (hRemote m hm).2.1
  refine ⟨ms.map remote, ⟨?_, by rw [hIds]; exact hHolds.nodup⟩, ?_⟩
  · have hRows : (ms.map remote).map Row.encode = ms.map Row.encode := by
      rw [List.map_map]
      exact List.map_congr_left fun m hm => (hRemote m hm).2.1
    have hHeaders : (ms.map remote).flatMap headerRows =
        ms.flatMap headerRows := by
      rw [List.flatMap_map, List.flatMap_def, List.flatMap_def,
        List.map_congr_left fun m hm => (hRemote m hm).2.2]
    rw [hHolds.tables, Tables.ofMessages, Tables.ofMessages, hRows, hHeaders]
  · intro x hx
    obtain ⟨m, hm, rfl⟩ := List.mem_map.1 hx
    rw [id_of_encode_eq (hRemote m hm).2.1]
    exact (hRemote m hm).1

/-! ## What holds along a run -/

/-- The store holds messages with the ids that were there at the start, and of
the messages whose ids are not touched, what it held then. -/
structure Tracks (start : List Message) (touched : String → Prop)
    (ms : List Message) (s : Store) : Prop where
  holds : s.Holds ms
  ids : ∀ id, id ∈ ms.map (·.id) ↔ id ∈ start.map (·.id)
  kept : ∀ m ∈ start, ¬touched m.id → m ∈ ms

section Contracts

variable (start : List Message) (touched : String → Prop)

/-- Every message in the store is the remote one. -/
def InSync (w : World (Traced (Scheduled Mailbox))) : Prop :=
  ∃ ms, Tracks start touched ms w.store ∧
    ∀ m ∈ ms, (behind w.remote).find? m.id = some m

/-- Every message in the store but that of one id is the remote one. -/
def InSyncBut (id : String) (w : World (Traced (Scheduled Mailbox))) : Prop :=
  ∃ ms, Tracks start touched ms w.store ∧
    ∀ m ∈ ms, m.id ≠ id → (behind w.remote).find? m.id = some m

/-- The labels of a remote message have just changed, and its row has not been
written yet. -/
def Ahead (id : String) (change : LabelChange)
    (w : World (Traced (Scheduled Mailbox))) : Prop :=
  InSyncBut start touched id w ∧
    (∀ m, (behind w.remote).find? id = some m → m.id = id) ∧
      ∃ r, unreliable.modify id change r = (.ok (), w.remote)

/-- What a stop may leave: nothing behind, or the message whose labels have
changed and which could not be fetched. -/
def Stopped (stop : Stop) (w : World (Traced (Scheduled Mailbox))) : Prop :=
  InSync start touched w ∨
    ∃ id change r r₁, unreliable.modify id change r = (.ok (), r₁) ∧
      unreliable.get id r₁ = (.error stop, w.remote) ∧
        InSyncBut start touched id w

variable {start touched}

/-- Nothing but the mailbox and the store matters. -/
theorem InSync.congr {w w' : World (Traced (Scheduled Mailbox))}
    (h : InSync start touched w) (hStore : w'.store = w.store)
    (hMailbox : behind w'.remote = behind w.remote) :
    InSync start touched w' := by
  unfold InSync
  rw [hStore, hMailbox]
  exact h

/-! ## One action -/

/-- Working out the change leaves everything as it is. -/
theorem labelChange_contract (action : Action) :
    Contract (InSync start touched)
      (Session.remote (action.labelChange unreliable))
      (fun _ => InSync start touched) (Stopped start touched) := by
  refine Contract.remote ?_ ?_
  · intro w change r hw hCall
    exact hw.congr rfl (Mailbox.labelChange_spec hCall)
  · intro w stop r hw hCall
    exact .inl (hw.congr rfl (Mailbox.labelChange_spec hCall))

/-- Changing the labels of a message gets the mailbox ahead of its row, and of
no other. -/
theorem modify_contract {id : String} (hId : id ∈ start.map (·.id))
    (change : LabelChange) :
    Contract (InSync start touched)
      (Session.remote (unreliable.modify id change))
      (fun _ => Ahead start touched id change) (Stopped start touched) := by
  refine Contract.remote ?_ ?_
  · intro w a r hw hCall
    obtain ⟨ms, hTracks, hFind⟩ := hw
    have hChanged : behind r = (behind w.remote).changeLabels id change := by
      rcases Mailbox.modify_spec hCall with ⟨stop, hStop, -⟩ | ⟨-, hChanged⟩
      · cases hStop
      · exact hChanged
    refine ⟨⟨ms, hTracks, ?_⟩, ?_, w.remote, hCall⟩
    · intro m hm hne
      show (behind r).find? m.id = some m
      rw [hChanged, Mailbox.find?_changeLabels_ne hne]
      exact hFind m hm
    · intro m hm
      obtain ⟨old, hOld, hOldId⟩ := List.mem_map.1 ((hTracks.ids id).2 hId)
      have hFound := hFind old hOld
      rw [hOldId] at hFound
      change (behind r).find? id = some m at hm
      rw [hChanged, Mailbox.find?_changeLabels_self, hFound] at hm
      cases hm
      exact hOldId
  · intro w stop r hw hCall
    refine .inl (hw.congr rfl ?_)
    rcases Mailbox.modify_spec hCall with ⟨-, -, hSame⟩ | ⟨hOk, -⟩
    · exact hSame
    · cases hOk

/-- The one call that may leave a row behind. -/
theorem get_contract (id : String) (change : LabelChange) :
    Contract (Ahead start touched id change)
      (Session.remote (unreliable.get id))
      (fun fresh w => fresh.id = id ∧ InSyncBut start touched id w ∧
        (behind w.remote).find? id = some fresh)
      (Stopped start touched) := by
  refine Contract.remote ?_ ?_
  · intro w fresh r hw hCall
    obtain ⟨⟨ms, hTracks, hFind⟩, hIds, -⟩ := hw
    obtain ⟨hSame, hFound⟩ := Mailbox.get_spec hCall
    have hFresh := hFound fresh rfl
    refine ⟨hIds fresh hFresh, ⟨ms, hTracks, ?_⟩, ?_⟩
    · intro m hm hne
      show (behind r).find? m.id = some m
      rw [hSame]
      exact hFind m hm hne
    · show (behind r).find? id = some fresh
      rw [hSame]
      exact hFresh
  · intro w stop r hw hCall
    obtain ⟨⟨ms, hTracks, hFind⟩, -, r₀, hModify⟩ := hw
    refine .inr ⟨id, change, r₀, w.remote, hModify, hCall, ms, hTracks, ?_⟩
    intro m hm hne
    show (behind r).find? m.id = some m
    rw [(Mailbox.get_spec hCall).1]
    exact hFind m hm hne

/-- Writing the fetched message catches up. -/
theorem replace_contract {id : String} (hId : id ∈ start.map (·.id))
    (hTouched : touched id) (fresh : Message) :
    Contract (fun w => fresh.id = id ∧ InSyncBut start touched id w ∧
        (behind w.remote).find? id = some fresh)
      (Session.write (·.replace fresh)) (fun _ => InSync start touched)
      (Stopped start touched) := by
  refine Contract.write_of_ok ?_
  rintro w ⟨rfl, ⟨ms, hTracks, hFind⟩, hFresh⟩
  obtain ⟨s, hReplace, hHolds⟩ := hTracks.holds.replace fresh
  refine ⟨s, hReplace, ms.filter (·.id ≠ fresh.id) ++ [fresh],
    ⟨hHolds, ?_, ?_⟩, ?_⟩
  · intro k
    rw [← hTracks.ids k]
    by_cases hk : k = fresh.id
    · subst hk
      simp only [(hTracks.ids fresh.id).2 hId, iff_true]
      simp
    · have hne : ¬fresh.id = k := fun heq => hk heq.symm
      simp only [List.map_append, List.mem_append, List.mem_map,
        List.mem_filter, List.map_cons, List.map_nil, List.mem_singleton]
      constructor
      · rintro (⟨m, ⟨hm, -⟩, rfl⟩ | hNew)
        · exact ⟨m, hm, rfl⟩
        · exact absurd hNew hk
      · rintro ⟨m, hm, rfl⟩
        exact .inl ⟨m, ⟨hm, by simpa using hk⟩, rfl⟩
  · intro m hm hKept
    have hne : m.id ≠ fresh.id := fun heq => hKept (by rwa [heq])
    have hOld := hTracks.kept m hm hKept
    simp [hOld, hne]
  · intro m hm
    rcases List.mem_append.1 hm with hOld | hNew
    · obtain ⟨hOld, hne⟩ := List.mem_filter.1 hOld
      exact hFind m hOld (by simpa using hne)
    · rw [List.mem_singleton.1 hNew]
      exact hFresh

/-- **One action** leaves the store in step with the mailbox, or stops with no
more than the one row behind. -/
theorem applyAction_contract {id : String} (hId : id ∈ start.map (·.id))
    (hTouched : touched id) (action : Action) :
    Contract (InSync start touched) (applyAction unreliable id action)
      (fun _ => InSync start touched) (Stopped start touched) :=
  (labelChange_contract action).bind fun change =>
    (modify_contract hId change).bind fun _ =>
      (get_contract id change).bind fun fresh =>
        replace_contract hId hTouched fresh

/-! ## A whole rule -/

private theorem applyActions_contract {id : String} (hId : id ∈ start.map (·.id))
    (hTouched : touched id) (actions : List Action) :
    Contract (InSync start touched) (applyActions unreliable id actions)
      (fun _ => InSync start touched) (Stopped start touched) := by
  induction actions with
  | nil => exact Contract.pure fun w hw => hw
  | cons action actions ih =>
      exact (applyAction_contract hId hTouched action).bind fun _ => ih

/-- The message read from a row has the row's id. -/
theorem id_of_decode_row {row : Row} {m : Message} (h : row.decode = .ok m) :
    m.id = row.textOf .id := by
  unfold Row.decode at h
  split at h
  · cases h
  · cases hLabels : row.list .labelIds (Json.list? Json.text?) with
    | error e => simp [hLabels, bind, Except.bind] at h
    | ok labels =>
        cases hParts : row.list .parts Row.partList? with
        | error e => simp [hLabels, hParts, bind, Except.bind] at h
        | ok parts =>
            simp only [hLabels, hParts, bind, Except.bind, pure, Except.pure,
              Except.ok.injEq] at h
            rw [← h]

theorem id_of_decode {m m' : Message} (h : (Row.encode m).decode = .ok m') :
    m'.id = m.id := by
  rw [id_of_decode_row h, Store.textOf_id_encode]

private theorem applyToRows_contract (rule : Rule) (actions : List Action)
    {rows : List Row}
    (hRows : ∀ row ∈ rows, ∃ m ∈ start, row = Row.encode m ∧ touched m.id) :
    Contract (InSync start touched) (applyToRows unreliable rule actions rows)
      (fun _ => InSync start touched) (Stopped start touched) := by
  induction rows with
  | nil => exact Contract.pure fun w hw => hw
  | cons row rows ih =>
      obtain ⟨m, hm, rfl, hTouched⟩ := hRows row (by simp)
      have hId : m.id ∈ start.map (·.id) := List.mem_map_of_mem hm
      have hLater := ih fun row h => hRows row (by simp [h])
      have hDecode : Contract (InSync start touched)
          (Session.ofExcept (Row.encode m).decode)
          (fun x w => x.id = m.id ∧ InSync start touched w)
          (Stopped start touched) :=
        Contract.ofExcept (fun x hx w hw => ⟨id_of_decode hx, hw⟩)
          fun e he w hw => .inl hw
      refine hDecode.bind fun x => ?_
      have hLine : Contract (fun w => x.id = m.id ∧ InSync start touched w)
          (Session.info (matchLine rule x))
          (fun _ w => x.id = m.id ∧ InSync start touched w)
          (Stopped start touched) :=
        Contract.log fun w hw => hw
      refine hLine.bind fun _ => ?_
      intro w hw
      obtain ⟨hSame, hInSync⟩ := hw
      have hActions := applyActions_contract hId hTouched actions
      have hRest : Contract (InSync start touched)
          (applyActions unreliable m.id actions >>= fun _ => do
            return (← applyToRows unreliable rule actions rows) + 1)
          (fun _ => InSync start touched) (Stopped start touched) :=
        hActions.bind fun _ =>
          hLater.bind fun n => Contract.pure fun w hw => hw
      rw [hSame]
      exact hRest w hInSync

end Contracts

/-! ## What a rule leaves -/

/-- A row that the query of a rule gives. -/
def Matched (rule : Rule) (s : Store) (now : Int) (row : Row) : Prop :=
  ∃ query rows, rule.compile = .ok query ∧
    s.query query.sql query.arguments now = .ok rows ∧ row ∈ rows

/-- The store has a row of an id. -/
def Stored (s : Store) (id : String) : Prop :=
  ∃ t ∈ s.tables, ∃ row ∈ t.rows, row.hasId id = true

/-- What a rule that was applied to a consistent pair leaves. A stop may leave
one message behind, and then the last two calls were the change of its labels,
which succeeded, and fetching it, which did not. -/
structure KeepsMirror (rule : Rule) (w : World (Traced (Scheduled Mailbox)))
    (result : Except Stop Report) (w' : World (Traced (Scheduled Mailbox))) :
    Prop where
  consistent : ∀ report, result = .ok report →
    Consistent w'.store (behind w'.remote)
  stopped : ∀ stop, result = .error stop →
    Consistent w'.store (behind w'.remote) ∨
      ∃ id change r r₁, unreliable.modify id change r = (.ok (), r₁) ∧
        unreliable.get id r₁ = (.error stop, w'.remote) ∧
          ∀ t ∈ w'.store.tables, ∀ row ∈ t.rows, row.hasId id = false →
            Mirrored (behind w'.remote) t row
  ids : ∀ id, Stored w'.store id ↔ Stored w.store id
  unique : ∀ t ∈ w'.store.tables,
    t.rows.Pairwise fun a b => a.get .id ≠ b.get .id
  unmatched : ∀ t ∈ w.store.tables, ∀ row ∈ t.rows,
    ¬Matched rule w.store w.now row →
      ∃ t' ∈ w'.store.tables, row ∈ t'.rows ∧ ∀ id, row.hasId id = true →
        t'.headers.filter (·.messageId = id) =
          t.headers.filter (·.messageId = id)

private theorem stored_iff {s : Store} {ms : List Message} (h : s.Holds ms)
    (id : String) : Stored s id ↔ id ∈ ms.map (·.id) := by
  constructor
  · rintro ⟨t, ht, row, hRow, hId⟩
    rw [h.tables] at ht
    cases ht
    obtain ⟨m, hm, rfl⟩ := List.mem_map.1 hRow
    rw [Store.hasId_encode, decide_eq_true_eq] at hId
    rw [← hId]
    exact List.mem_map_of_mem hm
  · intro hId
    obtain ⟨m, hm, rfl⟩ := List.mem_map.1 hId
    refine ⟨_, h.tables, Row.encode m, List.mem_map_of_mem hm, ?_⟩
    rw [Store.hasId_encode, decide_eq_true_eq]

/-- A rule that stops before its first call leaves all as it was. -/
theorem keepsMirror_of_same {rule : Rule} {ops : List Store.Operation}
    {w : World (Traced (Scheduled Mailbox))}
    (hStore : w.store = Store.fresh.after ops)
    (hConsistent : Consistent w.store (behind w.remote)) (e : Error) :
    KeepsMirror rule w (.error (.failed e)) w where
  consistent report h := by cases h
  stopped stop h := .inl hConsistent
  ids id := Iff.rfl
  unique t ht := by
    rw [hStore] at ht
    rcases Store.after_holds ops with hNone | ⟨ms, hHolds⟩
    · rw [hNone] at ht
      cases ht
    · rw [hHolds.tables] at ht
      cases ht
      exact hHolds.pairwise_rows
  unmatched t ht row hRow h := ⟨t, ht, hRow, fun id hId => rfl⟩

section Left

variable {rule : Rule} {start : List Message} {touched : String → Prop}
  {ms : List Message} {s : Store} {w : World (Traced (Scheduled Mailbox))}

private theorem Tracks.ids_iff (h : Tracks start touched ms s)
    (hStart : w.store.Holds start) (id : String) :
    Stored s id ↔ Stored w.store id := by
  rw [stored_iff h.holds, stored_iff hStart]
  exact h.ids id

private theorem Tracks.unique (h : Tracks start touched ms s) :
    ∀ t ∈ s.tables, t.rows.Pairwise fun a b => a.get .id ≠ b.get .id := by
  intro t ht
  rw [h.holds.tables] at ht
  cases ht
  exact h.holds.pairwise_rows

/-- A row that is not touched is still there, with its header lines. -/
theorem Tracks.unmatched (h : Tracks start touched ms s)
    (hStart : w.store.Holds start)
    (hTouched : ∀ m ∈ start, touched m.id →
      Matched rule w.store w.now (Row.encode m)) :
    ∀ t ∈ w.store.tables, ∀ row ∈ t.rows, ¬Matched rule w.store w.now row →
      ∃ t' ∈ s.tables, row ∈ t'.rows ∧ ∀ id, row.hasId id = true →
        t'.headers.filter (·.messageId = id) =
          t.headers.filter (·.messageId = id) := by
  intro t ht row hRow hNot
  rw [hStart.tables] at ht
  cases ht
  obtain ⟨m, hm, rfl⟩ := List.mem_map.1 hRow
  have hKept := h.kept m hm fun hTouch => hNot (hTouched m hm hTouch)
  refine ⟨_, h.holds.tables, List.mem_map_of_mem hKept, fun id hId => ?_⟩
  rw [Store.hasId_encode, decide_eq_true_eq] at hId
  subst hId
  exact (filter_headers h.holds.nodup hKept).trans
    (filter_headers hStart.nodup hm).symm

end Left

/-- What is behind is behind under one id. -/
theorem mirrored_of_inSyncBut {start : List Message} {touched : String → Prop}
    {id : String} {w : World (Traced (Scheduled Mailbox))}
    (h : InSyncBut start touched id w) :
    ∀ t ∈ w.store.tables, ∀ row ∈ t.rows, row.hasId id = false →
      Mirrored (behind w.remote) t row := by
  obtain ⟨ms, hTracks, hFind⟩ := h
  intro t ht row hRow hId
  rw [hTracks.holds.tables] at ht
  cases ht
  obtain ⟨m, hm, rfl⟩ := List.mem_map.1 hRow
  rw [Store.hasId_encode, decide_eq_false_iff_not] at hId
  exact mirrored_of_holds hTracks.holds hm (hFind m hm hId)

section Left

variable {rule : Rule} {start : List Message} {touched : String → Prop}
  {w w' : World (Traced (Scheduled Mailbox))} (hStart : w.store.Holds start)
  (hTouched : ∀ m ∈ start, touched m.id → Matched rule w.store w.now (Row.encode m))
include hStart hTouched

/-- What is left in step is a mirror, however the rule has ended. -/
theorem keepsMirror_of_inSync (h : InSync start touched w') (result : Except Stop Report) :
    KeepsMirror rule w result w' := by
  obtain ⟨ms, hTracks, hFind⟩ := h
  exact {
    consistent := fun _ _ => consistent_of_holds hTracks.holds hFind
    stopped := fun _ _ => .inl (consistent_of_holds hTracks.holds hFind)
    ids := hTracks.ids_iff hStart
    unique := hTracks.unique
    unmatched := hTracks.unmatched hStart hTouched }

/-- What a stop leaves is a mirror but for one message. -/
theorem keepsMirror_of_stopped {stop : Stop} (h : Stopped start touched stop w') :
    KeepsMirror rule w (.error stop) w' := by
  rcases h with hInSync | ⟨id, change, r, r₁, hModify, hGet, hBut⟩
  · exact keepsMirror_of_inSync hStart hTouched hInSync _
  · have hMirrored := mirrored_of_inSyncBut hBut
    obtain ⟨ms, hTracks, -⟩ := hBut
    exact {
      consistent := fun report h => (by cases h)
      stopped := fun stop' h => (by
        cases h
        exact .inr ⟨id, change, r, r₁, hModify, hGet, hMirrored⟩)
      ids := hTracks.ids_iff hStart
      unique := hTracks.unique
      unmatched := hTracks.unmatched hStart hTouched }

end Left

/-- One of these rows has this id. -/
def HasRow (rows : List Row) (id : String) : Prop := ∃ row ∈ rows, row.hasId id = true

/-- The rows that a query gives are those of messages in the store, and as ids tell rows
apart, a message whose id they have is one of those. -/
theorem rows_of_query {rule : Rule} {s : Store} {start : List Message} {query : Query}
    {rows : List Row} {now : Int} (hStart : s.Holds start)
    (hCompile : rule.compile = .ok query)
    (hQuery : s.query query.sql query.arguments now = .ok rows) :
    (∀ row ∈ rows, ∃ m ∈ start, row = Row.encode m ∧ HasRow rows m.id) ∧
      ∀ m ∈ start, HasRow rows m.id → Matched rule s now (Row.encode m) := by
  obtain ⟨mode, filters, -, -, rfl⟩ := compile_eq_ok hCompile
  obtain ⟨t, hTables, hMem⟩ := mem_of_query hQuery
  rw [hStart.tables] at hTables
  cases hTables
  have hRows : ∀ row ∈ rows, ∃ m ∈ start, row = Row.encode m ∧ HasRow rows m.id := by
    intro row hRow
    obtain ⟨m, hm, rfl⟩ := List.mem_map.1
      (hMem (fun _ => Tables.length_of_mem_ofMessages) row hRow)
    exact ⟨m, hm, rfl, _, hRow, by rw [Store.hasId_encode]; simp⟩
  refine ⟨hRows, ?_⟩
  rintro m hm ⟨row, hRow, hId⟩
  obtain ⟨m', hm', rfl, -⟩ := hRows row hRow
  rw [Store.hasId_encode, decide_eq_true_eq] at hId
  obtain rfl := hStart.eq_of_id hm' hm hId
  exact ⟨_, rows, hCompile, hQuery, hRow⟩

/-- A query that was answered found tables. -/
theorem tables_of_query {rule : Rule} {s : Store} {query : Query} {rows : List Row} {now : Int}
    (hCompile : rule.compile = .ok query)
    (hQuery : s.query query.sql query.arguments now = .ok rows) : s.tables.isSome := by
  obtain ⟨mode, filters, -, -, rfl⟩ := compile_eq_ok hCompile
  obtain ⟨t, hTables, -⟩ := mem_of_query hQuery
  exact Option.isSome_iff_exists.2 ⟨t, hTables⟩

/-- Once its query has been answered, a rule goes through the rows and reports
how many there were. -/
theorem apply_of_query {σ : Type} {p : Provider σ} {rule : Rule} {w : World σ}
    {query : Query} {actions : List Action} {rows : List Row}
    (hCompile : rule.compile = .ok query)
    (hActions : Action.parseAll rule.actions = .ok actions)
    (hQuery : w.store.query query.sql query.arguments w.now = .ok rows) :
    ∃ line : Nat → String, rule.apply p w =
      (applyToRows p rule actions rows >>= fun n =>
        Session.info (line n) >>= fun _ =>
          pure (⟨n, n * actions.length⟩ : Report)) w := by
  have hRead : (Session.read fun s now =>
      s.query query.sql query.arguments now : Session σ (List Row)) w =
        (.ok rows, w) := Session.read_ok hQuery
  refine ⟨fun n => "Rule '" ++ rule.name ++ "' done: " ++ natText n ++
    " matched, " ++ natText (n * actions.length) ++ " actions applied", ?_⟩
  rw [Rule.apply, hCompile, hActions,
    Call.bind_of_ok (Session.ofExcept_apply _ _),
    Call.bind_of_ok (Session.ofExcept_apply _ _), Call.bind_of_ok hRead]

/-- A rule that cannot be compiled, or whose actions cannot be read, or whose
query has no answer, stops before its first call. -/
theorem apply_before_calls {σ : Type} (p : Provider σ) (rule : Rule)
    (w : World σ) :
    (∃ e, rule.apply p w = (.error (.failed e), w)) ∨
      ∃ query actions rows, rule.compile = .ok query ∧
        Action.parseAll rule.actions = .ok actions ∧
          w.store.query query.sql query.arguments w.now = .ok rows := by
  cases hCompile : rule.compile with
  | error e => exact .inl ⟨e, by simp [Rule.apply, Call.bind_apply, hCompile]⟩
  | ok query =>
      cases hActions : Action.parseAll rule.actions with
      | error e =>
          exact .inl ⟨e, by
            simp [Rule.apply, Call.bind_apply, hCompile, hActions]⟩
      | ok actions =>
          cases hQuery : w.store.query query.sql query.arguments w.now with
          | error e =>
              have hRead : (Session.read fun s now =>
                  s.query query.sql query.arguments now :
                    Session σ (List Row)) w = (.error (.failed e), w) :=
                Session.read_error hQuery
              refine .inl ⟨e, ?_⟩
              simp [Rule.apply, Call.bind_apply, hCompile, hActions, hRead]
          | ok rows => exact .inr ⟨query, actions, rows, rfl, rfl, hQuery⟩

/-- Once its query has been answered, a rule keeps to what its rows keep to. -/
theorem apply_contract {rule : Rule} {w : World (Traced (Scheduled Mailbox))} {query : Query}
    {actions : List Action} {rows : List Row} {start : List Message}
    {touched : String → Prop} (hCompile : rule.compile = .ok query)
    (hActions : Action.parseAll rule.actions = .ok actions)
    (hQuery : w.store.query query.sql query.arguments w.now = .ok rows)
    (hRows : ∀ row ∈ rows, ∃ m ∈ start, row = Row.encode m ∧ touched m.id)
    (hInSync : InSync start touched w) :
    (∀ report w', rule.apply unreliable w = (.ok report, w') → InSync start touched w') ∧
      ∀ stop w', rule.apply unreliable w = (.error stop, w') →
        Stopped start touched stop w' := by
  obtain ⟨line, hApply⟩ := apply_of_query (p := unreliable) hCompile hActions hQuery
  have hLine (n : Nat) : Contract (InSync start touched)
      (Session.info (line n) : Session _ Unit) (fun _ => InSync start touched)
      (Stopped start touched) := Contract.log fun w hw => hw
  have hRun : Contract (InSync start touched)
      (applyToRows unreliable rule actions rows >>= fun n =>
        Session.info (line n) >>= fun _ =>
          pure (⟨n, n * actions.length⟩ : Report))
      (fun _ => InSync start touched) (Stopped start touched) :=
    (applyToRows_contract rule actions hRows).bind fun n =>
      (hLine n).bind fun _ => Contract.pure fun w hw => hw
  rw [hApply]
  exact hRun w hInSync

/-- **A rule keeps the mirror.** However calls fail, a rule that ends well
leaves a consistent store consistent, and one that stops leaves at most the
message behind whose labels it had just changed. The ids in the store and the
rows that the query did not give stay as they were. -/
theorem apply_keeps_mirror (ops : List Store.Operation)
    (w : World (Traced (Scheduled Mailbox)))
    (hStore : w.store = Store.fresh.after ops)
    (hConsistent : Consistent w.store (behind w.remote)) (rule : Rule) :
    KeepsMirror rule w (rule.apply unreliable w).1 (rule.apply unreliable w).2 := by
  rcases apply_before_calls unreliable rule w with
    ⟨e, hApply⟩ | ⟨query, actions, rows, hCompile, hActions, hQuery⟩
  · rw [hApply]
    exact keepsMirror_of_same hStore hConsistent e
  have hTables := tables_of_query hCompile hQuery
  rcases Store.after_holds ops with hNone | ⟨ms, hHeld⟩
  · rw [hStore, hNone] at hTables
    cases hTables
  rw [← hStore] at hHeld
  obtain ⟨start, hStart, hRemote⟩ := hConsistent.remote_messages hHeld
  obtain ⟨hRows, hTouched⟩ := rows_of_query hStart hCompile hQuery
  obtain ⟨hOk, hStop⟩ := apply_contract hCompile hActions hQuery hRows
    ⟨start, ⟨hStart, fun id => Iff.rfl, fun m hm _ => hm⟩, hRemote⟩
  cases hResult : rule.apply unreliable w with
  | mk result w' =>
      cases result with
      | ok report => exact keepsMirror_of_inSync hStart hTouched (hOk report w' hResult) _
      | error stop => exact keepsMirror_of_stopped hStart hTouched (hStop stop w' hResult)

/-- One message, whose labels change and which then cannot be fetched: its row
is the one that is behind. -/
theorem apply_keeps_mirror_interrupted :
    let m := bareMessage "a" "0" [Message.unreadLabel]
    let ops : List Store.Operation := [.ensureSchema, .insert m]
    let mailbox := { Mailbox.empty with messages := [("a", m)] }
    let rule : Rule := ⟨"seen", "all", [], [⟨"read", none⟩]⟩
    let w : World (Traced (Scheduled Mailbox)) :=
      ⟨⟨⟨mailbox, [none, some .interrupted]⟩, []⟩, Store.fresh.after ops, 0, []⟩
    w.store = Store.fresh.after ops ∧ Consistent w.store (behind w.remote) ∧
      KeepsMirror rule w (rule.apply unreliable w).1
        (rule.apply unreliable w).2 := by
  intro m ops mailbox rule w
  have hHolds : (Store.fresh.after ops).Holds [m] :=
    Store.holds_of_nodup [m] (by decide)
  have hConsistent : Consistent w.store (behind w.remote) := by
    refine consistent_of_holds hHolds ?_
    intro x hx
    rw [List.mem_singleton.1 hx]
    rfl
  exact ⟨rfl, hConsistent, apply_keeps_mirror ops w rfl hConsistent rule⟩

end Mailroom.Rule
