import Mailroom.Proofs.Rule.Mirror
import Mailroom.Proofs.Rule.Relabel

/-!
# What a rule does to a mailbox in memory

A rule that goes through leaves a mailbox with the labels of the selected
messages changed, and a store whose rows are those of the messages that were not
selected, as they were, and then those of the selected ones as they are in the
mailbox now. `Mailbox.relabel` and `rebuilt` say this without a word about calls.

Whether a rule goes through is decided before the first call: its query has an
answer, the rows can be read, and no call that it makes is one that fails.
`exists_applies` finds that out from a run, and `Applies.ends` says from it
how a run ends.
-/

namespace Mailroom.Mailbox

open Mailroom.Rule (LabelChange Action)

/-! ## Calls that go through -/

/-- A call that goes through is not one that was made to fail. -/
theorem failure?_of_call {α : Type} {kind : CallKind} {id : String}
    {answer : Mailbox → Except Error (α × Mailbox)} {b b' : Mailbox} {a : α}
    (h : call kind id answer b = (.ok a, b')) : b.failure? kind id = none := by
  unfold call at h
  cases hFailure : b.failure? kind id with
  | none => rfl
  | some f =>
      rw [hFailure] at h
      cases h

private theorem failure?_of_modify {id : String} {change : LabelChange} {b b' : Mailbox}
    (h : provider.modify id change b = (.ok (), b')) :
    b.failure? .modify id = none := by
  simp only [provider] at h
  exact failure?_of_call h

private theorem failure?_of_get {id : String} {b b' : Mailbox} {m : Message}
    (h : provider.get id b = (.ok m, b')) : b.failure? .get id = none := by
  simp only [provider] at h
  exact failure?_of_call h

/-- What an action comes down to is worked out without a change. -/
theorem labelChange_eq_ok {action : Action} {b b' : Mailbox}
    {change : LabelChange}
    (h : action.labelChange provider b = (.ok change, b')) :
    b' = b ∧ change = action.changeOn b := by
  refine ⟨?_, by rw [Action.changeOn, h]⟩
  cases action with
  | move label =>
      obtain ⟨id?, b₁, hResolve, hRest⟩ := Call.bind_eq_ok h
      have hSame := resolve_cases hResolve
      cases id? with
      | none => cases hRest
      | some id =>
          cases hRest
          exact hSame
  | markRead =>
      cases h
      rfl
  | markUnread =>
      cases h
      rfl

/-- The mailbox has a message under its id. -/
def Found (b : Mailbox) (id : String) : Prop :=
  ∃ m, b.find? id = some m ∧ m.id = id

theorem Found.relabel {b : Mailbox} {id : String} (h : b.Found id)
    (ids : List String) (changes : List LabelChange) :
    (b.relabel ids changes).Found id := by
  obtain ⟨m, hFind, hId⟩ := h
  refine ⟨_, by rw [find?_relabel, hFind, Option.map_some], ?_⟩
  split
  · exact hId
  · exact hId

end Mailroom.Mailbox

namespace Mailroom.Rule

open Mailroom.Mailbox (provider SameAccount Found)
open Mailroom.Session (Ends)
open Mailroom.Store (Row)

/-- The calls that an action makes on a message go through. -/
structure Goes (b : Mailbox) (id : String) (action : Action) : Prop where
  change : action.labelChange provider b = (.ok (action.changeOn b), b)
  modify : b.failure? .modify id = none
  get : b.failure? .get id = none

theorem Goes.congr {b b' : Mailbox} {id : String} {action : Action}
    (h : Goes b id action) (hSame : SameAccount b b') : Goes b' id action where
  change := by
    have hResult := hSame.labelChange action
    rw [h.change] at hResult
    cases hCall : action.labelChange provider b' with
    | mk result b₁ =>
        rw [hCall] at hResult
        cases hResult
        obtain ⟨rfl, hChange⟩ := Mailbox.labelChange_eq_ok hCall
        rw [hChange]
  modify := by rw [hSame.failure?, h.modify]
  get := by rw [hSame.failure?, h.get]

/-! ## What a run tells -/

section

variable {id : String} {w w' : World Mailbox}

private theorem goes_of_applyAction {action : Action}
    (h : applyAction provider id action w = (.ok (), w')) :
    Goes w.remote id action ∧ SameAccount w.remote w'.remote := by
  obtain ⟨change, w₁, hChange, hRest⟩ := Call.bind_eq_ok h
  obtain ⟨_, w₂, hModify, hRest⟩ := Call.bind_eq_ok hRest
  obtain ⟨fresh, w₃, hGet, hWrite⟩ := Call.bind_eq_ok hRest
  have hChange := Session.remote_eq hChange
  have hModify := Session.remote_eq hModify
  have hGet := Session.remote_eq hGet
  obtain ⟨hSame, rfl⟩ := Mailbox.labelChange_eq_ok hChange
  rw [hSame] at hChange hModify
  have hAfter : w₂.remote = w.remote.relabel [id] [action.changeOn w.remote] := by
    rcases Mailbox.modify_cases hModify with ⟨stop, hStop, -⟩ | ⟨-, hAfter⟩
    · cases hStop
    · rw [hAfter, Mailbox.changeLabels_eq_relabel]
  have hLast : w'.remote = w₂.remote := by
    rw [← (Mailbox.get_cases hGet).1]
    unfold Session.write at hWrite
    split at hWrite
    · cases hWrite
      rfl
    · cases hWrite
  have hSameAccount := Mailbox.sameAccount_relabel w.remote [id]
    [action.changeOn w.remote]
  have hFree := Mailbox.failure?_of_get hGet
  rw [← hAfter] at hSameAccount
  rw [hSameAccount.failure?] at hFree
  rw [hLast]
  exact ⟨⟨hChange, Mailbox.failure?_of_modify hModify, hFree⟩, hSameAccount⟩

private theorem goes_of_applyActions {actions : List Action}
    (h : applyActions provider id actions w = (.ok (), w')) :
    (∀ action ∈ actions, Goes w.remote id action) ∧
      SameAccount w.remote w'.remote := by
  induction actions generalizing w with
  | nil =>
      cases h
      exact ⟨fun action hMem => (by cases hMem), SameAccount.refl _⟩
  | cons action actions ih =>
      obtain ⟨_, w₁, hFirst, hRest⟩ := Call.bind_eq_ok h
      obtain ⟨hGoes, hSame⟩ := goes_of_applyAction hFirst
      obtain ⟨hLater, hSame'⟩ := ih hRest
      refine ⟨?_, hSame.trans hSame'⟩
      rw [List.forall_mem_cons]
      exact ⟨hGoes, fun a ha => (hLater a ha).congr hSame.symm⟩

/-- A run over rows that goes through has read each row, and no call failed. -/
theorem goes_of_applyToRows {rule : Rule} {actions : List Action}
    {sel : List Message} {n : Nat}
    (h : applyToRows provider rule actions (sel.map Row.encode) w = (.ok n, w')) :
    n = sel.length ∧ ∀ m ∈ sel, (∃ x, (Row.encode m).decode = .ok x) ∧
      ∀ action ∈ actions, Goes w.remote m.id action := by
  induction sel generalizing w n with
  | nil =>
      cases h
      exact ⟨rfl, fun m hm => (by cases hm)⟩
  | cons m sel ih =>
      obtain ⟨x, w₁, hDecode, hAll⟩ := Call.bind_eq_ok h
      obtain ⟨_, w₂, hLine, hAll⟩ := Call.bind_eq_ok hAll
      obtain ⟨_, w₃, hActions, hAll⟩ := Call.bind_eq_ok hAll
      obtain ⟨n', w₄, hRest, hCount⟩ := Call.bind_eq_ok hAll
      cases hRow : (Row.encode m).decode with
      | error e =>
          rw [hRow] at hDecode
          cases hDecode
      | ok y =>
          rw [hRow] at hDecode
          cases hDecode
          cases hLine
          cases hCount
          obtain ⟨hGoes, hSame⟩ := goes_of_applyActions hActions
          rw [id_of_decode hRow] at hGoes
          obtain ⟨rfl, hLater⟩ := ih hRest
          refine ⟨rfl, ?_⟩
          rw [List.forall_mem_cons]
          refine ⟨⟨⟨x, hRow⟩, hGoes⟩, fun m' hm' => ?_⟩
          obtain ⟨hReads, hGoes'⟩ := hLater m' hm'
          exact ⟨hReads, fun a ha => (hGoes' a ha).congr hSame.symm⟩

end

/-! ## The store afterwards -/

/-- The messages of some ids taken out, and put behind the others as they are in
the mailbox. -/
def rebuilt (b : Mailbox) (ids : List String) (ms : List Message) : List Message :=
  ms.filter (·.id ∉ ids) ++ ids.filterMap b.find?

theorem rebuilt_nil (b : Mailbox) (ms : List Message) : rebuilt b [] ms = ms := by
  simp [rebuilt]

theorem map_id_of_found {b : Mailbox} {ids : List String}
    (h : ∀ id ∈ ids, b.Found id) : (ids.filterMap b.find?).map (·.id) = ids := by
  induction ids with
  | nil => rfl
  | cons id ids ih =>
      obtain ⟨⟨m, hFind, hId⟩, hRest⟩ := List.forall_mem_cons.1 h
      rw [List.filterMap_cons_some hFind, List.map_cons, hId, ih hRest]

/-- Putting messages behind the others twice is putting them there once. -/
theorem rebuilt_rebuilt {b b' : Mailbox} {ids : List String}
    (h : ∀ id ∈ ids, b.Found id) (ms : List Message) :
    rebuilt b' ids (rebuilt b ids ms) = rebuilt b' ids ms := by
  have hOthers : (ms.filter (·.id ∉ ids)).filter (·.id ∉ ids) =
      ms.filter (·.id ∉ ids) :=
    List.filter_eq_self.2 fun m hm => (List.mem_filter.1 hm).2
  have hThese : (ids.filterMap b.find?).filter (·.id ∉ ids) = [] := by
    rw [List.filter_eq_nil_iff]
    intro m hm
    have hId := List.mem_map_of_mem (f := (·.id)) hm
    rw [map_id_of_found h] at hId
    simpa using hId
  rw [rebuilt, rebuilt, rebuilt, List.filter_append, hOthers, hThese,
    List.append_nil]

/-- Putting further messages behind the others, after some that stay as they
are. -/
theorem rebuilt_append {b b' : Mailbox} {ids later : List String}
    (hNew : ∀ id ∈ ids, id ∉ later) (hFound : ∀ id ∈ ids, b.Found id)
    (hSame : ∀ id ∈ ids, b'.find? id = b.find? id) (ms : List Message) :
    rebuilt b' later (rebuilt b ids ms) = rebuilt b' (ids ++ later) ms := by
  have hThese : (ids.filterMap b.find?).filter (·.id ∉ later) =
      ids.filterMap b'.find? := by
    rw [List.filterMap_congr hSame, List.filter_eq_self]
    intro m hm
    have hId := List.mem_map_of_mem (f := (·.id)) hm
    rw [map_id_of_found hFound] at hId
    exact decide_eq_true (hNew m.id hId)
  have hOthers : (ms.filter (·.id ∉ ids)).filter (·.id ∉ later) =
      ms.filter (·.id ∉ ids ++ later) := by
    rw [List.filter_filter]
    refine List.filter_congr fun m _ => ?_
    simp [Bool.and_comm]
  rw [rebuilt, rebuilt, rebuilt, List.filter_append, hThese, hOthers,
    List.filterMap_append, List.append_assoc]

/-- Putting further messages behind the others, after a first one. -/
theorem rebuilt_cons {b : Mailbox} {id : String} {ids : List String}
    (hNew : id ∉ ids) (h : b.Found id) (changes : List LabelChange)
    (ms : List Message) :
    rebuilt (b.relabel ids changes) ids (rebuilt b [id] ms) =
      rebuilt (b.relabel ids changes) (id :: ids) ms := by
  refine rebuilt_append (by simpa using hNew) (by simpa using h) ?_ ms
  rw [List.forall_mem_singleton]
  exact Mailbox.find?_relabel_of_not_mem b hNew changes

theorem holds_rebuilt {s : Store} {ms : List Message} (hHolds : s.Holds ms)
    {b : Mailbox} {ids : List String} (hNodup : ids.Nodup)
    (hFound : ∀ id ∈ ids, b.Found id) :
    (Store.ofMessages (rebuilt b ids ms)).Holds (rebuilt b ids ms) := by
  refine ⟨rfl, ?_⟩
  rw [rebuilt, List.map_append, map_id_of_found hFound, List.nodup_append]
  refine ⟨Store.Holds.filter hHolds.nodup _, hNodup, ?_⟩
  rintro id hOther k hk rfl
  obtain ⟨m, hm, rfl⟩ := List.mem_map.1 hOther
  have hNot := (List.mem_filter.1 hm).2
  simp [hk] at hNot

/-! ## How a run ends -/

private theorem Goes.ends_applyAction {w : World Mailbox} {ms : List Message}
    (hHolds : w.store.Holds ms) {id : String} {action : Action}
    (h : Goes w.remote id action) (hFound : w.remote.Found id) :
    Ends (applyAction provider id action) w (.ok ())
      (w.remote.relabel [id] [action.changeOn w.remote])
      (.ofMessages (rebuilt (w.remote.relabel [id] [action.changeOn w.remote])
        [id] ms)) := by
  have hAfter := hFound.relabel [id] [action.changeOn w.remote]
  obtain ⟨fresh, hFresh, rfl⟩ := hAfter
  obtain ⟨s, hReplace, hs⟩ := hHolds.replace fresh
  have hList : rebuilt (w.remote.relabel [fresh.id]
      [action.changeOn w.remote]) [fresh.id] ms =
        ms.filter (·.id ≠ fresh.id) ++ [fresh] := by
    rw [rebuilt, List.filterMap_cons_some hFresh, List.filterMap_nil]
    simp
  have hModify : provider.modify fresh.id (action.changeOn w.remote) w.remote =
      (.ok (), w.remote.relabel [fresh.id] [action.changeOn w.remote]) := by
    rw [← Mailbox.changeLabels_eq_relabel]
    simp [provider, Mailbox.call, h.modify]
  have hGet (b : Mailbox) (hFree : b.failure? .get fresh.id = none)
      (hFind : b.find? fresh.id = some fresh) :
      provider.get fresh.id b = (.ok fresh, b) := by
    simp [provider, Mailbox.call, hFree, hFind]
  have hFree : (w.remote.relabel [fresh.id] [action.changeOn w.remote]).failure?
      .get fresh.id = none := by
    rw [(Mailbox.sameAccount_relabel _ _ _).failure?, h.get]
  rw [hList, ← hs.eq_ofMessages]
  refine (Ends.remote h.change).bind fun w₁ hRemote hStore _ => ?_
  refine Ends.bind (Ends.remote (by rw [hRemote]; exact hModify))
    fun w₂ hRemote₂ hStore₂ _ => ?_
  refine Ends.bind (Ends.remote (by rw [hRemote₂]; exact hGet _ hFree hFresh))
    fun w₃ hRemote₃ hStore₃ _ => ?_
  have hWrite : w₃.store.replace fresh = .ok s := by
    rw [hStore₃, hStore₂, hStore, hReplace]
  have hEnds := Ends.write (f := (·.replace fresh)) hWrite
  rwa [hRemote₃] at hEnds

/-- **All actions on one message.** -/
theorem ends_applyActions {w : World Mailbox} {ms : List Message}
    (hHolds : w.store.Holds ms) {id : String} {actions : List Action}
    (hSome : actions ≠ []) (h : ∀ action ∈ actions, Goes w.remote id action)
    (hFound : w.remote.Found id) :
    Ends (applyActions provider id actions) w (.ok ())
      (w.remote.relabel [id] (changesOn w.remote actions))
      (.ofMessages (rebuilt (w.remote.relabel [id] (changesOn w.remote actions))
        [id] ms)) := by
  induction actions generalizing w ms with
  | nil => exact absurd rfl hSome
  | cons action actions ih =>
      obtain ⟨hHead, hTail⟩ := List.forall_mem_cons.1 h
      refine (hHead.ends_applyAction hHolds hFound).bind
        fun w₁ hRemote hStore _ => ?_
      cases actions with
      | nil => exact Ends.pure hRemote hStore
      | cons action' actions =>
          have hSame : SameAccount w.remote w₁.remote := by
            rw [hRemote]
            exact Mailbox.sameAccount_relabel _ _ _
          have hFound₁ : w₁.remote.Found id := by
            rw [hRemote]
            exact hFound.relabel _ _
          have hHolds₁ : w₁.store.Holds (rebuilt w₁.remote [id] ms) := by
            rw [hStore, ← hRemote]
            exact holds_rebuilt hHolds (List.nodup_singleton id) (by simpa)
          have hRest := ih hHolds₁ (by simp)
            (fun a ha => (hTail a ha).congr hSame) hFound₁
          rw [rebuilt_rebuilt (by simpa using hFound₁), hSame.changesOn, hRemote,
            Mailbox.relabel_append] at hRest
          exact hRest

/-- **All actions on all messages.** -/
theorem ends_applyToRows (rule : Rule) {w : World Mailbox} {ms sel : List Message}
    (hHolds : w.store.Holds ms) {actions : List Action} (hSome : actions ≠ [])
    (hNodup : (sel.map (·.id)).Nodup)
    (hReads : ∀ m ∈ sel, ∃ x, (Row.encode m).decode = .ok x)
    (hGoes : ∀ m ∈ sel, ∀ action ∈ actions, Goes w.remote m.id action)
    (hFound : ∀ m ∈ sel, w.remote.Found m.id) :
    Ends (applyToRows provider rule actions (sel.map Row.encode)) w
      (.ok sel.length)
      (w.remote.relabel (sel.map (·.id)) (changesOn w.remote actions))
      (.ofMessages (rebuilt (w.remote.relabel (sel.map (·.id))
        (changesOn w.remote actions)) (sel.map (·.id)) ms)) := by
  induction sel generalizing w ms with
  | nil =>
      simp only [List.map_nil, Mailbox.relabel_nil, rebuilt_nil]
      exact Ends.pure rfl hHolds.eq_ofMessages
  | cons m sel ih =>
      obtain ⟨⟨x, hRow⟩, hReads⟩ := List.forall_mem_cons.1 hReads
      obtain ⟨hHead, hTail⟩ := List.forall_mem_cons.1 hGoes
      obtain ⟨hFoundHead, hFoundTail⟩ := List.forall_mem_cons.1 hFound
      obtain ⟨hNew, hNodup⟩ := List.nodup_cons.1 hNodup
      refine (Ends.ofExcept hRow w).bind fun w₁ hRemote₁ hStore₁ _ => ?_
      refine (Ends.log .info (matchLine rule x) w₁).bind
        fun w₂ hRemote₂ hStore₂ _ => ?_
      have hRemote : w₂.remote = w.remote := hRemote₂.trans hRemote₁
      have hStore : w₂.store = w.store := hStore₂.trans hStore₁
      have hActions := ends_applyActions (w := w₂) (by rwa [hStore]) hSome
        (by rwa [hRemote]) (by rwa [hRemote] : w₂.remote.Found m.id)
      rw [id_of_decode hRow]
      refine hActions.bind fun w₃ hRemote₃ hStore₃ _ => ?_
      have hSame : SameAccount w.remote w₃.remote := by
        rw [hRemote₃, hRemote]
        exact Mailbox.sameAccount_relabel _ _ _
      have hFound₃ (id : String) (h : w.remote.Found id) : w₃.remote.Found id := by
        rw [hRemote₃, hRemote]
        exact h.relabel _ _
      have hHolds₃ : w₃.store.Holds (rebuilt w₃.remote [m.id] ms) := by
        rw [hStore₃, ← hRemote₃]
        refine holds_rebuilt hHolds (List.nodup_singleton _) ?_
        simpa using hFound₃ _ hFoundHead
      have hRest := ih hHolds₃ hNodup hReads
        (fun m' hm' a ha => (hTail m' hm' a ha).congr hSame)
        (fun m' hm' => hFound₃ _ (hFoundTail m' hm'))
      rw [rebuilt_cons hNew (hFound₃ _ hFoundHead), hSame.changesOn, hRemote₃,
        hRemote, Mailbox.relabel_cons _ hNew] at hRest
      refine hRest.bind fun w₄ hRemote₄ hStore₄ _ => ?_
      exact Ends.pure hRemote₄ hStore₄

/-- Without actions nothing happens to the messages. -/
theorem ends_applyToRows_nil (rule : Rule) {w : World Mailbox}
    {sel : List Message} (hReads : ∀ m ∈ sel, ∃ x, (Row.encode m).decode = .ok x) :
    Ends (applyToRows provider rule [] (sel.map Row.encode)) w (.ok sel.length)
      w.remote w.store := by
  induction sel generalizing w with
  | nil => exact Ends.pure rfl rfl
  | cons m sel ih =>
      obtain ⟨⟨x, hRow⟩, hReads⟩ := List.forall_mem_cons.1 hReads
      refine (Ends.ofExcept hRow w).bind fun w₁ hRemote₁ hStore₁ _ => ?_
      refine (Ends.log .info (matchLine rule x) w₁).bind
        fun w₂ hRemote₂ hStore₂ _ => ?_
      rw [← hRemote₁, ← hStore₁, ← hRemote₂, ← hStore₂]
      refine (ih hReads).bind fun w₃ hRemote₃ hStore₃ _ => ?_
      exact Ends.pure hRemote₃ hStore₃

/-! ## A whole rule -/

/-- A rule with these actions goes through on the messages that its query
selects. -/
structure Applies (rule : Rule) (w : World Mailbox) (actions : List Action)
    (sel : List Message) : Prop where
  parsed : Action.parseAll rule.actions = .ok actions
  query : ∃ query, rule.compile = .ok query ∧
    w.store.query query.sql query.arguments w.now = .ok (sel.map Row.encode)
  reads : ∀ m ∈ sel, ∃ x, (Row.encode m).decode = .ok x
  goes : ∀ m ∈ sel, ∀ action ∈ actions, Goes w.remote m.id action

/-- What a rule that goes through leaves in the store. -/
def left (b : Mailbox) (actions : List Action) (ids : List String)
    (ms : List Message) : List Message :=
  if actions = [] then ms else rebuilt b ids ms

section

variable {rule : Rule} {w w' : World Mailbox} {ms : List Message}
  {report : Report}

/-- **How a rule ends** that goes through. -/
theorem Applies.ends {actions : List Action} {sel : List Message}
    (h : Applies rule w actions sel) (hHolds : w.store.Holds ms)
    (hNodup : (sel.map (·.id)).Nodup)
    (hFound : ∀ m ∈ sel, w.remote.Found m.id) :
    Ends (rule.apply provider) w (.ok ⟨sel.length, sel.length * actions.length⟩)
      (w.remote.relabel (sel.map (·.id)) (changesOn w.remote actions))
      (.ofMessages (left (w.remote.relabel (sel.map (·.id))
        (changesOn w.remote actions)) actions (sel.map (·.id)) ms)) := by
  obtain ⟨query, hCompile, hQuery⟩ := h.query
  obtain ⟨line, hApply⟩ := apply_of_query (p := provider) hCompile h.parsed hQuery
  have hRows : Ends (applyToRows provider rule actions (sel.map Row.encode)) w
      (.ok sel.length)
      (w.remote.relabel (sel.map (·.id)) (changesOn w.remote actions))
      (.ofMessages (left (w.remote.relabel (sel.map (·.id))
        (changesOn w.remote actions)) actions (sel.map (·.id)) ms)) := by
    by_cases hNone : actions = []
    · subst hNone
      rw [left, if_pos rfl, changesOn, List.map_nil, Mailbox.relabel_no_changes,
        ← hHolds.eq_ofMessages]
      exact ends_applyToRows_nil rule h.reads
    · rw [left, if_neg hNone]
      exact ends_applyToRows rule hHolds hNone hNodup h.reads h.goes hFound
  have hAll := hRows.bind (f := fun n => Session.info (line n) >>= fun _ =>
    pure (⟨n, n * actions.length⟩ : Report)) fun w₁ hRemote₁ hStore₁ _ =>
      (Ends.log .info (line sel.length) w₁).bind fun w₂ hRemote₂ hStore₂ _ =>
        Ends.pure (hRemote₂.trans hRemote₁) (hStore₂.trans hStore₁)
  obtain ⟨log, hRun⟩ := hAll
  exact ⟨log, hApply.trans hRun⟩

/-- **What a run tells**: a rule that went through is one that does. -/
theorem exists_applies (hHolds : w.store.Holds ms)
    (h : rule.apply provider w = (.ok report, w')) :
    ∃ actions sel, sel.Sublist ms ∧ Applies rule w actions sel := by
  rcases apply_before_calls provider rule w with
    ⟨e, hApply⟩ | ⟨query, actions, rows, hCompile, hActions, hQuery⟩
  · rw [hApply] at h
    cases h
  obtain ⟨line, hApply⟩ := apply_of_query (p := provider) hCompile hActions hQuery
  rw [hApply] at h
  obtain ⟨n, w₁, hRows, -⟩ := Call.bind_eq_ok h
  obtain ⟨mode, filters, -, -, rfl⟩ := compile_eq_ok hCompile
  have hSelected := selected_of_query hHolds hQuery
  rw [List.filter_map] at hSelected
  rw [hSelected] at hRows hQuery
  obtain ⟨-, hRun⟩ := goes_of_applyToRows hRows
  exact ⟨actions, _, List.filter_sublist, hActions, ⟨_, hCompile, hQuery⟩,
    fun m hm => (hRun m hm).1, fun m hm => (hRun m hm).2⟩

/-- A rule that went through has ended as it does. -/
theorem Applies.result {actions : List Action} {sel : List Message}
    (h : Applies rule w actions sel) (hHolds : w.store.Holds ms)
    (hNodup : (sel.map (·.id)).Nodup)
    (hFound : ∀ m ∈ sel, w.remote.Found m.id)
    (hApply : rule.apply provider w = (.ok report, w')) :
    report = ⟨sel.length, sel.length * actions.length⟩ ∧
      w'.remote =
        w.remote.relabel (sel.map (·.id)) (changesOn w.remote actions) ∧
      w'.store = .ofMessages (left w'.remote actions (sel.map (·.id)) ms) ∧
      w'.now = w.now := by
  obtain ⟨log, hEnds⟩ := h.ends hHolds hNodup hFound
  rw [hApply] at hEnds
  cases hEnds
  exact ⟨rfl, rfl, rfl, rfl⟩

/-- A rule that went through had a store with tables. -/
theorem tables_of_apply (h : rule.apply provider w = (.ok report, w')) :
    ∃ t, w.store.tables = some t := by
  rcases apply_before_calls provider rule w with
    ⟨e, hApply⟩ | ⟨query, actions, rows, hCompile, -, hQuery⟩
  · rw [hApply] at h
    cases h
  · obtain ⟨mode, filters, -, -, rfl⟩ := compile_eq_ok hCompile
    obtain ⟨t, hTables, -⟩ := mem_of_query hQuery
    exact ⟨t, hTables⟩

end

end Mailroom.Rule
