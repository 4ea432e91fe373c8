import Mailroom.Proofs.Provider.Schedule
import Mailroom.Rule.Application

/-!
# Labels after several changes

Changes made one after the other act on a set of labels as one change does: each
label is put there, taken away, or left as it was. As lists the labels may come
in another order, but making the changes once more leaves the same set.

A rule makes the same changes to some messages of a mailbox. What the changes
are depends on the labels of the account, and whether calls go through on the
failures that are set; a rule touches neither.
-/

namespace Mailroom

namespace Rule

namespace LabelChange

/-! ## One change for several -/

/-- The labels of a message after changes, one after the other. -/
def applyAll (changes : List LabelChange) (labels : List String) : List String :=
  changes.foldl (fun labels change => change.apply labels) labels

/-- The change that does what two do one after the other. What the second one
removes is removed, what it adds is there, and as for the rest the first one
decides. -/
def andThen (c d : LabelChange) : LabelChange :=
  ⟨c.add.filter (· ∉ c.remove) ++ d.add,
    d.remove ++ c.remove.filter (· ∉ d.add)⟩

/-- The change that does what several do one after the other. -/
def combined : List LabelChange → LabelChange
  | [] => ⟨[], []⟩
  | c :: cs => c.andThen (combined cs)

private theorem mem_apply_andThen {c d : LabelChange} {labels : List String}
    {x : String} :
    x ∈ (c.andThen d).apply labels ↔ x ∈ d.apply (c.apply labels) := by
  simp only [mem_apply, andThen, List.mem_append, List.mem_filter,
    decide_eq_true_eq]
  grind

/-- **Changes one after the other are one change**, as far as sets of labels
go. -/
theorem mem_applyAll {changes : List LabelChange} {labels : List String}
    {x : String} :
    x ∈ applyAll changes labels ↔ x ∈ (combined changes).apply labels := by
  induction changes generalizing labels with
  | nil => simp [applyAll, combined, mem_apply]
  | cons c cs ih =>
      have hStep : applyAll (c :: cs) labels = applyAll cs (c.apply labels) := rfl
      rw [hStep, ih, combined, mem_apply_andThen]

/-- A change made twice does no more than once. -/
theorem mem_apply_apply {c : LabelChange} {labels : List String} {x : String} :
    x ∈ c.apply (c.apply labels) ↔ x ∈ c.apply labels := by
  simp only [mem_apply]
  grind

/-- **Changes made twice** leave the same set of labels. -/
theorem mem_applyAll_applyAll {changes : List LabelChange}
    {labels : List String} {x : String} :
    x ∈ applyAll changes (applyAll changes labels) ↔
      x ∈ applyAll changes labels := by
  have hSame : x ∈ (combined changes).apply (applyAll changes labels) ↔
      x ∈ (combined changes).apply ((combined changes).apply labels) := by
    rw [LabelChange.mem_apply, LabelChange.mem_apply, mem_applyAll]
  rw [mem_applyAll, hSame, mem_apply_apply, mem_applyAll]

private theorem applyAll_append (cs ds : List LabelChange) (labels : List String) :
    applyAll (cs ++ ds) labels = applyAll ds (applyAll cs labels) :=
  List.foldl_append

/-- A label that no change removes stays. -/
theorem mem_applyAll_of_mem {changes : List LabelChange} {labels : List String}
    {x : String} (hx : x ∈ labels) (h : ∀ c ∈ changes, x ∉ c.remove) :
    x ∈ applyAll changes labels := by
  induction changes generalizing labels with
  | nil => exact hx
  | cons c cs ih =>
      obtain ⟨hHead, hTail⟩ := List.forall_mem_cons.1 h
      exact ih (mem_apply.2 ⟨.inl hx, hHead⟩) hTail

end LabelChange

/-! ## What actions come down to -/

/-- The change of an action on a mailbox; none if there is no such label. -/
def Action.changeOn (b : Mailbox) (action : Action) : LabelChange :=
  match (action.labelChange Mailbox.provider b).1 with
  | .ok change => change
  | .error _ => ⟨[], []⟩

/-- An action is one of the three changes, or there is no such label. -/
theorem changeOn_cases (b : Mailbox) (action : Action) :
    action.changeOn b = ⟨[], []⟩ ∨
      (∃ id, action.changeOn b = LabelChange.moveTo id) ∨
        action.changeOn b = LabelChange.markRead ∨
          action.changeOn b = LabelChange.markUnread := by
  cases action with
  | move label =>
      simp only [Action.changeOn, Action.labelChange, Call.bind_apply]
      cases Mailbox.provider.resolve label b with
      | mk answer b' =>
          cases answer with
          | error stop => exact .inl rfl
          | ok id? =>
              cases id? with
              | none => exact .inl rfl
              | some id => exact .inr (.inl ⟨id, rfl⟩)
  | markRead => exact .inr (.inr (.inl rfl))
  | markUnread => exact .inr (.inr (.inr rfl))

/-- The changes of actions on a mailbox. -/
def changesOn (b : Mailbox) (actions : List Action) : List LabelChange :=
  actions.map (Action.changeOn b)

end Rule

/-! ## Messages and mailboxes relabelled -/

/-- A message after changes of its labels, one after the other. -/
def Message.relabel (m : Message) (changes : List Rule.LabelChange) : Message :=
  { m with labelIds := Rule.LabelChange.applyAll changes m.labelIds }

private theorem Message.relabel_append (m : Message) (cs ds : List Rule.LabelChange) :
    m.relabel (cs ++ ds) = (m.relabel cs).relabel ds := by
  simp [relabel, Rule.LabelChange.applyAll_append]

theorem Message.relabel_nil (m : Message) : m.relabel [] = m := rfl

end Mailroom

namespace Mailroom.Mailbox

open Mailroom.Rule (LabelChange Action)

/-- The mailbox after the same changes to the labels of some messages. -/
def relabel (b : Mailbox) (ids : List String) (changes : List LabelChange) :
    Mailbox :=
  { b with messages := b.messages.map fun (k, m) =>
      (k, if k ∈ ids then m.relabel changes else m) }

theorem changeLabels_eq_relabel (b : Mailbox) (id : String)
    (change : LabelChange) :
    b.changeLabels id change = b.relabel [id] [change] := by
  simp only [changeLabels, relabel, Mailbox.mk.injEq, and_true]
  refine List.map_congr_left fun p _ => ?_
  by_cases h : p.1 = id
  · simp [h, Message.relabel, LabelChange.applyAll]
  · simp [h]

theorem relabel_nil (b : Mailbox) (changes : List LabelChange) :
    b.relabel [] changes = b := by
  simp [relabel]

theorem relabel_no_changes (b : Mailbox) (ids : List String) :
    b.relabel ids [] = b := by
  simp [relabel, Message.relabel_nil]

/-- Further changes to one message. -/
theorem relabel_append (b : Mailbox) (id : String) (cs ds : List LabelChange) :
    (b.relabel [id] cs).relabel [id] ds = b.relabel [id] (cs ++ ds) := by
  simp only [relabel, List.map_map, Mailbox.mk.injEq, and_true]
  refine List.map_congr_left fun p _ => ?_
  by_cases h : p.1 = id
  · simp [h, Message.relabel_append]
  · simp [h]

/-- The same changes to further messages. -/
theorem relabel_cons (b : Mailbox) {id : String} {ids : List String}
    (h : id ∉ ids) (changes : List LabelChange) :
    (b.relabel [id] changes).relabel ids changes =
      b.relabel (id :: ids) changes := by
  simp only [relabel, List.map_map, Mailbox.mk.injEq, and_true]
  refine List.map_congr_left fun p _ => ?_
  by_cases hHead : p.1 = id
  · simp [hHead, h]
  · simp [hHead]

/-- **A message of a mailbox after the changes.** -/
theorem find?_relabel (b : Mailbox) (ids : List String)
    (changes : List LabelChange) (k : String) :
    (b.relabel ids changes).find? k =
      (b.find? k).map fun m => if k ∈ ids then m.relabel changes else m := by
  unfold find? relabel
  induction b.messages with
  | nil => rfl
  | cons p r ih =>
      obtain ⟨j, x⟩ := p
      simp only [List.map_cons, List.lookup_cons] at ih ⊢
      by_cases hj : k = j
      · subst hj
        simp
      · have hk : (k == j) = false := by simpa using hj
        simp only [hk]
        exact ih

/-- Changes to other messages leave a message alone. -/
theorem find?_relabel_of_not_mem (b : Mailbox) {ids : List String} {k : String}
    (h : k ∉ ids) (changes : List LabelChange) :
    (b.relabel ids changes).find? k = b.find? k := by
  simp only [find?_relabel, if_neg h, Option.map_id']

/-- Changes to different messages can be made in either order. -/
theorem relabel_comm (b : Mailbox) {ids ids' : List String}
    (h : ∀ id ∈ ids, id ∉ ids') (changes changes' : List LabelChange) :
    (b.relabel ids changes).relabel ids' changes' =
      (b.relabel ids' changes').relabel ids changes := by
  simp only [relabel, List.map_map, Mailbox.mk.injEq, and_true]
  refine List.map_congr_left fun p _ => ?_
  by_cases hFirst : p.1 ∈ ids
  · simp [hFirst, h p.1 hFirst]
  · simp [hFirst]

/-! ## The account behind the calls -/

/-- Two mailboxes of one account: they may differ in their messages. -/
structure SameAccount (b b' : Mailbox) : Prop where
  labels : b'.labels = b.labels
  failures : b'.failures = b.failures

theorem SameAccount.refl (b : Mailbox) : SameAccount b b := ⟨rfl, rfl⟩

theorem SameAccount.trans {b b' b'' : Mailbox} (h : SameAccount b b')
    (h' : SameAccount b' b'') : SameAccount b b'' :=
  ⟨h'.labels.trans h.labels, h'.failures.trans h.failures⟩

theorem SameAccount.symm {b b' : Mailbox} (h : SameAccount b b') :
    SameAccount b' b := ⟨h.labels.symm, h.failures.symm⟩

theorem sameAccount_relabel (b : Mailbox) (ids : List String)
    (changes : List LabelChange) : SameAccount b (b.relabel ids changes) :=
  ⟨rfl, rfl⟩

theorem SameAccount.failure? {b b' : Mailbox} (h : SameAccount b b')
    (kind : CallKind) (id : String) : b'.failure? kind id = b.failure? kind id := by
  unfold Mailbox.failure?
  rw [h.failures]

/-- What an action comes down to is the same on both. -/
theorem SameAccount.labelChange {b b' : Mailbox} (h : SameAccount b b')
    (action : Action) :
    (action.labelChange provider b').1 = (action.labelChange provider b).1 := by
  cases action with
  | move label =>
      simp only [Action.labelChange, Call.bind_apply, provider, call, h.failure?]
      cases b.failure? .label label with
      | some f => rfl
      | none =>
          simp only [h.labels]
          cases b.labels.lookup label with
          | none => rfl
          | some id => rfl
  | markRead => rfl
  | markUnread => rfl

theorem SameAccount.changesOn {b b' : Mailbox} (h : SameAccount b b')
    (actions : List Action) :
    Rule.changesOn b' actions = Rule.changesOn b actions := by
  refine List.map_congr_left fun action _ => ?_
  rw [Action.changeOn, Action.changeOn, h.labelChange]

end Mailroom.Mailbox
