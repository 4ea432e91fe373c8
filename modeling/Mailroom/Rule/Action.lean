import Mailroom.Message.Basic
import Mailroom.Rule.Basic
import Mailroom.Text.Blank

/-!
# Actions

An action moves a message to a label, or marks it read or unread. Each comes down to labels added to
a message and labels removed from it; moving a message out of the inbox takes the inbox label off.
-/

namespace Mailroom.Rule

/-- An action. -/
inductive Action
  | move (label : String)
  | markRead
  | markUnread
deriving DecidableEq, Repr

namespace Action

/-- Reads an action. -/
def parse (a : ActionText) : Except Error Action :=
  match a.kind with
  | "move" =>
      match a.value.bind nonblank? with
      | some label => .ok (move label)
      | none => .error .missingLabelName
  | "read" => .ok markRead
  | "unread" => .ok markUnread
  | kind => .error (.actionKind kind)

/-- Reads a list of actions. -/
def parseAll (actions : List ActionText) : Except Error (List Action) := actions.mapM parse

end Action

/-- Labels to add to a message, and labels to remove from it afterwards. -/
structure LabelChange where
  add : List String
  remove : List String
deriving DecidableEq, Repr

namespace LabelChange

/-- The change that moves a message to a label. -/
def moveTo (label : String) : LabelChange :=
  ⟨[label], if label = Message.inboxLabel then [] else [Message.inboxLabel]⟩

/-- The change that marks a message read. -/
def markRead : LabelChange := ⟨[], [Message.unreadLabel]⟩

/-- The change that marks a message unread. -/
def markUnread : LabelChange := ⟨[Message.unreadLabel], []⟩

/-- Adds a label that is not there yet. -/
def addLabel (labels : List String) (label : String) : List String :=
  if label ∈ labels then labels else labels ++ [label]

/-- The labels of a message after a change. -/
def apply (c : LabelChange) (labels : List String) : List String :=
  (c.add.foldl addLabel labels).filter (· ∉ c.remove)

private theorem mem_addLabel {labels : List String} {l x : String} :
    x ∈ addLabel labels l ↔ x ∈ labels ∨ x = l := by
  unfold addLabel
  split <;> grind

private theorem mem_foldl_addLabel {add labels : List String} {x : String} :
    x ∈ add.foldl addLabel labels ↔ x ∈ labels ∨ x ∈ add := by
  induction add generalizing labels with
  | nil => simp
  | cons l ls ih => rw [List.foldl_cons, ih, mem_addLabel, List.mem_cons]; grind

theorem mem_apply {c : LabelChange} {labels : List String} {x : String} :
    x ∈ c.apply labels ↔ (x ∈ labels ∨ x ∈ c.add) ∧ x ∉ c.remove := by
  simp [apply, mem_foldl_addLabel]

end LabelChange

end Mailroom.Rule
