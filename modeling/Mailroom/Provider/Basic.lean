import Mailroom.Error
import Mailroom.Message.Basic
import Mailroom.Rule.Action

/-!
# Mail providers

A provider answers five calls on a remote mailbox: a page of message ids, a message, the account's
profile, the id of a label, and a change of labels. A call may change the provider's state and may
stop what is going on: with an error, because the run was interrupted, or because a listing that
should end does not.

`Provider.traced` is a provider that writes down each call before it is made.
-/

namespace Mailroom

/-- Why something ends early. -/
inductive Stop
  | failed (e : Error)
  | interrupted
  | unending
deriving DecidableEq, Repr

/-- A page of message ids, and the token of the next page. -/
structure IdPage where
  ids : List String
  nextToken : Option String
deriving DecidableEq, Repr

/-- An account: its address, the number of its last change, and how much it holds. -/
structure Profile where
  emailAddress : String
  historyId : String
  messagesTotal : UInt64
  threadsTotal : UInt64
deriving DecidableEq, Repr

/-- A call on a provider with states of type `σ`. -/
abbrev Call (σ α : Type) := ExceptT Stop (StateM σ) α

/-- A provider with states of type `σ`. `pagesLeft` bounds the number of listing pages that one
walk through the mailbox takes. -/
structure Provider (σ : Type) where
  list : Option String → Nat → Call σ IdPage
  get : String → Call σ Message
  profile : Call σ Profile
  resolve : String → Call σ (Option String)
  modify : String → Rule.LabelChange → Call σ Unit
  pagesLeft : σ → Nat

namespace Call

variable {σ α : Type}

/-- A call that fails. -/
def fail (e : Error) : Call σ α := throw (.failed e)

/-- A call that gives what was computed, or its error. -/
def ofExcept : Except Error α → Call σ α
  | .ok a => pure a
  | .error e => fail e

end Call

/-! ## Traces -/

/-- A call as it was made. -/
inductive Request
  | list (token : Option String) (size : Nat)
  | get (id : String)
  | profile
  | label (name : String)
  | modify (id : String) (change : Rule.LabelChange)
deriving DecidableEq, Repr

/-- A state with the calls made so far, the last first. -/
structure Traced (σ : Type) where
  state : σ
  calls : List Request

namespace Provider

variable {σ α : Type}

/-- Writes a call down and makes it. -/
def record (r : Request) (c : Call σ α) : Call (Traced σ) α := fun t =>
  let (result, state) := c t.state
  (result, ⟨state, r :: t.calls⟩)

/-- The provider that writes down each call before it is made. -/
def traced (p : Provider σ) : Provider (Traced σ) where
  list token size := record (.list token size) (p.list token size)
  get id := record (.get id) (p.get id)
  profile := record .profile p.profile
  resolve name := record (.label name) (p.resolve name)
  modify id change := record (.modify id change) (p.modify id change)
  pagesLeft t := p.pagesLeft t.state

theorem traced_list (p : Provider σ) (token : Option String) (size : Nat) (t : Traced σ) :
    p.traced.list token size t =
      let (result, state) := p.list token size t.state
      (result, ⟨state, .list token size :: t.calls⟩) :=
  rfl

end Provider

namespace Rule.Action

/-- The change of labels that an action comes down to; the label of a move has to exist. -/
def labelChange {σ : Type} (p : Provider σ) : Action → Call σ LabelChange
  | .move label => do
      match ← p.resolve label with
      | some id => return LabelChange.moveTo id
      | none => Call.fail (.unknownLabel label)
  | .markRead => return LabelChange.markRead
  | .markUnread => return LabelChange.markUnread

end Rule.Action

end Mailroom
