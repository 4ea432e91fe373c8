import Mailroom.Rule.Document
import Mailroom.Session

/-!
# Applying rules

A rule is applied to the stored messages that its query selects, in row order. Each action changes
the labels of the remote message, and then the message is fetched again and its row written anew.
The first failure ends the rule; what was changed before stays changed.
-/

namespace Mailroom.Rule

variable {σ : Type}

/-- How many messages a rule selected, and how many actions were applied. -/
structure Report where
  matched : Nat
  actionsApplied : Nat
deriving DecidableEq, Repr

/-- Applies an action to a message. -/
def applyAction (p : Provider σ) (id : String) (action : Action) : Session σ Unit := do
  let change ← Session.remote (action.labelChange p)
  Session.remote (p.modify id change)
  let fresh ← Session.remote (p.get id)
  Session.write (·.replace fresh)

/-- Applies actions to a message, one after the other. -/
def applyActions (p : Provider σ) (id : String) : List Action → Session σ Unit
  | [] => return
  | action :: actions => do
      applyAction p id action
      applyActions p id actions

/-- The line of the log for a selected message. -/
def matchLine (rule : Rule) (m : Message) : String :=
  "[" ++ rule.name ++ "] " ++ m.moment?.getD "" ++ " - " ++ m.envelope.sender.getD "" ++ " | " ++
    m.envelope.subject.getD ""

/-- Applies actions to the messages of rows, and gives the number of rows. -/
def applyToRows (p : Provider σ) (rule : Rule) (actions : List Action) :
    List Store.Row → Session σ Nat
  | [] => return 0
  | row :: rows => do
      let m ← Session.ofExcept row.decode
      Session.info (matchLine rule m)
      applyActions p m.id actions
      return (← applyToRows p rule actions rows) + 1

/-- Applies a rule. -/
def apply (p : Provider σ) (rule : Rule) : Session σ Report := do
  let query ← Session.ofExcept rule.compile
  let actions ← Session.ofExcept (Action.parseAll rule.actions)
  let rows ← Session.read fun s now => s.query query.sql query.arguments now
  let matched ← applyToRows p rule actions rows
  let report : Report := ⟨matched, matched * actions.length⟩
  Session.info ("Rule '" ++ rule.name ++ "' done: " ++ natText report.matched ++ " matched, " ++
    natText report.actionsApplied ++ " actions applied")
  return report

end Mailroom.Rule
