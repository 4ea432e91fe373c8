import Mailroom.Rule.Application
import Mailroom.Sync.Reconcile

/-!
# Runs

A run syncs the store if the account has changed, and then applies the rules of a document in their
order. A rule that fails is reported and the next one still runs, unless it was the store that
failed.
-/

namespace Mailroom.Run

variable {σ : Type}

/-- What a run does. -/
structure Options where
  sync : Sync.Options
  force : Bool
  skipRules : Bool
  rulesFile : String
deriving DecidableEq, Repr

/-- What a run did: how it synced, if it did, and how many rules were applied and failed. -/
structure Summary where
  sync : Option Sync.Report
  applied : Nat
  failed : Nat
deriving DecidableEq, Repr

/-- Syncs the store if that is due, and reports on the account. -/
def syncIfNeeded (p : Provider σ) (o : Options) : Session σ (Option Sync.Report) := do
  let stats ← Session.read fun s _ => s.stats
  let profile ← Session.remote p.profile
  Session.info ("Welcome " ++ profile.emailAddress)
  Session.info ("Total messages: " ++ natText profile.messagesTotal.toNat)
  if Sync.isNeeded profile stats o.force then
    Session.info ("New messages: " ++ natText (Sync.newMessages profile stats) ++ ". Sync needed")
    return some (← Sync.run p o.sync)
  else
    Session.info "No new messages"
    return none

/-- Applies rules one after the other, and gives the numbers of those applied and those failed. -/
def applyAll (p : Provider σ) : List Rule → Session σ (Nat × Nat)
  | [] => return (0, 0)
  | rule :: rules => do
      Session.info ("Applying rule '" ++ rule.name ++ "'")
      match ← Session.attempt (rule.apply p) with
      | .ok _ =>
          let (applied, failed) ← applyAll p rules
          return (applied + 1, failed)
      | .error (.failed e) =>
          if e.isStore then throw (.failed e)
          else
            Session.log .error ("Rule '" ++ rule.name ++ "' failed: " ++ e.message)
            let (applied, failed) ← applyAll p rules
            return (applied, failed + 1)
      | .error stop => throw stop

/-- Makes a run, given what can be read of the rules file. -/
def run (p : Provider σ) (o : Options) (rulesText : Option String) : Session σ Summary := do
  let synced ← syncIfNeeded p o
  if o.skipRules then
    Session.info "Skipping rules"
    return ⟨synced, 0, 0⟩
  let rules ← Session.ofExcept (Rule.loadDocument o.rulesFile rulesText)
  Session.info ("Loaded " ++ natText rules.length ++ " rules from " ++ o.rulesFile)
  if rules.isEmpty then
    Session.info "No rules found"
    return ⟨synced, 0, 0⟩
  let (applied, failed) ← applyAll p rules
  Session.info
    ("Rules finished: " ++ natText applied ++ " applied, " ++ natText failed ++ " failed")
  return ⟨synced, applied, failed⟩

end Mailroom.Run
