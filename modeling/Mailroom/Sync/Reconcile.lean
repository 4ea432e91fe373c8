import Mailroom.Session
import Mailroom.Sync.Plan

/-!
# Syncing the store with the remote mailbox

The remote side is listed page by page, up to a limit on the number of ids; a listing cut off at the
limit is truncated. Messages that are not stored yet are fetched and stored in the order of their
ids, and then, unless the listing was truncated, stored messages that are gone are deleted. The
first failure ends the sync.
-/

namespace Mailroom.Sync

variable {σ : Type}

/-- The largest page that a listing gives. -/
def maxPageSize : Nat := 500

/-- How the remote side is listed: ids per page, and the number of ids at which the listing stops,
zero for none. -/
structure Options where
  pageSize : Nat
  scanLimit : Nat
deriving DecidableEq, Repr

/-- The ids listed, each once, and whether the listing stopped before its end. -/
structure Scan where
  ids : List String
  truncated : Bool
deriving DecidableEq, Repr

/-- How many ids were listed, and how many messages were fetched and deleted. -/
structure Report where
  scanned : Nat
  fetched : Nat
  deleted : Nat
deriving DecidableEq, Repr

/-- Adds ids to those collected so far, each once. -/
def collect (seen ids : List String) : List String :=
  ids.foldl (fun seen id => if id ∈ seen then seen else seen ++ [id]) seen

theorem mem_collect {seen ids : List String} {x : String} :
    x ∈ collect seen ids ↔ x ∈ seen ∨ x ∈ ids := by
  unfold collect
  induction ids generalizing seen with
  | nil => simp
  | cons id r ih => rw [List.foldl_cons, ih]; grind

/-- Lists the remote side from a token on. -/
def scanFrom (p : Provider σ) (size limit : Nat) :
    Nat → Option String → List String → Session σ Scan
  | 0, _, _ => throw .unending
  | fuel + 1, token, seen => do
      let page ← Session.remote (p.list token size)
      let seen := collect seen page.ids
      match page.nextToken with
      | none => return ⟨seen, false⟩
      | some next =>
          if limit ≠ 0 ∧ limit ≤ seen.length then
            Session.log .warn ("Remote scan stopped at " ++ natText seen.length ++
              " ids (scan limit " ++ natText limit ++ "); more pages remain")
            return ⟨seen, true⟩
          else scanFrom p size limit fuel (some next) seen

/-- The page size that is asked for. -/
def Options.size (o : Options) : Nat := max 1 (min o.pageSize maxPageSize)

/-- Lists the remote side. -/
def scan (p : Provider σ) (o : Options) : Session σ Scan := do
  let w ← get
  let result ← scanFrom p o.size o.scanLimit (p.pagesLeft w.remote) none []
  Session.info ("Remote scan complete: " ++ natText result.ids.length ++ " message ids")
  return result

/-- Fetches and stores messages, counting on from the number fetched before. -/
def fetchFrom (p : Provider σ) (total : Nat) : Nat → List String → Session σ Nat
  | fetched, [] => return fetched
  | fetched, id :: ids => do
      let m ← Session.remote (p.get id)
      Session.write (·.insert m)
      let fetched := fetched + 1
      if fetched % 100 = 0 then
        Session.info ("Fetched " ++ natText fetched ++ "/" ++ natText total ++ " messages")
      fetchFrom p total fetched ids

/-- Fetches and stores messages, and gives their number. -/
def fetch (p : Provider σ) (ids : List String) : Session σ Nat := fetchFrom p ids.length 0 ids

/-- Deletes messages from the store, and gives their number. -/
def delete : List String → Session σ Nat
  | [] => return 0
  | id :: ids => do
      Session.write (·.remove id)
      return (← delete ids) + 1

/-- Syncs the store with the remote mailbox. -/
def run (p : Provider σ) (o : Options) : Session σ Report := do
  let scanned ← scan p o
  let stored ← Session.read fun s _ => s.ids
  let plan := Plan.between scanned.ids stored
  if scanned.truncated ∧ plan.toDelete ≠ [] then
    Session.log .warn ("Skipping deletion of " ++ natText plan.toDelete.length ++
      " local messages because the remote scan was truncated")
  let toDelete := if scanned.truncated then [] else plan.toDelete
  Session.info ("Sync plan: " ++ natText plan.toFetch.length ++ " to fetch, " ++
    natText toDelete.length ++ " to delete")
  let fetched ← fetch p plan.toFetch
  let deleted ← delete toDelete
  Session.info ("Sync completed: scanned " ++ natText scanned.ids.length ++ ", fetched " ++
    natText fetched ++ ", deleted " ++ natText deleted)
  return ⟨scanned.ids.length, fetched, deleted⟩

/-! ## Whether to sync -/

/-- A sync is due if nothing is stored yet or the account has changed since. -/
def isNeeded (profile : Profile) (stats : Store.Stats) (force : Bool) : Bool :=
  force || stats.lastHistoryId ≠ some profile.historyId

/-- How many messages the store lacks, going by the numbers alone. -/
def newMessages (profile : Profile) (stats : Store.Stats) : Nat :=
  profile.messagesTotal.toNat - stats.totalMessages

end Mailroom.Sync
