import Mailroom.Log
import Mailroom.Provider.Basic
import Mailroom.Store.Query

/-!
# Sessions

What happens between a remote mailbox and the local store: calls on the provider, reads and writes
of the store, and lines of the log, one after the other, at a fixed time. What was done before a
session stops stays done.
-/

namespace Mailroom

/-- What a session works on: the provider's state, the store, the time in milliseconds since 1970,
and the log, the last line first. -/
structure World (σ : Type) where
  remote : σ
  store : Store
  now : Int
  log : List LogLine

/-- A session with a provider with states of type `σ`. -/
abbrev Session (σ α : Type) := ExceptT Stop (StateM (World σ)) α

namespace Session

variable {σ α : Type}

/-- Makes a call on the provider. -/
def remote (c : Call σ α) : Session σ α := fun w =>
  let (result, state) := c w.remote
  (result, { w with remote := state })

/-- Gives what was computed, or stops with its error. -/
def ofExcept (x : Except Error α) : Session σ α := Call.ofExcept x

/-- Reads the store. -/
def read (f : Store → Int → Except Error α) : Session σ α := fun w =>
  (ofExcept (f w.store w.now) : Session σ α) w

/-- Changes the store, unless that fails. -/
def write (f : Store → Except Error Store) : Session σ Unit := fun w =>
  match f w.store with
  | .ok store => (.ok (), { w with store })
  | .error e => (.error (.failed e), w)

/-- Adds a line to the log. -/
def log (level : LogLevel) (text : String) : Session σ Unit := fun w =>
  (.ok (), { w with log := ⟨level, text⟩ :: w.log })

/-- Reports progress. -/
def info (text : String) : Session σ Unit := log .info text

/-- Goes through with something and gives how it ended. -/
def attempt (s : Session σ α) : Session σ (Except Stop α) := fun w =>
  let (result, w) := s w
  (.ok result, w)

theorem run_attempt (s : Session σ α) (w : World σ) :
    (attempt s) w = (.ok (s w).1, (s w).2) := rfl

end Session

end Mailroom
