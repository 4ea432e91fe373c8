import Mailroom.Store.HistoryId
import Mailroom.Store.Row

/-!
# The local store

The store keeps a table of messages and a table of header lines, both in the order of insertion.
Before its schema exists there are no tables, and only `ensureSchema` succeeds.

Writing a message adds its row and then one line per header of its payload; no two rows share an id.
Replacing a message removes it and writes it again, so it moves to the end.
-/

namespace Mailroom

open Sql (Value)

namespace Store

/-- A header line of a stored message. -/
structure HeaderRow where
  messageId : String
  name : String
  value : String
deriving DecidableEq, Repr

/-- The two tables. -/
structure Tables where
  rows : List Row
  headers : List HeaderRow
deriving Repr

/-- A summary of the messages stored. -/
structure Stats where
  lastHistoryId : Option String
  totalMessages : Nat
deriving DecidableEq, Repr

end Store

/-- The local store. -/
structure Store where
  tables : Option Store.Tables
deriving Repr

namespace Store

/-- A store without tables. -/
def fresh : Store := ⟨none⟩

/-- The store with its tables made, if there were none. -/
def ensureSchema (s : Store) : Store := ⟨some (s.tables.getD ⟨[], []⟩)⟩

/-- The row as the table keeps it, each value converted towards its column's affinity. -/
def Row.stored (row : Row) : Row :=
  List.zipWith (fun (c : Column) v => c.affinity.apply v) Column.all row

/-- Whether a row has the given id. -/
def Row.hasId (row : Row) (id : String) : Bool :=
  match row.get .id with
  | .text s => s = id
  | _ => false

/-- The header lines of a message. -/
def headerRows (m : Message) : List HeaderRow :=
  m.payload.headers.map fun h => ⟨m.id, h.name, h.value⟩

namespace Tables

/-- Adds a message whose id is not there yet. -/
def insert (t : Tables) (m : Message) : Except Error Tables :=
  if t.rows.any (·.hasId m.id) then .error (.store .duplicateId)
  else .ok ⟨t.rows ++ [(Row.encode m).stored], t.headers ++ headerRows m⟩

/-- Removes the message of an id, if there is one. -/
def remove (t : Tables) (id : String) : Tables :=
  ⟨t.rows.filter (!·.hasId id), t.headers.filter (·.messageId ≠ id)⟩

/-- The values of a column that has only texts. -/
def texts (column : Column) (values : List Value) : Except Error (List String) :=
  values.mapM fun
    | .text s => .ok s
    | v => .error (.store (.valueKind v.kind column.name))

/-- Whether a value is null. -/
def isNull : Value → Bool
  | .null => true
  | _ => false

/-- The ids of the messages, missing ones first. -/
def ids (t : Tables) : Except Error (List String) :=
  let values := t.rows.map (·.get .id)
  texts .id (values.filter isNull ++ values.filter (!isNull ·))

/-- The history ids of the messages. -/
def historyIds (t : Tables) : Except Error (List String) :=
  texts .historyId ((t.rows.map (·.get .historyId)).filter (!isNull ·))

/-! ## Overwriting values -/

/-- Whether two values are equal and not null. -/
def sameValue (a b : Value) : Bool := Sql.compareValues a b = some .eq

/-- Overwrites a column in the rows of an id, or in all, one row after the other; an id must not
become that of another row. -/
def assignRows (c : Column) (v : Value) (selected : Row → Bool) (before : List Row) :
    List Row → Except Error (List Row × Nat)
  | [] => .ok (before, 0)
  | row :: rest =>
      if selected row then
        let changed := row.set c (c.affinity.apply v)
        let clash := (before ++ rest).any fun r => sameValue (r.get .id) (changed.get .id)
        if c = .id ∧ clash then .error (.store .duplicateId)
        else do
          let (rows, n) ← assignRows c v selected (before ++ [changed]) rest
          return (rows, n + 1)
      else assignRows c v selected (before ++ [row]) rest

/-- Overwrites a column in the row of an id, or in all rows; every header line must keep its
message. Also gives the number of rows. -/
def assign (t : Tables) (c : Column) (v : Value) (id : Option String) :
    Except Error (Nat × Tables) := do
  let selected (row : Row) : Bool := id.all row.hasId
  let (rows, n) ← assignRows c v selected [] t.rows
  if t.headers.all fun h => rows.any (·.hasId h.messageId) then return (n, { t with rows })
  else .error (.store .danglingHeader)

end Tables

/-- The tables, of which the named one is looked for. -/
def getTables (s : Store) (table : String) : Except Error Tables :=
  match s.tables with
  | some t => .ok t
  | none => .error (.store (.noTable table))

/-- Adds a message whose id is not there yet. -/
def insert (s : Store) (m : Message) : Except Error Store := do
  return ⟨some (← (← s.getTables "messages").insert m)⟩

/-- Removes the message of an id, if there is one. -/
def remove (s : Store) (id : String) : Except Error Store := do
  return ⟨some ((← s.getTables "headers").remove id)⟩

/-- Puts a message in place of the one with its id, at the end. -/
def replace (s : Store) (m : Message) : Except Error Store := do
  return ⟨some (← ((← s.getTables "headers").remove m.id).insert m)⟩

/-- The ids of the messages stored. -/
def ids (s : Store) : Except Error (List String) := do
  (← s.getTables "messages").ids

/-- A summary of the messages stored. -/
def stats (s : Store) : Except Error Stats := do
  let t ← s.getTables "messages"
  return ⟨HistoryId.latest? (← t.historyIds), t.rows.length⟩

/-- Overwrites a column in the row of an id, or in all rows. -/
def assign (s : Store) (c : Column) (v : Value) (id : Option String) :
    Except Error (Nat × Store) := do
  let (n, t) ← (← s.getTables "messages").assign c v id
  return (n, ⟨some t⟩)

/-- The header lines of the message of an id. -/
def headersOf (s : Store) (id : String) : Except Error (List HeaderRow) := do
  return (← s.getTables "headers").headers.filter (·.messageId = id)

end Store

end Mailroom
