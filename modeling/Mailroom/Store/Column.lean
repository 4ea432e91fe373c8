import Mailroom.Sql.Value

/-!
# Columns of the message table

`Column.all` fixes the order of the columns, and with it the table's definition, the list of columns
that a query selects, and the place of each value in a row.
-/

namespace Mailroom.Store

open Mailroom.Sql (Affinity)

/-- A type that a column is declared with. -/
inductive DeclaredType
  | key
  | text
  | datetime
  | integer
deriving DecidableEq, Repr

namespace DeclaredType

/-- A type as a table's definition writes it. -/
def sql : DeclaredType → String
  | key => "TEXT PRIMARY KEY"
  | text => "TEXT"
  | datetime => "DATETIME"
  | integer => "INTEGER"

/-- What a type converts values towards. -/
def affinity : DeclaredType → Affinity
  | key => .text
  | text => .text
  | datetime => .numeric
  | integer => .numeric

/-- Whether a word stands somewhere in a text. -/
def hasWord (word : List Char) : List Char → Bool
  | [] => false
  | c :: cs => word.isPrefixOf (c :: cs) || hasWord word cs

/-- Only the words in the name of a type count: with `INT` it is a type of numbers, else with
`CHAR`, `CLOB` or `TEXT` one of texts, and with none of them a type of numbers again. -/
theorem affinity_eq (t : DeclaredType) : t.affinity =
    if hasWord "INT".toList t.sql.toList then .numeric
    else if ["CHAR", "CLOB", "TEXT"].any (hasWord ·.toList t.sql.toList) then .text
    else .numeric := by
  cases t <;> decide

end DeclaredType

/-- A column of the message table. -/
inductive Column
  | id
  | threadId
  | historyId
  | internalDate
  | internalTimestamp
  | sender
  | recipient
  | subject
  | labelIds
  | bodyData
  | bodySize
  | bodyAttachmentId
  | filename
  | mimeType
  | partId
  | parts
  | raw
  | sizeEstimate
  | snippet
deriving DecidableEq, Repr

namespace Column

/-- The columns in order. -/
def all : List Column :=
  [id, threadId, historyId, internalDate, internalTimestamp, sender, recipient, subject, labelIds,
    bodyData, bodySize, bodyAttachmentId, filename, mimeType, partId, parts, raw, sizeEstimate,
    snippet]

/-- The name of a column. -/
def name : Column → String
  | id => "id"
  | threadId => "threadId"
  | historyId => "historyId"
  | internalDate => "internalDate"
  | internalTimestamp => "internalTimestamp"
  | sender => "from"
  | recipient => "to"
  | subject => "subject"
  | labelIds => "labelIds"
  | bodyData => "payload__body__data"
  | bodySize => "payload__body__size"
  | bodyAttachmentId => "payload__body__attachmentId"
  | filename => "payload__filename"
  | mimeType => "payload__mimeType"
  | partId => "payload__partId"
  | parts => "payload__parts"
  | raw => "raw"
  | sizeEstimate => "sizeEstimate"
  | snippet => "snippet"

/-- The place of a column. -/
def index (c : Column) : Nat := c.ctorIdx

theorem all_index : all.map index = List.range 19 := by decide

/-- The column of a name. -/
def ofName? (name : String) : Option Column := all.find? (·.name = name)

/-- The declared type of a column. -/
def declared : Column → DeclaredType
  | id => .key
  | internalDate => .datetime
  | bodySize => .integer
  | sizeEstimate => .integer
  | _ => .text

/-- What the declared type converts values towards. -/
def affinity (c : Column) : Affinity := c.declared.affinity

theorem affinity_internalDate : internalDate.affinity = .numeric := rfl

/-- The name in double quotes. -/
def quoted (c : Column) : String := "\"" ++ c.name ++ "\""

end Column

/-! ## Statements

The texts that a database is given: two that make the tables, and one that fills a row. -/

/-- The columns as a query selects them. -/
def selectList : String := ", ".intercalate (Column.all.map Column.quoted)

/-- The definition of the message table. -/
def createMessages : String :=
  "CREATE TABLE IF NOT EXISTS messages (\n" ++
    ",\n".intercalate (Column.all.map fun c => "    " ++ c.quoted ++ " " ++ c.declared.sql) ++ "\n)"

/-- The definition of the header table and its index. -/
def createHeaders : String :=
  "
CREATE TABLE IF NOT EXISTS headers (
    id INTEGER PRIMARY KEY,
    message_id TEXT,
    name TEXT,
    value TEXT,
    FOREIGN KEY (message_id) REFERENCES messages(id)
);

CREATE INDEX IF NOT EXISTS idx_headers_message_id ON headers (message_id);
"

/-- The statement that inserts a message. -/
def insertMessage : String :=
  "INSERT INTO messages (" ++ selectList ++ ") VALUES (" ++
    ", ".intercalate (Column.all.map fun _ => "?") ++ ")"

end Mailroom.Store
