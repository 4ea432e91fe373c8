import Mailroom.Store.Basic
import Mailroom.Text.Split
import Mailroom.Text.Utf8

/-!
# Files

The files around a working directory: at each place there is a directory, a file of bytes or a
store. A path is walked name by name from the working directory, or from `/`, and every directory on
the way has to be there, also for the names `.` and `..`; a slash at the end of a path asks for a
directory as `.` does. The directories above the working directory are there, but nothing else is
known of them.
-/

namespace Mailroom

/-- What can be read of a file as text. -/
inductive FileText
  | missing
  | unreadable
  | text (s : String)
deriving DecidableEq, Repr

namespace FileText

/-- The text, if there is one. -/
def text? : FileText → Option String
  | text s => some s
  | _ => none

/-- The text of bytes, if they are one. -/
def ofBytes (bytes : List UInt8) : FileText :=
  match Text.Utf8.decode? bytes with
  | some cs => text (String.ofList cs)
  | none => unreadable

end FileText

namespace FileTree

/-- The names on the way to a place. A place below `/` has it as its first name, and one above the
working directory starts with as many `..` as it is higher. -/
abbrev Place := List String

/-- What is found at a place. -/
inductive Node
  | directory
  | file (bytes : List UInt8)
  | store (s : Store)

end FileTree

/-- The files around a working directory. -/
structure FileTree where
  nodes : List (FileTree.Place × FileTree.Node)

namespace FileTree

/-- No files. -/
def empty : FileTree := ⟨[]⟩

/-! ## Paths -/

/-- The most bytes that a name may have. -/
def longestName : Nat := 255

/-- The most bytes that a path may have. -/
def longestPath : Nat := 4095

/-- Where a path starts. -/
def start (s : String) : Place := if s.startsWith "/" then ["/"] else []

/-- The names that a path goes through. -/
def names (s : String) : List String :=
  ((Text.split '/' s.toList).map String.ofList).filter (· ≠ "")

/-- The place above a place; `/` is above itself. -/
def climb (place : Place) : Place :=
  if place = ["/"] then place
  else if place.all (· = "..") then ".." :: place
  else place.dropLast

/-- Follows a name. -/
def follow (place : Place) (name : String) : Place :=
  if name = "." then place else if name = ".." then climb place else place ++ [name]

/-- What is at a place; the starting points and what is above them are always there. -/
def node? (t : FileTree) (place : Place) : Option Node :=
  if place = ["/"] ∨ place.all (· = "..") then some .directory else t.nodes.lookup place

/-- Whether there is a directory at a place. -/
def isDirectory (t : FileTree) (place : Place) : Bool :=
  match t.node? place with
  | some .directory => true
  | _ => false

/-- Walks along names, through directories only. -/
def walk (t : FileTree) : Place → List String → Option Place
  | place, [] => some place
  | place, name :: rest =>
      if t.isDirectory place ∧ name.utf8ByteSize ≤ longestName then
        walk t (follow place name) rest
      else none

/-- The place that a path leads to. -/
def place? (t : FileTree) (path : String) : Option Place :=
  if longestPath < path.utf8ByteSize then none
  else t.walk (start path) (names path ++ if path.endsWith "/" then ["."] else [])

/-! ## Reading -/

/-- What is at a path. -/
def find? (t : FileTree) (path : String) : Option Node := (t.place? path).bind t.node?

/-- What can be read at a path. -/
def read (t : FileTree) (path : String) : FileText :=
  match t.find? path with
  | none => .missing
  | some (.file bytes) => FileText.ofBytes bytes
  | some _ => .unreadable

/-- The names in a directory, in order. -/
def list (t : FileTree) (path : String) : List String :=
  match t.place? path with
  | none => []
  | some dir =>
      (t.nodes.filterMap fun (p, _) => if p.dropLast = dir then p.getLast? else none).mergeSort
        (fun a b => decide (a ≤ b))

/-! ## Writing -/

/-- Puts something at a place. -/
def put (t : FileTree) (place : Place) (n : Node) : FileTree :=
  ⟨t.nodes.filter (·.1 ≠ place) ++ [(place, n)]⟩

/-- Makes the directories on the way that are not there yet, and tells whether all are there in the
end. What was made before a failure stays. A directory that only `.` follows is not made. -/
def makeFrom (t : FileTree) : Place → List String → FileTree × Bool
  | _, [] => (t, true)
  | place, name :: rest =>
      let next := follow place name
      if longestName < name.utf8ByteSize then (t, false)
      else
        match t.node? next with
        | some .directory => makeFrom t next rest
        | some _ => (t, false)
        | none =>
            if rest ≠ [] ∧ rest.all (· = ".") then (t, false)
            else makeFrom (t.put next .directory) next rest

/-- Makes a directory and those on the way to it, unless a file is in the way. -/
def makeDirectory (t : FileTree) (path : String) : FileTree × Bool :=
  if longestPath < path.utf8ByteSize then (t, false) else t.makeFrom (start path) (names path)

/-- Writes a file or a store, where there is a directory to hold it and none in its place. -/
def write (t : FileTree) (path : String) (n : Node) : Option FileTree := do
  let place ← t.place? path
  if t.isDirectory place then none
  else some (t.put place n)

/-- Adds a file or a store, with the directories on the way to it. -/
def add (t : FileTree) (path : String) (n : Node) : FileTree :=
  let dir := String.ofList (Text.join '/' (Text.split '/' path.toList).dropLast)
  let t := (t.makeDirectory dir).1
  (t.write path n).getD t

end FileTree

end Mailroom
