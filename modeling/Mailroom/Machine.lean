import Mailroom.OAuth.Grant
import Mailroom.Session

/-!
# Machines

What a program runs on: files, a server, the time, random texts, what is typed, and the log and the
printed text that it leaves behind. A job works on a machine and may stop early; what it has done
until then stays done.
-/

namespace Mailroom

/-- A machine; the log and the printed texts have the last one first. -/
structure Machine where
  files : FileTree
  server : Http.Server
  now : Int
  nonce : OAuth.Nonce
  input : List UInt8
  log : List LogLine
  printed : List String

/-- A job on a machine. -/
abbrev Job (α : Type) := ExceptT Stop (StateM Machine) α

namespace Job

variable {α : Type}

/-- Gives what was computed, or stops with its error. -/
def ofExcept (x : Except Error α) : Job α := Call.ofExcept x

/-- Adds a line to the log. -/
def log (level : LogLevel) (text : String) : Job Unit := fun m =>
  (.ok (), { m with log := ⟨level, text⟩ :: m.log })

/-- Reports progress. -/
def info (text : String) : Job Unit := log .info text

/-- Prints a text. -/
def print (text : String) : Job Unit := fun m => (.ok (), { m with printed := text :: m.printed })

/-- Makes a call on the server. -/
def online (c : Call Http.Server α) : Job α := fun m =>
  let (result, server) := c m.server
  (result, { m with server })

/-- Reads a file. -/
def read (path : String) : Job FileText := fun m => (.ok (m.files.read path), m)

/-- Writes a file, or stops with an error. -/
def write (path : String) (text : String) (e : Error) : Job Unit := fun m =>
  match m.files.write path (.file (Text.Utf8.encode text.toList)) with
  | some files => (.ok (), { m with files })
  | none => (.error (.failed e), m)

/-- The time as a 64-bit word. -/
def now : Job Int64 := fun m => (.ok (Int64.ofInt m.now), m)

/-- The first line of bytes, with its line end, and what follows it. -/
def cutLine (bytes : List UInt8) : List UInt8 × List UInt8 :=
  let line := bytes.takeWhile (· ≠ 10)
  (line ++ (bytes.drop line.length).take 1, bytes.drop (line.length + 1))

/-- Reads a line that is typed, or stops with an error if it is no text. -/
def inputLine (e : Error) : Job String := fun m =>
  let (line, rest) := cutLine m.input
  match Text.Utf8.decode? line with
  | some cs => (.ok (String.ofList cs), { m with input := rest })
  | none => (.error (.failed e), { m with input := rest })

end Job

end Mailroom
