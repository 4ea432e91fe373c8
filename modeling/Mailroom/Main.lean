import Mailroom.Program
import Std.Time.DateTime.Timestamp

/-!
# The command

The program on the arguments, the environment, the files and the terminal of a process. The command
has no network: what it asks of a server comes back unanswered. Its store is made anew for each run.

Consent takes two runs from one and the same machine, the first with nothing typed: it shows what
the user has to read before there is anything to type.
-/

namespace Mailroom.Command

/-- The variables of the environment that are settings. -/
def environment : IO (List (String × String)) := do
  let names := Settings.Key.all.filterMap Settings.Key.environmentName?
  let values ← names.mapM fun name => do return (name, ← IO.getEnv name)
  return values.filterMap fun (name, value) => value.map fun v => (name, v)

/-- The files that a run reads. -/
def files (s : Settings) : IO FileTree := do
  let paths : List String := [s.credentialsFile, s.rulesFile, DataDir.token s.rootDir]
  paths.foldlM (fun (tree : FileTree) (path : String) => do
    match ← (IO.FS.readBinFile path).toBaseIO with
    | .ok bytes => return tree.add path (.file bytes.toList)
    | .error _ => return tree) FileTree.empty

/-- The milliseconds since 1970. -/
def clock : IO Int := do
  return (← Std.Time.Timestamp.now).toMillisecondsSinceUnixEpoch.val

/-- Random bytes. -/
def random (n : USize) : IO (List UInt8) := do
  return (← IO.getRandomBytes n).toList

/-- The machine that a process is. -/
def machine (files : FileTree) : IO Machine := do
  return {
    files
    server := ⟨[], 80, [], .dropped, []⟩
    now := ← clock
    nonce := OAuth.Nonce.ofBytes (← random 16) (← random 32)
    input := []
    log := []
    printed := [] }

/-- Leaves files behind as a run has left them. -/
def save (before after : FileTree) : IO Unit :=
  after.nodes.forM fun (place, node) => do
    let path := "/".intercalate place
    match node with
    | .directory => IO.FS.createDirAll path
    | .file bytes =>
        if before.read path ≠ after.read path then IO.FS.writeBinFile path ⟨bytes.toArray⟩
    | .store _ => return

/-- Runs the program and reports how it ended. -/
def run (arguments : List String) : IO UInt32 := do
  let environment ← environment
  let settings := (Settings.read arguments environment).toOption
  let m ← machine (← settings.elim (pure FileTree.empty) files)
  let silent := Program.run arguments environment m
  silent.machine.printed.reverse.forM IO.println
  let outcome ←
    if (settings.map (·.authorize)).getD false then do
      let line ← (← IO.getStdin).getLine
      pure (Program.run arguments environment { m with input := line.toUTF8.toList })
    else pure silent
  save m.files outcome.machine.files
  let time := (Calendar.momentOfMillis? m.now).getD ""
  outcome.log.forM fun l => IO.println (time ++ " " ++ l.level.name ++ " " ++ l.written)
  outcome.complaint.forM IO.eprintln
  return UInt32.ofNat (outcome.status.getD 1)

end Mailroom.Command

/-- The command. -/
def main (arguments : List String) : IO UInt32 := Mailroom.Command.run arguments
