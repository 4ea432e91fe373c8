import Mailroom.OAuth.Access
import Mailroom.Provider.Gmail
import Mailroom.Settings.CommandLine
import Mailroom.Settings.DataDir

/-!
# The program

From the command line to the exit status: the settings are read, the data directory is made, and
then the program either asks the user for consent or syncs the store and applies the rules. Whatever
goes wrong from there on ends up in the log.
-/

namespace Mailroom.Program

/-- How the program ends: its exit status, none if it goes on for ever; what it complains about; the
lines of the log that are shown; and the machine it leaves behind. -/
structure Outcome where
  status : Option Nat
  complaint : Option String
  log : List LogLine
  machine : Machine

/-! ## Work -/

/-- The most bytes that the path of a store may have. -/
def longestStorePath : Nat := 488

/-- What a store keeps at a path, its tables made. -/
def openStore (path : String) (found : Option FileTree.Node) : Except Error Store :=
  if longestStorePath < path.utf8ByteSize then .error (.store (.unopened path))
  else
    match found with
    | none => .ok Store.fresh.ensureSchema
    | some (.store s) => .ok s.ensureSchema
    | some (.file []) => .ok Store.fresh.ensureSchema
    | some (.file _) => .error (.store .notAStore)
    | some .directory => .error (.store (.unopened path))

/-- Syncs the store at a path and applies the rules. -/
def sync (s : Settings) (token storePath : String) : Job Unit := do
  let m ← get
  let store ← Job.ofExcept (openStore storePath (m.files.find? storePath))
  fun m =>
    let rulesText := (m.files.read s.rulesFile).text?
    let world : World Gmail := ⟨Gmail.client s.apiUrl token m.server, store, m.now, m.log⟩
    let (result, world) := Run.run Gmail.provider s.runOptions rulesText world
    let files := (m.files.write storePath (.store world.store)).getD m.files
    (result.map fun _ => (), { m with files, server := world.remote.server, log := world.log })

/-- What the settings ask for. -/
def work (s : Settings) : Job Unit := do
  Job.info "Starting mailrules"
  Job.info "Version:  0.3.0"
  let tokenFile := DataDir.token s.rootDir
  if s.authorize then OAuth.authorize s.credentialsFile tokenFile
  else
    let token ← OAuth.accessToken s.credentialsFile tokenFile
    sync s token (DataDir.store s.rootDir)

/-! ## Start and end -/

/-- Makes the data directory, and the directory of logs if they go to files; tells whether they are
there. -/
def prepare (s : Settings) (files : FileTree) : FileTree × Bool :=
  let (files, made) := files.makeDirectory s.rootDir
  if made && s.logToFile then files.makeDirectory (DataDir.logs s.rootDir) else (files, made)

/-- The complaint about a log level that there is not. -/
def levelComplaint (level : String) : String :=
  "Invalid log level specified. Use one of: error, warn, info, debug, trace. " ++
    "The log level you currently specified is 'mailrules_log_level'='" ++ level ++ "'"

/-- The lines of the log that are shown. -/
def shown (s : Settings) (level : LogLevel) (m : Machine) : List LogLine :=
  if s.logToFile then [] else m.log.reverse.filter fun l => l.level.rank ≤ level.rank

/-- Does the work and reports how it ended. -/
def finish (s : Settings) (level : LogLevel) (m : Machine) : Outcome :=
  let (result, m) := work s m
  let note (l : LogLevel) (text : String) : Machine := { m with log := ⟨l, text⟩ :: m.log }
  let (status, m) := match result with
    | .ok () => (some 0, m)
    | .error (.failed e) => (some 1, note .error e.message)
    | .error .interrupted => (some 0, note .warn "Interrupted, stopping the run")
    | .error .unending => (none, m)
  ⟨status, none, shown s level m, m⟩

/-- Runs the program. -/
def run (arguments : List String) (environment : List (String × String)) (m : Machine) : Outcome :=
  match Settings.read arguments environment with
  | .error e => ⟨some (if e.isAnswer then 0 else 2), some e.name, [], m⟩
  | .ok s =>
      let (files, made) := prepare s m.files
      let m := { m with files }
      if !made then ⟨some 1, none, [], m⟩
      else
        match LogLevel.ofText? s.logLevel with
        | none => ⟨some 1, some (levelComplaint s.logLevel), [], m⟩
        | some level => finish s level m

end Mailroom.Program
