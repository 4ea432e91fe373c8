import Mailroom.Run
import Mailroom.Text.Integer
import Mailroom.Url.Basic

/-!
# Settings

What a run can be told. Every setting has a default and a name, of which its option on the command
line and its environment variable are made. Flags take no value on the command line; in the
environment they are `true` or `false`.
-/

namespace Mailroom

/-- The settings of the program. -/
structure Settings where
  logLevel : String
  ansiLogs : Bool
  logToFile : Bool
  maxLogFiles : Nat
  rootDir : String
  rulesFile : String
  credentialsFile : String
  apiUrl : String
  timeoutSeconds : Nat
  pageSize : Nat
  scanLimit : Nat
  forceSync : Bool
  skipRules : Bool
  authorize : Bool
deriving DecidableEq, Repr

namespace Settings

/-- The settings where nothing is said. -/
def default : Settings where
  logLevel := "info"
  ansiLogs := true
  logToFile := false
  maxLogFiles := 5
  rootDir := "."
  rulesFile := "rules.yaml"
  credentialsFile := "credentials.json"
  apiUrl := "https://gmail.googleapis.com/gmail/v1/users/me"
  timeoutSeconds := 30
  pageSize := 500
  scanLimit := 10000
  forceSync := false
  skipRules := false
  authorize := false

/-- What a run is to do. -/
def runOptions (s : Settings) : Run.Options where
  sync := ⟨s.pageSize, s.scanLimit⟩
  force := s.forceSync
  skipRules := s.skipRules
  rulesFile := s.rulesFile

/-! ## Names -/

/-- A setting. -/
inductive Key
  | logLevel
  | ansiLogs
  | logToFile
  | maxLogFiles
  | rootDir
  | rulesFile
  | credentialsFile
  | apiUrl
  | timeoutSeconds
  | pageSize
  | scanLimit
  | forceSync
  | skipRules
  | authorize
deriving DecidableEq, Repr

namespace Key

/-- The settings in order. -/
def all : List Key :=
  [logLevel, ansiLogs, logToFile, maxLogFiles, rootDir, rulesFile, credentialsFile, apiUrl,
    timeoutSeconds, pageSize, scanLimit, forceSync, skipRules, authorize]

/-- The name of a setting. -/
def name : Key → String
  | logLevel => "log-level"
  | ansiLogs => "ansi-logs"
  | logToFile => "log-to-file"
  | maxLogFiles => "max-log-files"
  | rootDir => "root-dir"
  | rulesFile => "rules-file"
  | credentialsFile => "credentials-file"
  | apiUrl => "gmail-api-url"
  | timeoutSeconds => "http-timeout-secs"
  | pageSize => "page-size"
  | scanLimit => "scan-limit"
  | forceSync => "force-sync"
  | skipRules => "skip-rules"
  | authorize => "authorize"

/-- The option of a setting, without the hyphens in front. -/
def option (k : Key) : String := "mailrules-" ++ k.name

/-- The setting of an option. -/
def ofOption? (s : String) : Option Key := all.find? (·.option = s)

/-- The environment variable of a setting; `authorize` has none. -/
def environmentName? (k : Key) : Option String :=
  if k = authorize then none
  else some ("MAILRULES_" ++
    String.ofList (k.name.toList.map fun c => if c = '-' then '_' else c.toUpper))

/-- Whether a setting is a flag. -/
def isFlag : Key → Bool
  | ansiLogs | logToFile | forceSync | skipRules | authorize => true
  | _ => false

end Key

/-! ## Values -/

/-- Why there are no settings: something is wrong with what was said, or help or the version was
asked for. -/
inductive Ending
  | unknownArgument
  | invalidValue
  | valueValidation
  | argumentConflict
  | tooManyValues
  | displayHelp
  | displayVersion
deriving DecidableEq, Repr

namespace Ending

/-- The name of an ending. -/
def name : Ending → String
  | unknownArgument => "UnknownArgument"
  | invalidValue => "InvalidValue"
  | valueValidation => "ValueValidation"
  | argumentConflict => "ArgumentConflict"
  | tooManyValues => "TooManyValues"
  | displayHelp => "DisplayHelp"
  | displayVersion => "DisplayVersion"

/-- Whether all is well. -/
def isAnswer : Ending → Bool
  | displayHelp | displayVersion => true
  | _ => false

end Ending

/-- Reads a flag. -/
def readFlag (v : String) : Except Ending Bool :=
  if v = "true" then .ok true else if v = "false" then .ok false else .error .invalidValue

/-- Reads a number that fits in 64 bits. -/
def readNumber (v : String) : Except Ending Nat :=
  match uint64OfText? v with
  | some n => .ok n.toNat
  | none => .error .valueValidation

/-- Reads a number that is not zero. -/
def readPositive (v : String) : Except Ending Nat := do
  let n ← readNumber v
  if n = 0 then .error .valueValidation else .ok n

/-- Reads the size of a page. -/
def readPageSize (v : String) : Except Ending Nat :=
  match Text.integer? v.toList with
  | some n => if 1 ≤ n ∧ n ≤ Sync.maxPageSize then .ok n.toNat else .error .valueValidation
  | none => .error .valueValidation

/-- Reads a path. -/
def readFilePath (v : String) : Except Ending String :=
  if v = "" then .error .invalidValue else .ok v

/-- Reads an address, which is kept without the slashes at its end. -/
def readAddress (v : String) : Except Ending String :=
  match Url.parse v with
  | .ok _ => .ok (String.ofList (Text.dropEnd (· = '/') v.toList))
  | .error _ => .error .valueValidation

/-- Sets a setting to the value that a text stands for. -/
def set (s : Settings) (k : Key) (v : String) : Except Ending Settings :=
  match k with
  | .logLevel => .ok { s with logLevel := v }
  | .ansiLogs => (readFlag v).map fun x => { s with ansiLogs := x }
  | .logToFile => (readFlag v).map fun x => { s with logToFile := x }
  | .maxLogFiles => (readNumber v).map fun x => { s with maxLogFiles := x }
  | .rootDir => (readFilePath v).map fun x => { s with rootDir := x }
  | .rulesFile => (readFilePath v).map fun x => { s with rulesFile := x }
  | .credentialsFile => (readFilePath v).map fun x => { s with credentialsFile := x }
  | .apiUrl => (readAddress v).map fun x => { s with apiUrl := x }
  | .timeoutSeconds => (readPositive v).map fun x => { s with timeoutSeconds := x }
  | .pageSize => (readPageSize v).map fun x => { s with pageSize := x }
  | .scanLimit => (readNumber v).map fun x => { s with scanLimit := x }
  | .forceSync => (readFlag v).map fun x => { s with forceSync := x }
  | .skipRules => (readFlag v).map fun x => { s with skipRules := x }
  | .authorize => (readFlag v).map fun x => { s with authorize := x }

end Settings

end Mailroom
