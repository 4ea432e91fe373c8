/-!
# The data directory

Where the store, the token file and the logs of an account are kept.
-/

namespace Mailroom.DataDir

/-- The path of a name in a directory. -/
def join (dir name : String) : String :=
  if dir = "" ∨ dir.endsWith "/" then dir ++ name else dir ++ "/" ++ name

/-- The path of the store. -/
def store (root : String) : String := join root "store.db"

/-- The path of the token file. -/
def token (root : String) : String := join root "token.json"

/-- The path of the directory of logs. -/
def logs (root : String) : String := join root "logs"

end Mailroom.DataDir
