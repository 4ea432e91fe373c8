import Mailroom.Text.Blank
import Mailroom.Url.Form
import Mailroom.Url.Host

/-!
# URLs

Absolute URLs, read as web browsers read them: blanks around the text and line ends within it are
dropped, a web address needs a host and takes backslashes for slashes, dot segments are resolved,
and characters that a part cannot carry are percent-encoded. A URL of another scheme may have a
plain text in place of a path.
-/

namespace Mailroom

namespace Url

/-- How the URLs of a scheme are read: those of files, those of the web, and all others. -/
inductive Kind
  | file
  | web
  | other
deriving DecidableEq, Repr

/-- Who is asked: a host, with a user's name and password; `portNumber` is kept where it is not the
scheme's own. -/
structure Authority where
  user : String
  password : String
  host : Host
  portNumber : Option Nat
deriving DecidableEq, Repr

/-- What is asked for: the segments of a path, or a plain text. -/
inductive Path
  | segments (names : List String)
  | plain (text : String)
deriving DecidableEq, Repr

end Url

/-- An absolute URL. -/
structure Url where
  scheme : String
  authority : Option Url.Authority
  path : Url.Path
  query : Option String
  fragment : Option String
deriving DecidableEq, Repr

namespace Url

/-! ## Schemes -/

/-- How the URLs of a scheme are read. -/
def kindOf (scheme : String) : Kind :=
  if scheme = "file" then .file
  else if scheme ∈ ["http", "https", "ws", "wss", "ftp"] then .web
  else .other

/-- The `portNumber` that a scheme stands for. -/
def defaultPort? (scheme : String) : Option Nat :=
  [("http", 80), ("https", 443), ("ws", 80), ("wss", 443), ("ftp", 21)].lookup scheme

/-- Whether a character may follow the first letter of a scheme. -/
def isSchemeChar (c : Char) : Bool := c.isAlphanum || c = '+' || c = '-' || c = '.'

/-- The scheme in front of a text, in lower case, and what follows its colon. -/
def scheme? (cs : List Char) : Option (String × List Char) :=
  let name := cs.takeWhile isSchemeChar
  match cs.drop name.length with
  | ':' :: rest =>
      if (name.head?.map Char.isAlpha).getD false then
        some (String.ofList (name.map Char.toLower), rest)
      else none
  | _ => none

/-! ## Paths -/

/-- Whether a character separates the segments of a path. -/
def isSeparator (kind : Kind) (c : Char) : Bool := c = '/' || (kind ≠ .other && c = '\\')

/-- A segment with its encoded dots decoded. -/
def dots : List Char → List Char
  | '%' :: '2' :: c :: r => if c = 'e' ∨ c = 'E' then '.' :: dots r else '%' :: '2' :: dots (c :: r)
  | c :: r => c :: dots r
  | [] => []

/-- Whether a segment is the letter of a drive, with a colon or a bar after it. -/
def isDrive : List Char → Bool
  | [c, m] => c.isAlpha && (m = ':' || m = '|')
  | _ => false

/-- Whether a segment is a drive, or a path that starts with one. -/
def startsWithDrive : List Char → Bool
  | c :: m :: '\\' :: _ => isDrive [c, m]
  | cs => isDrive cs

/-- The segments without the last one, which stays if it is a drive. -/
def shorten (segments : List String) : List String :=
  if (segments.getLast?.map fun s => startsWithDrive s.toList).getD false then segments
  else segments.dropLast

/-- A segment as it is kept; the drive at the start of a file's path gets its colon. -/
def segment (kind : Kind) (first : Bool) (cs : List Char) : String :=
  if kind = .file && first && isDrive cs then String.ofList (cs.take 1 ++ [':'])
  else String.ofList (Percent.encode Percent.inPath cs)

/-- Resolves the dot segments of a path, the segments before it given. -/
def resolve (kind : Kind) : List String → List (List Char) → List String
  | done, [] => done
  | done, cs :: rest =>
      let close (names : List String) : List String := if rest = [] then names ++ [""] else names
      if dots cs = ['.', '.'] then resolve kind (close (shorten done)) rest
      else if dots cs = ['.'] then resolve kind (close done) rest
      else resolve kind (done ++ [segment kind done.isEmpty cs]) rest

/-- The segments of a path, each separator a slash. -/
def pieces (kind : Kind) (cs : List Char) : List (List Char) :=
  Text.split '/' (cs.map fun c => if isSeparator kind c then '/' else c)

/-- Reads a path, with its leading slash or without. -/
def readPath (kind : Kind) (cs : List Char) : Path :=
  match cs with
  | [] => .segments (if kind = .other then [] else [""])
  | c :: r => .segments (resolve kind [] (pieces kind (if isSeparator kind c then r else c :: r)))

/-- The path of a file, its leading empty segments dropped. -/
def filePath (names : List String) : Path :=
  match names.dropWhile (· = "") with
  | [] => .segments [""]
  | rest => .segments rest

/-! ## Authorities -/

/-- What stands before the last `@`, if there is one, and what stands after it. -/
def splitUser (cs : List Char) : Option (List Char) × List Char :=
  let host := (cs.reverse.takeWhile (· ≠ '@')).reverse
  if host.length = cs.length then (none, cs)
  else (some (cs.take (cs.length - host.length - 1)), host)

/-- The host in front of a text, up to a colon outside of brackets, and what follows it. -/
def splitHost : Bool → List Char → List Char × List Char
  | _, [] => ([], [])
  | inside, c :: r =>
      if c = ':' ∧ ¬ inside then ([], c :: r)
      else
        let inside := if c = '[' then true else if c = ']' then false else inside
        let (host, rest) := splitHost inside r
        (c :: host, rest)

/-- Reads what follows the host: nothing, or a colon and a `portNumber`, which may be missing; what
follows that has to be a backslash. -/
def readPort (scheme : String) : List Char → Except Fault (Option Nat × List Char)
  | ':' :: rest =>
      let digits := rest.takeWhile (· ≠ '\\')
      let after := rest.dropWhile (· ≠ '\\')
      if digits = [] then .ok (none, after)
      else
        match Text.natural? digits with
        | some n =>
            if 65535 < n then .error .portNumber
            else .ok (if defaultPort? scheme = some n then none else some n, after)
        | none => .error .portNumber
  | _ => .ok (none, [])

/-- A user's name or password as it is kept. -/
def userText (cs : List Char) : String := String.ofList (Percent.encode Percent.inUser cs)

/-- Reads an authority, and gives what belongs to the path of what stands behind it; `last` tells
that nothing follows the authority. -/
def readAuthority (scheme : String) (last : Bool) (cs : List Char) :
    Except Fault (Authority × List Char) := do
  let (user, rest) := splitUser cs
  if user = some [] ∧ rest = [] ∧ ¬ last then .error .emptyHost
  let (host, after) := splitHost false rest
  let (name, password) := Text.cut ':' (user.getD [])
  if host = [] ∧ (kindOf scheme = .web ∨ after ≠ []) then .error .emptyHost
  let host ← if kindOf scheme = .web then Host.read host else Host.readUninterpreted host
  let (portNumber, path) ← readPort scheme after
  if host = .name "" ∧ (name ≠ [] ∨ password ≠ []) then .error .emptyHost
  return (⟨userText name, userText password, host, portNumber⟩, path)

/-- An authority that names no host. -/
def nowhere : Authority := ⟨"", "", .name "", none⟩

/-- Reads the host of a file, which is not named if it is the local one. -/
def readFileHost (cs : List Char) : Except Fault Authority := do
  if cs = [] then return nowhere
  match ← Host.read cs with
  | .name "localhost" => return nowhere
  | host => return { nowhere with host }

/-! ## Reading -/

/-- Splits a text in two before the first separator. -/
def splitPath (kind : Kind) (cs : List Char) : List Char × List Char :=
  (cs.takeWhile fun c => !isSeparator kind c, cs.dropWhile fun c => !isSeparator kind c)

/-- Reads what stands behind the two slashes of a file: a host and a path. A drive is no host, and
none is kept before a path that starts with one. Without a host the slash before the path counts as
the end of an empty segment, so that no drive is looked for behind it. -/
def readFile (cs : List Char) : Except Fault (Authority × Path) := do
  let (host, path) := splitPath .file cs
  if isDrive host then return (nowhere, filePath (resolve .file [] (pieces .file cs)))
  let authority ← readFileHost host
  if authority = nowhere then
    return (nowhere, filePath (resolve .file [] (pieces .file path)))
  let names := resolve .file [] (pieces .file (path.drop 1))
  let drive := (names.head?.map fun s => isDrive s.toList).getD false
  return (if drive then nowhere else authority, filePath names)

/-- Reads what stands between the scheme and the query; `last` tells that there is no query, nor a
fragment. -/
def readHierarchy (scheme : String) (last : Bool) (cs : List Char) :
    Except Fault (Option Authority × Path) := do
  match kindOf scheme with
  | .web =>
      let (authority, path) := splitPath .web (cs.dropWhile (isSeparator .web))
      let (authority, _) ← readAuthority scheme (last && path.isEmpty) authority
      return (some authority, readPath .web path)
  | .file =>
      match cs with
      | a :: b :: r =>
          if isSeparator .file a ∧ isSeparator .file b then
            let (authority, path) ← readFile r
            return (some authority, path)
          else
            let r := if isSeparator .file a then b :: r else cs
            return (some nowhere, filePath (resolve .file [] (pieces .file r)))
      | [a] =>
          let r := if isSeparator .file a then [] else cs
          return (some nowhere, filePath (resolve .file [] (pieces .file r)))
      | [] => return (some nowhere, filePath [])
  | .other =>
      match cs with
      | '/' :: '/' :: r =>
          let (authority, path) := splitPath .other r
          let (authority, front) ← readAuthority scheme (last && path.isEmpty) authority
          return (some authority, readPath .other (front ++ path))
      | '/' :: _ => return (none, readPath .other cs)
      | _ => return (none, .plain (String.ofList (Percent.encode Percent.isControl cs)))

/-- What stands after the first occurrence of a character, if it occurs, encoded. -/
def part (mark : Char) (reserved : Char → Bool) (cs : List Char) : Option String :=
  if mark ∈ cs then some (String.ofList (Percent.encode reserved (Text.cut mark cs).2)) else none

/-- A text without the blanks around it and the line ends and tabs within it. -/
def cleaned (cs : List Char) : List Char :=
  (Text.dropEnd (fun c => c.toNat ≤ 32) (cs.dropWhile fun c => c.toNat ≤ 32)).filter fun c =>
    c ≠ '\t' && c ≠ '\n' && c ≠ '\r'

/-- Reads a URL. -/
def parse (s : String) : Except Fault Url := do
  let whole := cleaned s.toList
  let main := (Text.cut '#' whole).1
  match scheme? (Text.cut '?' main).1 with
  | none => .error .noScheme
  | some (scheme, rest) =>
      let (authority, path) ← readHierarchy scheme (main = whole && '?' ∉ main) rest
      let inQuery := if kindOf scheme = .other then Percent.inQuery else Percent.inWebQuery
      return {
        scheme
        authority
        path
        query := part '?' inQuery main
        fragment := part '#' Percent.inFragment whole }

/-! ## Queries -/

/-- The pairs of the query. -/
def pairs (u : Url) : List (String × String) := Form.pairs (u.query.getD "").toList

/-- Adds pairs to the query. -/
def addPairs (u : Url) (added : List (String × String)) : Url :=
  let query := u.query.getD ""
  let joint := if query = "" ∨ added = [] then "" else "&"
  { u with query := some (query ++ joint ++ String.ofList (Form.write added)) }

/-- A URL without its query if that is empty. -/
def dropEmptyQuery (u : Url) : Url := if u.query = some "" then { u with query := none } else u

/-! ## Writing -/

/-- The text of a path. -/
def Path.text : Path → String
  | segments names => String.join (names.map ("/" ++ ·))
  | plain s => s

/-- The text of an authority. -/
def Authority.text (a : Authority) : String :=
  (if a.user = "" ∧ a.password = "" then ""
    else a.user ++ (if a.password = "" then "" else ":" ++ a.password) ++ "@") ++
  a.host.text ++
  match a.portNumber with
  | some n => ":" ++ natText n
  | none => ""

/-- A mark and a text, if there is one. -/
def marked (mark : String) : Option String → String
  | some s => mark ++ s
  | none => ""

/-- What is asked of the server. -/
def target (u : Url) : String := u.path.text ++ marked "?" u.query

/-- What stands before a path that would be taken for an authority. -/
def guard (u : Url) : String :=
  match u.authority, u.path with
  | none, .segments ("" :: _ :: _) => "/."
  | _, _ => ""

/-- The text of a URL. -/
def text (u : Url) : String :=
  u.scheme ++ ":" ++ marked "//" (u.authority.map Authority.text) ++ u.guard ++ u.target ++
    marked "#" u.fragment

end Url

end Mailroom
