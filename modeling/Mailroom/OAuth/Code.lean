import Mailroom.Error
import Mailroom.Text.Blank
import Mailroom.Url.Basic

/-!
# Authorization codes

What a user pastes after consent is the code itself or the whole address that the browser was sent
to. A text that starts like a web address is taken for one, and the code is then the first parameter
of that name.
-/

namespace Mailroom.OAuth.Code

/-- Whether a text starts like a web address. -/
def isAddress (s : String) : Bool := s.startsWith "http://" || s.startsWith "https://"

/-- The code in the address that a browser was sent to. -/
def ofAddress (s : String) : Except Error String :=
  match Url.parse s with
  | .error fault => .error (.redirectUrl fault)
  | .ok url =>
      match url.pairs.lookup "code" with
      | some code => .ok code
      | none => .error .noCodeParameter

/-- The code in what a user pasted. -/
def extract (input : String) : Except Error String :=
  let s := trimmed input
  if s = "" then .error .blankCode
  else if isAddress s then ofAddress s
  else .ok s

theorem extract_plain {input : String} (filled : trimmed input ≠ "")
    (plain : isAddress (trimmed input) = false) : extract input = .ok (trimmed input) := by
  simp [extract, filled, plain]

end Mailroom.OAuth.Code
