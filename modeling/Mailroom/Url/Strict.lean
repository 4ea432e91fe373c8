import Mailroom.Url.Basic

/-!
# Addresses for requests

A request can be made for fewer addresses than there are URLs: the text must not be too long, an
authority must be named, and it may only hold characters that need no encoding, with one colon at
most outside of brackets, and a percent sign before an `@` only. A text without slashes is
taken for an authority as a whole.
-/

namespace Mailroom.Url.Strict

/-- What has been seen of an authority: colons since the user or the brackets, an opening and a
closing bracket, a percent sign since then, and an `@` as the last character. -/
structure Seen where
  colons : Nat
  opened : Bool
  closed : Bool
  percent : Bool
  atUser : Bool
deriving DecidableEq, Repr

/-- Nothing seen. -/
def Seen.nothing : Seen := ⟨0, false, false, false, false⟩

/-- Whether a character needs no encoding. -/
def isPlain (c : Char) : Bool :=
  c.isAlphanum || c ∈ ['!', '$', '&', '\x27', '(', ')', '*', '+', ',', '-', '.', ';', '=', '_', '~']

/-- The most colons outside of a user and of brackets that are looked at. -/
def maxColons : Nat := 8

/-- Goes past a character of an authority. -/
def Seen.pass (s : Seen) (c : Char) : Option Seen :=
  match c with
  | ':' =>
      if maxColons ≤ s.colons then none
      else some { s with colons := s.colons + 1, atUser := false }
  | '[' => if s.percent || s.opened then none else some { s with opened := true, atUser := false }
  | ']' =>
      if !s.opened || s.closed then none
      else some { s with closed := true, colons := 0, percent := false, atUser := false }
  | '@' => some { s with colons := 0, percent := false, atUser := true }
  | '%' => some { s with percent := true, atUser := false }
  | c => if isPlain c then some { s with atUser := false } else none

/-- Whether an authority may end here. -/
def Seen.isComplete (s : Seen) : Bool :=
  s.opened == s.closed && s.colons ≤ 1 && !s.atUser && !s.percent

/-- Whether a text is an authority. -/
def isAuthority (cs : List Char) : Bool :=
  ((cs.foldlM Seen.pass Seen.nothing).map Seen.isComplete).getD false

/-- Whether a character ends an authority. -/
def endsAuthority (c : Char) : Bool := c = '/' || c = '?' || c = '#'

/-- The most characters of an address. -/
def maxLength : Nat := 65534

/-- The most characters of a scheme. -/
def maxScheme : Nat := 64

/-- Whether a request can be made for the text of a URL. -/
def isStrict (cs : List Char) : Bool :=
  let scheme := cs.takeWhile (· ≠ ':')
  decide (cs.length ≤ maxLength) &&
    match cs.drop scheme.length with
    | ':' :: '/' :: '/' :: r =>
        let authority := r.takeWhile fun c => !endsAuthority c
        decide (scheme.length ≤ maxScheme) && authority ≠ [] && isAuthority authority
    | _ => !cs.any endsAuthority && isAuthority cs

end Mailroom.Url.Strict

namespace Mailroom.Url

/-- Whether a request can be made for a URL. -/
def isStrict (u : Url) : Bool := Strict.isStrict u.text.toList

end Mailroom.Url
