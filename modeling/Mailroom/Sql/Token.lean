/-!
# Words of a query

A query text as a list of words. Blanks separate words and mean nothing else; `"…"` encloses a
column name and `'…'` a text, in both of which a doubled quote is one.
-/

namespace Mailroom.Sql

/-- A word of a query. -/
inductive Token
  | word (s : String)
  | name (s : String)
  | text (s : String)
  | sign (s : String)
deriving DecidableEq, Repr

namespace Token

/-- A character of an unquoted word. -/
def isWordChar (c : Char) : Bool := c.isAlphanum || c = '_'

/-- What stands in quotes, after the opening quote, and what follows. -/
def quoted (q : Char) : List Char → Option (List Char × List Char)
  | [] => none
  | [c] => if c = q then some ([], []) else none
  | c :: d :: r =>
      if c = q then
        if d = q then (quoted q r).map fun (s, rest) => (q :: s, rest)
        else some ([], d :: r)
      else (quoted q (d :: r)).map fun (s, rest) => (c :: s, rest)

/-- A sign and what follows. -/
def sign? : List Char → Option (String × List Char)
  | '!' :: '=' :: r => some ("!=", r)
  | '<' :: '=' :: r => some ("<=", r)
  | '>' :: '=' :: r => some (">=", r)
  | '<' :: r => some ("<", r)
  | '>' :: r => some (">", r)
  | '=' :: r => some ("=", r)
  | '(' :: r => some ("(", r)
  | ')' :: r => some (")", r)
  | ',' :: r => some (",", r)
  | '?' :: r => some ("?", r)
  | _ => none

/-- The words of a text, at most `fuel` of them and blanks together. -/
def scan : Nat → List Char → Option (List Token)
  | _, [] => some []
  | 0, _ :: _ => none
  | fuel + 1, c :: r =>
      if c = ' ' then scan fuel r
      else if c = '"' then do
        let (s, r) ← quoted '"' r
        return name (String.ofList s) :: (← scan fuel r)
      else if c = '\x27' then do
        let (s, r) ← quoted '\x27' r
        return text (String.ofList s) :: (← scan fuel r)
      else if isWordChar c then do
        let rest ← scan fuel (r.dropWhile isWordChar)
        return word (String.ofList (c :: r.takeWhile isWordChar)) :: rest
      else do
        let (s, r) ← sign? (c :: r)
        return sign s :: (← scan fuel r)

/-- The words of a query text. -/
def ofText? (s : String) : Option (List Token) := scan s.length s.toList

end Token

end Mailroom.Sql
