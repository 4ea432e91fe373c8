/-!
# Words of a YAML text

The words that a text is made of, with the layout of its lines made explicit: where a block of items
or of keys and values opens and closes.
-/

namespace Mailroom.Yaml

/-- The name of a kind of node: a handle, which may be declared, and a suffix. -/
structure Tag where
  handle : String
  suffix : String
deriving DecidableEq, Repr

/-- A word. -/
inductive Token
  | streamEnd
  | version (major minor : Nat)
  | tagDeclaration (handle replacement : String)
  | documentStart
  | documentEnd
  | blockSequence
  | blockMapping
  | blockEnd
  | flowSequence
  | flowSequenceEnd
  | flowMapping
  | flowMappingEnd
  | entry
  | flowEntry
  | key
  | value
  | alias (name : String)
  | anchor (name : String)
  | tag (tag : Tag)
  | scalar (text : String) (plain : Bool)
deriving DecidableEq, Repr

namespace Token

/-- Whether the node of a key or a value in a block is left out before this word. -/
def isEmptyInBlock : Token → Bool
  | key => true
  | value => true
  | blockEnd => true
  | _ => false

end Token

end Mailroom.Yaml
