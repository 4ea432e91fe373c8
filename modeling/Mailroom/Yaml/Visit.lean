import Mailroom.Yaml.Node

/-!
# Visits to a document

A visit reads the nodes of a document as data, and is led by each alias to the node that it stands
for. An alias may stand inside its own node, and a few of them can spell an enormous text, so a
visit follows only so many, in proportion to the size of the document.
-/

namespace Mailroom.Yaml

/-- A visit: it knows the document and how many aliases may still be followed. -/
abbrev Visit (α : Type) := ReaderT Document (StateT Nat Option) α

namespace Visit

variable {α : Type}

/-- What is there, if it is. -/
def ofOption (x : Option α) : Visit α := fun _ left => x.map fun a => (a, left)

/-- The node itself, or the one that an alias leads to. -/
def reached (n : Node) : Visit Node := fun d left =>
  match n with
  | .alias number => if left = 0 then none else (d.target? number).map fun n => (n, left - 1)
  | n => some (n, left)

/-- How many aliases may be followed for each unit of a document's size. -/
def perUnit : Nat := 100

/-- What a visit to the node of a document gives. -/
def run (d : Document) (visit : Node → Visit α) : Option α :=
  (visit d.root d (perUnit * d.root.size)).map (·.1)

end Visit

end Mailroom.Yaml
