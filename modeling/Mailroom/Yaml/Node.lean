import Mailroom.Yaml.Layout

/-!
# The data of a YAML text

A node is a scalar, a sequence, a mapping, or an alias. A node that is left out is an empty plain
scalar. `documents?` gives all documents of a text, or none where the text is malformed anywhere.

The number of an anchor is how many other names were given before it in its document. A name that is
given again takes a new number, which the next new name then takes as well, so a number may belong
to several nodes. An alias keeps the number that its name has where the alias stands; the node that
it leads to is settled only when the document is complete.
-/

namespace Mailroom.Yaml

/-- A node. -/
inductive Node
  | scalar (text : String) (plain : Bool) (tag : Option String)
  | sequence (items : List Node)
  | mapping (entries : List (Node × Node))
  | alias (number : Nat)
deriving Repr

namespace Node

/-- A node that is left out. -/
def absent : Node := .scalar "" true none

mutual

/-- How many scalars, aliases and ends of collections a node is written with. -/
def size : Node → Nat
  | .sequence items => sizeItems items + 2
  | .mapping entries => sizeEntries entries + 2
  | _ => 1

/-- The size of a list of items. -/
def sizeItems : List Node → Nat
  | [] => 0
  | n :: ns => size n + sizeItems ns

/-- The size of a list of entries. -/
def sizeEntries : List (Node × Node) → Nat
  | [] => 0
  | (k, v) :: es => size k + size v + sizeEntries es

end

end Node

/-- A document: its node, and the nodes that have anchors with their numbers, the last first. -/
structure Document where
  root : Node
  anchored : List (Nat × Node)
deriving Repr

namespace Document

/-- The node that an alias leads to. -/
def target? (d : Document) (number : Nat) : Option Node := d.anchored.lookup number

end Document

/-- An anchor: its name, its number, and its node once that is complete. -/
structure Anchor where
  name : String
  number : Nat
  node : Option Node

/-- What is left to read, with the anchors given so far, the last first, how many different names
they have, and the tag handles that are declared. -/
structure Reading where
  words : List Token
  anchors : List Anchor
  names : Nat
  handles : List (String × String)

namespace Reading

/-- The next word. -/
def head (r : Reading) : Token := r.words.headD .streamEnd

/-- Past the next word. -/
def tail (r : Reading) : Reading := { r with words := r.words.drop 1 }

/-- Gives an anchor to a node that starts here, and its place among the anchors. -/
def addAnchor (r : Reading) (name : Option String) : Reading × Option Nat :=
  match name with
  | some name =>
      let names := if r.anchors.any (·.name = name) then r.names else r.names + 1
      ({ r with anchors := ⟨name, r.names, none⟩ :: r.anchors, names }, some r.anchors.length)
  | none => (r, none)

/-- Completes the node of the anchor at a place, counted from the first. -/
def complete (r : Reading) (place : Option Nat) (node : Node) : Reading :=
  match place with
  | some n =>
      { r with anchors := r.anchors.modify (r.anchors.length - 1 - n) fun a =>
          { a with node := some node } }
  | none => r

/-- The number that a name has here. -/
def number? (r : Reading) (name : String) : Option Nat :=
  (r.anchors.find? (·.name = name)).map (·.number)

/-- The nodes with anchors. -/
def anchored (r : Reading) : List (Nat × Node) :=
  r.anchors.filterMap fun a => a.node.map fun n => (a.number, n)

/-- The full name of a tag. -/
def tagName? (r : Reading) (t : Tag) : Option String :=
  if t.handle = "" then some t.suffix else (r.handles.lookup t.handle).map (· ++ t.suffix)

/-- Reads the anchor and the tag of a node, in either order. -/
def properties (r : Reading) : Option (Option String × Option String × Reading) :=
  match r.words with
  | .anchor a :: .tag t :: rest => do
      return (some a, some (← r.tagName? t), { r with words := rest })
  | .tag t :: .anchor a :: rest => do
      return (some a, some (← r.tagName? t), { r with words := rest })
  | .anchor a :: rest => some (some a, none, { r with words := rest })
  | .tag t :: rest => do return (none, some (← r.tagName? t), { r with words := rest })
  | _ => some (none, none, r)

end Reading

/-- The tag of a scalar; the bare `!` is no tag. -/
def scalarTag (tag : Option String) : Option String := tag.filter (· ≠ "!")

mutual

/-- Reads a node. In a block, the items of a sequence may stand at the column of its key. -/
def node (block indentless : Bool) : Nat → Reading → Option (Node × Reading)
  | 0, _ => none
  | fuel + 1, r =>
      match r.head with
      | .alias name => (r.number? name).map fun k => (.alias k, r.tail)
      | _ => do
          let (anchor, tag, r) ← r.properties
          let (r, place) := r.addAnchor anchor
          let (n, r) ←
            if indentless && r.head = .entry then
              (bareItems fuel r).map fun (ns, r) => (Node.sequence ns, r)
            else
              match r.head with
              | .scalar text plain => some (.scalar text plain (scalarTag tag), r.tail)
              | .flowSequence => (flowItems true fuel r.tail).map fun (ns, r) => (.sequence ns, r)
              | .flowMapping => (flowEntries true fuel r.tail).map fun (es, r) => (.mapping es, r)
              | .blockSequence =>
                  if block then (blockItems fuel r.tail).map fun (ns, r) => (.sequence ns, r)
                  else none
              | .blockMapping =>
                  if block then (blockEntries fuel r.tail).map fun (es, r) => (.mapping es, r)
                  else none
              | _ =>
                  if anchor.isSome || tag.isSome then some (.scalar "" true tag, r) else none
          return (n, r.complete place n)

/-- Reads the items of a block sequence. -/
def blockItems : Nat → Reading → Option (List Node × Reading)
  | 0, _ => none
  | fuel + 1, r =>
      match r.head with
      | .entry => do
          let r := r.tail
          let (n, r) ←
            if r.head = .entry || r.head = .blockEnd then some (Node.absent, r)
            else node true false fuel r
          let (ns, r) ← blockItems fuel r
          return (n :: ns, r)
      | .blockEnd => some ([], r.tail)
      | _ => none

/-- Reads the items of a sequence without a block of its own. -/
def bareItems : Nat → Reading → Option (List Node × Reading)
  | 0, _ => none
  | fuel + 1, r =>
      match r.head with
      | .entry => do
          let r := r.tail
          let (n, r) ←
            if r.head = .entry || r.head.isEmptyInBlock then some (Node.absent, r)
            else node true false fuel r
          let (ns, r) ← bareItems fuel r
          return (n :: ns, r)
      | _ => some ([], r)

/-- Reads the keys and values of a block mapping. -/
def blockEntries : Nat → Reading → Option (List (Node × Node) × Reading)
  | 0, _ => none
  | fuel + 1, r =>
      match r.head with
      | .key => do
          let r := r.tail
          let (k, r) ←
            if r.head.isEmptyInBlock then some (Node.absent, r) else node true true fuel r
          let (v, r) ← blockValue fuel r
          let (es, r) ← blockEntries fuel r
          return ((k, v) :: es, r)
      | .blockEnd => some ([], r.tail)
      | _ => none

/-- Reads the value of a key in a block. -/
def blockValue : Nat → Reading → Option (Node × Reading)
  | 0, _ => none
  | fuel + 1, r =>
      match r.head with
      | .value =>
          let r := r.tail
          if r.head.isEmptyInBlock then some (Node.absent, r) else node true true fuel r
      | _ => some (Node.absent, r)

/-- Reads the items of a flow sequence, the first without a comma before it. A key makes a mapping
of a single entry. -/
def flowItems (first : Bool) : Nat → Reading → Option (List Node × Reading)
  | 0, _ => none
  | fuel + 1, r =>
      if r.head = .flowSequenceEnd then some ([], r.tail)
      else if !first && r.head ≠ .flowEntry then none
      else do
        let r := if first then r else r.tail
        if r.head = .flowSequenceEnd then return ([], r.tail)
        let (n, r) ←
          if r.head = .key then (singleEntry fuel r.tail).map fun (e, r) => (Node.mapping [e], r)
          else node false false fuel r
        let (ns, r) ← flowItems false fuel r
        return (n :: ns, r)

/-- Reads a key and its value inside a flow sequence. -/
def singleEntry : Nat → Reading → Option ((Node × Node) × Reading)
  | 0, _ => none
  | fuel + 1, r => do
      let closes (t : Token) : Bool := t = .flowEntry || t = .flowSequenceEnd
      let (k, r) ←
        if r.head = .value || closes r.head then some (Node.absent, r) else node false false fuel r
      if r.head = .value then
        let r := r.tail
        let (v, r) ← if closes r.head then some (Node.absent, r) else node false false fuel r
        return ((k, v), r)
      else return ((k, Node.absent), r)

/-- Reads the entries of a flow mapping, the first without a comma before it. -/
def flowEntries (first : Bool) : Nat → Reading → Option (List (Node × Node) × Reading)
  | 0, _ => none
  | fuel + 1, r =>
      if r.head = .flowMappingEnd then some ([], r.tail)
      else if !first && r.head ≠ .flowEntry then none
      else do
        let r := if first then r else r.tail
        if r.head = .flowMappingEnd then return ([], r.tail)
        let closes (t : Token) : Bool := t = .flowEntry || t = .flowMappingEnd
        let (e, r) ←
          if r.head = .key then do
            let r := r.tail
            let (k, r) ←
              if r.head = .value || closes r.head then some (Node.absent, r)
              else node false false fuel r
            if r.head = .value then
              let r := r.tail
              let (v, r) ← if closes r.head then some (Node.absent, r) else node false false fuel r
              some ((k, v), r)
            else some ((k, Node.absent), r)
          else (node false false fuel r).map fun (k, r) => ((k, Node.absent), r)
        let (es, r) ← flowEntries false fuel r
        return (e :: es, r)

end

/-! ## Documents -/

/-- The handles that need no declaration. -/
def standardHandles : List (String × String) := [("!", "!"), ("!!", "tag:yaml.org,2002:")]

/-- Reads directives: at most one version, which must be 1.1 or 1.2, and distinct handles. -/
def directives (versioned : Bool) :
    List (String × String) → List Token → Option (List (String × String) × List Token)
  | handles, .version major minor :: r =>
      if versioned || major ≠ 1 || !(minor = 1 || minor = 2) then none
      else directives true handles r
  | handles, .tagDeclaration handle replacement :: r =>
      if (handles.lookup handle).isSome then none
      else directives versioned (handles ++ [(handle, replacement)]) r
  | handles, r => some (handles, r)

/-- Whether a document without a node ends before this word. -/
def endsDocument : Token → Bool
  | .version _ _ => true
  | .tagDeclaration _ _ => true
  | .documentStart => true
  | .documentEnd => true
  | .streamEnd => true
  | _ => false

/-- A document after its directives, and what is left. -/
def documentBody (explicit : Bool) (handles : List (String × String)) (words : List Token) :
    Option (Document × List Token) :=
  if explicit && endsDocument (words.headD .streamEnd) then some (⟨Node.absent, []⟩, words)
  else do
    let (n, r) ← node true false (4 * words.length + 8) ⟨words, [], 0, handles ++ standardHandles⟩
    return (⟨n, r.anchored⟩, r.words)

/-- The documents from here on. A document starts with a marker, except for the first, or after an
end marker. -/
def documentsFrom (implicit : Bool) : Nat → List Token → Option (List Document)
  | 0, _ => none
  | fuel + 1, words =>
      let words := if implicit then words else words.dropWhile (· = .documentEnd)
      let next := words.headD .streamEnd
      if next = .streamEnd then some []
      else do
        let explicit := !implicit || (endsDocument next && next ≠ .documentEnd)
        let (handles, words) ← if explicit then directives false [] words else some ([], words)
        if explicit && words.head? ≠ some .documentStart then none
        let words := if explicit then words.drop 1 else words
        let (d, words) ← documentBody explicit handles words
        let words := if words.head? = some .documentEnd then words.drop 1 else words
        return d :: (← documentsFrom false fuel words)

/-- The documents of a text. -/
def documents? (s : String) : Option (List Document) := do
  let words ← words? s
  documentsFrom true (words.length + 1) words

end Mailroom.Yaml
