import Mailroom.Text.Integer

/-!
# History ids

A mailbox numbers its changes, and a message remembers the number of its last one as text. The
latest of several is the greatest number; where one of two texts is no 64-bit number, the longer one
counts as later, and of two equally long ones the later in the order of texts.
-/

namespace Mailroom.Store.HistoryId

/-- The longer of two texts, and of equally long ones the greater. -/
def laterText (a b : String) : String :=
  if b.utf8ByteSize < a.utf8ByteSize then a
  else if a.utf8ByteSize < b.utf8ByteSize then b
  else if a < b then b
  else a

/-- The later of two history ids. -/
def later (a b : String) : String :=
  match uint64OfText? a, uint64OfText? b with
  | some m, some n => if n ≤ m then a else b
  | _, _ => laterText a b

theorem later_self (a : String) : later a a = a := by
  unfold later laterText
  split <;> simp

/-- The latest of a list of history ids. -/
def latest? : List String → Option String
  | [] => none
  | id :: ids => some (ids.foldl later id)

end Mailroom.Store.HistoryId
