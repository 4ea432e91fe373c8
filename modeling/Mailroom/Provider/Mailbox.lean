import Mailroom.Provider.Basic

/-!
# A mailbox in memory

A provider that keeps its messages by key, in the order of the keys. A page of the listing starts at
the offset that its token spells; a listing may also be laid out in given pages, whose numbers are
then the tokens. Calls of a kind may be made to fail, for one id or for all.
-/

namespace Mailroom

/-- The kinds of call. -/
inductive CallKind
  | list
  | get
  | profile
  | label
  | modify
deriving DecidableEq, Repr

namespace CallKind

/-- The name of a kind. -/
def name : CallKind → String
  | list => "list"
  | get => "get"
  | profile => "profile"
  | label => "label"
  | modify => "modify"

/-- The kind of a name. -/
def ofName? (s : String) : Option CallKind :=
  [list, get, profile, label, modify].find? (·.name = s)

end CallKind

/-- Calls that fail: those of a kind on an id, or on any where the id is empty. -/
structure Failure where
  kind : CallKind
  id : String
  status : Nat
  payload : String
deriving DecidableEq, Repr

/-- A mailbox in memory. Labels are pairs of name and id. -/
structure Mailbox where
  messages : List (String × Message)
  labels : List (String × String)
  historyId : String
  messagesTotal : Option UInt64
  pages : Option (List (List String))
  failures : List Failure

namespace Mailbox

/-- A mailbox without messages, with the system's labels and one of the user's. -/
def empty : Mailbox where
  messages := []
  labels := [("INBOX", "INBOX"), ("UNREAD", "UNREAD"), ("SENT", "SENT"), ("Receipts", "Label_6")]
  historyId := "1000"
  messagesTotal := none
  pages := none
  failures := []

/-! ## Messages by key -/

/-- Puts a message into a list by its key. -/
def putSorted (key : String) (m : Message) : List (String × Message) → List (String × Message)
  | [] => [(key, m)]
  | (k, x) :: r =>
      if key = k then (key, m) :: r
      else if key < k then (key, m) :: (k, x) :: r
      else (k, x) :: putSorted key m r

/-- The message under a key. -/
def find? (b : Mailbox) (key : String) : Option Message := b.messages.lookup key

/-- Puts a message under a key. -/
def put (b : Mailbox) (key : String) (m : Message) : Mailbox :=
  { b with messages := putSorted key m b.messages }

/-- Removes the message under a key. -/
def erase (b : Mailbox) (key : String) : Mailbox :=
  { b with messages := b.messages.filter (·.1 ≠ key) }

/-- Changes the labels of the message under a key, if there is one. -/
def changeLabels (b : Mailbox) (key : String) (change : Rule.LabelChange) : Mailbox :=
  { b with messages := b.messages.map fun (k, m) =>
      if k = key then (k, { m with labelIds := change.apply m.labelIds }) else (k, m) }

private theorem lookup_putSorted (key : String) (m : Message) (ms : List (String × Message)) :
    (putSorted key m ms).lookup key = some m := by
  induction ms with
  | nil => simp [putSorted]
  | cons p r ih =>
      obtain ⟨k, x⟩ := p
      simp only [putSorted]
      split
      · simp
      · next hne =>
          split
          · simp
          · simp only [List.lookup_cons]
            have : (key == k) = false := by simpa using hne
            simp [this, ih]

theorem find?_put_self (b : Mailbox) (key : String) (m : Message) :
    (b.put key m).find? key = some m := lookup_putSorted key m b.messages

/-- The keys in order. -/
def keys (b : Mailbox) : List String := b.messages.map (·.1)

/-! ## Failures -/

/-- The failure set for a kind of call on an id. -/
def failure? (b : Mailbox) (kind : CallKind) (id : String) : Option Failure :=
  let find (id : String) := b.failures.find? fun f => f.kind = kind && f.id = id
  (find id).or (find "")

/-- A kind of call does not fail if no failure of this kind is set. -/
theorem failure?_of_kind {b : Mailbox} {kind : CallKind}
    (h : ∀ f ∈ b.failures, f.kind ≠ kind) (id : String) : b.failure? kind id = none := by
  have hFind (id : String) :
      b.failures.find? (fun f => f.kind = kind && f.id = id) = none := by
    rw [List.find?_eq_none]
    intro f hf
    simp [h f hf]
  simp only [failure?, hFind, Option.or_none]

theorem failure?_of_nil {b : Mailbox} (h : b.failures = []) (kind : CallKind)
    (id : String) : b.failure? kind id = none :=
  failure?_of_kind (fun f hf => by rw [h] at hf; cases hf) id

/-- Sets or clears a failure. -/
def setFailure (b : Mailbox) (kind : CallKind) (id : String) (answer : Option (Nat × String)) :
    Mailbox :=
  let others := b.failures.filter fun f => !(f.kind = kind && f.id = id)
  { b with failures := match answer with
      | some (status, payload) => ⟨kind, id, status, payload⟩ :: others
      | none => others }

/-! ## Calls -/

/-- The page of ids that a token asks for. -/
def page (b : Mailbox) (token : Option String) (size : Nat) : IdPage :=
  let start := (token.bind fun t => Text.unsigned? t.toList).getD 0
  match b.pages with
  | some pages =>
      ⟨pages[start]?.getD [], if start + 1 < pages.length then some (natText (start + 1)) else none⟩
  | none =>
      let ids := (b.keys.drop start).take size
      let next := start + ids.length
      ⟨ids, if next < b.messages.length then some (natText next) else none⟩

/-- The profile of the account. -/
def profile (b : Mailbox) : Profile :=
  let total := b.messagesTotal.getD (UInt64.ofNat b.messages.length)
  ⟨"me@example.com", b.historyId, total, total⟩

/-- Makes a call that fails if a failure is set for it. -/
def call {α : Type} (kind : CallKind) (id : String)
    (answer : Mailbox → Except Error (α × Mailbox)) :
    Call Mailbox α := fun b =>
  match b.failure? kind id with
  | some f => (.error (.failed (.refused f.status f.payload)), b)
  | none =>
      match answer b with
      | .ok (a, b) => (.ok a, b)
      | .error e => (.error (.failed e), b)

/-- The mailbox as a provider. -/
def provider : Provider Mailbox where
  list token size := call .list (token.getD "first") fun b => .ok (b.page token size, b)
  get id := call .get id fun b =>
    match b.find? id with
    | some m => .ok (m, b)
    | none => .error (.refused 404 ("message " ++ id ++ " not found"))
  profile := call .profile "" fun b => .ok (b.profile, b)
  resolve name := call .label name fun b => .ok (b.labels.lookup name, b)
  modify id change := call .modify id fun b => .ok ((), b.changeLabels id change)
  pagesLeft b :=
    match b.pages with
    | some pages => pages.length + 1
    | none => b.messages.length + 1

end Mailbox

end Mailroom
