import Mailroom.Sql.Like
import Mailroom.Sql.Moment
import Mailroom.Sql.Token
import Mailroom.Sql.Value

/-!
# Queries

A query selects columns of a table, in row order, where a condition holds. In a condition,
comparisons and patterns bind tighter than `AND`, and `AND` tighter than `OR`; placeholders take the
arguments from left to right.

Conditions have three truth values. A comparison with a null side is unknown, `AND` is false as soon
as one side is, `OR` true as soon as one side is, and only rows whose condition is true are
selected. Both connectives leave their right side alone once the left side has settled the row.
Several conditions joined by one connective are joined from the left, so each makes the whole one
level deeper, and the depth is limited.
-/

namespace Mailroom.Sql

/-- One side of a comparison. -/
inductive Operand
  | column (name : String)
  | argument (index : Nat)
  | text (s : String)
  | momentBefore (index : Nat)
deriving DecidableEq, Repr

/-- How two sides are compared. -/
inductive Comparison
  | equal
  | unequal
  | less
  | atMost
  | greater
  | atLeast
  | like
  | unlike
deriving DecidableEq, Repr

/-- A condition on a row. -/
inductive Condition
  | compare (left : Operand) (comparison : Comparison) (right : Operand)
  | both (a b : Condition)
  | either (a b : Condition)
deriving DecidableEq, Repr

/-- A query. -/
structure Select where
  columns : List String
  table : String
  condition : Option Condition
deriving DecidableEq, Repr

/-! ## Reading -/

/-- What is left to read, and the number of placeholders read so far. -/
structure Rest where
  tokens : List Token
  arguments : Nat

/-- Reads one side of a comparison. -/
def Operand.read : Rest → Option (Operand × Rest)
  | ⟨.name n :: r, k⟩ => some (.column n, ⟨r, k⟩)
  | ⟨.text s :: r, k⟩ => some (.text s, ⟨r, k⟩)
  | ⟨.sign "?" :: r, k⟩ => some (.argument k, ⟨r, k + 1⟩)
  | ⟨.word "datetime" :: .sign "(" :: .text "now" :: .sign "," :: .sign "?" :: .sign ")" :: r, k⟩ =>
      some (.momentBefore k, ⟨r, k + 1⟩)
  | _ => none

/-- Reads a comparison sign. -/
def Comparison.read : Rest → Option (Comparison × Rest)
  | ⟨.sign "=" :: r, k⟩ => some (.equal, ⟨r, k⟩)
  | ⟨.sign "!=" :: r, k⟩ => some (.unequal, ⟨r, k⟩)
  | ⟨.sign "<" :: r, k⟩ => some (.less, ⟨r, k⟩)
  | ⟨.sign "<=" :: r, k⟩ => some (.atMost, ⟨r, k⟩)
  | ⟨.sign ">" :: r, k⟩ => some (.greater, ⟨r, k⟩)
  | ⟨.sign ">=" :: r, k⟩ => some (.atLeast, ⟨r, k⟩)
  | ⟨.word "LIKE" :: r, k⟩ => some (.like, ⟨r, k⟩)
  | ⟨.word "NOT" :: .word "LIKE" :: r, k⟩ => some (.unlike, ⟨r, k⟩)
  | _ => none

namespace Condition

/-- Reads a comparison. -/
def readComparison (rest : Rest) : Option (Condition × Rest) := do
  let (left, rest) ← Operand.read rest
  let (comparison, rest) ← Comparison.read rest
  let (right, rest) ← Operand.read rest
  return (.compare left comparison right, rest)

mutual

/-- Reads a comparison or a condition in parentheses. -/
def readUnit : Nat → Rest → Option (Condition × Rest)
  | 0, _ => none
  | fuel + 1, ⟨.sign "(" :: r, k⟩ => do
      let (c, rest) ← readOr fuel ⟨r, k⟩
      match rest with
      | ⟨.sign ")" :: r, k⟩ => return (c, ⟨r, k⟩)
      | _ => none
  | _ + 1, rest => readComparison rest

/-- Reads conditions joined by `AND`. -/
def readAnd : Nat → Rest → Option (Condition × Rest)
  | 0, _ => none
  | fuel + 1, rest => do
      let (a, rest) ← readUnit fuel rest
      readAndAfter fuel a rest

/-- Joins a condition to those that follow it with `AND`, one after the other. -/
def readAndAfter : Nat → Condition → Rest → Option (Condition × Rest)
  | 0, _, _ => none
  | fuel + 1, a, ⟨.word "AND" :: r, k⟩ => do
      let (b, rest) ← readUnit fuel ⟨r, k⟩
      readAndAfter fuel (.both a b) rest
  | _ + 1, a, rest => some (a, rest)

/-- Reads conditions joined by `OR`. -/
def readOr : Nat → Rest → Option (Condition × Rest)
  | 0, _ => none
  | fuel + 1, rest => do
      let (a, rest) ← readAnd fuel rest
      readOrAfter fuel a rest

/-- Joins a condition to those that follow it with `OR`, one after the other. -/
def readOrAfter : Nat → Condition → Rest → Option (Condition × Rest)
  | 0, _, _ => none
  | fuel + 1, a, ⟨.word "OR" :: r, k⟩ => do
      let (b, rest) ← readAnd fuel ⟨r, k⟩
      readOrAfter fuel (.either a b) rest
  | _ + 1, a, rest => some (a, rest)

end

/-- Reads a condition and nothing after it. -/
def ofTokens? (tokens : List Token) : Option Condition :=
  match readOr (3 * tokens.length + 3) ⟨tokens, 0⟩ with
  | some (c, ⟨[], _⟩) => some c
  | _ => none

end Condition

/-! ## Depth -/

/-- How deep a side of a comparison is; a call is deeper than what it is given. -/
def Operand.depth : Operand → Nat
  | .momentBefore _ => 2
  | _ => 1

namespace Condition

/-- How deep a condition is: one more than the deeper of its parts, and `NOT` counts as well. -/
def depth : Condition → Nat
  | .compare l .unlike r => max l.depth r.depth + 2
  | .compare l _ r => max l.depth r.depth + 1
  | .both a b => max a.depth b.depth + 1
  | .either a b => max a.depth b.depth + 1

/-- The greatest depth that a condition may have. -/
def deepest : Nat := 1000

end Condition

namespace Select

/-- Reads column names up to `FROM`. -/
def readColumns : List Token → Option (List String × List Token)
  | .name n :: .word "FROM" :: r => some ([n], r)
  | .name n :: .sign "," :: r => (readColumns r).map fun (ns, r) => (n :: ns, r)
  | _ => none

/-- Reads a query. -/
def ofTokens? : List Token → Option Select
  | .word "SELECT" :: r => do
      let (columns, r) ← readColumns r
      match r with
      | [.word table] => return ⟨columns, table, none⟩
      | .word table :: .word "WHERE" :: r => return ⟨columns, table, some (← Condition.ofTokens? r)⟩
      | _ => none
  | _ => none

/-- The query that a text is. -/
def ofText? (s : String) : Option Select := (Token.ofText? s).bind ofTokens?

end Select

/-! ## Truth -/

/-- Three truth values. -/
inductive Truth
  | yes
  | no
  | unknown
deriving DecidableEq, Repr

namespace Truth

/-- The truth value of a statement that is decided. -/
def ofBool (b : Bool) : Truth := if b then yes else no

/-- The opposite; unknown stays unknown. -/
def not : Truth → Truth
  | yes => no
  | no => yes
  | unknown => unknown

/-- Conjunction. -/
def and : Truth → Truth → Truth
  | no, _ => no
  | _, no => no
  | yes, yes => yes
  | _, _ => unknown

/-- Disjunction. -/
def or : Truth → Truth → Truth
  | yes, _ => yes
  | _, yes => yes
  | no, no => no
  | _, _ => unknown

end Truth

/-! ## Evaluation -/

/-- Why a query stops. -/
inductive Fault
  | patternTooComplex
deriving DecidableEq, Repr

/-- What a condition can look at: the columns of a row with their affinities, the arguments, and the
time in milliseconds since 1970. -/
structure Scope where
  column : String → Value × Affinity
  arguments : List String
  now : Int

/-- The value of an operand. -/
def Operand.value (scope : Scope) : Operand → Value × Option Affinity
  | .column n => ((scope.column n).1, some (scope.column n).2)
  | .argument i => ((scope.arguments[i]?).elim .null .text, none)
  | .text s => (.text s, none)
  | .momentBefore i =>
      (((scope.arguments[i]?).bind (Moment.text? scope.now)).elim .null .text, none)

/-- The longest pattern, in bytes. -/
def maxPattern : Nat := 50000

/-- Whether a text matches a pattern; a pattern must not be too long, matched or not. -/
def evalLike (text pattern : Value) : Except Fault Truth :=
  match pattern.pattern? with
  | none => .ok .unknown
  | some p =>
      if maxPattern < p.length then .error .patternTooComplex
      else .ok (match text.pattern? with
        | none => .unknown
        | some t => Truth.ofBool (Like.matched p t))

/-- Whether an order satisfies a comparison. -/
def Comparison.holds : Comparison → Ordering → Bool
  | .equal, o => o = .eq
  | .unequal, o => o ≠ .eq
  | .less, o => o = .lt
  | .atMost, o => o ≠ .gt
  | .greater, o => o = .gt
  | .atLeast, o => o ≠ .lt
  | .like, _ => false
  | .unlike, _ => false

/-- The truth of a comparison. -/
def evalComparison (a b : Value × Option Affinity) (c : Comparison) : Except Fault Truth :=
  match c with
  | .like => evalLike a.1 b.1
  | .unlike => (evalLike a.1 b.1).map Truth.not
  | c =>
      let (x, y) := align a b
      .ok (match compareValues x y with
        | none => .unknown
        | some o => Truth.ofBool (c.holds o))

/-- The truth of a condition on a row. -/
def Condition.eval (scope : Scope) : Condition → Except Fault Truth
  | .compare l c r => evalComparison (l.value scope) (r.value scope) c
  | .both a b => do
      match ← a.eval scope with
      | .yes => b.eval scope
      | t => return t
  | .either a b => do
      match ← a.eval scope with
      | .yes => return .yes
      | t => return t.or (← b.eval scope)

end Mailroom.Sql
