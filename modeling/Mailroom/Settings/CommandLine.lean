import Mailroom.Settings.Basic

/-!
# The command line and the environment

Arguments are read from left to right. The value of an option follows a `=` or is the next argument,
which must not look like an option; a single hyphen does not. A value that is an argument of its own
is judged only when the next option starts or the line ends, so that an argument nobody knows is
reported before it. No setting is given twice, and after `--` nothing may come.

What the command line does not say, the environment may.
-/

namespace Mailroom.Settings

/-! ## Arguments -/

/-- An argument as it looks. -/
inductive Word
  | escape
  | long (name : String) (value : Option String)
  | short (first : Char)
  | plain (text : String)
deriving DecidableEq, Repr

/-- How an argument looks. -/
def Word.ofText (s : String) : Word :=
  match s.toList with
  | ['-', '-'] => escape
  | '-' :: '-' :: r =>
      let (name, value) := Text.cut '=' r
      long (String.ofList name) (if '=' ∈ r then some (String.ofList value) else none)
  | '-' :: c :: _ => short c
  | _ => plain s

/-- What has been read: the settings so far, those that were given, and an option that waits for its
value or for its value to be judged. -/
structure Progress where
  settings : Settings
  given : List Key
  pending : Option (Key × Option String)

namespace Progress

/-- Nothing read. -/
def start : Progress := ⟨default, [], none⟩

/-- Gives a setting its value, which it must not have been given yet. -/
def take (p : Progress) (k : Key) (v : String) : Except Ending Progress :=
  if k ∈ p.given then .error .argumentConflict
  else do
    let settings ← p.settings.set k v
    return ⟨settings, k :: p.given, none⟩

/-- Judges the value of the option that waits. -/
def settle (p : Progress) : Except Ending Progress :=
  match p.pending with
  | none => .ok p
  | some (_, none) => .error .invalidValue
  | some (k, some v) => p.take k v

/-- Settles and ends. -/
def conclude (p : Progress) (e : Ending) : Except Ending Progress := do
  let _ ← p.settle
  .error e

/-- Reads a long option. -/
def long (p : Progress) (name : String) (value : Option String) : Except Ending Progress :=
  let special (e : Ending) : Except Ending Progress :=
    if value.isSome then .error .tooManyValues else p.conclude e
  if name = "help" then special .displayHelp
  else if name = "version" then special .displayVersion
  else
    match Key.ofOption? name, value with
    | none, _ => .error .unknownArgument
    | some k, some v =>
        if k.isFlag then .error .tooManyValues
        else do (← p.settle).take k v
    | some k, none => do
        let p ← p.settle
        if k.isFlag then p.take k "true" else return { p with pending := some (k, none) }

/-- Reads short options, the first of which settles it. -/
def short (p : Progress) (c : Char) : Except Ending Progress :=
  if c = 'h' then p.conclude .displayHelp
  else if c = 'V' then p.conclude .displayVersion
  else .error .unknownArgument

/-- Reads an argument that can only be a value. -/
def plain (p : Progress) (s : String) : Except Ending Progress :=
  match p.pending with
  | some (k, none) => .ok { p with pending := some (k, some s) }
  | _ => .error .unknownArgument

/-- Reads arguments to the end. -/
def scan (p : Progress) : List String → Except Ending Progress
  | [] => p.settle
  | arg :: rest =>
      match Word.ofText arg with
      | .escape => if rest = [] then p.settle else .error .unknownArgument
      | .long name value => do scan (← p.long name value) rest
      | .short c => do scan (← p.short c) rest
      | .plain s => do scan (← p.plain s) rest

/-! ## The environment -/

/-- Reads the variables of settings that were not given. -/
def fill (p : Progress) (environment : List (String × String)) : List Key → Except Ending Progress
  | [] => .ok p
  | k :: ks =>
      match k.environmentName?.bind fun name => environment.lookup name with
      | some v =>
          if k ∈ p.given then p.fill environment ks
          else do (← p.take k v).fill environment ks
      | none => p.fill environment ks

end Progress

/-- The settings that the command line and the environment make. -/
def read (arguments : List String) (environment : List (String × String)) :
    Except Ending Settings := do
  let p ← Progress.start.scan arguments
  let p ← p.fill environment Key.all
  return p.settings

end Mailroom.Settings
