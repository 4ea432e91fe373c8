import Mailroom.Machine
import Mailroom.Proofs.FileTree
import Mailroom.Proofs.Session

/-!
# Steps of a job

A job is a call on a machine, so the equations for calls in sequence hold of it.
Most steps of a job look at the machine, or use up what is typed, or add to what
is logged and printed. `Quiet` jobs do no more than that, so where one stops the
files and the server are as they were.
-/

namespace Mailroom

/-- The files, the server and the time are the same. -/
structure Machine.Alike (m m' : Machine) : Prop where
  files : m'.files = m.files
  server : m'.server = m.server
  now : m'.now = m.now

theorem Machine.Alike.refl (m : Machine) : m.Alike m := ⟨rfl, rfl, rfl⟩

private theorem Machine.Alike.trans {m m' m'' : Machine} (h : m.Alike m') (h' : m'.Alike m'') :
    m.Alike m'' where
  files := h'.files.trans h.files
  server := h'.server.trans h.server
  now := h'.now.trans h.now

namespace Job

variable {α β : Type}

/-- However the job ends, the files, the server and the time are the same. -/
def Quiet (x : Job α) : Prop := ∀ m : Machine, m.Alike (x m).2

namespace Quiet

theorem bind {x : Job α} {f : α → Job β} (first : Quiet x) (second : ∀ a, Quiet (f a)) :
    Quiet (x >>= f) := by
  intro m
  have hFirst := first m
  rw [Call.bind_apply]
  cases hx : x m with
  | mk result m₁ =>
      rw [hx] at hFirst
      cases result with
      | ok a => exact hFirst.trans (second a m₁)
      | error stop => exact hFirst

private theorem pure (a : α) : Quiet (Pure.pure a : Job α) := Machine.Alike.refl

private theorem throw (stop : Stop) : Quiet (throw stop : Job α) := Machine.Alike.refl

theorem get : Quiet (MonadState.get : Job Machine) := Machine.Alike.refl

theorem ofExcept (x : Except Error α) : Quiet (Job.ofExcept x) := by
  cases x with
  | ok a => exact .pure a
  | error e => exact .throw _

theorem read (path : String) : Quiet (Job.read path) := Machine.Alike.refl

theorem now : Quiet Job.now := Machine.Alike.refl

theorem info (text : String) : Quiet (Job.info text) := fun _ => ⟨rfl, rfl, rfl⟩

theorem print (text : String) : Quiet (Job.print text) := fun _ => ⟨rfl, rfl, rfl⟩

theorem inputLine (e : Error) : Quiet (Job.inputLine e) := by
  intro m
  unfold Job.inputLine
  simp only
  split
  · exact ⟨rfl, rfl, rfl⟩
  · exact ⟨rfl, rfl, rfl⟩

/-- A sequence that begins with a quiet job stops in it, with nothing changed, or
goes on from a machine like the one before. -/
theorem next {x : Job α} (hQuiet : Quiet x) {f : α → Job β}
    {post : Except Stop β → Machine → Prop} {m₀ m : Machine} (hAlike : m₀.Alike m)
    (hStop : ∀ stop m', m₀.Alike m' → post (.error stop) m')
    (hNext : ∀ a m₁, x m = (.ok a, m₁) → m₀.Alike m₁ → post (f a m₁).1 (f a m₁).2) :
    post ((x >>= f) m).1 ((x >>= f) m).2 := by
  have hSame := hAlike.trans (hQuiet m)
  rw [Call.bind_apply]
  cases hx : x m with
  | mk result m₁ =>
      rw [hx] at hSame
      cases result with
      | ok a => exact hNext a m₁ hx hSame
      | error stop => exact hStop stop m₁ hSame

end Quiet

theorem ofExcept_eq_ok {x : Except Error α} {a : α} {m m' : Machine}
    (h : Job.ofExcept x m = (.ok a, m')) : x = .ok a := by
  cases x with
  | ok b =>
      cases h
      rfl
  | error e => cases h

/-- A call on the server leaves the files alone. -/
theorem online_eq {c : Call Http.Server α} {m m' : Machine} {result : Except Stop α}
    (h : Job.online c m = (result, m')) :
    c m.server = (result, m'.server) ∧ m'.files = m.files := by
  cases h
  exact ⟨rfl, rfl⟩

/-- A text is written and can be read then, or nothing has happened. -/
theorem write_cases (path text : String) (e : Error) (m : Machine) :
    Job.write path text e m = (.error (.failed e), m) ∨
      ∃ files, Job.write path text e m = (.ok (), { m with files }) ∧
        files.read path = .text text := by
  unfold Job.write
  cases hWrite : m.files.write path (.file (Text.Utf8.encode text.toList)) with
  | none => exact .inl rfl
  | some files => exact .inr ⟨files, rfl, FileTree.read_of_write hWrite⟩

end Job

end Mailroom
