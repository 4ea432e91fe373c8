import Mailroom.Proofs.Provider.Interruption

/-!
# Calls one after the other

A list of calls can be followed on a provider without anything that makes them:
`after` is the state that they leave, `Passes` says that none of them stops, and
`fetched` are the messages that they give. What stops a call is its error; looking
up a label also stops if there is none of the name. Recording calls changes none
of this, and a call that is stopped changes nothing of those before it.
-/

namespace Mailroom

variable {σ α : Type}

/-- The stop of an answer, if it is one. -/
def stopOf : Except Stop α → Option Stop
  | .ok _ => none
  | .error stop => some stop

namespace Provider

variable (p : Provider σ)

/-! ## One call -/

/-- The provider after a call, however it ended. -/
def step (r : σ) : Request → σ
  | .list token size => (p.list token size r).2
  | .get id => (p.get id r).2
  | .profile => (p.profile r).2
  | .label name => (p.resolve name r).2
  | .modify id change => (p.modify id change r).2

/-- What stops at a call: its error, or that there is no label of the name. -/
def stop? (r : σ) : Request → Option Stop
  | .list token size => stopOf (p.list token size r).1
  | .get id => stopOf (p.get id r).1
  | .profile => stopOf (p.profile r).1
  | .label name =>
      match (p.resolve name r).1 with
      | .ok (some _) => none
      | .ok none => some (.failed (.unknownLabel name))
      | .error stop => some stop
  | .modify id change => stopOf (p.modify id change r).1

/-- The message that a call gives, if it is fetched. -/
def message? (r : σ) : Request → Option Message
  | .get id => (p.get id r).1.toOption
  | _ => none

/-! ## Several calls -/

/-- The provider after calls. -/
def after (calls : List Request) (r : σ) : σ := calls.foldl p.step r

/-- None of the calls stops. -/
def Passes : List Request → σ → Prop
  | [], _ => True
  | call :: calls, r => p.stop? r call = none ∧ Passes calls (p.step r call)

/-- The messages that calls give, in order. -/
def fetched : List Request → σ → List Message
  | [], _ => []
  | call :: calls, r => (p.message? r call).toList ++ fetched calls (p.step r call)

theorem after_append (calls later : List Request) (r : σ) :
    p.after (calls ++ later) r = p.after later (p.after calls r) :=
  List.foldl_append

theorem passes_append (calls later : List Request) (r : σ) :
    p.Passes (calls ++ later) r ↔
      p.Passes calls r ∧ p.Passes later (p.after calls r) := by
  induction calls generalizing r with
  | nil => simp [Passes, after]
  | cons call calls ih =>
      have hLater := ih (p.step r call)
      simp only [List.cons_append, Passes, hLater, and_assoc]
      rfl

/-- Where calls stop at one, they do not pass. -/
theorem not_passes_of_stop {calls before later : List Request} {call : Request} {r : σ}
    {stop : Stop} (hSplit : calls = before ++ call :: later)
    (hStop : p.stop? (p.after before r) call = some stop) : ¬p.Passes calls r := by
  subst hSplit
  intro hPasses
  have hHere := ((p.passes_append before (call :: later) r).1 hPasses).2.1
  rw [hStop] at hHere
  cases hHere

/-- **Calls stop at one place.** -/
theorem stop_unique {before later before' later' : List Request} {call call' : Request}
    {r : σ} {stop stop' : Stop} (hSplit : before ++ call :: later = before' ++ call' :: later')
    (hPasses : p.Passes before r) (hStop : p.stop? (p.after before r) call = some stop)
    (hPasses' : p.Passes before' r)
    (hStop' : p.stop? (p.after before' r) call' = some stop') :
    before = before' ∧ call = call' ∧ stop = stop' := by
  induction before generalizing before' r with
  | nil =>
      cases before' with
      | nil =>
          obtain ⟨rfl, -⟩ := List.cons.inj hSplit
          exact ⟨rfl, rfl, Option.some.inj (hStop.symm.trans hStop')⟩
      | cons first before' =>
          obtain ⟨rfl, -⟩ := List.cons.inj hSplit
          exact absurd (hStop.symm.trans hPasses'.1) (Option.some_ne_none stop)
  | cons first before ih =>
      cases before' with
      | nil =>
          obtain ⟨rfl, -⟩ := List.cons.inj hSplit
          exact absurd (hStop'.symm.trans hPasses.1) (Option.some_ne_none stop')
      | cons first' before' =>
          obtain ⟨rfl, hRest⟩ := List.cons.inj hSplit
          obtain ⟨rfl, hSame⟩ := ih hRest hPasses.2 hStop hPasses'.2 hStop'
          exact ⟨rfl, hSame⟩

theorem fetched_append (calls later : List Request) (r : σ) :
    p.fetched (calls ++ later) r =
      p.fetched calls r ++ p.fetched later (p.after calls r) := by
  induction calls generalizing r with
  | nil => rfl
  | cons call calls ih =>
      have hLater := ih (p.step r call)
      simp only [List.cons_append, fetched, hLater, List.append_assoc]
      rfl

/-! ## Calls written down -/

private theorem step_traced (t : Traced σ) (call : Request) :
    p.traced.step t call = ⟨p.step t.state call, call :: t.calls⟩ := by
  cases call <;> rfl

theorem stop?_traced (t : Traced σ) (call : Request) :
    p.traced.stop? t call = p.stop? t.state call := by
  cases call <;> rfl

private theorem message?_traced (t : Traced σ) (call : Request) :
    p.traced.message? t call = p.message? t.state call := by
  cases call <;> rfl

/-- **Calls are written down**, the last one first, and nothing else changes. -/
theorem after_traced (calls : List Request) (t : Traced σ) :
    p.traced.after calls t = ⟨p.after calls t.state, calls.reverse ++ t.calls⟩ := by
  induction calls generalizing t with
  | nil => rfl
  | cons call calls ih =>
      have hLater := ih (p.traced.step t call)
      rw [step_traced] at hLater
      rw [after, List.foldl_cons, ← after, step_traced, hLater]
      simp [after]

theorem passes_traced (calls : List Request) (t : Traced σ) :
    p.traced.Passes calls t ↔ p.Passes calls t.state := by
  induction calls generalizing t with
  | nil => exact Iff.rfl
  | cons call calls ih => rw [Passes, Passes, stop?_traced, ih, step_traced]

theorem fetched_traced (calls : List Request) (t : Traced σ) :
    p.traced.fetched calls t = p.fetched calls t.state := by
  induction calls generalizing t with
  | nil => rfl
  | cons call calls ih => rw [fetched, fetched, message?_traced, ih, step_traced]

/-! ## Calls before one that is stopped -/

private theorem step_scheduled (r : σ) (schedule : List (Option Stop)) (call : Request) :
    p.scheduled.step ⟨r, none :: schedule⟩ call = ⟨p.step r call, schedule⟩ := by
  cases call <;> rfl

private theorem stop?_scheduled (r : σ) (schedule : List (Option Stop)) (call : Request) :
    p.scheduled.stop? ⟨r, none :: schedule⟩ call = p.stop? r call := by
  cases call <;> rfl

private theorem message?_scheduled (r : σ) (schedule : List (Option Stop)) (call : Request) :
    p.scheduled.message? ⟨r, none :: schedule⟩ call = p.message? r call := by
  cases call <;> rfl

/-- **Calls that are let through** are made as they are. -/
theorem after_scheduled (calls : List Request) (r : σ) (schedule : List (Option Stop)) :
    p.scheduled.after calls ⟨r, List.replicate calls.length none ++ schedule⟩ =
      ⟨p.after calls r, schedule⟩ := by
  induction calls generalizing r with
  | nil => rfl
  | cons call calls ih =>
      rw [after, List.foldl_cons, ← after, List.length_cons, List.replicate_succ,
        List.cons_append, step_scheduled, ih]
      rfl

theorem passes_scheduled (calls : List Request) (r : σ) (schedule : List (Option Stop)) :
    p.scheduled.Passes calls ⟨r, List.replicate calls.length none ++ schedule⟩ ↔
      p.Passes calls r := by
  induction calls generalizing r with
  | nil => exact Iff.rfl
  | cons call calls ih =>
      rw [Passes, Passes, List.length_cons, List.replicate_succ, List.cons_append,
        stop?_scheduled, step_scheduled, ih]

theorem fetched_scheduled (calls : List Request) (r : σ) (schedule : List (Option Stop)) :
    p.scheduled.fetched calls ⟨r, List.replicate calls.length none ++ schedule⟩ =
      p.fetched calls r := by
  induction calls generalizing r with
  | nil => rfl
  | cons call calls ih =>
      rw [fetched, fetched, List.length_cons, List.replicate_succ, List.cons_append,
        message?_scheduled, step_scheduled, ih]

/-- A call is stopped, and gives no message. -/
theorem stopped_scheduled (r : σ) (stop : Stop) (schedule : List (Option Stop))
    (call : Request) : p.scheduled.stop? ⟨r, some stop :: schedule⟩ call = some stop ∧
      p.scheduled.message? ⟨r, some stop :: schedule⟩ call = none := by
  cases call <;> exact ⟨rfl, rfl⟩

end Provider

end Mailroom
