import Mailroom.Proofs.Provider.Schedule

/-!
# A run that is stopped at one call

A session is run twice from worlds that differ in the schedule alone: once with
nothing stopped, and once with one call to come that will be stopped. The two
runs are the same up to that call, and there the second one ends. That holds of
everything that is built from calls, reads, writes and lines of the log, since
none of these looks at the schedule. `Follows` says it of one session at one
world; `Stoppable` sessions follow their own run from any world, and compose.
-/

namespace Mailroom

variable {σ α β : Type}

/-- The schedule that lets `n` calls through and stops the next one. -/
def stopAfter (n : Nat) (stop : Stop) : List (Option Stop) :=
  List.replicate n none ++ [some stop]

/-- The world with this schedule instead of its own. -/
def World.schedule (w : World (Traced (Scheduled σ)))
    (schedule : List (Option Stop)) : World (Traced (Scheduled σ)) :=
  { w with remote := ⟨⟨w.remote.state.state, schedule⟩, w.remote.calls⟩ }

namespace Session

/-- From a world with nothing scheduled, the session makes some calls, the last
first. If one of them is to be stopped, it ends there; if it makes fewer calls,
it does not notice. Either way the provider is left in one of these states. -/
structure Follows (states : σ → Prop) (x : Session (Traced (Scheduled σ)) α)
    (w : World (Traced (Scheduled σ))) (made : List Request) : Prop where
  calls : (x w).2.remote.calls = made ++ w.remote.calls
  schedule : (x w).2.remote.state.schedule = []
  kept : states (x w).2.remote.state.state
  passes : ∀ n stop, made.length ≤ n →
    x (w.schedule (stopAfter n stop)) =
      ((x w).1, (x w).2.schedule (stopAfter (n - made.length) stop))
  stops : ∀ n stop, n < made.length →
    ∃ w', x (w.schedule (stopAfter n stop)) = (.error stop, w') ∧
      w'.remote.calls = made.drop (made.length - (n + 1)) ++ w.remote.calls ∧
      states w'.remote.state.state

/-- From any world with nothing scheduled and the provider in one of these
states, the session follows its own run. -/
def Stoppable (states : σ → Prop) (x : Session (Traced (Scheduled σ)) α) : Prop :=
  ∀ w, w.remote.state.schedule = [] → states w.remote.state.state →
    ∃ made, Follows states x w made

variable {states : σ → Prop} {x : Session (Traced (Scheduled σ)) α}

namespace Follows

variable {w w₁ : World (Traced (Scheduled σ))} {made made' : List Request}
  {f : α → Session (Traced (Scheduled σ)) β}

/-- Nothing follows a session that ends early. -/
theorem bind_error {stop : Stop} (first : Follows states x w made)
    (hx : x w = (.error stop, w₁)) : Follows states (x >>= f) w made := by
  have hRun := Call.bind_of_error (f := f) hx
  obtain ⟨hCalls, hNext, hKept, hPasses, hStops⟩ := first
  rw [hx] at hCalls hNext hKept hPasses
  refine ⟨?_, ?_, ?_, ?_, ?_⟩
  · rw [hRun, hCalls]
  · rw [hRun, hNext]
  · rwa [hRun]
  · intro n stop' h
    rw [Call.bind_of_error (hPasses n stop' h), hRun]
  · intro n stop' h
    obtain ⟨w', hStop, hEnd⟩ := hStops n stop' h
    exact ⟨w', Call.bind_of_error hStop, hEnd⟩

/-- Two sessions make the calls of both. The call that is stopped is one of the
first session, or it is one of the second session and comes so many calls later. -/
theorem bind_ok {a : α} (first : Follows states x w made) (hx : x w = (.ok a, w₁))
    (second : Follows states (f a) w₁ made') :
    Follows states (x >>= f) w (made' ++ made) := by
  have hRun := Call.bind_of_ok (f := f) hx
  obtain ⟨hCalls, -, -, hPasses, hStops⟩ := first
  rw [hx] at hCalls hPasses
  refine ⟨?_, ?_, ?_, ?_, ?_⟩
  · rw [hRun, second.calls, hCalls, List.append_assoc]
  · rw [hRun, second.schedule]
  · rw [hRun]
    exact second.kept
  · intro n stop h
    rw [List.length_append] at h
    have hLeft : n - made.length - made'.length = n - (made' ++ made).length := by
      rw [List.length_append]
      omega
    rw [Call.bind_of_ok (hPasses n stop (by omega)), second.passes _ stop (by omega),
      hRun, hLeft]
  · intro n stop h
    by_cases hLater : made.length ≤ n
    · rw [List.length_append] at h
      obtain ⟨w', hStop, hMade, hEnd⟩ := second.stops (n - made.length) stop (by omega)
      refine ⟨w', ?_, ?_, hEnd⟩
      · rw [Call.bind_of_ok (hPasses n stop hLater), hStop]
      · have hDrop : made'.length - (n - made.length + 1) =
            (made' ++ made).length - (n + 1) := by
          rw [List.length_append]
          omega
        rw [hMade, hCalls, hDrop, ← List.append_assoc, List.drop_append_of_le_length]
        rw [List.length_append]
        omega
    · obtain ⟨w', hStop, hMade, hEnd⟩ := hStops n stop (by omega)
      refine ⟨w', Call.bind_of_error hStop, ?_, hEnd⟩
      have hBefore : (made' ++ made).length - (n + 1) =
          made'.length + (made.length - (n + 1)) := by
        rw [List.length_append]
        omega
      rw [hMade, hBefore, List.drop_append,
        List.drop_eq_nil_of_le (Nat.le_add_right _ _), List.nil_append,
        Nat.add_sub_cancel_left]

end Follows

namespace Stoppable

/-- A session that leaves the provider alone and does not look at it. -/
theorem of_local (hRemote : ∀ w, (x w).2.remote = w.remote)
    (hRuns : ∀ w schedule,
      x (w.schedule schedule) = ((x w).1, (x w).2.schedule schedule)) :
    Stoppable states x := by
  intro w hw hState
  refine ⟨[], ?_, ?_, ?_, ?_, ?_⟩
  · rw [hRemote, List.nil_append]
  · rw [hRemote, hw]
  · rwa [hRemote]
  · intro n stop _
    rw [hRuns, List.length_nil, Nat.sub_zero]
  · intro n stop h
    exact absurd h (Nat.not_lt_zero n)

theorem pure (a : α) : Stoppable states (Pure.pure a) :=
  of_local (fun _ => rfl) fun _ _ => rfl

theorem throw (stop : Stop) :
    Stoppable states (throw stop : Session (Traced (Scheduled σ)) α) :=
  of_local (fun _ => rfl) fun _ _ => rfl

theorem log (level : LogLevel) (text : String) :
    Stoppable states (Session.log level text) :=
  of_local (fun _ => rfl) fun _ _ => rfl

theorem read (f : Store → Int → Except Error α) :
    Stoppable states (Session.read f) := by
  refine of_local (fun w => ?_) fun w schedule => ?_
  · cases h : f w.store w.now with
    | ok a => rw [read_ok h]
    | error e => rw [read_error h]
  · cases h : f w.store w.now with
    | ok a => rw [read_ok h, read_ok (w := w.schedule schedule) h]
    | error e => rw [read_error h, read_error (w := w.schedule schedule) h]

theorem write (f : Store → Except Error Store) :
    Stoppable states (Session.write f) := by
  refine of_local (fun w => ?_) fun w schedule => ?_
  · cases h : f w.store with
    | ok s => rw [write_ok h]
    | error e => rw [write_error h]
  · cases h : f w.store with
    | ok s =>
        rw [write_ok h, write_ok (w := w.schedule schedule) h]
        rfl
    | error e => rw [write_error h, write_error (w := w.schedule schedule) h]

/-- A call is stopped, or it is made and the rest of the schedule is left. -/
theorem remote (q : Request) {c : Call σ α}
    (hKept : ∀ r, states r → states (c r).2) :
    Stoppable states (Session.remote (Provider.record q c.scheduled)) := by
  intro w hw hState
  refine ⟨[q], rfl, ?_, ?_, ?_, ?_⟩
  · simp only [Session.remote, Provider.record, Call.scheduled, hw]
    rfl
  · simp only [Session.remote, Provider.record, Call.scheduled, hw]
    exact hKept _ hState
  · intro n stop h
    obtain ⟨n, rfl⟩ := Nat.exists_eq_add_of_le' h
    simp only [Session.remote, Provider.record, Call.scheduled, hw]
    rfl
  · intro n stop h
    have hFirst : n = 0 := by simpa using h
    subst hFirst
    exact ⟨_, rfl, rfl, hState⟩

/-- **The second session follows from where the first one ended.** If the first
one ends early, there is no second one. -/
theorem bind {f : α → Session (Traced (Scheduled σ)) β}
    (first : Stoppable states x) (second : ∀ a, Stoppable states (f a)) :
    Stoppable states (x >>= f) := by
  intro w hw hState
  obtain ⟨made, hFirst⟩ := first w hw hState
  cases hx : x w with
  | mk result w₁ =>
      cases result with
      | error stop => exact ⟨made, hFirst.bind_error hx⟩
      | ok a =>
          have hNext := hFirst.schedule
          have hKept := hFirst.kept
          rw [hx] at hNext hKept
          obtain ⟨made', hSecond⟩ := second a w₁ hNext hKept
          exact ⟨made' ++ made, hFirst.bind_ok hx hSecond⟩

/-- What is made of the world may not depend on the schedule. -/
theorem inspect {f : World (Traced (Scheduled σ)) → Session (Traced (Scheduled σ)) α}
    (hStoppable : ∀ w, Stoppable states (f w))
    (hSame : ∀ w schedule, f (w.schedule schedule) = f w) :
    Stoppable states (get >>= f) := by
  intro w hw hState
  obtain ⟨made, h⟩ := hStoppable w w hw hState
  have hRun : (get >>= f) w = f w w := Call.bind_of_ok (get_apply w)
  have hRuns (schedule : List (Option Stop)) :
      (get >>= f) (w.schedule schedule) = f w (w.schedule schedule) := by
    rw [Call.bind_of_ok (get_apply (w.schedule schedule)), hSame]
  refine ⟨made, ?_, ?_, ?_, ?_, ?_⟩
  · rw [hRun, h.calls]
  · rw [hRun, h.schedule]
  · rw [hRun]
    exact h.kept
  · intro n stop hn
    rw [hRun, hRuns, h.passes n stop hn]
  · intro n stop hn
    rw [hRuns]
    exact h.stops n stop hn

end Stoppable

end Session

end Mailroom
