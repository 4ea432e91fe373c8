import Mailroom.Proofs.Provider.Calls
import Mailroom.Proofs.Store.Replacement

/-!
# Sessions that make listed calls

`Performs` says of a session that it makes listed calls: all of them, or up to one
that stops. Between the calls it puts each message that was fetched in the place of
its row, and it does nothing else but add to the log. This composes along sequences,
so each session that is made of such ones needs one line.
-/

namespace Mailroom

variable {σ α β : Type}

namespace Session

/-! ## What was made -/

/-- Calls were made, the last one perhaps in vain, and each message that one of them
gave was put in the place of the one with its id. -/
structure Made (p : Provider σ) (calls : List Request) (w w' : World σ) : Prop where
  remote : w'.remote = p.after calls w.remote
  store : w'.store = w.store.after ((p.fetched calls w.remote).map .replace)
  now : w'.now = w.now

namespace Made

variable {p : Provider σ} {calls later : List Request} {w w₁ w' : World σ}

private theorem trans (first : Made p calls w w₁) (second : Made p later w₁ w') :
    Made p (calls ++ later) w w' where
  remote := by rw [second.remote, first.remote, p.after_append]
  store := by
    rw [second.store, first.store, first.remote, p.fetched_append, List.map_append,
      Store.after_append]
  now := second.now.trans first.now

/-- Tables stay. -/
theorem tables (h : Made p calls w w') (hTables : w.store.tables.isSome) :
    w'.store.tables.isSome := by
  obtain ⟨t, ht⟩ := Option.isSome_iff_exists.1 hTables
  rw [h.store, Store.after_replaces ht]
  rfl

end Made

/-! ## Sessions that make listed calls -/

/-- How far listed calls were made: to their end, or up to one that stops. -/
inductive Performed (p : Provider σ) (calls : List Request) (w : World σ) :
    Except Stop α → World σ → Prop
  | all {a : α} {w' : World σ} (passes : p.Passes calls w.remote)
      (made : Made p calls w w') : Performed p calls w (.ok a) w'
  | stopped {before later : List Request} {call : Request} {stop : Stop} {w' : World σ}
      (split : calls = before ++ call :: later) (passes : p.Passes before w.remote)
      (stops : p.stop? (p.after before w.remote) call = some stop)
      (made : Made p (before ++ [call]) w w') : Performed p calls w (.error stop) w'

/-- From a world, the session makes the listed calls. -/
def Performs (p : Provider σ) (calls : List Request) (x : Session σ α)
    (w : World σ) : Prop :=
  Performed p calls w (x w).1 (x w).2

variable {p : Provider σ} {w : World σ}

/-- **Calls of a sequence** are those of its parts; the second part goes on where
the first one has got to. -/
theorem Performs.bind {x : Session σ α} {f : α → Session σ β}
    {calls later : List Request} (first : Performs p calls x w)
    (second : ∀ a w₁, x w = (.ok a, w₁) → Made p calls w w₁ →
      Performs p later (f a) w₁) : Performs p (calls ++ later) (x >>= f) w := by
  unfold Performs at first ⊢
  rw [Call.bind_apply]
  cases hx : x w with
  | mk result w₁ =>
      rw [hx] at first
      cases first with
      | @stopped before rest call stop _ hSplit hPasses hStops hMade =>
          have hBoth : calls ++ later = before ++ call :: (rest ++ later) := by
            rw [hSplit, List.append_assoc, List.cons_append]
          exact .stopped hBoth hPasses hStops hMade
      | all hPasses hMade =>
          have hSecond := second _ w₁ hx hMade
          unfold Performs at hSecond
          generalize (f _ w₁).1 = result, (f _ w₁).2 = w₂ at hSecond ⊢
          cases hSecond with
          | all hPasses' hMade' =>
              refine .all ((p.passes_append _ _ _).2 ⟨hPasses, ?_⟩) (hMade.trans hMade')
              rwa [← hMade.remote]
          | @stopped before rest call stop _ hSplit hPasses' hStops hMade' =>
              have hBoth : calls ++ later = (calls ++ before) ++ call :: rest := by
                rw [hSplit, List.append_assoc]
              refine .stopped hBoth ?_ ?_ ?_
              · rw [p.passes_append, ← hMade.remote]
                exact ⟨hPasses, hPasses'⟩
              · rwa [p.after_append, ← hMade.remote]
              · rw [List.append_assoc]
                exact hMade.trans hMade'

/-- A first part without calls. -/
theorem Performs.bind_nil {x : Session σ α} {f : α → Session σ β} {calls : List Request}
    (first : Performs p [] x w)
    (second : ∀ a w₁, x w = (.ok a, w₁) → Made p [] w w₁ → Performs p calls (f a) w₁) :
    Performs p calls (x >>= f) w :=
  first.bind second

/-- What makes no call and changes at most the log. -/
theorem performs_nil {x : Session σ α} {a : α} {log : List LogLine}
    (h : x w = (.ok a, { w with log })) : Performs p [] x w := by
  unfold Performs
  rw [h]
  exact .all trivial ⟨rfl, rfl, rfl⟩

/-- A call that fetches nothing. -/
theorem performs_call {c : Call σ α} {call : Request}
    (hState : (c w.remote).2 = p.step w.remote call)
    (hStop : stopOf (c w.remote).1 = p.stop? w.remote call)
    (hNothing : p.message? w.remote call = none) :
    Performs p [call] (Session.remote c) w := by
  unfold Performs
  have hMade : Made p [call] w { w with remote := (c w.remote).2 } := by
    refine ⟨hState, ?_, rfl⟩
    simp [Provider.fetched, hNothing, Store.after]
  rw [remote_apply]
  cases hResult : (c w.remote).1 with
  | ok a =>
      rw [hResult] at hStop
      exact .all ⟨hStop.symm, trivial⟩ hMade
  | error stop =>
      rw [hResult] at hStop
      have hFirst : [call] = [] ++ [call] := rfl
      exact .stopped hFirst trivial hStop.symm hMade

/-- A message is fetched and put in the place of the one with its id. -/
theorem performs_fetch (hTables : w.store.tables.isSome) (id : String) :
    Performs p [.get id] (do
      let fresh ← Session.remote (p.get id)
      Session.write (·.replace fresh)) w := by
  obtain ⟨t, ht⟩ := Option.isSome_iff_exists.1 hTables
  unfold Performs
  cases hGet : p.get id w.remote with
  | mk result r =>
      have hCall : Session.remote (p.get id) w = (result, { w with remote := r }) := by
        rw [remote_apply, hGet]
      have hAfter : p.after [.get id] w.remote = r := congrArg Prod.snd hGet
      cases result with
      | ok fresh =>
          have hStop : p.stop? w.remote (.get id) = none := by
            simp [Provider.stop?, hGet, stopOf]
          have hFetched : p.fetched [.get id] w.remote = [fresh] := by
            simp [Provider.fetched, Provider.message?, hGet, Except.toOption]
          have hWrite : (Session.write (·.replace fresh)) { w with remote := r } =
              (.ok (), { w with remote := r, store := ⟨some (t.replaced fresh)⟩ }) :=
            write_ok (Store.replace_eq ht fresh)
          rw [Call.bind_of_ok hCall, hWrite]
          refine .all ⟨hStop, trivial⟩ ⟨hAfter.symm, ?_, rfl⟩
          rw [hFetched, Store.after_replaces ht]
          rfl
      | error stop =>
          have hStop : p.stop? w.remote (.get id) = some stop := by
            simp [Provider.stop?, hGet, stopOf]
          have hFetched : p.fetched [.get id] w.remote = [] := by
            simp [Provider.fetched, Provider.message?, hGet, Except.toOption]
          rw [Call.bind_of_error hCall]
          have hFirst : [Request.get id] = [] ++ [.get id] := rfl
          refine .stopped hFirst trivial hStop ⟨hAfter.symm, ?_, rfl⟩
          rw [List.nil_append, hFetched]
          rfl

end Session

end Mailroom
