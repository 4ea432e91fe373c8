import Mailroom.Proofs.Session
import Mailroom.Provider.Mailbox

/-!
# Calls that are made to fail

A schedule says of each call to come whether it goes through. A call that does
not ends with the stop that the schedule names, and the provider does not hear
of it. Any pattern of failures along a run is a schedule, and the calls beyond
its end go through, so the empty schedule is the provider itself.

A mailbox in memory has failures of its own, set by kind and id. Both kinds
leave the mailbox as it was: of all calls, only a change of labels that
succeeds changes it, and only under one key.
-/

namespace Mailroom

/-- A provider's state with what is to become of the next calls: nothing, or a
stop. -/
structure Scheduled (σ : Type) where
  state : σ
  schedule : List (Option Stop)

variable {σ α : Type}

/-- Makes a call, unless the schedule stops it. -/
def Call.scheduled (c : Call σ α) : Call (Scheduled σ) α := fun s =>
  match s.schedule.head?.join with
  | some stop => (.error stop, ⟨s.state, s.schedule.tail⟩)
  | none =>
      let (result, state) := c s.state
      (result, ⟨state, s.schedule.tail⟩)

/-- The provider whose calls fail as scheduled. -/
def Provider.scheduled (p : Provider σ) : Provider (Scheduled σ) where
  list token size := (p.list token size).scheduled
  get id := (p.get id).scheduled
  profile := p.profile.scheduled
  resolve name := (p.resolve name).scheduled
  modify id change := (p.modify id change).scheduled
  pagesLeft s := p.pagesLeft s.state

/-- A call that the schedule stops leaves the state alone; any other call is
made as it is. -/
theorem Call.scheduled_cases {c : Call σ α} {s s' : Scheduled σ}
    {result : Except Stop α} (h : c.scheduled s = (result, s')) :
    (∃ stop, result = .error stop ∧ s'.state = s.state) ∨
      c s.state = (result, s'.state) := by
  unfold Call.scheduled at h
  split at h
  · cases h
    exact .inl ⟨_, rfl, rfl⟩
  · cases h
    exact .inr rfl

theorem Provider.record_eq {r : Request} {c : Call σ α} {t t' : Traced σ}
    {result : Except Stop α} (h : Provider.record r c t = (result, t')) :
    c t.state = (result, t'.state) ∧ t'.calls = r :: t.calls := by
  unfold Provider.record at h
  cases h
  exact ⟨rfl, rfl⟩

namespace Mailbox

/-! ## Labels of one message -/

/-- Changing the labels under a key changes nothing under other keys. -/
theorem find?_changeLabels_ne {b : Mailbox} {key k : String} (h : k ≠ key)
    (change : Rule.LabelChange) :
    (b.changeLabels key change).find? k = b.find? k := by
  unfold find? changeLabels
  induction b.messages with
  | nil => rfl
  | cons p r ih =>
      obtain ⟨j, x⟩ := p
      simp only [List.map_cons, List.lookup_cons] at ih ⊢
      by_cases hj : j = key
      · have hk : (k == j) = false := by simpa [hj] using h
        simp only [if_pos hj, List.lookup_cons, hk]
        exact ih
      · simp only [if_neg hj, List.lookup_cons]
        split
        · rfl
        · exact ih

/-- Under the key itself, only the labels change. -/
theorem find?_changeLabels_self (b : Mailbox) (key : String)
    (change : Rule.LabelChange) :
    (b.changeLabels key change).find? key =
      (b.find? key).map fun m =>
        { m with labelIds := change.apply m.labelIds } := by
  unfold find? changeLabels
  induction b.messages with
  | nil => rfl
  | cons p r ih =>
      obtain ⟨j, x⟩ := p
      simp only [List.map_cons, List.lookup_cons] at ih ⊢
      by_cases hj : j = key
      · simp [hj]
      · have hk : (key == j) = false := by simpa using fun heq => hj heq.symm
        simp only [if_neg hj, List.lookup_cons, hk]
        exact ih

/-! ## What calls leave -/

/-- A call fails and leaves the mailbox alone, or it gives its answer. -/
theorem call_cases {kind : CallKind} {id : String}
    {answer : Mailbox → Except Error (α × Mailbox)} {b b' : Mailbox}
    {result : Except Stop α} (h : call kind id answer b = (result, b')) :
    (∃ stop, result = .error stop ∧ b' = b) ∨
      ∃ a, result = .ok a ∧ answer b = .ok (a, b') := by
  unfold call at h
  split at h
  · cases h
    exact .inl ⟨_, rfl, rfl⟩
  · split at h
    · rename_i a b₁ hAnswer
      cases h
      exact .inr ⟨a, rfl, hAnswer⟩
    · cases h
      exact .inl ⟨_, rfl, rfl⟩

/-- Listing changes nothing, and the token says what is listed. -/
theorem list_cases {token : Option String} {size : Nat} {b b' : Mailbox}
    {result : Except Stop IdPage}
    (h : provider.list token size b = (result, b')) :
    b' = b ∧ ∀ page, result = .ok page → page = b.page token size := by
  simp only [provider] at h
  rcases call_cases h with ⟨stop, rfl, rfl⟩ | ⟨a, rfl, hAnswer⟩
  · exact ⟨rfl, fun page hPage => (by cases hPage)⟩
  · cases hAnswer
    refine ⟨rfl, fun page hPage => ?_⟩
    cases hPage
    rfl

/-- Fetching changes nothing, and what is fetched is what was there. -/
theorem get_cases {id : String} {b b' : Mailbox} {result : Except Stop Message}
    (h : provider.get id b = (result, b')) :
    b' = b ∧ ∀ m, result = .ok m → b.find? id = some m := by
  simp only [provider] at h
  rcases call_cases h with ⟨stop, rfl, rfl⟩ | ⟨m, rfl, hAnswer⟩
  · exact ⟨rfl, fun m hm => (by cases hm)⟩
  · split at hAnswer
    · rename_i m' hFind
      cases hAnswer
      refine ⟨rfl, fun m hm => ?_⟩
      cases hm
      exact hFind
    · cases hAnswer

/-- A change of labels is made, or it stops and is not. -/
theorem modify_cases {id : String} {change : Rule.LabelChange} {b b' : Mailbox}
    {result : Except Stop Unit} (h : provider.modify id change b = (result, b')) :
    (∃ stop, result = .error stop ∧ b' = b) ∨
      (result = .ok () ∧ b' = b.changeLabels id change) := by
  simp only [provider] at h
  rcases call_cases h with hStop | ⟨a, rfl, hAnswer⟩
  · exact .inl hStop
  · cases hAnswer
    exact .inr ⟨rfl, rfl⟩

theorem resolve_cases {name : String} {b b' : Mailbox}
    {result : Except Stop (Option String)}
    (h : provider.resolve name b = (result, b')) : b' = b := by
  simp only [provider] at h
  rcases call_cases h with ⟨stop, -, hSame⟩ | ⟨a, -, hAnswer⟩
  · exact hSame
  · cases hAnswer
    rfl

/-- Asking for the profile changes nothing. -/
theorem profile_cases {b b' : Mailbox} {result : Except Stop Profile}
    (h : provider.profile b = (result, b')) :
    b' = b ∧ ∀ profile, result = .ok profile → profile = b.profile := by
  simp only [provider] at h
  rcases call_cases h with ⟨stop, rfl, rfl⟩ | ⟨a, rfl, hAnswer⟩
  · exact ⟨rfl, fun profile hProfile => (by cases hProfile)⟩
  · cases hAnswer
    refine ⟨rfl, fun profile hProfile => ?_⟩
    cases hProfile
    rfl

/-! ## An unreliable mailbox -/

/-- A mailbox whose calls fail as scheduled, and are written down. -/
def unreliable : Provider (Traced (Scheduled Mailbox)) :=
  provider.scheduled.traced

/-- The mailbox behind the schedule and the trace. -/
def behind (r : Traced (Scheduled Mailbox)) : Mailbox := r.state.state

/-- A call is stopped by the schedule, or made on the mailbox behind. -/
theorem unreliable_cases {request : Request} {c : Call Mailbox α}
    {r r' : Traced (Scheduled Mailbox)} {result : Except Stop α}
    (h : Provider.record request c.scheduled r = (result, r')) :
    (∃ stop, result = .error stop ∧ behind r' = behind r) ∨
      c (behind r) = (result, behind r') :=
  Call.scheduled_cases (Provider.record_eq h).1

theorem get_spec {id : String} {r r' : Traced (Scheduled Mailbox)}
    {result : Except Stop Message} (h : unreliable.get id r = (result, r')) :
    behind r' = behind r ∧
      ∀ m, result = .ok m → (behind r).find? id = some m := by
  rcases unreliable_cases h with ⟨stop, rfl, hSame⟩ | hMade
  · exact ⟨hSame, fun m hm => (by cases hm)⟩
  · exact get_cases hMade

theorem modify_spec {id : String} {change : Rule.LabelChange}
    {r r' : Traced (Scheduled Mailbox)} {result : Except Stop Unit}
    (h : unreliable.modify id change r = (result, r')) :
    (∃ stop, result = .error stop ∧ behind r' = behind r) ∨
      (result = .ok () ∧ behind r' = (behind r).changeLabels id change) := by
  rcases unreliable_cases h with hStop | hMade
  · exact .inl hStop
  · exact modify_cases hMade

private theorem resolve_spec {name : String} {r r' : Traced (Scheduled Mailbox)}
    {result : Except Stop (Option String)}
    (h : unreliable.resolve name r = (result, r')) : behind r' = behind r := by
  rcases unreliable_cases h with ⟨stop, -, hSame⟩ | hMade
  · exact hSame
  · exact resolve_cases hMade

theorem profile_spec {r r' : Traced (Scheduled Mailbox)}
    {result : Except Stop Profile} (h : unreliable.profile r = (result, r')) :
    behind r' = behind r ∧
      ∀ profile, result = .ok profile → profile = (behind r).profile := by
  rcases unreliable_cases h with ⟨stop, rfl, hSame⟩ | hMade
  · exact ⟨hSame, fun profile hProfile => (by cases hProfile)⟩
  · exact profile_cases hMade

/-- Working out what an action comes down to changes nothing. -/
theorem labelChange_spec {action : Rule.Action}
    {r r' : Traced (Scheduled Mailbox)} {result : Except Stop Rule.LabelChange}
    (h : action.labelChange unreliable r = (result, r')) :
    behind r' = behind r := by
  cases action with
  | move label =>
      rw [Rule.Action.labelChange, Call.bind_apply] at h
      cases hResolve : unreliable.resolve label r with
      | mk answer r₁ =>
          have hSame := resolve_spec hResolve
          rw [hResolve] at h
          cases answer with
          | error stop =>
              cases h
              exact hSame
          | ok id? =>
              cases id? with
              | none =>
                  cases h
                  exact hSame
              | some id =>
                  cases h
                  exact hSame
  | markRead =>
      cases h
      rfl
  | markUnread =>
      cases h
      rfl

end Mailbox

end Mailroom
