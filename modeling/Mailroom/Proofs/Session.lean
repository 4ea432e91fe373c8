import Mailroom.Session

/-!
# Steps of a session

A session is a call on the world, so what it does is read off at a world.
The equations here say what each primitive step does there; `Call.bind_apply`
runs two calls one after the other, and `Contract` is the rule form of the same
fact, with one postcondition for sessions that end and one for sessions that
stop.

Lines of the log never decide anything: `info` and `log` change the log alone,
and every statement below speaks of the other three parts of the world.
-/

namespace Mailroom

variable {σ α β : Type}

namespace Call

/-! ## Calls in sequence -/

/-- The second call is made where the first one ended; a stop is final. -/
theorem bind_apply (x : Call σ α) (f : α → Call σ β) (s : σ) :
    (x >>= f) s =
      match x s with
      | (.ok a, s₁) => f a s₁
      | (.error stop, s₁) => (.error stop, s₁) := by
  show (ExceptT.bind x f) s = _
  simp only [ExceptT.bind, ExceptT.mk, bind, StateT.bind]
  cases hx : x s with
  | mk result s₁ =>
      cases result with
      | ok a => rfl
      | error stop => rfl

/-- A sequence goes on where its first part ended. -/
theorem bind_of_ok {x : Call σ α} {f : α → Call σ β} {s s₁ : σ} {a : α}
    (h : x s = (.ok a, s₁)) : (x >>= f) s = f a s₁ := by
  rw [bind_apply, h]

/-- A sequence stops where its first part stops. -/
theorem bind_of_error {x : Call σ α} {f : α → Call σ β} {s s₁ : σ}
    {stop : Stop} (h : x s = (.error stop, s₁)) :
    (x >>= f) s = (.error stop, s₁) := by
  rw [bind_apply, h]

/-- A sequence that goes through has gone through both of its parts. -/
theorem bind_eq_ok {x : Call σ α} {f : α → Call σ β} {s s' : σ} {b : β}
    (h : (x >>= f) s = (.ok b, s')) :
    ∃ a s₁, x s = (.ok a, s₁) ∧ f a s₁ = (.ok b, s') := by
  rw [bind_apply] at h
  cases hx : x s with
  | mk result s₁ =>
      rw [hx] at h
      cases result with
      | ok a => exact ⟨a, s₁, rfl, h⟩
      | error stop => cases h

end Call

namespace Session

/-! ## Running the primitive steps -/

@[simp] theorem get_apply (w : World σ) :
    (get : Session σ (World σ)) w = (.ok w, w) := rfl

@[simp] theorem remote_apply (c : Call σ α) (w : World σ) :
    remote c w = ((c w.remote).1, { w with remote := (c w.remote).2 }) := rfl

/-- What a call in a session gave, it gave at the provider's state. -/
theorem remote_eq {c : Call σ α} {w w' : World σ} {result : Except Stop α}
    (h : remote c w = (result, w')) : c w.remote = (result, w'.remote) := by
  rw [remote_apply] at h
  cases h
  rfl

@[simp] theorem ofExcept_apply (x : Except Error α) (w : World σ) :
    (ofExcept x : Session σ α) w =
      (match x with | .ok a => .ok a | .error e => .error (.failed e), w) := by
  cases x <;> rfl

theorem read_ok {f : Store → Int → Except Error α} {w : World σ} {a : α}
    (h : f w.store w.now = .ok a) : (read f : Session σ α) w = (.ok a, w) := by
  simp [read, h]

theorem read_error {f : Store → Int → Except Error α} {w : World σ} {e : Error}
    (h : f w.store w.now = .error e) :
    (read f : Session σ α) w = (.error (.failed e), w) := by
  simp [read, h]

theorem write_ok {f : Store → Except Error Store} {w : World σ} {s : Store}
    (h : f w.store = .ok s) :
    (write f : Session σ Unit) w = (.ok (), { w with store := s }) := by
  simp [write, h]

theorem write_error {f : Store → Except Error Store} {w : World σ} {e : Error}
    (h : f w.store = .error e) :
    (write f : Session σ Unit) w = (.error (.failed e), w) := by
  simp [write, h]

/-! ## Ends -/

/-- From a world, the session ends with this result, leaving the provider and
the store like this; the log aside. -/
def Ends (x : Session σ α) (w : World σ) (result : Except Stop α) (r : σ)
    (s : Store) : Prop :=
  ∃ log, x w = (result, ⟨r, s, w.now, log⟩)

namespace Ends

variable {x : Session σ α} {f : α → Session σ β} {w : World σ} {r r' : σ}
  {s s' : Store}

/-- The second part goes on at any world like the one where the first ended. -/
theorem bind {a : α} {result : Except Stop β} (first : Ends x w (.ok a) r s)
    (second : ∀ w' : World σ, w'.remote = r → w'.store = s → w'.now = w.now →
      Ends (f a) w' result r' s') : Ends (x >>= f) w result r' s' := by
  obtain ⟨log, hx⟩ := first
  obtain ⟨log', hf⟩ := second ⟨r, s, w.now, log⟩ rfl rfl rfl
  exact ⟨log', by rw [Call.bind_of_ok hx, hf]⟩

/-- What stops in the first part stops. -/
theorem stop {stop : Stop} (first : Ends x w (.error stop) r s) :
    Ends (x >>= f) w (.error stop) r s := by
  obtain ⟨log, hx⟩ := first
  exact ⟨log, Call.bind_of_error hx⟩

theorem pure {a : α} (hRemote : w.remote = r) (hStore : w.store = s) :
    Ends (Pure.pure a) w (.ok a) r s := by
  subst hRemote hStore
  exact ⟨w.log, rfl⟩

theorem log (level : LogLevel) (text : String) (w : World σ) :
    Ends (Session.log level text) w (.ok ()) w.remote w.store := ⟨_, rfl⟩

theorem ofExcept {y : Except Error α} {a : α} (h : y = .ok a) (w : World σ) :
    Ends (Session.ofExcept y) w (.ok a) w.remote w.store := by
  subst h
  exact ⟨w.log, rfl⟩

theorem remote {c : Call σ α} {result : Except Stop α}
    (h : c w.remote = (result, r)) :
    Ends (Session.remote c) w result r w.store := by
  refine ⟨w.log, ?_⟩
  rw [remote_apply, h]

theorem write {f : Store → Except Error Store} (h : f w.store = .ok s) :
    Ends (Session.write f) w (.ok ()) w.remote s := ⟨w.log, write_ok h⟩

theorem read {f : Store → Int → Except Error α} {a : α}
    (h : f w.store w.now = .ok a) :
    Ends (Session.read f) w (.ok a) w.remote w.store := ⟨w.log, read_ok h⟩

theorem read_stop {f : Store → Int → Except Error α} {e : Error}
    (h : f w.store w.now = .error e) :
    Ends (Session.read f) w (.error (.failed e)) w.remote w.store :=
  ⟨w.log, read_error h⟩

/-- A session ends in one way. -/
theorem result {result : Except Stop α} (h : Ends x w result r s) :
    (x w).1 = result ∧ (x w).2.remote = r ∧ (x w).2.store = s := by
  obtain ⟨log, h⟩ := h
  rw [h]
  exact ⟨rfl, rfl, rfl⟩

theorem eq_of_apply {result result' : Except Stop α} {w' : World σ}
    (h : Ends x w result r s) (hx : x w = (result', w')) :
    result' = result ∧ w'.remote = r ∧ w'.store = s := by
  have hResult := h.result
  rwa [hx] at hResult

end Ends

/-! ## Contracts -/

/-- From every world with `pre`, the session either ends with `post` or stops
with `stopped`. -/
def Contract (pre : World σ → Prop) (x : Session σ α)
    (post : α → World σ → Prop) (stopped : Stop → World σ → Prop) : Prop :=
  ∀ w, pre w →
    (∀ a w', x w = (.ok a, w') → post a w') ∧
      (∀ stop w', x w = (.error stop, w') → stopped stop w')

namespace Contract

variable {pre : World σ → Prop} {x : Session σ α}
  {post : α → World σ → Prop} {stopped : Stop → World σ → Prop}

/-- Two sessions one after the other: what the first one leaves is what the
second one starts from. -/
theorem bind {middle : α → World σ → Prop} {f : α → Session σ β}
    {post : β → World σ → Prop} (first : Contract pre x middle stopped)
    (second : ∀ a, Contract (middle a) (f a) post stopped) :
    Contract pre (x >>= f) post stopped := by
  intro w hw
  obtain ⟨hOk, hStop⟩ := first w hw
  cases hx : x w with
  | mk result w₁ =>
      cases result with
      | ok a =>
          rw [Call.bind_of_ok hx]
          exact second a w₁ (hOk a w₁ hx)
      | error stop =>
          rw [Call.bind_of_error hx]
          refine ⟨fun b w' h => (by cases h), fun stop' w' h => ?_⟩
          cases h
          exact hStop stop w₁ hx

theorem pure {a : α} (h : ∀ w, pre w → post a w) :
    Contract pre (Pure.pure a) post stopped := by
  intro w hw
  refine ⟨fun b w' hb => ?_, fun stop w' hb => (by cases hb)⟩
  cases hb
  exact h w hw

theorem log {level : LogLevel} {text : String}
    {post : World σ → Prop}
    (h : ∀ w, pre w → post { w with log := ⟨level, text⟩ :: w.log }) :
    Contract pre (Session.log level text) (fun _ => post) stopped := by
  intro w hw
  refine ⟨fun b w' hb => ?_, fun stop w' hb => (by cases hb)⟩
  cases hb
  exact h w hw

/-- What does not look at the log is the same after a further line. -/
theorem log_same {level : LogLevel} {text : String}
    (h : ∀ w lines, pre w → pre { w with log := lines }) :
    Contract pre (Session.log level text) (fun _ => pre) stopped :=
  log fun w hw => h w _ hw

theorem ofExcept {y : Except Error α}
    (hOk : ∀ a, y = .ok a → ∀ w, pre w → post a w)
    (hError : ∀ e, y = .error e → ∀ w, pre w → stopped (.failed e) w) :
    Contract pre (Session.ofExcept y) post stopped := by
  intro w hw
  cases hy : y with
  | ok a =>
      refine ⟨fun b w' hb => ?_, fun stop w' hb => (by cases hb)⟩
      cases hb
      exact hOk a hy w hw
  | error e =>
      refine ⟨fun b w' hb => (by cases hb), fun stop w' hb => ?_⟩
      cases hb
      exact hError e hy w hw

/-- Reading changes nothing. -/
theorem read {f : Store → Int → Except Error α}
    (hOk : ∀ w a, pre w → f w.store w.now = .ok a → post a w)
    (hError : ∀ w e, pre w → f w.store w.now = .error e →
      stopped (.failed e) w) :
    Contract pre (Session.read f) post stopped := by
  intro w hw
  cases hRead : f w.store w.now with
  | ok a =>
      rw [read_ok hRead]
      refine ⟨fun b w' h => ?_, fun stop w' h => (by cases h)⟩
      cases h
      exact hOk w a hw hRead
  | error e =>
      rw [read_error hRead]
      refine ⟨fun b w' h => (by cases h), fun stop w' h => ?_⟩
      cases h
      exact hError w e hw hRead

/-- A call on the provider changes the provider's state alone. -/
theorem remote {c : Call σ α}
    (hOk : ∀ w a r, pre w → c w.remote = (.ok a, r) →
      post a { w with remote := r })
    (hStop : ∀ w stop r, pre w → c w.remote = (.error stop, r) →
      stopped stop { w with remote := r }) :
    Contract pre (Session.remote c) post stopped := by
  intro w hw
  cases hCall : c w.remote with
  | mk result r =>
      rw [remote_apply, hCall]
      constructor
      · intro a w' h
        cases h
        exact hOk w a r hw hCall
      · intro stop w' h
        cases h
        exact hStop w stop r hw hCall

/-- A write changes the store, or fails and changes nothing. -/
theorem write {f : Store → Except Error Store} {post : World σ → Prop}
    (hOk : ∀ w s, pre w → f w.store = .ok s → post { w with store := s })
    (hError : ∀ w e, pre w → f w.store = .error e → stopped (.failed e) w) :
    Contract pre (Session.write f) (fun _ => post) stopped := by
  intro w hw
  cases hWrite : f w.store with
  | ok s =>
      rw [write_ok hWrite]
      refine ⟨fun a w' h => ?_, fun stop w' h => (by cases h)⟩
      cases h
      exact hOk w s hw hWrite
  | error e =>
      rw [write_error hWrite]
      refine ⟨fun a w' h => (by cases h), fun stop w' h => ?_⟩
      cases h
      exact hError w e hw hWrite

/-- A write that cannot fail. -/
theorem write_of_ok {f : Store → Except Error Store} {post : World σ → Prop}
    (h : ∀ w, pre w → ∃ s, f w.store = .ok s ∧ post { w with store := s }) :
    Contract pre (Session.write f) (fun _ => post) stopped := by
  refine write (fun w s hw hWrite => ?_) fun w e hw hWrite => ?_
  · obtain ⟨s', hOk, hPost⟩ := h w hw
    cases hWrite.symm.trans hOk
    exact hPost
  · obtain ⟨s', hOk, -⟩ := h w hw
    cases hWrite.symm.trans hOk

end Contract

/-! ## What stays as it is -/

/-- What holds of the world before the session holds of it afterwards, however
the session ends. -/
def Keeps (inv : World σ → Prop) (x : Session σ α) : Prop :=
  Contract inv x (fun _ => inv) (fun _ => inv)

namespace Keeps

variable {inv : World σ → Prop} {x : Session σ α}

theorem bind {f : α → Session σ β} (first : Keeps inv x)
    (second : ∀ a, Keeps inv (f a)) : Keeps inv (x >>= f) :=
  Contract.bind first second

theorem pure (a : α) : Keeps inv (Pure.pure a : Session σ α) :=
  Contract.pure fun _ h => h

theorem throw (stop : Stop) : Keeps inv (throw stop : Session σ α) := by
  intro w hw
  refine ⟨fun a w' h => (by cases h), fun stop' w' h => ?_⟩
  cases h
  exact hw

theorem log {level : LogLevel} {text : String}
    (h : ∀ w lines, inv w → inv { w with log := lines }) :
    Keeps inv (Session.log level text) :=
  Contract.log_same h

theorem ofExcept (x : Except Error α) : Keeps inv (Session.ofExcept x) :=
  Contract.ofExcept (fun _ _ _ hw => hw) fun _ _ _ hw => hw

theorem read (f : Store → Int → Except Error α) :
    Keeps inv (Session.read f) :=
  Contract.read (fun _ _ hw _ => hw) fun _ _ hw _ => hw

theorem write (f : Store → Except Error Store)
    (h : ∀ w s, inv w → inv { w with store := s }) :
    Keeps inv (Session.write f) :=
  Contract.write (fun w s hw _ => h w s hw) fun _ _ hw _ => hw

theorem remote {c : Call σ α}
    (h : ∀ w, inv w → inv { w with remote := (c w.remote).2 }) :
    Keeps inv (Session.remote c) := by
  refine Contract.remote (fun w a r hw hCall => ?_) fun w stop r hw hCall => ?_
  · have hNext := h w hw
    rwa [hCall] at hNext
  · have hNext := h w hw
    rwa [hCall] at hNext

/-- However it ends, it holds of the world then. -/
theorem apply (h : Keeps inv x) {w : World σ} (hw : inv w) : inv (x w).2 := by
  obtain ⟨hOk, hStop⟩ := h w hw
  cases hx : x w with
  | mk result w' =>
      cases result with
      | ok a => exact hOk a w' hx
      | error stop => exact hStop stop w' hx

end Keeps

/-! ## What the log decides -/

end Session

/-- The world without its log. -/
def World.unlogged (w : World σ) : World σ := { w with log := [] }

private theorem World.unlogged_eq_iff {w w' : World σ} :
    w.unlogged = w'.unlogged ↔
      w.remote = w'.remote ∧ w.store = w'.store ∧ w.now = w'.now := by
  simp only [unlogged, mk.injEq, and_true]

namespace Session

/-- From worlds that differ in their logs alone, the session ends in the same
way and leaves such worlds. -/
def Unswayed (x : Session σ α) : Prop :=
  ∀ w w' : World σ, w.unlogged = w'.unlogged →
    (x w).1 = (x w').1 ∧ (x w).2.unlogged = (x w').2.unlogged

namespace Unswayed

variable {x : Session σ α}

theorem bind {f : α → Session σ β} (first : Unswayed x)
    (second : ∀ a, Unswayed (f a)) : Unswayed (x >>= f) := by
  intro w w' hSame
  obtain ⟨hResult, hNext⟩ := first w w' hSame
  rw [Call.bind_apply, Call.bind_apply]
  cases hx : x w with
  | mk result w₁ =>
      cases hx' : x w' with
      | mk result' w₁' =>
          rw [hx, hx'] at hResult hNext
          cases hResult
          cases result with
          | ok a => exact second a w₁ w₁' hNext
          | error stop => exact ⟨rfl, hNext⟩

theorem pure (a : α) : Unswayed (Pure.pure a : Session σ α) :=
  fun _ _ hSame => ⟨rfl, hSame⟩

theorem log (level : LogLevel) (text : String) :
    Unswayed (Session.log level text : Session σ Unit) :=
  fun _ _ hSame => ⟨rfl, hSame⟩

theorem ofExcept (y : Except Error α) :
    Unswayed (Session.ofExcept y : Session σ α) := by
  intro w w' hSame
  rw [ofExcept_apply, ofExcept_apply]
  exact ⟨rfl, hSame⟩

theorem remote (c : Call σ α) : Unswayed (Session.remote c) := by
  intro w w' hSame
  obtain ⟨hRemote, hStore, hNow⟩ := World.unlogged_eq_iff.1 hSame
  rw [remote_apply, remote_apply, hRemote]
  exact ⟨rfl, World.unlogged_eq_iff.2 ⟨rfl, hStore, hNow⟩⟩

theorem read (f : Store → Int → Except Error α) :
    Unswayed (Session.read f : Session σ α) := by
  intro w w' hSame
  obtain ⟨-, hStore, hNow⟩ := World.unlogged_eq_iff.1 hSame
  rw [Session.read, Session.read, hStore, hNow]
  exact ofExcept _ w w' hSame

theorem write (f : Store → Except Error Store) :
    Unswayed (Session.write f : Session σ Unit) := by
  intro w w' hSame
  obtain ⟨hRemote, hStore, hNow⟩ := World.unlogged_eq_iff.1 hSame
  rw [Session.write, Session.write, hStore]
  cases f w'.store with
  | ok s => exact ⟨rfl, World.unlogged_eq_iff.2 ⟨hRemote, rfl, hNow⟩⟩
  | error e => exact ⟨rfl, hSame⟩

end Unswayed

end Session

end Mailroom
