import Mailroom.Proofs.Session
import Mailroom.Run

/-!
# What the first part of a run asks

Before a run comes to its rules it asks the provider for the profile, and a sync
lists messages and fetches them. It asks for nothing else, so what these three
calls keep of the provider's state, the first part of a run keeps, whether it
goes through or not: `ReadingKeeps` says so of the calls, and one lemma for each
loop of a sync carries it on. `OnlyRead` is one use of it, for providers that
write their calls down: no label has been asked for and none changed.
-/

namespace Mailroom

open Session (Keeps)

/-! ## What three calls keep -/

/-- Listing messages, fetching one and asking for the profile keep this of the
state of the provider. -/
structure ReadingKeeps {σ : Type} (p : Provider σ) (inv : σ → Prop) : Prop where
  list : ∀ token size r, inv r → inv (p.list token size r).2
  get : ∀ id r, inv r → inv (p.get id r).2
  profile : ∀ r, inv r → inv (p.profile r).2

/-- The request only reads messages or the profile. -/
def Request.isReading : Request → Bool
  | list _ _ => true
  | get _ => true
  | profile => true
  | label _ => false
  | modify _ _ => false

/-- Since these calls were made, messages and the profile have been read, and
nothing else was asked for. -/
def OnlyRead {σ : Type} (before : List Request) (t : Traced σ) : Prop :=
  ∃ since, t.calls = since ++ before ∧ ∀ r ∈ since, r.isReading = true

private theorem OnlyRead.cons {σ : Type} {before : List Request} {t : Traced σ} {r : Request}
    (h : OnlyRead before t) (hReading : r.isReading = true) (state : σ) :
    OnlyRead before (⟨state, r :: t.calls⟩ : Traced σ) := by
  obtain ⟨since, hCalls, hSince⟩ := h
  exact ⟨r :: since, congrArg (r :: ·) hCalls, List.forall_mem_cons.2 ⟨hReading, hSince⟩⟩

/-- **Of what is written down**, the three calls are what they say. -/
theorem onlyRead_traced {σ : Type} (p : Provider σ) (before : List Request) :
    ReadingKeeps p.traced (OnlyRead before) where
  list _ _ _ h := h.cons rfl _
  get _ _ h := h.cons rfl _
  profile _ h := h.cons rfl _

/-! ## What a sync keeps -/

variable {σ : Type} {p : Provider σ} {inv : σ → Prop}

/-- The state of the provider is such. -/
def Upheld (inv : σ → Prop) (w : World σ) : Prop := inv w.remote

theorem keeps_log (level : LogLevel) (text : String) :
    Keeps (Upheld inv) (Session.log level text) :=
  Keeps.log fun _ _ hw => hw

private theorem keeps_write (f : Store → Except Error Store) :
    Keeps (Upheld inv) (Session.write f) :=
  Keeps.write f fun _ _ hw => hw

namespace Sync

private theorem keeps_scanFrom (h : ReadingKeeps p inv) (size limit fuel : Nat)
    (token : Option String) (seen : List String) :
    Keeps (Upheld inv) (scanFrom p size limit fuel token seen) := by
  induction fuel generalizing token seen with
  | zero => exact .throw .unending
  | succ fuel ih =>
      rw [scanFrom]
      refine (Keeps.remote fun w hw => h.list token size w.remote hw).bind
        fun page => ?_
      simp only
      split
      · exact .pure _
      · split
        · exact (keeps_log _ _).bind fun _ => .pure _
        · exact ih _ _

private theorem keeps_fetchFrom (h : ReadingKeeps p inv) (total fetched : Nat)
    (ids : List String) :
    Keeps (Upheld inv) (fetchFrom p total fetched ids) := by
  induction ids generalizing fetched with
  | nil => exact .pure _
  | cons id ids ih =>
      rw [fetchFrom]
      refine (Keeps.remote fun w hw => h.get id w.remote hw).bind fun m =>
        (keeps_write _).bind fun _ => ?_
      simp only
      split
      · exact (keeps_log _ _).bind fun _ => ih _
      · exact ih _

private theorem keeps_delete (ids : List String) :
    Keeps (Upheld inv) (delete ids : Session σ Nat) := by
  induction ids with
  | nil => exact .pure _
  | cons id ids ih =>
      rw [delete]
      exact (keeps_write _).bind fun _ => ih.bind fun _ => .pure _

/-- **What the calls keep, a sync keeps.** -/
theorem keeps_sync (h : ReadingKeeps p inv) (o : Options) :
    Keeps (Upheld inv) (run p o) := by
  have hScan : Keeps (Upheld inv) (scan p o) := by
    intro w hw
    rw [scan, Call.bind_of_ok (Session.get_apply w)]
    exact ((keeps_scanFrom h _ _ _ _ _).bind fun _ =>
      (keeps_log _ _).bind fun _ => .pure _) w hw
  rw [run]
  refine hScan.bind fun scanned => (Keeps.read _).bind fun stored => ?_
  have hRest (plan : Plan) (toDelete : List String)
      (line : Nat → Nat → String) : Keeps (Upheld inv)
      (fetch p plan.toFetch >>= fun fetched =>
        delete toDelete >>= fun deleted =>
          Session.info (line fetched deleted) >>= fun _ =>
            pure (⟨scanned.ids.length, fetched, deleted⟩ : Report)) :=
    (keeps_fetchFrom h _ _ _).bind fun _ =>
      (keeps_delete _).bind fun _ => (keeps_log _ _).bind fun _ => .pure _
  simp only
  split
  · exact (keeps_log _ _).bind fun _ => (keeps_log _ _).bind fun _ =>
      hRest _ _ _
  · exact (keeps_log _ _).bind fun _ => hRest _ _ _

end Sync

/-- **And so does the first part of a run.** -/
theorem Run.keeps_syncIfNeeded (h : ReadingKeeps p inv) (o : Options) :
    Keeps (Upheld inv) (syncIfNeeded p o) := by
  rw [syncIfNeeded]
  refine (Keeps.read _).bind fun stats =>
    (Keeps.remote fun w hw => h.profile w.remote hw).bind fun profile =>
      (keeps_log _ _).bind fun _ => (keeps_log _ _).bind fun _ => ?_
  split
  · exact (keeps_log _ _).bind fun _ =>
      (Sync.keeps_sync h _).bind fun _ => .pure _
  · exact (keeps_log _ _).bind fun _ => .pure _

end Mailroom
