import Mailroom.Proofs.Rule.SentLabel

/-!
# Rows that stay selected

Applying a rule changes labels, and a query may ask for a label: whether a
message was sent. This module shows that a row the rule's query gives is still
given once labels have been added to it or incidental ones removed.

A query does not ask whether patterns are too long before it comes to them, and
then it fails. So an evaluation has one more outcome than the three truth
values, and `OR` makes true what was not only if the other side can still be
evaluated. `Steady` carries both: what was true stays true, and what could be
evaluated still can be.
-/

namespace Mailroom.Rule

open Mailroom.Store (Column Row)
open Mailroom.Sql (Fault Truth Condition Scope)

/-! ## Evaluations that stay true -/

/-- Of two evaluations, the second is true if the first one is, and there is a
second one if there is a first. -/
structure Steady (x x' : Except Fault Truth) : Prop where
  yes : x = .ok .yes → x' = .ok .yes
  decided : (∃ t, x = .ok t) → ∃ t, x' = .ok t

private theorem Steady.refl (x : Except Fault Truth) : Steady x x := ⟨id, id⟩

section Connectives

variable {scope scope' : Scope} {a b : Condition}

private theorem eval_both_eq_yes : (Condition.both a b).eval scope = .ok .yes ↔
    a.eval scope = .ok .yes ∧ b.eval scope = .ok .yes := by
  rw [Condition.eval]
  cases a.eval scope with
  | error e => simp [bind, Except.bind]
  | ok t => cases t <;> simp [bind, Except.bind, pure, Except.pure]

private theorem eval_either_of_yes (ha : a.eval scope = .ok .yes) :
    (Condition.either a b).eval scope = .ok .yes := by
  rw [Condition.eval, ha]
  rfl

/-- The right side of `OR` is looked at when the left side is not true. -/
theorem eval_either_of_ne {t : Truth} (ha : a.eval scope = .ok t)
    (hNot : t ≠ .yes) :
    (Condition.either a b).eval scope = (b.eval scope).map t.or := by
  rw [Condition.eval, ha]
  cases t with
  | yes => exact absurd rfl hNot
  | no => cases b.eval scope <;> rfl
  | unknown => cases b.eval scope <;> rfl

private theorem eval_either_eq_yes : (Condition.either a b).eval scope = .ok .yes ↔
    a.eval scope = .ok .yes ∨
      (∃ t, a.eval scope = .ok t) ∧ b.eval scope = .ok .yes := by
  cases ha : a.eval scope with
  | error e => simp [Condition.eval, ha, bind, Except.bind]
  | ok t =>
      by_cases hYes : t = .yes
      · subst hYes
        simp [eval_either_of_yes ha]
      · rw [eval_either_of_ne ha hYes]
        have hOr (u : Truth) : t.or u = .yes ↔ u = .yes := by
          cases t <;> cases u <;> simp_all [Truth.or]
        cases b.eval scope with
        | error e => simp [Except.map, hYes]
        | ok u => simp [Except.map, hYes, hOr]

private theorem eval_either_decided : (∃ t, (Condition.either a b).eval scope = .ok t) ↔
    a.eval scope = .ok .yes ∨
      (∃ t, a.eval scope = .ok t) ∧ ∃ u, b.eval scope = .ok u := by
  cases ha : a.eval scope with
  | error e => simp [Condition.eval, ha, bind, Except.bind]
  | ok t =>
      by_cases hYes : t = .yes
      · subst hYes
        simp [eval_either_of_yes ha]
      · rw [eval_either_of_ne ha hYes]
        cases b.eval scope with
        | error e => simp [Except.map, hYes]
        | ok u => simp [Except.map]

/-- What is decided on the left stays decided there, so the right side is looked
at again or not needed any more. -/
theorem Steady.either (ha : Steady (a.eval scope) (a.eval scope'))
    (hb : Steady (b.eval scope) (b.eval scope')) :
    Steady ((Condition.either a b).eval scope)
      ((Condition.either a b).eval scope') where
  yes h := by
    rw [eval_either_eq_yes] at h ⊢
    exact h.imp ha.yes (.imp ha.decided hb.yes)
  decided h := by
    rw [eval_either_decided] at h ⊢
    exact h.imp ha.yes (.imp ha.decided hb.decided)

end Connectives

/-- Tests that both have a result are steady if the first statement makes sure
of the second. -/
theorem Tests.steady {x x' : Except Fault Truth} {p p' : Prop} (h : Tests x p)
    (h' : Tests x' p') (hImp : p → p') : Steady x x' := by
  obtain ⟨t, rfl, hp⟩ := h
  obtain ⟨t', rfl, hp'⟩ := h'
  refine ⟨fun hYes => ?_, fun _ => ⟨t', rfl⟩⟩
  rw [hp'.2 (hImp (hp.1 (Except.ok.inj hYes)))]

/-! ## Filters -/

/-- What reading a filter makes sure of: no text is looked for in the labels,
and no date is matched against a pattern. -/
def Filter.Sound : Filter → Prop
  | text column _ _ => column ≠ .labelIds
  | date _ operator _ => operator.isPattern = false

theorem sound_of_parse {t : FilterText} {f : Filter}
    (h : Filter.parse t = .ok f) : f.Sound := by
  have hColumn {c : Column} (hField : Field.ofName? t.field = some (.text c)) :
      c ≠ .labelIds := by
    rintro rfl
    unfold Field.ofName? at hField
    split at hField
    all_goals cases hField
  unfold Filter.parse at h
  split at h
  · cases h
  · rename_i field hField
    split at h
    · cases h
    · rename_i o ho
      have hAdmits := (Option.filter_eq_some_iff.1 ho).2
      split at h
      · cases h
        exact hColumn hField
      · split at h
        · cases h
        · cases h
          simpa [Field.admits, Filter.Sound] using hAdmits

theorem sound_of_map_parse {ts : List FilterText} {filters : List Filter}
    (h : ts.map Filter.parse = filters.map .ok) : ∀ f ∈ filters, f.Sound := by
  intro f hf
  obtain ⟨t, -, hParse⟩ := exists_of_map h hf
  exact sound_of_parse hParse

/-- A text does not change with the labels, so what is asked of it is answered
as before. -/
theorem eval_text_same {m m' : Message}
    (hSame : ∀ c, c ≠ Column.labelIds → Row.valueOf m' c = Row.valueOf m c)
    {arguments : List String} {now : Int} {k : Nat} {c : Column}
    (hc : c ≠ .labelIds) (o : Operator) (value : String) :
    ((Filter.text c o value).condition k).eval
        ((Row.encode m').scope arguments now) =
      ((Filter.text c o value).condition k).eval
        ((Row.encode m).scope arguments now) := by
  simp only [Filter.condition, Condition.eval, Sql.Operand.value, scope_column,
    Store.get_encode, hSame c hc]
  rfl

/-- A message with labels added and perhaps incidental ones removed, as far as
its row tells. -/
structure Grown (m m' : Message) : Prop where
  same : ∀ c, c ≠ Column.labelIds → Row.valueOf m' c = Row.valueOf m c
  kept : ∀ l ∈ m.labelIds, l ∉ incidental → l ∈ m'.labelIds

section Grown

variable {m m' : Message} (hGrown : Grown m m') {arguments : List String}
  {now : Int} {k : Nat}
include hGrown

/-- **One clause**: of the labels only the one of sent messages is looked at. -/
theorem steady_filter (now : Int) {f : Filter} (hSound : f.Sound)
    (hArgument : arguments[k]? = some f.argument) :
    Steady ((f.condition k).eval ((Row.encode m).scope arguments now))
      ((f.condition k).eval ((Row.encode m').scope arguments now)) := by
  cases f with
  | text c o value =>
      rw [eval_text_same hGrown.same hSound]
      exact Steady.refl _
  | date sentOnly o v =>
      refine (tests_date hSound hArgument).steady (tests_date hSound hArgument) ?_
      have hDate : compares (Row.encode m') .internalDate o (v.moment now) =
          compares (Row.encode m) .internalDate o (v.moment now) := by
        simp only [compares, Store.get_encode, hGrown.same .internalDate (by decide)]
      have hSent := matches?_sent_mono hGrown.kept
      simp only [Filter.holds, hDate, Bool.and_eq_true, Bool.or_eq_true,
        decide_eq_true_eq]
      exact And.imp_right (Or.imp_right hSent)

private theorem yes_joined_all {c : Condition} (filters : List Filter)
    (hSound : ∀ f ∈ filters, f.Sound)
    (hArguments : arguments.drop k = filters.map Filter.argument)
    (hc : c.eval ((Row.encode m).scope arguments now) = .ok .yes →
      c.eval ((Row.encode m').scope arguments now) = .ok .yes)
    (h : (joined .all k c filters).eval
      ((Row.encode m).scope arguments now) = .ok .yes) :
    (joined .all k c filters).eval
      ((Row.encode m').scope arguments now) = .ok .yes := by
  induction filters generalizing k c with
  | nil => exact hc h
  | cons f fs ih =>
      obtain ⟨hFirst, hRest⟩ := arguments_cons hArguments
      have hOne := steady_filter hGrown now (hSound f (by simp)) hFirst
      refine ih (fun g hg => hSound g (by simp [hg])) hRest ?_ h
      simp only [MatchMode.connect, eval_both_eq_yes]
      exact And.imp hc hOne.yes

private theorem steady_joined_any {c : Condition} (filters : List Filter)
    (hSound : ∀ f ∈ filters, f.Sound)
    (hArguments : arguments.drop k = filters.map Filter.argument)
    (hc : Steady (c.eval ((Row.encode m).scope arguments now))
      (c.eval ((Row.encode m').scope arguments now))) :
    Steady ((joined .any k c filters).eval ((Row.encode m).scope arguments now))
      ((joined .any k c filters).eval
        ((Row.encode m').scope arguments now)) := by
  induction filters generalizing k c with
  | nil => exact hc
  | cons f fs ih =>
      obtain ⟨hFirst, hRest⟩ := arguments_cons hArguments
      have hOne := steady_filter hGrown now (hSound f (by simp)) hFirst
      exact ih (fun g hg => hSound g (by simp [hg])) hRest (hc.either hOne)

omit hGrown in
private theorem satisfies_eq_true {row : Row} {c : Condition} :
    row.satisfies c arguments now = .ok true ↔
      c.eval (row.scope arguments now) = .ok .yes := by
  unfold Row.satisfies
  cases c.eval (row.scope arguments now) with
  | ok t => simp
  | error e => cases e; simp

/-- **A row that is selected stays selected** when labels are added and
incidental ones removed. -/
theorem Grown.selection {mode : MatchMode} {filters : List Filter}
    (hSound : ∀ f ∈ filters, f.Sound)
    (h : mode.selection filters now (Row.encode m) = .ok true) :
    mode.selection filters now (Row.encode m') = .ok true := by
  cases filters with
  | nil => rfl
  | cons f fs =>
      have hArguments : ((f :: fs).map Filter.argument).drop 0 =
          (f :: fs).map Filter.argument := rfl
      obtain ⟨hFirst, hRest⟩ := arguments_cons hArguments
      have hOne := steady_filter hGrown now (hSound f (by simp)) hFirst
      have hLater : ∀ g ∈ fs, g.Sound := fun g hg => hSound g (by simp [hg])
      change Row.satisfies _ (joined mode 1 (f.condition 0) fs) _ now =
        .ok true at h ⊢
      rw [satisfies_eq_true] at h ⊢
      cases mode with
      | all => exact yes_joined_all hGrown fs hLater hRest hOne.yes h
      | any => exact (steady_joined_any hGrown fs hLater hRest hOne).yes h

end Grown

end Mailroom.Rule
