import Mailroom.Proofs.Rule.Selection
import Mailroom.Rule.Document

/-!
# Rules that are of use

A rule is validated before it is applied, and applying it takes the same steps
again: the query is compiled and the actions are read. Here it is said without
those steps what is wrong with a rule that is of no use. Its name is blank, or
it does not compile, or one of its actions cannot be read.

A document is validated rule by rule, and the error names the first rule that is
of no use.
-/

namespace Mailroom.Rule

/-! ## One rule -/

/-- What makes a rule of no use. -/
inductive Unusable (rule : Rule) : Prop
  | name (blank : trimmed rule.name = "")
  | query {e : Error} (compile : rule.compile = .error e)
  | action {a : ActionText} {e : Error} (mem : a ∈ rule.actions)
      (parse : Action.parse a = .error e)

/-- A list that is not read has a first item that is not. -/
theorem first_error_of_mapM {ε α β : Type} {f : α → Except ε β} {xs : List α} {e : ε}
    (h : xs.mapM f = .error e) : ∃ before x after, xs = before ++ x :: after ∧
      (∀ y ∈ before, ∃ z, f y = .ok z) ∧ f x = .error e := by
  induction xs with
  | nil => cases h
  | cons x xs ih =>
      rw [List.mapM_cons] at h
      cases hFirst : f x with
      | error e' =>
          rw [hFirst] at h
          cases h
          exact ⟨[], x, xs, rfl, List.forall_mem_nil _, hFirst⟩
      | ok y =>
          cases hRest : xs.mapM f with
          | error e' =>
              rw [hFirst, hRest] at h
              cases h
              obtain ⟨before, x', after, rfl, hBefore, hError⟩ := ih hRest
              exact ⟨x :: before, x', after, rfl,
                List.forall_mem_cons.2 ⟨⟨y, hFirst⟩, hBefore⟩, hError⟩
          | ok ys =>
              rw [hFirst, hRest] at h
              cases h

/-- A list is read if each of its items is. -/
theorem mapM_eq_error {ε α β : Type} {f : α → Except ε β} {xs : List α} {e : ε}
    (h : xs.mapM f = .error e) : ∃ x ∈ xs, f x = .error e := by
  obtain ⟨before, x, after, rfl, -, hError⟩ := first_error_of_mapM h
  exact ⟨x, by simp, hError⟩

theorem nonblank?_eq_none_iff {s : String} :
    nonblank? s = none ↔ trimmed s = "" := by
  unfold nonblank?
  split <;> simp_all

/-- **A valid rule** has a name, compiles, and its actions can be read. -/
theorem validate_eq_ok_iff {rule : Rule} : rule.validate = .ok () ↔
    trimmed rule.name ≠ "" ∧ (∃ query, rule.compile = .ok query) ∧
      ∃ actions, Action.parseAll rule.actions = .ok actions := by
  unfold validate
  by_cases hName : trimmed rule.name = ""
  · have hBlank : (nonblank? rule.name).isNone = true := by
      rw [nonblank?_eq_none_iff.2 hName]
      rfl
    simp [hBlank, hName, bind, Except.bind]
  · have hNamed : (nonblank? rule.name).isNone = false := by
      rw [Option.isNone_eq_false_iff, Option.isSome_iff_ne_none]
      exact mt nonblank?_eq_none_iff.1 hName
    simp only [hNamed, Bool.false_eq_true, if_false, ne_eq, hName,
      not_false_eq_true, true_and]
    cases rule.compile with
    | error e => simp [bind, Except.bind]
    | ok query =>
        cases Action.parseAll rule.actions with
        | error e => simp [bind, Except.bind]
        | ok actions =>
            exact ⟨fun _ => ⟨⟨query, rfl⟩, actions, rfl⟩, fun _ => rfl⟩

/-- **A rule that is not valid** is of no use for one of the three reasons. -/
theorem unusable_iff {rule : Rule} :
    Unusable rule ↔ ∃ e, rule.validate = .error e := by
  have hValid : (∃ e, rule.validate = .error e) ↔ ¬rule.validate = .ok () := by
    cases rule.validate with
    | error e => simp
    | ok u => cases u; simp
  rw [hValid, validate_eq_ok_iff]
  constructor
  · rintro h ⟨hName, ⟨query, hCompile⟩, actions, hActions⟩
    cases h with
    | name blank => exact hName blank
    | query compile =>
        rw [hCompile] at compile
        cases compile
    | action mem parse =>
        have hRead := List.mem_map_of_mem (f := Action.parse) mem
        rw [map_of_mapM hActions, parse] at hRead
        obtain ⟨action, -, hOk⟩ := List.mem_map.1 hRead
        cases hOk
  · intro h
    by_cases hName : trimmed rule.name = ""
    · exact .name hName
    · cases hCompile : rule.compile with
      | error e => exact .query hCompile
      | ok query =>
          cases hActions : Action.parseAll rule.actions with
          | ok actions => exact absurd ⟨hName, ⟨query, hCompile⟩, actions, hActions⟩ h
          | error e =>
              obtain ⟨a, ha, hParse⟩ := mapM_eq_error hActions
              exact .action ha hParse

theorem not_unusable_iff {rule : Rule} :
    ¬Unusable rule ↔ rule.validate = .ok () := by
  rw [unusable_iff]
  cases rule.validate with
  | error e => simp
  | ok u => cases u; simp

/-! ## A document -/

/-- **The rule that a document's error names** is the first one of no use. -/
theorem validateFrom_of_unusable {rules : List Rule}
    (h : ∃ rule ∈ rules, Unusable rule) (number : Nat) :
    ∃ k rule e, rules[k]? = some rule ∧ Unusable rule ∧
      (∀ earlier ∈ rules.take k, ¬Unusable earlier) ∧ rule.validate = .error e ∧
        validateFrom number rules = .error (.ruleAt (number + k) rule.name e) := by
  induction rules generalizing number with
  | nil =>
      obtain ⟨rule, hMem, -⟩ := h
      cases hMem
  | cons first rules ih =>
      cases hFirst : first.validate with
      | error e =>
          exact ⟨0, first, e, rfl, unusable_iff.2 ⟨e, hFirst⟩, by simp, hFirst,
            by rw [validateFrom, hFirst]; rfl⟩
      | ok u =>
          have hUse : ¬Unusable first := not_unusable_iff.2 hFirst
          obtain ⟨rule, hMem, hUnusable⟩ := h
          have hLater : rule ∈ rules := by
            rcases List.mem_cons.1 hMem with rfl | hLater
            · exact absurd hUnusable hUse
            · exact hLater
          obtain ⟨k, rule, e, hAt, hHere, hBefore, hError, hNamed⟩ :=
            ih ⟨rule, hLater, hUnusable⟩ (number + 1)
          refine ⟨k + 1, rule, e, hAt, hHere, ?_, hError, ?_⟩
          · rw [List.take_succ_cons, List.forall_mem_cons]
            exact ⟨hUse, hBefore⟩
          · rw [validateFrom, hFirst]
            simp only
            rw [hNamed, Nat.add_assoc, Nat.add_comm 1]

/-- All rules of a document that is accepted are valid. -/
theorem validate_of_validateFrom {number : Nat} {rules : List Rule}
    (h : validateFrom number rules = .ok ()) :
    ∀ rule ∈ rules, rule.validate = .ok () := by
  intro rule hMem
  by_contra hNot
  obtain ⟨k, first, e, -, -, -, -, hError⟩ := validateFrom_of_unusable
    ⟨rule, hMem, not_not.1 (mt not_unusable_iff.1 hNot)⟩ number
  rw [h] at hError
  cases hError

theorem validate_of_parseDocument {text : String} {rules : List Rule}
    (h : parseDocument text = .ok rules) : ∀ rule ∈ rules, rule.validate = .ok () := by
  unfold parseDocument at h
  split at h
  · cases h
  · rename_i read _
    cases hValid : validateFrom 1 read with
    | error e =>
        rw [hValid] at h
        cases h
    | ok u =>
        rw [hValid] at h
        cases h
        exact validate_of_validateFrom hValid

end Mailroom.Rule
