import Mailroom.Json.Record
import Mathlib.Data.List.Nodup

/-!
# What an object says

An object is read as a record, in which only the named members are left, in a list of
their own. What is read from that list is what the object itself holds under those
names: members of other names may stand anywhere between them. `IsRecord` is the
condition under which an object is read at all, and `Holds` what a member says that
may be missing or `null`. Neither speaks of how objects are read, so the readers of
records can be compared with them.
-/

namespace Mailroom.Json

variable {names : List String} {name : String} {members : List (Option String × Json)}

/-- An object with these members can be read as a record: all keys have a text, and
none of the names comes twice. -/
structure IsRecord (names : List String) (members : List (Option String × Json)) : Prop where
  keyed : ∀ m ∈ members, m.1.isSome = true
  once : ∀ name ∈ names, (members.map (·.1)).count (some name) ≤ 1

instance : Decidable (IsRecord names members) :=
  decidable_of_iff ((∀ m ∈ members, m.1.isSome = true) ∧
      ∀ name ∈ names, (members.map (·.1)).count (some name) ≤ 1)
    ⟨fun h => ⟨h.1, h.2⟩, fun h => ⟨h.keyed, h.once⟩⟩

/-- What a member holds that may be missing or `null`. -/
inductive Holds {α : Type} (members : List (Option String × Json)) (name : String)
    (write : α → Json) : Option α → Prop
  | missing (unnamed : members.lookup (some name) = none) : Holds members name write none
  | null (empty : members.lookup (some name) = some .null) : Holds members name write none
  | value {x : α} (named : members.lookup (some name) = some (write x)) :
      Holds members name write (some x)

/-! ## The members of a record -/

/-- **What a record has under a name** is what the object has. -/
theorem lookup_known (h : name ∈ names) :
    (known names members).lookup name = members.lookup (some name) := by
  induction members with
  | nil => rfl
  | cons m members ih =>
      obtain ⟨key?, v⟩ := m
      cases key? with
      | none => exact ih
      | some key =>
          by_cases hKey : key ∈ names
          · have hTake : known names ((some key, v) :: members) =
                (key, v) :: known names members := by simp [known, hKey]
            rw [hTake, List.lookup_cons, List.lookup_cons, ih]
            rfl
          · have hSkip : known names ((some key, v) :: members) = known names members := by
              simp [known, hKey]
            have hOther : (some name == some key) = false :=
              beq_eq_false_iff_ne.2 fun hSame => hKey (Option.some.inj hSame ▸ h)
            rw [hSkip, ih, List.lookup_cons, hOther]

/-- A name comes as often in a record as in the object. -/
theorem count_known (h : name ∈ names) :
    ((known names members).map (·.1)).count name = (members.map (·.1)).count (some name) := by
  rw [known, List.map_filterMap, List.count_filterMap, List.count, List.countP_map]
  refine List.countP_congr fun m _ => ?_
  obtain ⟨_ | key, v⟩ := m
  · simp
  · by_cases hKey : key ∈ names
    · simp [hKey]
    · have hOther : key ≠ name := fun hSame => hKey (hSame ▸ h)
      simp [hKey, hOther]

/-- Only named members are left in a record. -/
theorem mem_of_mem_known {m : String × Json} (h : m ∈ known names members) : m.1 ∈ names := by
  obtain ⟨⟨key?, v⟩, -, hKnown⟩ := List.mem_filterMap.1 h
  cases key? with
  | none => cases hKnown
  | some key =>
      obtain ⟨hKey, hSame⟩ := Option.ite_none_right_eq_some.1 hKnown
      rwa [← Option.some.inj hSame]

/-- When an object can be read as a record. -/
theorem isRecord_iff : IsRecord names members ↔
    (members.all (·.1.isSome) = true ∧ ((known names members).map (·.1)).Nodup) := by
  rw [List.all_eq_true, List.nodup_iff_count_le_one]
  constructor
  · rintro ⟨hKeyed, hOnce⟩
    refine ⟨hKeyed, fun name => ?_⟩
    by_cases hName : name ∈ names
    · exact count_known hName ▸ hOnce name hName
    · have hNone : name ∉ (known names members).map (·.1) := fun hMem => by
        obtain ⟨m, hm, rfl⟩ := List.mem_map.1 hMem
        exact hName (mem_of_mem_known hm)
      rw [List.count_eq_zero.2 hNone]
      exact Nat.zero_le 1
  · rintro ⟨hKeyed, hOnce⟩
    exact ⟨hKeyed, fun name hName => count_known hName ▸ hOnce name⟩

/-- **An object is read as a record** if it can be. -/
theorem mapping?_eq_some {j : Json} {r : Record} : mapping? names j = some r ↔
    ∃ members, j = .object members ∧ IsRecord names members ∧
      r = ⟨false, known names members⟩ := by
  cases j with
  | object members =>
      rw [mapping?, Option.ite_none_right_eq_some, ← isRecord_iff, Option.some.injEq]
      constructor
      · rintro ⟨hRecord, rfl⟩
        exact ⟨members, rfl, hRecord, rfl⟩
      · rintro ⟨_, hSame, hRecord, rfl⟩
        cases hSame
        exact ⟨hRecord, rfl⟩
  | _ => simp [mapping?]

/-! ## Fields -/

section

variable {α : Type} {read : Json → Option α} {write : α → Json}

/-- What is read is what is written, and nothing else is read. -/
def Reads (read : Json → Option α) (write : α → Json) : Prop :=
  ∀ j x, read j = some x ↔ j = write x

theorem reads_text : Reads text? ofString := by
  intro j s
  cases j <;> simp [text?, ofString]

theorem reads_uint64 : Reads uint64? fun n => .integer n.toNat := by
  intro j n
  cases j with
  | integer i =>
      have hSize : UInt64.size = 2 ^ 64 := rfl
      have hLast := n.toNat_lt
      simp only [uint64?, uint64OfInt?, Option.ite_none_right_eq_some, Option.some.injEq,
        integer.injEq]
      constructor
      · rintro ⟨⟨hLow, hHigh⟩, rfl⟩
        rw [UInt64.toNat_ofNat_of_lt' (by omega)]
        omega
      · rintro rfl
        exact ⟨by omega, UInt64.ofNat_toNat⟩
  | _ => simp [uint64?]

/-- A field that must be there. -/
theorem required_iff (hRead : Reads read write) (h : name ∈ names) {x : α} :
    (Record.mk false (known names members)).required name read = some x ↔
      members.lookup (some name) = some (write x) := by
  rw [Record.required, Record.get?, lookup_known h, Option.bind_eq_some_iff]
  simp only [hRead _ _, exists_eq_right]

/-- A value that may be `null`, under a name. -/
theorem nullable?_iff (hRead : Reads read write) (hNull : read .null = none) {j : Json}
    (hNamed : members.lookup (some name) = some j) {x? : Option α} :
    j.nullable? read = some x? ↔ Holds members name write x? := by
  constructor
  · intro h
    by_cases hEmpty : j = .null
    · subst hEmpty
      cases h
      exact .null hNamed
    · have hSome : (read j).map some = some x? := by
        cases j <;> first | exact absurd rfl hEmpty | exact h
      obtain ⟨x, hx, rfl⟩ := Option.map_eq_some_iff.1 hSome
      exact .value (hNamed.trans (congrArg some ((hRead j x).1 hx)))
  · intro h
    cases h with
    | missing unnamed => cases hNamed.symm.trans unnamed
    | null empty =>
        cases hNamed.symm.trans empty
        rfl
    | @value x named =>
        have hx : read j = some x :=
          (hRead j x).2 (Option.some.inj (hNamed.symm.trans named))
        cases j with
        | null => rw [hNull] at hx; cases hx
        | _ => simp [nullable?, hx]

/-- A field that may be absent or `null`. -/
theorem optional_iff (hRead : Reads read write) (hNull : read .null = none)
    (h : name ∈ names) {x? : Option α} :
    (Record.mk false (known names members)).optional name read = some x? ↔
      Holds members name write x? := by
  rw [Record.optional, Record.get?, lookup_known h]
  cases hNamed : members.lookup (some name) with
  | some j => exact nullable?_iff hRead hNull hNamed
  | none =>
      constructor
      · rintro ⟨⟩
        exact .missing hNamed
      · intro hHolds
        cases hHolds with
        | missing unnamed => rfl
        | null empty => rfl
        | value named => cases hNamed.symm.trans named

/-- A field that may be `null` and has the same default. -/
theorem withDefault_iff (hRead : Reads read write) (hNull : read .null = none)
    (h : name ∈ names) {x? : Option α} :
    (Record.mk false (known names members)).withDefault name none (nullable? read) = some x? ↔
      Holds members name write x? := by
  rw [← optional_iff hRead hNull h, Record.optional, Record.withDefault]
  rfl

end

end Mailroom.Json
