import Mailroom.Message.Json
import Mailroom.Proofs.Json.RoundTrip

/-!
# Parts that were read can be written and read again

A part is written as an object whose members are all known, so it is read back
member by member, provided that enough levels are left for its nesting. What is
written nests at most one bracket deeper than what was read: a part without a
body gets one. The parts of a message are read below the message itself, so
there are levels to spare when they are written on their own.

A body is read only if it can be kept whole. That it can be rests on sizes
being 64-bit integers, to which a double comes near.
-/

namespace Mailroom.Decimal

/-! ## Rounding -/

/-- Rounding gains at most one. -/
theorem halfEven_le (num den : Nat) : halfEven num den ≤ num / den + 1 := by
  unfold halfEven
  simp only
  split
  · omega
  · split
    · omega
    · have := Nat.mod_lt (num / den) (y := 2) (by omega)
      omega

private theorem Magnitude.mantissa_nearest (num den : Nat) :
    (Magnitude.nearest num den).mantissa =
      Magnitude.inSteps num den (Magnitude.nearest num den).exponent := by
  simp only [Magnitude.nearest]

/-- The double nearest to a number of 64 bits is not much larger. -/
theorem nearest_le {n : Nat} (h : n < UInt64.size) :
    nearest n ≤ 2 * UInt64.size := by
  have hSize : UInt64.size = 2 ^ 64 := rfl
  rw [hSize] at h ⊢
  unfold nearest
  split
  · omega
  · rename_i hLarge
    have hLarge : 2 ^ 53 ≤ n := by simpa using hLarge
    have hLow : 53 ≤ n.log2 := (Nat.le_log2 (by omega)).2 hLarge
    have hHigh : n.log2 < 64 := (Nat.log2_lt (by omega)).2 h
    have hOne : Nat.log2 1 = 0 := by decide
    -- its last digits are cut off, at most eleven of them
    obtain ⟨k, hk, hExponent⟩ : ∃ k : Nat, k ≤ 11 ∧
        (Magnitude.nearest n 1).exponent = k := by
      refine ⟨(Magnitude.nearest n 1).exponent.toNat, ?_, ?_⟩
      · simp only [Magnitude.nearest, Magnitude.leastExponent, hOne]
        split <;> omega
      · simp only [Magnitude.nearest, Magnitude.leastExponent, hOne]
        split <;> omega
    have hSteps : Magnitude.inSteps n 1 k ≤ n / 2 ^ k + 1 := by
      have hRound := halfEven_le n (1 <<< k)
      rw [Nat.one_shiftLeft] at hRound
      simpa [Magnitude.inSteps, Nat.one_shiftLeft] using hRound
    have hPower : 2 ^ k ≤ 2 ^ 11 := Nat.pow_le_pow_right (by decide) hk
    rw [Magnitude.num, Magnitude.mantissa_nearest, hExponent, Int.toNat_natCast,
      Nat.shiftLeft_eq]
    calc Magnitude.inSteps n 1 k * 2 ^ k
        ≤ (n / 2 ^ k + 1) * 2 ^ k := Nat.mul_le_mul_right _ hSteps
      _ = n / 2 ^ k * 2 ^ k + 2 ^ k := Nat.succ_mul _ _
      _ ≤ n + 2 ^ 11 := Nat.add_le_add (Nat.div_mul_le_self n _) hPower
      _ ≤ 2 * 2 ^ 64 := by omega

end Mailroom.Decimal

namespace Mailroom.Json

/-! ## Numbers that are kept whole -/

private theorem takeUp_digits {n : Nat} (h : n ≤ largestDigits) :
    takeUp 0 (Text.digits n) = (n, 0) := by
  have hRun : ∀ n, n ≤ largestDigits → ∀ cs,
      takeUp 0 (Text.digits n ++ cs) = takeUp n cs := by
    intro n
    induction n using Nat.strongRecOn with
    | ind n ih =>
        intro h cs
        rw [Text.digits]
        split
        · rename_i hSmall
          rw [List.singleton_append, takeUp, Text.digitValue_digitChar n hSmall,
            if_neg (by omega), Nat.zero_mul, Nat.zero_add]
        · have hLast := Text.digitValue_digitChar (n % 10) (by omega)
          have hWhole : n / 10 * 10 + n % 10 = n := by omega
          rw [List.append_assoc, ih (n / 10) (by omega) (by omega),
            List.singleton_append, takeUp, hLast, hWhole, if_neg (by omega)]
  have hAll := hRun n h []
  rw [List.append_nil] at hAll
  exact hAll

/-- Every 64-bit integer can be kept whole. -/
@[simp] theorem representable_int64 (n : Int64) :
    representable (.integer n.toInt) = true := by
  have hLow := Int64.minValue_le_toInt n
  have hHigh := Int64.toInt_le n
  have hMin : Int64.minValue.toInt = -2 ^ 63 := by decide
  have hMax : Int64.maxValue.toInt = 2 ^ 63 - 1 := by decide
  have hSize : n.toInt.natAbs < UInt64.size := by
    rw [UInt64.size]
    omega
  have hKept : kept (Text.digits n.toInt.natAbs) [] = (n.toInt.natAbs, 0) := by
    have hTake := takeUp_digits (n := n.toInt.natAbs)
      (by rw [largestDigits, Nat.one_shiftLeft]; omega)
    simp [kept, hTake, takeUp]
  have hOne : Decimal.nearest (Decimal.tens 0) = 1 := by decide
  have hNear := Decimal.nearest_le hSize
  have hBeyond : 2 * UInt64.size < beyondDoubles := by decide +kernel
  have hFinite : Decimal.nearest n.toInt.natAbs < beyondDoubles :=
    Nat.lt_of_le_of_lt hNear hBeyond
  simp [representable, hKept, finite, hOne, hFinite, maxTens]

/-! ## Nesting -/

private theorem depthItems_le {xs : List Json} {n : Nat} :
    depthItems xs ≤ n ↔ ∀ x ∈ xs, x.depth ≤ n := by
  induction xs with
  | nil => simp [depthItems]
  | cons x xs ih => rw [depthItems, Nat.max_le, ih, List.forall_mem_cons]

private theorem depthMembers_le {ms : List (Option String × Json)} {n : Nat} :
    depthMembers ms ≤ n ↔ ∀ m ∈ ms, m.2.depth ≤ n := by
  induction ms with
  | nil => simp [depthMembers]
  | cons m ms ih => rw [depthMembers, Nat.max_le, ih, List.forall_mem_cons]

private theorem depth_array_le {xs : List Json} {n : Nat} :
    (Json.array xs).depth ≤ n ↔ ∃ l, n = l + 1 ∧ ∀ x ∈ xs, x.depth ≤ l := by
  rw [depth]
  constructor
  · intro h
    obtain ⟨l, rfl⟩ := Nat.exists_eq_add_of_le' (Nat.le_of_add_left_le h)
    exact ⟨l, rfl, depthItems_le.1 (Nat.le_of_succ_le_succ h)⟩
  · rintro ⟨l, rfl, h⟩
    exact Nat.succ_le_succ (depthItems_le.2 h)

private theorem ofMembers_eq (ms : List (String × Json)) :
    ofMembers ms = .object (ms.map fun m => (some m.1, m.2)) := rfl

theorem depth_ofMembers_le {ms : List (String × Json)} {n : Nat} :
    (ofMembers ms).depth ≤ n ↔ ∃ l, n = l + 1 ∧ ∀ m ∈ ms, m.2.depth ≤ l := by
  have hMembers (l : Nat) : depthMembers (ms.map fun m => (some m.1, m.2)) ≤ l ↔
      ∀ m ∈ ms, m.2.depth ≤ l := by
    rw [depthMembers_le, List.forall_mem_map]
  rw [ofMembers_eq, depth]
  constructor
  · intro h
    obtain ⟨l, rfl⟩ := Nat.exists_eq_add_of_le' (Nat.le_of_add_left_le h)
    exact ⟨l, rfl, (hMembers l).1 (Nat.le_of_succ_le_succ h)⟩
  · rintro ⟨l, rfl, h⟩
    exact Nat.succ_le_succ ((hMembers l).2 h)

/-! ## Records -/

/-- An object with some of the fields, in their order, is read as a record. -/
theorem record?_ofMembers {names : List String} {ms : List (String × Json)}
    (hNames : names.Nodup) (h : (ms.map (·.1)).Sublist names) :
    (ofMembers ms).record? names = some ⟨false, ms⟩ := by
  have hKnown : known names (ms.map fun m => (some m.1, m.2)) = ms := by
    rw [known, List.filterMap_map]
    have hAll : ∀ m ∈ ms, m.1 ∈ names := fun m hm =>
      h.mem (List.mem_map_of_mem hm)
    clear h
    induction ms with
    | nil => rfl
    | cons m ms ih =>
        have hFirst := hAll m List.mem_cons_self
        have hRest := ih fun m hm => hAll m (List.mem_cons_of_mem _ hm)
        rw [List.filterMap_cons, hRest, Function.comp_apply]
        simp only [if_pos hFirst]
  have hKeys : (ms.map fun m => (some m.1, m.2)).all (·.1.isSome) = true := by
    simp
  rw [ofMembers_eq, record?, mapping?, hKnown, if_pos ⟨hKeys, hNames.sublist h⟩]
  intro xs hArray
  cases hArray

/-- A field with a default has it, or it was read. -/
theorem Record.withDefault_cases {α : Type} {r : Record} {name : String}
    {default a : α} {read : Json → Option α}
    (h : r.withDefault name default read = some a) :
    a = default ∨ ∃ v, read v = some a := by
  unfold withDefault at h
  split at h
  · exact .inr ⟨_, h⟩
  · cases h
    exact .inl rfl

/-- Each item of a list that was read was read. -/
theorem of_list? {α : Type} {read : Json → Option α} {j : Json} {as : List α}
    (h : j.list? read = some as) : ∀ a ∈ as, ∃ x, read x = some a := by
  cases j with
  | array xs =>
      replace h : xs.mapM read = some as := h
      induction xs generalizing as with
      | nil =>
          cases h
          exact List.forall_mem_nil _
      | cons x xs ih =>
          simp only [List.mapM_cons, Option.bind_eq_bind,
            Option.bind_eq_some_iff] at h
          obtain ⟨a, hFirst, rest, hRest, hAll⟩ := h
          cases hAll
          exact List.forall_mem_cons.2 ⟨⟨x, hFirst⟩, ih hRest⟩
  | _ => cases h

@[simp] theorem representable_ofString (s : String) :
    (ofString s).representable = true := rfl

private theorem representable_ofMembers {ms : List (String × Json)}
    (h : ∀ m ∈ ms, m.2.representable = true) :
    (ofMembers ms).representable = true := by
  have hMembers :
      representableMembers (ms.map fun m => (some m.1, m.2)) = true := by
    induction ms with
    | nil => rfl
    | cons m ms ih =>
        obtain ⟨hFirst, hRest⟩ := List.forall_mem_cons.1 h
        simp [representableMembers, hFirst, ih hRest]
  exact hMembers

@[simp] theorem plain_ofString (s : String) : Plain (ofString s) := .string s

@[simp] theorem plain_integer (n : Int) : Plain (.integer n) := .integer n

theorem plain_ofMembers {ms : List (String × Json)} (h : ∀ m ∈ ms, Plain m.2) :
    Plain (ofMembers ms) := by
  refine .object (fun m hm => ?_) fun m hm => ?_
  · obtain ⟨m', -, rfl⟩ := List.mem_map.1 hm
    rfl
  · obtain ⟨m', hm', rfl⟩ := List.mem_map.1 hm
    exact h m' hm'

theorem plain_ofStrings (ss : List String) : Plain (ofStrings ss) := by
  refine .array fun x hx => ?_
  obtain ⟨s, -, rfl⟩ := List.mem_map.1 hx
  exact .string s

end Mailroom.Json

namespace Mailroom

/-! ## Headers and bodies -/

namespace Header

private theorem depth_toJson (h : Header) : h.toJson.depth = 1 := rfl

private theorem plain_toJson (h : Header) : h.toJson.Plain :=
  Json.plain_ofMembers (by simp)

end Header

namespace Body

private theorem depth_toJson (b : Body) : b.toJson.depth = 1 := by
  cases b <;> rfl

private theorem plain_toJson (b : Body) : b.toJson.Plain := by
  cases b with
  | attachment i n => exact Json.plain_ofMembers (by simp)
  | carried d n => exact Json.plain_ofMembers (by simp)
  | absent n => exact Json.plain_ofMembers (by simp)

/-- A body is one of the three only if it is neither of those before. -/
theorem read_toJson (b : Body) :
    (attachment? b.toJson <|> carried? b.toJson <|> absent? b.toJson) = some b := by
  have hSize (n : Int64) := Json.int64?_toInt n
  cases b with
  | attachment i n =>
      have hRead : attachment? (toJson (.attachment i n)) =
          (Json.integer n.toInt).int64?.bind fun n => some (.attachment i n) := rfl
      rw [hRead, hSize]
      rfl
  | carried d n =>
      have hFirst : attachment? (toJson (.carried d n)) = none := rfl
      have hRead : carried? (toJson (.carried d n)) =
          (Json.integer n.toInt).int64?.bind fun n => some (.carried d n) := rfl
      rw [hFirst, hRead, hSize]
      rfl
  | absent n =>
      have hFirst : attachment? (toJson (.absent n)) = none := rfl
      have hSecond : carried? (toJson (.absent n)) = none := rfl
      have hRead : absent? (toJson (.absent n)) =
          (Json.integer n.toInt).int64?.bind fun n => some (.absent n) := rfl
      rw [hFirst, hSecond, hRead, hSize]
      rfl

private theorem representable_toJson (b : Body) : b.toJson.representable = true := by
  cases b with
  | attachment i n => exact Json.representable_ofMembers (by simp)
  | carried d n => exact Json.representable_ofMembers (by simp)
  | absent n => exact Json.representable_ofMembers (by simp)

/-- A body is read from what is written of it. -/
theorem ofJson?_toJson (levels : Nat) (b : Body) :
    ofJson? (levels + 1) b.toJson = some b := by
  have hKeep : b.toJson.keepable (levels + 1) = true := by
    rw [Json.keepable, b.representable_toJson, b.depth_toJson]
    simp
  rw [ofJson?, if_pos hKeep, read_toJson]

end Body

/-! ## Parts -/

namespace Part

/-- What holds of a part if it holds of the parts in it holds of all parts. -/
theorem parts_induction {motive : Part → Prop}
    (part : ∀ p : Part, (∀ q ∈ p.parts, motive q) → motive p) (p : Part) :
    motive p := by
  refine @Part.rec motive (fun ps => ∀ q ∈ ps, motive q) ?_ ?_ ?_ p
  · intro body filename headers mimeType partId parts ih
    exact part _ ih
  · exact List.forall_mem_nil _
  · intro q qs hq hqs
    exact List.forall_mem_cons.2 ⟨hq, hqs⟩

theorem listToJson_eq (ps : List Part) : listToJson ps = ps.map toJson := by
  induction ps with
  | nil => rfl
  | cons p ps ih => rw [listToJson, ih, List.map_cons]

/-- A part is what it is made of. -/
theorem eta (p : Part) :
    Part.mk p.body p.filename p.headers p.mimeType p.partId p.parts = p := by
  cases p
  rfl

/-- The members of the object of a part. -/
def members (p : Part) : List (String × Json) :=
  [("body", p.body.toJson), ("filename", .ofString p.filename)] ++
    (if p.headers.isEmpty then [] else [("headers", .array (p.headers.map Header.toJson))]) ++
    [("mimeType", .ofString p.mimeType), ("partId", .ofString p.partId)] ++
    (if p.parts.isEmpty then [] else [("parts", .array (listToJson p.parts))])

private theorem toJson_eq (p : Part) : p.toJson = .ofMembers p.members := by
  cases p
  rw [toJson]
  rfl

/-- A property of all members. -/
theorem forall_mem_members {p : Part} {P : Json → Prop} :
    (∀ m ∈ p.members, P m.2) ↔ P p.body.toJson ∧ P (.ofString p.filename) ∧
      (p.headers ≠ [] → P (.array (p.headers.map Header.toJson))) ∧
      P (.ofString p.mimeType) ∧ P (.ofString p.partId) ∧
      (p.parts ≠ [] → P (.array (p.parts.map toJson))) := by
  rw [← listToJson_eq]
  cases hHeaders : p.headers <;> cases hParts : p.parts <;>
    simp [members, hHeaders, hParts]

theorem plain_toJson (p : Part) : p.toJson.Plain := by
  induction p using parts_induction with
  | part p ih =>
      rw [toJson_eq]
      refine Json.plain_ofMembers (forall_mem_members.2 ⟨p.body.plain_toJson,
        .string _, fun _ => .array ?_, .string _, .string _, fun _ => .array ?_⟩)
      · intro x hx
        obtain ⟨h, -, rfl⟩ := List.mem_map.1 hx
        exact h.plain_toJson
      · intro x hx
        obtain ⟨q, hq, rfl⟩ := List.mem_map.1 hx
        exact ih q hq

/-- How deep a part nests depends on its headers and parts. -/
theorem depth_toJson_le {p : Part} {n : Nat} :
    p.toJson.depth ≤ n ↔ ∃ l, n = l + 1 ∧ 1 ≤ l ∧ (p.headers ≠ [] → 2 ≤ l) ∧
      (p.parts ≠ [] → ∃ k, l = k + 1 ∧ ∀ q ∈ p.parts, q.toJson.depth ≤ k) := by
  have hHeaders (l : Nat) :
      (p.headers ≠ [] → (Json.array (p.headers.map Header.toJson)).depth ≤ l) ↔
        (p.headers ≠ [] → 2 ≤ l) := by
    refine forall_congr' fun hSome => ?_
    obtain ⟨h, hh⟩ := List.exists_mem_of_ne_nil _ hSome
    rw [Json.depth_array_le]
    constructor
    · rintro ⟨k, rfl, hAll⟩
      have hFirst := hAll _ (List.mem_map_of_mem hh)
      rw [h.depth_toJson] at hFirst
      omega
    · intro hl
      obtain ⟨k, rfl⟩ := Nat.exists_eq_add_of_le' hl
      refine ⟨k + 1, rfl, fun x hx => ?_⟩
      obtain ⟨h', -, rfl⟩ := List.mem_map.1 hx
      rw [h'.depth_toJson]
      omega
  have hParts (l : Nat) :
      (p.parts ≠ [] → (Json.array (p.parts.map toJson)).depth ≤ l) ↔
        (p.parts ≠ [] → ∃ k, l = k + 1 ∧ ∀ q ∈ p.parts, q.toJson.depth ≤ k) := by
    simp only [Json.depth_array_le, List.forall_mem_map]
  have hText (s : String) (l : Nat) : (Json.ofString s).depth ≤ l := Nat.zero_le l
  rw [toJson_eq, Json.depth_ofMembers_le]
  refine exists_congr fun l => and_congr_right fun _ => ?_
  rw [forall_mem_members (P := fun j => j.depth ≤ l), p.body.depth_toJson,
    hHeaders, hParts]
  simp only [hText, true_and]

/-- The members of a part are fields, in their order. -/
private theorem keys_members (p : Part) : (p.members.map (·.1)).Sublist fields := by
  have hKeys : p.members.map (·.1) = ["body", "filename"] ++
      (if p.headers.isEmpty then [] else ["headers"]) ++ ["mimeType", "partId"] ++
      (if p.parts.isEmpty then [] else ["parts"]) := by
    unfold members
    split <;> split <;> rfl
  rw [hKeys]
  split <;> split <;> decide

private theorem lookup_members (p : Part) :
    p.members.lookup "body" = some p.body.toJson ∧
      p.members.lookup "filename" = some (.ofString p.filename) ∧
      p.members.lookup "headers" = (if p.headers.isEmpty then none
        else some (.array (p.headers.map Header.toJson))) ∧
      p.members.lookup "mimeType" = some (.ofString p.mimeType) ∧
      p.members.lookup "partId" = some (.ofString p.partId) ∧
      p.members.lookup "parts" = (if p.parts.isEmpty then none
        else some (.array (p.parts.map toJson))) := by
  rw [← listToJson_eq]
  unfold members
  split <;> split <;> exact ⟨rfl, rfl, rfl, rfl, rfl, rfl⟩

/-- Items that are read one by one. -/
theorem mapM_map {α β : Type} {f : α → β} {read : β → Option α} {xs : List α}
    (h : ∀ x ∈ xs, read (f x) = some x) : (xs.map f).mapM read = some xs := by
  induction xs with
  | nil => rfl
  | cons x xs ih =>
      obtain ⟨hFirst, hRest⟩ := List.forall_mem_cons.1 h
      rw [List.map_cons, List.mapM_cons, hFirst, ih hRest]
      rfl

/-- **A part is read from what is written of it**, if there are levels enough. -/
theorem ofJson?_toJson {p : Part} {levels : Nat} (h : p.toJson.depth ≤ levels) :
    ofJson? levels p.toJson = some p := by
  induction p using parts_induction generalizing levels with
  | part p ih =>
      obtain ⟨l, rfl, hBody, hHeaders, hParts⟩ := depth_toJson_le.1 h
      obtain ⟨l, rfl⟩ := Nat.exists_eq_add_of_le' hBody
      have hRecord := Json.record?_ofMembers (by decide) p.keys_members
      obtain ⟨hBody, hFilename, hLines, hMimeType, hPartId, hSub⟩ := p.lookup_members
      have hReadHeaders : (Json.Record.mk false p.members).withDefault "headers" []
          (Json.listWithin? Header.ofJson? (l + 1)) = some p.headers := by
        rw [Json.Record.withDefault, Json.Record.get?, hLines]
        cases hNone : p.headers.isEmpty with
        | true => rw [List.isEmpty_iff.1 hNone]; rfl
        | false =>
            have hDeep := hHeaders (by simpa using hNone)
            obtain ⟨k, rfl⟩ := Nat.exists_eq_add_of_le' (Nat.le_of_succ_le_succ hDeep)
            exact mapM_map fun line _ => line.ofJson?_toJson k
      have hReadParts : (Json.Record.mk false p.members).withDefault "parts" []
          (Json.list? (ofJson? l)) = some p.parts := by
        rw [Json.Record.withDefault, Json.Record.get?, hSub]
        cases hNone : p.parts.isEmpty with
        | true => rw [List.isEmpty_iff.1 hNone]; rfl
        | false =>
            obtain ⟨k, hk, hDeep⟩ := hParts (by simpa using hNone)
            obtain rfl : l = k := by omega
            exact mapM_map fun q hq => ih q hq (hDeep q hq)
      rw [toJson_eq, ofJson?, hRecord]
      simp only [Option.bind_eq_bind, Option.bind_some, hReadHeaders, hReadParts]
      simp only [Json.Record.withDefault, Json.Record.get?, hBody, hFilename,
        hMimeType, hPartId, Body.ofJson?_toJson, Json.ofString, Json.text?,
        Option.bind_some]
      exact congrArg some p.eta

/-- A part that was read had levels left for its headers and for its parts. -/
theorem of_ofJson? {levels : Nat} {j : Json} {p : Part}
    (h : ofJson? levels j = some p) : ∃ l, levels = l + 1 ∧
      (p.headers ≠ [] → 2 ≤ l) ∧ (p.parts ≠ [] → ∃ k, l = k + 1 ∧
        ∀ q ∈ p.parts, ∃ j, ofJson? k j = some q) := by
  cases levels with
  | zero => cases h
  | succ l =>
      refine ⟨l, rfl, ?_⟩
      simp only [ofJson?, Option.bind_eq_bind, Option.bind_eq_some_iff] at h
      obtain ⟨r, -, body, -, filename, -, headers, hHeaders, mimeType, -, partId, -,
        h⟩ := h
      cases l with
      | zero =>
          simp only [Option.bind_eq_some_iff] at h
          obtain ⟨parts, hParts, hPart⟩ := h
          cases hPart
          refine ⟨fun hSome => ?_, fun hSome => ?_⟩
          · obtain ⟨v, hRead⟩ :=
              (Json.Record.withDefault_cases hHeaders).resolve_left hSome
            cases hRead
          · obtain ⟨v, hRead⟩ :=
              (Json.Record.withDefault_cases hParts).resolve_left hSome
            cases hRead
      | succ k =>
          simp only [Option.bind_eq_some_iff] at h
          obtain ⟨parts, hParts, hPart⟩ := h
          cases hPart
          constructor
          · intro hSome
            obtain ⟨v, hRead⟩ :=
              (Json.Record.withDefault_cases hHeaders).resolve_left hSome
            obtain ⟨line, hLine⟩ := List.exists_mem_of_ne_nil _ hSome
            obtain ⟨x, hRead⟩ := Json.of_list? hRead line hLine
            cases k with
            | zero => cases hRead
            | succ k => exact Nat.le_add_left 2 k
          · intro hSome
            obtain ⟨v, hRead⟩ :=
              (Json.Record.withDefault_cases hParts).resolve_left hSome
            exact ⟨k, rfl, Json.of_list? hRead⟩

/-- **What is written nests at most one bracket deeper than what was read.** -/
theorem depth_of_ofJson? {levels : Nat} {j : Json} {p : Part}
    (h : ofJson? levels j = some p) : p.toJson.depth ≤ levels + 1 := by
  induction p using parts_induction generalizing levels j with
  | part p ih =>
      obtain ⟨l, rfl, hHeaders, hParts⟩ := of_ofJson? h
      refine depth_toJson_le.2 ⟨l + 1, rfl, Nat.le_add_left 1 l,
        fun hSome => Nat.le_succ_of_le (hHeaders hSome), fun hSome => ?_⟩
      obtain ⟨k, rfl, hRead⟩ := hParts hSome
      refine ⟨k + 1, rfl, fun q hq => ?_⟩
      obtain ⟨j', hq'⟩ := hRead q hq
      exact ih q hq hq'

end Part

/-! ## Messages -/

namespace Message

/-- The members of the object of a message. -/
def members (m : Message) : List (String × Json) :=
  [("id", .ofString m.id), ("threadId", .ofString m.threadId),
    ("historyId", .ofString m.historyId), ("internalDate", .ofString m.internalDate),
    ("labelIds", .ofStrings m.labelIds), ("payload", m.payload.toJson)] ++
    (match m.raw with
      | some raw => [("raw", .ofString raw)]
      | none => []) ++
    [("sizeEstimate", .integer m.sizeEstimate.toInt), ("snippet", .ofString m.snippet)]

theorem plain_toJson (m : Message) : m.toJson.Plain := by
  have hLabels := Json.plain_ofStrings m.labelIds
  have hPayload := m.payload.plain_toJson
  refine Json.plain_ofMembers ?_
  split
  · simp [hLabels, hPayload]
  · simp [hLabels, hPayload]

private theorem keys_members (m : Message) : (m.members.map (·.1)).Sublist fields := by
  unfold members
  split
  · exact List.Sublist.refl _
  · exact (by decide : ["id", "threadId", "historyId", "internalDate", "labelIds",
      "payload", "sizeEstimate", "snippet"].Sublist fields)

private theorem lookup_members (m : Message) :
    m.members.lookup "labelIds" = some (.ofStrings m.labelIds) ∧
      m.members.lookup "payload" = some m.payload.toJson ∧
      m.members.lookup "raw" = m.raw.map .ofString ∧
      m.members.lookup "sizeEstimate" = some (.integer m.sizeEstimate.toInt) ∧
      m.members.lookup "snippet" = some (.ofString m.snippet) := by
  unfold members
  cases m.raw with
  | none => exact ⟨rfl, rfl, rfl, rfl, rfl⟩
  | some raw => exact ⟨rfl, rfl, rfl, rfl, rfl⟩

/-- **A message is read from its text**, if its payload does not nest too deeply
below it. -/
theorem parse?_render {m : Message} (hEnvelope : m.storedEnvelope = none)
    (hDepth : m.payload.toJson.depth ≤ Json.nesting - 1) :
    parse? m.render = some m := by
  have hRecord := Json.record?_ofMembers (by decide) m.keys_members
  have hFirst : m.members.lookup "id" = some (.ofString m.id) ∧
      m.members.lookup "threadId" = some (.ofString m.threadId) ∧
      m.members.lookup "historyId" = some (.ofString m.historyId) ∧
      m.members.lookup "internalDate" = some (.ofString m.internalDate) :=
    ⟨rfl, rfl, rfl, rfl⟩
  obtain ⟨hLabels, hPayload, hRaw, hSize, hSnippet⟩ := m.lookup_members
  have hReadRaw : (Json.Record.mk false m.members).withDefault "raw" none
      (Json.nullable? Json.text?) = some m.raw := by
    rw [Json.Record.withDefault, Json.Record.get?, hRaw]
    cases m.raw <;> rfl
  have hSame : { m with storedEnvelope := none } = m := by rw [← hEnvelope]
  have hRead : ofJson? (.ofMembers m.members) =
      some { m with storedEnvelope := none } := by
    rw [ofJson?, hRecord]
    simp only [Option.bind_eq_bind, Option.bind_some, hReadRaw]
    simp only [Json.Record.withDefault, Json.Record.required, Json.Record.get?,
      hFirst, hLabels, hPayload, hSize, hSnippet, Json.list?_ofStrings,
      Part.ofJson?_toJson hDepth, Json.int64?_toInt, Json.ofString, Json.text?,
      Option.bind_some]
    rfl
  rw [parse?, render, Json.parse?_render m.plain_toJson]
  exact hRead.trans (congrArg some hSame)

/-- **The parts of a message that was read** can be written and read again one by
one, and the message has no envelope of its own. -/
theorem depth_of_parse {text : String} {m : Message} (h : parse? text = some m) :
    m.storedEnvelope = none ∧
      ∀ p ∈ m.payload.parts, p.toJson.depth ≤ Json.nesting - 1 := by
  obtain ⟨j, -, hRead⟩ := Option.bind_eq_some_iff.1 h
  simp only [ofJson?, Option.bind_eq_bind, Option.bind_eq_some_iff] at hRead
  obtain ⟨r, -, id, -, threadId, -, historyId, -, internalDate, -, labelIds, -,
    payload, hPayload, raw, -, sizeEstimate, -, snippet, -, hMessage⟩ := hRead
  cases hMessage
  refine ⟨rfl, fun p hp => ?_⟩
  rcases Json.Record.withDefault_cases hPayload with rfl | ⟨v, hPart⟩
  · cases hp
  · obtain ⟨l, hLevels, -, hParts⟩ := Part.of_ofJson? hPart
    obtain ⟨k, rfl, hRead⟩ := hParts (List.ne_nil_of_mem hp)
    obtain ⟨j', hp'⟩ := hRead p hp
    have hDepth := Part.depth_of_ofJson? hp'
    rw [Json.nesting] at hLevels ⊢
    omega

end Message

end Mailroom
