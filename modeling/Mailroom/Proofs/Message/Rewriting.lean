import Mailroom.Proofs.Message.RoundTrip

/-!
# A message that was read can be written and read again

Writing a part gives it a body object, also where the text it was read from had
none, and one bracket more can be one too many. It never is, because brackets
are spent in pairs: a part is an object in an array, and the payload of a message
starts with an even number of levels, 126. So the innermost part that can be
read has two of them left, of which it needs one itself, and the other one is
enough for its body. Headers need two below the part, and where they have been
read there were two.
-/

namespace Mailroom

namespace Part

/-- **With an even number of levels, a part that was read can be read again.** -/
theorem depth_le_of_even {n : Nat} {j : Json} {p : Part}
    (h : ofJson? (2 * n) j = some p) : p.toJson.depth ≤ 2 * n := by
  induction p using parts_induction generalizing n j with
  | part p ih =>
      obtain ⟨l, hLevels, hHeaders, hParts⟩ := of_ofJson? h
      obtain ⟨n, rfl⟩ : ∃ k, n = k + 1 := ⟨n - 1, by omega⟩
      obtain rfl : l = 2 * n + 1 := by omega
      refine depth_toJson_le.2 ⟨2 * n + 1, rfl, Nat.le_add_left 1 _, hHeaders, ?_⟩
      intro hSome
      obtain ⟨k, hBelow, hRead⟩ := hParts hSome
      obtain rfl : k = 2 * n := by omega
      refine ⟨2 * n, rfl, ?_⟩
      intro q hq
      obtain ⟨j', hq'⟩ := hRead q hq
      exact ih q hq hq'

end Part

namespace Message

/-- How deep a message nests depends on its payload. -/
theorem depth_toJson_le {m : Message} {n : Nat}
    (h : m.payload.toJson.depth ≤ n + 1) : m.toJson.depth ≤ n + 2 := by
  have hText (s : String) : (Json.ofString s).depth ≤ n + 1 := Nat.zero_le _
  have hLabels : (Json.ofStrings m.labelIds).depth ≤ n + 1 := by
    rw [Json.depth_ofStrings]
    exact Nat.le_add_left 1 n
  have hSize : (Json.integer m.sizeEstimate.toInt).depth ≤ n + 1 := Nat.zero_le _
  show (Json.ofMembers m.members).depth ≤ n + 2
  refine Json.depth_ofMembers_le.2 ⟨n + 1, rfl, ?_⟩
  unfold members
  cases m.raw with
  | none => simp [hText, hLabels, hSize, h]
  | some raw => simp [hText, hLabels, hSize, h]

/-- The payload of a message that was read can be read again, and the message has
no envelope of its own. -/
theorem payload_of_parse {text : String} {m : Message} (h : parse? text = some m) :
    m.storedEnvelope = none ∧ m.payload.toJson.depth ≤ Json.nesting - 1 := by
  obtain ⟨j, -, hRead⟩ := Option.bind_eq_some_iff.1 h
  simp only [ofJson?, Option.bind_eq_bind, Option.bind_eq_some_iff] at hRead
  obtain ⟨r, -, id, -, threadId, -, historyId, -, internalDate, -, labelIds, -,
    payload, hPayload, raw, -, sizeEstimate, -, snippet, -, hMessage⟩ := hRead
  cases hMessage
  refine ⟨rfl, ?_⟩
  have hEven : Json.nesting - 1 = 2 * 63 := rfl
  rw [hEven] at hPayload ⊢
  rcases Json.Record.withDefault_cases hPayload with hBlank | ⟨v, hPart⟩
  · have hDepth : Part.blank.toJson.depth ≤ 2 * 63 := by decide
    rwa [← hBlank] at hDepth
  · exact Part.depth_le_of_even hPart

/-- **A message that was read is read again** from what is written of it, and
writing that one gives the same text. All bodies are of the kind they were, since
all of the message is what it was, and the text nests no deeper than what may be
read, although parts have bodies in it that had none before. -/
theorem rewrite_of_parse {text : String} {m : Message} (h : parse? text = some m) :
    parse? m.render = some m ∧
      (∀ again, parse? m.render = some again → again.render = m.render) ∧
      ∃ j, Json.parse? m.render = some j ∧ j.depth ≤ Json.nesting := by
  obtain ⟨hEnvelope, hDepth⟩ := payload_of_parse h
  have hRead : parse? m.render = some m := parse?_render hEnvelope hDepth
  refine ⟨hRead, ?_, m.toJson, Json.parse?_render m.plain_toJson, ?_⟩
  · intro again hAgain
    rw [hRead] at hAgain
    cases hAgain
    rfl
  · exact depth_toJson_le hDepth

/-! ## A message at the limit -/

/-- A part of which nothing is known in this many others. -/
def nest : Nat → Part
  | 0 => Part.blank
  | n + 1 => { Part.blank with parts := [nest n] }

/-- The same parts, written without what is not known; the innermost one is an
array of its fields, of which there are none. -/
def bareNest : Nat → Json
  | 0 => .array []
  | n + 1 => .ofMembers [("parts", .array [bareNest n])]

theorem plain_bareNest (n : Nat) : (bareNest n).Plain := by
  induction n with
  | zero => exact .array (by simp)
  | succ n ih =>
      refine Json.plain_ofMembers ?_
      intro m hm
      rw [List.mem_singleton.1 hm]
      exact .array (by simpa using ih)

/-- Each part takes two levels. -/
theorem ofJson?_bareNest (n : Nat) :
    Part.ofJson? (2 * (n + 1)) (bareNest n) = some (nest n) := by
  induction n with
  | zero => rfl
  | succ n ih =>
      have hItem : (Json.array [bareNest n]).list? (Part.ofJson? (2 * (n + 1))) =
          some [nest n] := by
        simp [Json.list?, ih]
      have hRecord : (bareNest (n + 1)).record? Part.fields =
          some ⟨false, [("parts", .array [bareNest n])]⟩ :=
        Json.record?_ofMembers (by decide) (by simp [Part.fields])
      have hLevels : 2 * (n + 1 + 1) = 2 * (n + 1) + 1 + 1 := by omega
      rw [hLevels, Part.ofJson?, hRecord]
      simp [Json.Record.withDefault, Json.Record.get?, List.lookup_cons, hItem, nest,
        Part.blank]

/-- Written, each part takes two levels too, and the innermost one its body. -/
theorem depth_nest_le {n k : Nat} : (nest n).toJson.depth ≤ k ↔ 2 * (n + 1) ≤ k := by
  induction n generalizing k with
  | zero =>
      rw [Part.depth_toJson_le]
      constructor
      · rintro ⟨l, rfl, hBody, -⟩
        exact Nat.succ_le_succ hBody
      · intro h
        refine ⟨k - 1, by omega, by omega, ?_, ?_⟩
        · exact fun hSome => absurd rfl hSome
        · exact fun hSome => absurd rfl hSome
  | succ n ih =>
      have hSome : (nest (n + 1)).parts ≠ [] := List.cons_ne_nil _ _
      rw [Part.depth_toJson_le]
      constructor
      · rintro ⟨l, rfl, -, -, hParts⟩
        obtain ⟨k, rfl, hAll⟩ := hParts hSome
        have hDeep := ih.1 (hAll (nest n) List.mem_cons_self)
        omega
      · intro h
        refine ⟨k - 1, by omega, by omega, ?_, ?_⟩
        · exact fun hSome => absurd rfl hSome
        · intro _
          refine ⟨k - 2, by omega, ?_⟩
          intro q hq
          rw [List.mem_singleton.1 hq]
          exact ih.2 (by omega)

/-- A message with as many parts, one in the other, as can be read. -/
def deepMessage : Message :=
  ⟨"m", "", "", "", [], nest 62, none, 0, "", none⟩

/-- A text of it without bodies. -/
def deepText : String :=
  (Json.ofMembers [("payload", bareNest 62), ("id", .ofString "m")]).render

private theorem parse?_deepText : parse? deepText = some deepMessage := by
  have hPlain : (Json.ofMembers [("payload", bareNest 62), ("id", .ofString "m")]).Plain :=
    Json.plain_ofMembers (by simp [plain_bareNest])
  have hRecord : (Json.ofMembers [("payload", bareNest 62), ("id", .ofString "m")]).record?
      fields = some ⟨false, [("payload", bareNest 62), ("id", .ofString "m")]⟩ := by
    rfl
  have hPayload : Part.ofJson? (Json.nesting - 1) (bareNest 62) = some (nest 62) :=
    ofJson?_bareNest 62
  rw [parse?, deepText, Json.parse?_render hPlain, Option.bind_some, ofJson?, hRecord]
  simp [Json.Record.withDefault, Json.Record.required, Json.Record.get?, List.lookup_cons,
    hPayload, deepMessage, Json.ofString, Json.text?]

/-- What is written of it nests as deep as it may. -/
theorem rewrite_of_parse_deep :
    parse? deepText = some deepMessage ∧ parse? deepMessage.render = some deepMessage ∧
      deepMessage.payload.toJson.depth = Json.nesting - 1 ∧
      ∃ j, Json.parse? deepMessage.render = some j ∧ j.depth ≤ Json.nesting := by
  obtain ⟨hAgain, -, hText⟩ := rewrite_of_parse parse?_deepText
  have hDepth : deepMessage.payload.toJson.depth = Json.nesting - 1 :=
    Nat.le_antisymm (depth_nest_le (n := 62).2 (Nat.le_refl _))
      (depth_nest_le (n := 62).1 (Nat.le_refl _))
  exact ⟨parse?_deepText, hAgain, hDepth, hText⟩

end Message

end Mailroom
