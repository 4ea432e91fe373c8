import Mailroom.Proofs.Message.RoundTrip
import Mailroom.Proofs.Store.OrderedMap

/-!
# A stored message is read back

The row of a message has nineteen values, and reading the row gives the message
back, except that its payload has no headers and that it carries its envelope.
Texts, numbers and missing values are what they were; labels and parts are
written as JSON and read again, and a part that was read once can be read again.

A message read back has the row that it was read from: whatever the headers were
used for is in the envelope.
-/

namespace Mailroom

/-- The message that its row tells of. -/
def Message.asStored (m : Message) : Message :=
  { m with
    payload := { m.payload with headers := [] }
    storedEnvelope := some m.envelope }

namespace Store

open Sql (Value)

/-! ## Lists in a row -/

/-- A list that was written in a column is read from it. -/
theorem list_of_render {α : Type} {m : Message} {c : Column} {j : Json}
    (hPlain : j.Plain) (hValue : Row.valueOf m c = .text j.render)
    {read : Json → Option (List α)} {xs : List α} (hRead : read j = some xs) :
    (Row.encode m).list c read = .ok xs := by
  simp only [Row.list, get_encode, hValue, Row.text?, Json.parse?_render hPlain,
    Option.bind_some, hRead]

theorem list_labelIds (m : Message) :
    (Row.encode m).list .labelIds (Json.list? Json.text?) = .ok m.labelIds :=
  list_of_render (Json.plain_ofStrings m.labelIds) rfl
    (Json.list?_ofStrings m.labelIds)

/-- Parts that do not nest too deeply are read from the list that is written of
them. -/
theorem partList?_listToJson {ps : List Part}
    (h : ∀ p ∈ ps, p.toJson.depth ≤ Json.nesting - 1) :
    Row.partList? (.array (Part.listToJson ps)) = some ps := by
  have hRead : (ps.map Part.toJson).mapM (Part.ofJson? (Json.nesting - 1)) =
      some ps := Part.mapM_map fun p hp => Part.ofJson?_toJson (h p hp)
  rw [Part.listToJson_eq]
  show (((ps.map Part.toJson).mapM (Part.ofJson? (Json.nesting - 1))).map
    some).map (·.getD []) = some ps
  rw [hRead]
  rfl

private theorem list_parts {m : Message}
    (h : ∀ p ∈ m.payload.parts, p.toJson.depth ≤ Json.nesting - 1) :
    (Row.encode m).list .parts Row.partList? = .ok m.payload.parts := by
  refine list_of_render (.array fun x hx => ?_) rfl (partList?_listToJson h)
  rw [Part.listToJson_eq] at hx
  obtain ⟨p, -, rfl⟩ := List.mem_map.1 hx
  exact p.plain_toJson

/-! ## Rows -/

private theorem text?_optionalText (s : Option String) :
    Row.text? (Row.optionalText s) = s := by
  cases s <;> rfl

/-- **Reading the row of a message** gives the message that its row tells of. -/
theorem decode_encode {m : Message}
    (h : ∀ p ∈ m.payload.parts, p.toJson.depth ≤ Json.nesting - 1) :
    (Row.encode m).decode = .ok m.asStored := by
  have hWidth : ¬(Row.encode m).length ≠ Column.all.length := not_not_intro rfl
  have hText (s : String) : Row.text? (.text s) = some s := rfl
  rw [Row.decode, if_neg hWidth, list_labelIds, list_parts h]
  simp only [bind, Except.bind, Row.textOf, get_encode, Row.valueOf,
    text?_optionalText, hText, Row.integer?, Option.getD_some,
    Body.ofParts_parts]
  rfl

/-- **Writing it again** gives the same row. -/
theorem encode_asStored (m : Message) : Row.encode m.asStored = Row.encode m := by
  have hEnvelope : m.asStored.envelope = m.envelope :=
    Message.envelope_of_stored rfl
  refine List.map_congr_left fun c _ => ?_
  cases c with
  | sender | recipient | subject => rw [Row.valueOf, hEnvelope, Row.valueOf]
  | _ => rfl

/-- **A stored message is read back.** A message that was read from a text is
added to any store without its id. The last row of all is then the row of the
message, each of its nineteen values as it was made; reading that row gives the
message as it is stored, and writing that gives the row. -/
theorem insert_reads_back {text : String} {m : Message} {s : Store} {t : Tables}
    (hParse : Message.parse? text = some m) (hTables : s.tables = some t)
    (hWidth : ∀ row ∈ t.rows, row.length = Column.all.length)
    (hNew : ∀ row ∈ t.rows, row.hasId m.id = false) (now : Int) :
    ∃ s', s.insert m = .ok s' ∧ s.query selectAll [] now = .ok t.rows ∧
      s'.query selectAll [] now = .ok (t.rows ++ [Row.encode m]) ∧
      (Row.encode m).length = 19 ∧ (Row.encode m).decode = .ok m.asStored ∧
      Row.encode m.asStored = Row.encode m := by
  obtain ⟨-, hDepth⟩ := Message.depth_of_parse hParse
  have hInsert : s.insert m =
      .ok ⟨some ⟨t.rows ++ [Row.encode m], t.headers ++ headerRows m⟩⟩ := by
    have hFree : ¬t.rows.any (·.hasId m.id) = true := by
      rw [List.any_eq_true]
      rintro ⟨row, hRow, hId⟩
      rw [hNew row hRow] at hId
      cases hId
    simp only [Store.insert, getTables, hTables, bind, Except.bind, Tables.insert,
      if_neg hFree, stored_encode]
    rfl
  have hWidth' : ∀ row ∈ t.rows ++ [Row.encode m],
      row.length = Column.all.length := by
    intro row hRow
    rcases List.mem_append.1 hRow with hRow | hRow
    · exact hWidth row hRow
    · rw [List.mem_singleton.1 hRow]
      rfl
  exact ⟨_, hInsert, query_selectAll hTables hWidth now,
    query_selectAll rfl hWidth' now, Row.length_encode m, decode_encode hDepth,
    encode_asStored m⟩

/-- A message with a header and a part, as it would be read from a text. -/
def letter : Message where
  id := "m1"
  threadId := "t1"
  historyId := "1001"
  internalDate := "1703289600000"
  labelIds := ["INBOX", "Label_6"]
  payload := ⟨.absent 0, "", [⟨"From", "Ann <ann@example.com>"⟩], "multipart/mixed",
    "", [⟨.carried "aGk" 2, "", [⟨"X-Note", "1"⟩], "text/plain", "0", []⟩]⟩
  raw := none
  sizeEstimate := 20
  snippet := "hi"
  storedEnvelope := none

/-- It is stored behind another message. -/
theorem insert_reads_back_letter :
    let other := bareMessage "m0" "0" []
    Message.parse? letter.render = some letter ∧
      ∃ s', (ofMessages [other]).insert letter = .ok s' ∧
        s'.query selectAll [] 0 = .ok [Row.encode other, Row.encode letter] ∧
        (Row.encode letter).decode = .ok letter.asStored := by
  intro other
  have hParse : Message.parse? letter.render = some letter :=
    Message.parse?_render rfl (by decide)
  have hWidth : ∀ row ∈ (Tables.ofMessages [other]).rows,
      row.length = Column.all.length := by
    intro row hRow
    rw [List.mem_singleton.1 hRow]
    rfl
  obtain ⟨s', hInsert, -, hSelect, -, hDecode, -⟩ :=
    insert_reads_back (s := ofMessages [other]) hParse rfl hWidth (by decide) 0
  exact ⟨hParse, s', hInsert, hSelect, hDecode⟩

end Store

end Mailroom
