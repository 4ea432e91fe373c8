import Mailroom.Proofs.Rule.QueryText
import Mailroom.Proofs.Rule.Repetition
import Mailroom.Proofs.Rule.Validity
import Mailroom.Proofs.Store.ReadBack

/-!
# Rules about different messages

Two rules that select different messages can be applied in either order. What
the first one does does not reach the query of the second. It changes labels,
and the second looks at no labels, if it has no filter about sent messages; and
it moves rows to the end, but only rows that the second does not select, so the
second meets its own rows in the order in which they were. The changes then are
made to different messages, on both sides.

Each rule has its report before either has been applied: how many messages it
selects, and how many actions that makes.
-/

namespace Mailroom.Rule

open Mailroom.Mailbox (provider SameAccount)
open Mailroom.Session (Ends)
open Mailroom.Store (Row Column Tables headerRows)
open Mailroom.Sql (Condition)

/-! ## Filters that ask nothing of the labels -/

/-- The filter asks nothing of the labels. -/
def Filter.Unlabelled : Filter → Prop
  | text column _ _ => column ≠ .labelIds
  | date sentOnly _ _ => sentOnly = false

private theorem unlabelled_of_parse {t : FilterText} {f : Filter}
    (h : Filter.parse t = .ok f) (hField : t.field ≠ "date_sent") :
    f.Unlabelled := by
  have hSound := sound_of_parse h
  cases reads_of_parse h with
  | text field operator => exact hSound
  | date field operator =>
      unfold Field.ofName? at field
      split at field
      all_goals cases field
      · rfl
      · exact absurd ‹_› hField

private theorem unlabelled_of_map_parse {ts : List FilterText} {filters : List Filter}
    (h : ts.map Filter.parse = filters.map .ok)
    (hFields : ∀ t ∈ ts, t.field ≠ "date_sent") :
    ∀ f ∈ filters, f.Unlabelled := by
  intro f hf
  obtain ⟨t, ht, hParse⟩ := exists_of_map h hf
  exact unlabelled_of_parse hParse (hFields t ht)

section Same

variable {m m' : Message}
  (hSame : ∀ c, c ≠ Column.labelIds → Row.valueOf m' c = Row.valueOf m c)
  (arguments : List String) (now : Int) (k : Nat)
include hSame

private theorem eval_filter_same {f : Filter} (hf : f.Unlabelled) :
    (f.condition k).eval ((Row.encode m').scope arguments now) =
      (f.condition k).eval ((Row.encode m).scope arguments now) := by
  cases f with
  | text c o value => exact eval_text_same hSame hf o value
  | date sentOnly o v =>
      have hDate := hSame .internalDate (by decide)
      cases hf
      cases v with
      | relative duration =>
          simp only [Filter.condition, DateValue.operand, Bool.false_eq_true,
            if_false, Condition.eval, Sql.Operand.value, scope_column,
            Store.get_encode, hDate]
          rfl
      | absolute moment =>
          simp only [Filter.condition, DateValue.operand, Bool.false_eq_true,
            if_false, Condition.eval, Sql.Operand.value, scope_column,
            Store.get_encode, hDate]
          rfl

private theorem eval_joined_same (mode : MatchMode) {filters : List Filter}
    (hFilters : ∀ f ∈ filters, f.Unlabelled) {c : Condition}
    (hc : c.eval ((Row.encode m').scope arguments now) =
      c.eval ((Row.encode m).scope arguments now)) :
    (joined mode k c filters).eval ((Row.encode m').scope arguments now) =
      (joined mode k c filters).eval ((Row.encode m).scope arguments now) := by
  induction filters generalizing k c with
  | nil => exact hc
  | cons f fs ih =>
      obtain ⟨hFirst, hRest⟩ := List.forall_mem_cons.1 hFilters
      refine ih (k + 1) hRest ?_
      have hNext := eval_filter_same hSame arguments now k hFirst
      cases mode with
      | all => simp only [MatchMode.connect, Condition.eval, hc, hNext]
      | any => simp only [MatchMode.connect, Condition.eval, hc, hNext]

/-- **What a query says of a row** is not changed by the labels, if no filter
asks for one. -/
theorem selection_same (mode : MatchMode) {filters : List Filter}
    (hFilters : ∀ f ∈ filters, f.Unlabelled) :
    mode.selection filters now (Row.encode m') =
      mode.selection filters now (Row.encode m) := by
  cases filters with
  | nil => rfl
  | cons f fs =>
      obtain ⟨hFirst, hRest⟩ := List.forall_mem_cons.1 hFilters
      have hAll := eval_joined_same hSame ((f :: fs).map Filter.argument) now 1
        mode hRest (eval_filter_same hSame _ now 0 hFirst)
      show Row.satisfies _ _ _ _ = Row.satisfies _ _ _ _
      simp only [Row.satisfies, hAll]

private theorem chosen_same (mode : MatchMode) {filters : List Filter}
    (hFilters : ∀ f ∈ filters, f.Unlabelled) :
    mode.chosen filters now (Row.encode m') =
      mode.chosen filters now (Row.encode m) := by
  have hSelection := selection_same hSame now mode hFilters
  unfold MatchMode.selection at hSelection
  unfold MatchMode.chosen Row.chosen
  rw [hSelection]

end Same

/-! ## What is known of the rules -/

/-- A rule that an account can carry out: it is valid, asks nothing of sent
messages, is within the limits of the store, and moves messages only to labels
that there are. -/
structure Admitted (b : Mailbox) (rule : Rule) : Prop where
  valid : rule.validate = .ok ()
  unlabelled : ∀ f ∈ rule.filters, f.field ≠ "date_sent"
  limits : ∀ query, rule.compile = .ok query → WithinLimits rule query
  labels : ∀ a ∈ rule.actions, ∀ label, Action.parse a = .ok (.move label) →
    ∃ id, b.labels.lookup label = some id

/-- Without failures, actions go through on any message. -/
theorem Admitted.goes {b : Mailbox} {rule : Rule} (h : Admitted b rule)
    (hFailures : b.failures = []) {actions : List Action}
    (hActions : Action.parseAll rule.actions = .ok actions) (id : String) :
    ∀ action ∈ actions, Goes b id action := by
  intro action ha
  refine ⟨?_, Mailbox.failure?_of_nil hFailures _ _, Mailbox.failure?_of_nil hFailures _ _⟩
  obtain ⟨a, hMem, hParse⟩ := exists_of_map (map_of_mapM hActions) ha
  have hChange : ∃ change b', action.labelChange provider b = (.ok change, b') := by
    cases action with
    | move label =>
        obtain ⟨labelId, hLookup⟩ := h.labels a hMem label hParse
        have hResolve : provider.resolve label b = (.ok (some labelId), b) := by
          simp [provider, Mailbox.call, Mailbox.failure?_of_nil hFailures, hLookup]
        exact ⟨_, b, Call.bind_of_ok hResolve⟩
    | markRead => exact ⟨_, b, rfl⟩
    | markUnread => exact ⟨_, b, rfl⟩
  obtain ⟨change, b', hCall⟩ := hChange
  obtain ⟨rfl, rfl⟩ := Mailbox.labelChange_eq_ok hCall
  exact hCall

/-- A row of a message that was read from a text can be read. -/
theorem Reflects.reads {b : Mailbox} {m : Message} (h : Reflects b m)
    (hParsed : ∀ p ∈ b.messages, ∃ text, Message.parse? text = some p.2) :
    ∃ x, (Row.encode m).decode = .ok x := by
  obtain ⟨x, hFind, hRow⟩ := h
  obtain ⟨before, after, hMessages, -⟩ := List.lookup_eq_some_iff.1 hFind
  obtain ⟨text, hText⟩ := hParsed (m.id, x) (by simp [hMessages])
  rw [hRow]
  exact ⟨_, Store.decode_encode (Message.depth_of_parse hText).2⟩

/-- **A rule that the account can carry out** goes through. -/
theorem Admitted.applies {w : World Mailbox} {rule : Rule} {ms : List Message}
    (h : Admitted w.remote rule) (hFailures : w.remote.failures = [])
    (hHolds : w.store.Holds ms) (hReads : ∀ m ∈ ms, ∃ x, (Row.encode m).decode = .ok x) :
    ∃ actions sel, sel.Sublist ms ∧ Applies rule w actions sel := by
  obtain ⟨-, ⟨query, hCompile⟩, actions, hActions⟩ := validate_eq_ok_iff.1 h.valid
  have hLimits := h.limits query hCompile
  obtain ⟨mode, filters, -, hFilters, rfl⟩ := compile_eq_ok hCompile
  have hQuery := query_queryOf hHolds.tables
    (fun _ => Tables.length_of_mem_ofMessages) (hLimits.fits hFilters)
    hLimits.depth_conditionOf w.now
  rw [Tables.ofMessages, List.filter_map] at hQuery
  exact ⟨actions, _, List.filter_sublist, hActions, ⟨_, hCompile, hQuery⟩,
    fun m hm => hReads m (List.mem_filter.1 hm).1,
    fun m _ => h.goes hFailures hActions m.id⟩

/-! ## What one rule leaves -/

/-- The ids of the messages that a rule puts behind the others. -/
def moved (actions : List Action) (ids : List String) : List String :=
  if actions = [] then [] else ids

private theorem mem_of_mem_moved {actions : List Action} {ids : List String}
    {id : String} (h : id ∈ moved actions ids) : id ∈ ids := by
  unfold moved at h
  split at h
  · cases h
  · exact h

private theorem nodup_moved (actions : List Action) {ids : List String} (h : ids.Nodup) :
    (moved actions ids).Nodup := by
  unfold moved
  split
  · exact List.nodup_nil
  · exact h

private theorem left_eq_rebuilt (b : Mailbox) (actions : List Action)
    (ids : List String) (ms : List Message) :
    left b actions ids ms = rebuilt b (moved actions ids) ms := by
  unfold left moved
  split
  · rw [rebuilt_nil]
  · rfl

/-- Messages put behind the others by one rule, and then others by another. -/
theorem left_left {b b' : Mailbox} {ids ids' : List String}
    (hDisjoint : ∀ id ∈ ids, id ∉ ids') (hFound : ∀ id ∈ ids, b.Found id)
    (hSame : ∀ id ∈ ids, b'.find? id = b.find? id) (actions actions' : List Action)
    (ms : List Message) :
    left b' actions' ids' (left b actions ids ms) =
      rebuilt b' (moved actions ids ++ moved actions' ids') ms := by
  rw [left_eq_rebuilt, left_eq_rebuilt]
  refine rebuilt_append ?_ ?_ ?_ ms
  · exact fun id hId hId' => hDisjoint id (mem_of_mem_moved hId) (mem_of_mem_moved hId')
  · exact fun id hId => hFound id (mem_of_mem_moved hId)
  · exact fun id hId => hSame id (mem_of_mem_moved hId)

/-- What a rule leaves, in the world `w₁`, that goes through on the messages
`sel` of those that the store holds. -/
structure Leaves (actions : List Action) (sel ms : List Message)
    (w w₁ : World Mailbox) : Prop where
  remote : w₁.remote = w.remote.relabel (sel.map (·.id)) (changesOn w.remote actions)
  store : w₁.store.Holds (left w₁.remote actions (sel.map (·.id)) ms)
  now : w₁.now = w.now

private theorem Applies.leaves {rule : Rule} {w : World Mailbox} {actions : List Action}
    {sel ms : List Message} (h : Applies rule w actions sel) (hHolds : w.store.Holds ms)
    (hNodup : (sel.map (·.id)).Nodup) (hFound : ∀ m ∈ sel, w.remote.Found m.id) :
    ∃ w₁, rule.apply provider w = (.ok ⟨sel.length, sel.length * actions.length⟩, w₁) ∧
      Leaves actions sel ms w w₁ := by
  obtain ⟨log, hEnds⟩ := h.ends hHolds hNodup hFound
  refine ⟨_, hEnds, rfl, ?_, rfl⟩
  rw [left_eq_rebuilt]
  refine holds_rebuilt hHolds (nodup_moved actions hNodup) fun id hId => ?_
  obtain ⟨m, hm, rfl⟩ := List.mem_map.1 (mem_of_mem_moved hId)
  exact (hFound m hm).relabel _ _

private theorem Leaves.found {actions : List Action} {sel ms : List Message}
    {w w₁ : World Mailbox} (h : Leaves actions sel ms w w₁) {id : String}
    (hFound : w.remote.Found id) : w₁.remote.Found id := by
  rw [h.remote]
  exact hFound.relabel _ _

/-! ## A rule after another -/

section

variable {rule rule' : Rule} {w w₁ : World Mailbox} {ms sel sel' : List Message}
  {actions actions' : List Action}

/-- What is selected is not among the messages that are put behind the others,
so it is met as before. -/
theorem filter_untouched (hHolds : w.store.Holds ms) (hSub' : sel'.Sublist ms)
    {p : Row → Bool} (hSelected : sel'.map Row.encode = (ms.map Row.encode).filter p)
    {ids : List String} (hDisjoint : ∀ id ∈ ids, id ∉ sel'.map (·.id)) :
    ((ms.filter (·.id ∉ ids)).map Row.encode).filter p = sel'.map Row.encode := by
  rw [hSelected, List.filter_map, List.filter_map, List.filter_filter]
  refine congrArg _ (List.filter_congr fun m hm => ?_)
  cases hIs : p (Row.encode m) with
  | false => simp [hIs]
  | true =>
      have hOwn := (chosen_iff_mem hHolds hSub' hSelected hm).1 hIs
      have hNot : m.id ∉ ids := fun hId => hDisjoint m.id hId hOwn
      simp [hIs, hNot]

/-- The query of a rule gives the same rows after another rule has been applied
to other messages. -/
theorem query_unaffected {query : Query} (hCompile : rule'.compile = .ok query)
    (hFields : ∀ f ∈ rule'.filters, f.field ≠ "date_sent")
    (hHolds : w.store.Holds ms) (hSub : sel.Sublist ms) (hSub' : sel'.Sublist ms)
    (hReflects : ∀ m ∈ sel, Reflects w.remote m)
    (hDisjoint : ∀ id ∈ sel.map (·.id), id ∉ sel'.map (·.id))
    (hQuery : w.store.query query.sql query.arguments w.now =
      .ok (sel'.map Row.encode)) {s₁ : Store}
    (hHolds₁ : s₁.Holds (rebuilt (w.remote.relabel (sel.map (·.id))
      (changesOn w.remote actions)) (sel.map (·.id)) ms)) :
    s₁.query query.sql query.arguments w.now = .ok (sel'.map Row.encode) := by
  obtain ⟨mode, filters, -, hFilters, rfl⟩ := compile_eq_ok hCompile
  have hUnlabelled := unlabelled_of_map_parse hFilters hFields
  have hSelected := selected_of_query hHolds hQuery
  have hDecides : ∀ y ∈ relabelled w.remote actions sel,
      ∃ t, mode.selection filters w.now (Row.encode y) = .ok t := by
    intro y hy
    obtain ⟨m, hm, -, hGrown⟩ := mem_relabelled hReflects hy
    rw [selection_same hGrown.same w.now mode hUnlabelled]
    exact decided_of_query hHolds hQuery (hSub.subset hm)
  have hThese : ((relabelled w.remote actions sel).map Row.encode).filter
      (mode.chosen filters w.now) = [] := by
    rw [List.filter_eq_nil_iff]
    intro row hRow hIs
    obtain ⟨y, hy, rfl⟩ := List.mem_map.1 hRow
    obtain ⟨m, hm, -, hGrown⟩ := mem_relabelled hReflects hy
    rw [chosen_same hGrown.same w.now mode hUnlabelled] at hIs
    exact hDisjoint m.id (List.mem_map_of_mem hm)
      ((chosen_iff_mem hHolds hSub' hSelected (hSub.subset hm)).1 hIs)
  have hAnswer := query_after hHolds hQuery hDecides hHolds₁
  rwa [filter_untouched hHolds hSub' hSelected hDisjoint, hThese,
    List.append_nil] at hAnswer

/-- **A rule goes through after another** as it would have gone through before,
if the two select different messages. -/
theorem Applies.unaffected (h : Applies rule' w actions' sel')
    (hFields : ∀ f ∈ rule'.filters, f.field ≠ "date_sent")
    (hHolds : w.store.Holds ms) (hSub : sel.Sublist ms) (hSub' : sel'.Sublist ms)
    (hReflects : ∀ m ∈ sel, Reflects w.remote m)
    (hDisjoint : ∀ id ∈ sel.map (·.id), id ∉ sel'.map (·.id))
    (hLeaves : Leaves actions sel ms w w₁) : Applies rule' w₁ actions' sel' where
  parsed := h.parsed
  query := by
    obtain ⟨query, hCompile, hQuery⟩ := h.query
    have hHolds₁ := hLeaves.store
    refine ⟨query, hCompile, ?_⟩
    rw [hLeaves.now]
    by_cases hNone : actions = []
    · rw [left, if_pos hNone] at hHolds₁
      rw [hHolds₁.eq_ofMessages, ← hHolds.eq_ofMessages]
      exact hQuery
    · rw [left, if_neg hNone, hLeaves.remote] at hHolds₁
      exact query_unaffected hCompile hFields hHolds hSub hSub' hReflects hDisjoint
        hQuery hHolds₁
  reads := h.reads
  goes m hm action ha := by
    rw [hLeaves.remote]
    exact (h.goes m hm action ha).congr (Mailbox.sameAccount_relabel _ _ _)

end

/-! ## Both orders -/

/-- Messages put behind the others, in this order or in that. -/
theorem perm_rebuilt (b : Mailbox) {ids ids' : List String}
    (h : ids.Perm ids') (ms : List Message) :
    (rebuilt b ids ms).Perm (rebuilt b ids' ms) := by
  have hOthers : ms.filter (·.id ∉ ids) = ms.filter (·.id ∉ ids') :=
    List.filter_congr fun m _ => by simp only [h.mem_iff]
  rw [rebuilt, rebuilt, hOthers]
  exact (h.filterMap _).append_left _

/-- Two stores have the same rows, one for an id and each with the same header
lines. The rows may come in another order. -/
def SameRows (s s' : Store) : Prop :=
  ∃ t t', s.tables = some t ∧ s'.tables = some t' ∧ t.rows.Perm t'.rows ∧
    (t.rows.Pairwise fun a b => a.get .id ≠ b.get .id) ∧
      ∀ id, t.headers.filter (·.messageId = id) =
        t'.headers.filter (·.messageId = id)

private theorem sameRows_of_perm {s s' : Store} {ms ms' : List Message}
    (h : s.Holds ms) (h' : s'.Holds ms') (hPerm : ms.Perm ms') : SameRows s s' := by
  refine ⟨_, _, h.tables, h'.tables, hPerm.map _, h.pairwise_rows, fun id => ?_⟩
  by_cases hId : ∃ m ∈ ms, m.id = id
  · obtain ⟨m, hm, rfl⟩ := hId
    exact (filter_headers h.nodup hm).trans
      (filter_headers h'.nodup (hPerm.mem_iff.1 hm)).symm
  · have hNone {ms : List Message} (hNot : ∀ m ∈ ms, m.id ≠ id) :
        (ms.flatMap headerRows).filter (·.messageId = id) = [] := by
      rw [List.filter_flatMap, List.flatMap_eq_nil_iff]
      intro m hm
      rw [List.filter_eq_nil_iff]
      intro line hLine
      obtain ⟨header, -, rfl⟩ := List.mem_map.1 hLine
      simpa using hNot m hm
    have hNot : ∀ m ∈ ms, m.id ≠ id := fun m hm heq => hId ⟨m, hm, heq⟩
    exact (hNone hNot).trans
      (hNone fun m hm => hNot m (hPerm.mem_iff.2 hm)).symm

section

variable {rule rule' : Rule} {w : World Mailbox} {ms sel sel' : List Message}
  {actions actions' : List Action}

/-- The mailbox after both rules. -/
def afterBoth (b : Mailbox) (actions actions' : List Action)
    (ids ids' : List String) : Mailbox :=
  (b.relabel ids (changesOn b actions)).relabel ids' (changesOn b actions')

/-- **What two rules leave**, one after the other: each has changed the messages
that it selects, and the rows of these are behind the others. -/
theorem Applies.both (h : Applies rule w actions sel)
    (h' : Applies rule' w actions' sel')
    (hFields : ∀ f ∈ rule'.filters, f.field ≠ "date_sent")
    (hHolds : w.store.Holds ms) (hSub : sel.Sublist ms) (hSub' : sel'.Sublist ms)
    (hReflects : ∀ m ∈ ms, Reflects w.remote m)
    (hDisjoint : ∀ id ∈ sel.map (·.id), id ∉ sel'.map (·.id)) :
    ∃ w₁ w₂,
      rule.apply provider w = (.ok ⟨sel.length, sel.length * actions.length⟩, w₁) ∧
      rule'.apply provider w₁ =
        (.ok ⟨sel'.length, sel'.length * actions'.length⟩, w₂) ∧
      w₂.remote =
        afterBoth w.remote actions actions' (sel.map (·.id)) (sel'.map (·.id)) ∧
      w₂.store.Holds (rebuilt w₂.remote
        (moved actions (sel.map (·.id)) ++ moved actions' (sel'.map (·.id))) ms) := by
  have hNodup {sel : List Message} (hSub : sel.Sublist ms) :
      (sel.map (·.id)).Nodup := hHolds.nodup.sublist (hSub.map _)
  have hFound {sel : List Message} (hSub : sel.Sublist ms) :
      ∀ m ∈ sel, w.remote.Found m.id := fun m hm => (hReflects m (hSub.subset hm)).found
  obtain ⟨w₁, hFirst, hLeaves⟩ := h.leaves hHolds (hNodup hSub) (hFound hSub)
  have hNext := h'.unaffected hFields hHolds hSub hSub'
    (fun m hm => hReflects m (hSub.subset hm)) hDisjoint hLeaves
  obtain ⟨w₂, hSecond, hLeaves'⟩ := hNext.leaves hLeaves.store (hNodup hSub')
    fun m hm => hLeaves.found (hFound hSub' m hm)
  refine ⟨w₁, w₂, hFirst, hSecond, ?_, ?_⟩
  · have hAccount : SameAccount w.remote w₁.remote := by
      rw [hLeaves.remote]
      exact Mailbox.sameAccount_relabel _ _ _
    rw [hLeaves'.remote, hAccount.changesOn, hLeaves.remote]
    rfl
  · have hFound₁ : ∀ id ∈ sel.map (·.id), w₁.remote.Found id := by
      intro id hId
      obtain ⟨m, hm, rfl⟩ := List.mem_map.1 hId
      exact hLeaves.found (hFound hSub m hm)
    have hSame : ∀ id ∈ sel.map (·.id), w₂.remote.find? id = w₁.remote.find? id := by
      intro id hId
      rw [hLeaves'.remote]
      exact Mailbox.find?_relabel_of_not_mem _ (hDisjoint id hId) _
    rw [← left_left hDisjoint hFound₁ hSame]
    exact hLeaves'.store

end

/-- **Rules about different messages commute.** From a store that follows its
mailbox, two rules that the account can carry out and that select different
messages go through in either order, each with the same report. They leave the
same mailbox, and in the store the same row for every id. -/
theorem apply_commutes (ops : List Store.Operation) {w : World Mailbox}
    (hStore : w.store = Store.fresh.ensureSchema.after ops)
    (hMirror : ∀ t ∈ w.store.tables, ∀ row ∈ t.rows,
      ∃ m, w.remote.find? m.id = some m ∧ row = Row.encode m)
    (hParsed : ∀ p ∈ w.remote.messages, ∃ text, Message.parse? text = some p.2)
    (hFailures : w.remote.failures = []) {first second : Rule}
    (hFirst : Admitted w.remote first) (hSecond : Admitted w.remote second)
    (hDisjoint : ∀ row, Matched first w.store w.now row →
      ¬Matched second w.store w.now row) :
    ∃ report report' w₁ w₁₂ w₂ w₂₁,
      first.apply provider w = (.ok report, w₁) ∧
      second.apply provider w₁ = (.ok report', w₁₂) ∧
      second.apply provider w = (.ok report', w₂) ∧
      first.apply provider w₂ = (.ok report, w₂₁) ∧
      w₁₂.remote = w₂₁.remote ∧ SameRows w₁₂.store w₂₁.store := by
  obtain ⟨ms, hHolds⟩ : ∃ ms, w.store.Holds ms := by
    obtain ⟨hMade, hNodup⟩ := Store.after_ofMessages ops
    rw [hStore, hMade]
    exact ⟨_, Store.holds_ofMessages hNodup⟩
  have hReflects : ∀ m ∈ ms, Reflects w.remote m :=
    fun m hm => reflects_of_mirror hHolds hMirror hm
  have hReads : ∀ m ∈ ms, ∃ x, (Row.encode m).decode = .ok x :=
    fun m hm => (hReflects m hm).reads hParsed
  obtain ⟨actions, sel, hSub, hApplies⟩ :=
    hFirst.applies hFailures hHolds hReads
  obtain ⟨actions', sel', hSub', hApplies'⟩ :=
    hSecond.applies hFailures hHolds hReads
  -- one message under an id, so different rows are different ids
  have hIds : ∀ id ∈ sel.map (·.id), id ∉ sel'.map (·.id) := by
    intro id hId hId'
    obtain ⟨m, hm, rfl⟩ := List.mem_map.1 hId
    obtain ⟨m', hm', hSame⟩ := List.mem_map.1 hId'
    have hOne := hHolds.eq_of_id (hSub'.subset hm') (hSub.subset hm) hSame
    subst hOne
    obtain ⟨query, hCompile, hQuery⟩ := hApplies.query
    obtain ⟨query', hCompile', hQuery'⟩ := hApplies'.query
    exact hDisjoint (Row.encode m')
      ⟨query, _, hCompile, hQuery, List.mem_map_of_mem hm⟩
      ⟨query', _, hCompile', hQuery', List.mem_map_of_mem hm'⟩
  have hIds' : ∀ id ∈ sel'.map (·.id), id ∉ sel.map (·.id) :=
    fun id hId' hId => hIds id hId hId'
  obtain ⟨w₁, w₁₂, hRun₁, hRun₁₂, hRemote₁₂, hHolds₁₂⟩ := hApplies.both hApplies'
    hSecond.unlabelled hHolds hSub hSub' hReflects hIds
  obtain ⟨w₂, w₂₁, hRun₂, hRun₂₁, hRemote₂₁, hHolds₂₁⟩ := hApplies'.both hApplies
    hFirst.unlabelled hHolds hSub' hSub hReflects hIds'
  have hRemote : w₁₂.remote = w₂₁.remote := by
    rw [hRemote₁₂, hRemote₂₁]
    exact Mailbox.relabel_comm _ hIds _ _
  rw [← hRemote] at hHolds₂₁
  exact ⟨_, _, w₁, w₁₂, w₂, w₂₁, hRun₁, hRun₁₂, hRun₂, hRun₂₁, hRemote,
    sameRows_of_perm hHolds₁₂ hHolds₂₁
      (perm_rebuilt _ List.perm_append_comm ms)⟩

/-- Letters from Ann are put away and marked read. -/
def fromAnn : Rule :=
  ⟨"from Ann", "all", [⟨"from", "contains", some "ann"⟩],
    [⟨"move", some "Receipts"⟩, ⟨"read", none⟩]⟩

/-- Letters from others stay in the inbox, to be read. -/
def fromOthers : Rule :=
  ⟨"from others", "any", [⟨"from", "ncontains", some "ann"⟩],
    [⟨"unread", none⟩, ⟨"move", some "INBOX"⟩]⟩

/-- A letter from Bob. -/
def bobsLetter : Message where
  id := "m2"
  threadId := "t2"
  historyId := "1002"
  internalDate := "1703289700000"
  labelIds := ["Label_6"]
  payload := ⟨.absent 0, "", [⟨"From", "Bob <bob@example.com>"⟩], "text/plain",
    "", []⟩
  raw := none
  sizeEstimate := 10
  snippet := "hello"
  storedEnvelope := none

/-- A store that holds a letter from Ann and one from Bob, as the mailbox does. -/
def letters : World Mailbox where
  remote := { Mailbox.empty with
    messages := [("m1", Store.letter), ("m2", bobsLetter)] }
  store := Store.ofMessages [Store.letter, bobsLetter]
  now := 0
  log := []

private theorem compile_fromAnn : fromAnn.compile =
    .ok (queryOf .all [.text .sender .contains "ann"]) := rfl

private theorem compile_fromOthers : fromOthers.compile =
    .ok (queryOf .any [.text .sender .lacks "ann"]) := rfl

/-- The account has the label that the letters from Ann go to. -/
theorem admitted_fromAnn : Admitted letters.remote fromAnn where
  valid := rfl
  unlabelled := by decide
  limits query h := by
    rw [compile_fromAnn] at h
    cases h
    refine ⟨?_, by decide +kernel⟩
    rw [condition?_queryOf]
    decide
  labels a ha label hParse := by
    simp only [fromAnn, List.mem_cons, List.not_mem_nil, or_false] at ha
    rcases ha with rfl | rfl
    · cases hParse
      exact ⟨"Label_6", rfl⟩
    · cases hParse

private theorem admitted_fromOthers : Admitted letters.remote fromOthers where
  valid := rfl
  unlabelled := by decide
  limits query h := by
    rw [compile_fromOthers] at h
    cases h
    refine ⟨?_, by decide +kernel⟩
    rw [condition?_queryOf]
    decide
  labels a ha label hParse := by
    simp only [fromOthers, List.mem_cons, List.not_mem_nil, or_false] at ha
    rcases ha with rfl | rfl
    · cases hParse
    · cases hParse
      exact ⟨"INBOX", rfl⟩

/-- What a rule with one filter on a text selects of the two letters. -/
theorem matched_letters {rule : Rule} {mode : MatchMode} {f : Filter} {row : Row}
    (hCompile : rule.compile = .ok (queryOf mode [f])) (hFits : f.Fits)
    (hDepth : ∀ c ∈ conditionOf mode [f], c.depth ≤ Condition.deepest)
    (h : Matched rule letters.store letters.now row) :
    row ∈ [Row.encode Store.letter, Row.encode bobsLetter].filter
      (mode.satisfied [f] 0) := by
  obtain ⟨query, rows, hQuery, hRun, hMem⟩ := h
  rw [hCompile] at hQuery
  cases hQuery
  have hRows := query_queryOf (s := letters.store) rfl
    (fun _ => Tables.length_of_mem_ofMessages) (by simpa using hFits) hDepth 0
  have hSame := hRun.symm.trans hRows
  cases hSame
  exact hMem

/-- The two rules select one letter each. -/
theorem apply_commutes_letters :
    (∀ t ∈ letters.store.tables, ∀ row ∈ t.rows,
      ∃ m, letters.remote.find? m.id = some m ∧ row = Row.encode m) ∧
    (∀ p ∈ letters.remote.messages, ∃ text, Message.parse? text = some p.2) ∧
    Admitted letters.remote fromAnn ∧ Admitted letters.remote fromOthers ∧
    (∀ row, Matched fromAnn letters.store letters.now row →
      ¬Matched fromOthers letters.store letters.now row) ∧
    ∃ report report' w₁ w₁₂ w₂ w₂₁,
      fromAnn.apply provider letters = (.ok report, w₁) ∧
      fromOthers.apply provider w₁ = (.ok report', w₁₂) ∧
      fromOthers.apply provider letters = (.ok report', w₂) ∧
      fromAnn.apply provider w₂ = (.ok report, w₂₁) ∧
      w₁₂.remote = w₂₁.remote ∧ SameRows w₁₂.store w₂₁.store := by
  have hHolds : letters.store.Holds [Store.letter, bobsLetter] := ⟨rfl, by decide⟩
  have hStore : letters.store = Store.fresh.ensureSchema.after
      [.insert Store.letter, .insert bobsLetter] := by
    have hAfter := Store.holds_of_nodup [Store.letter, bobsLetter] (by decide)
    exact hHolds.eq_ofMessages.trans hAfter.eq_ofMessages.symm
  have hMirror : ∀ t ∈ letters.store.tables, ∀ row ∈ t.rows,
      ∃ m, letters.remote.find? m.id = some m ∧ row = Row.encode m := by
    intro t ht row hRow
    cases ht
    obtain ⟨m, hm, rfl⟩ := List.mem_map.1 hRow
    simp only [List.mem_cons, List.not_mem_nil, or_false] at hm
    rcases hm with rfl | rfl
    · exact ⟨Store.letter, rfl, rfl⟩
    · exact ⟨bobsLetter, rfl, rfl⟩
  have hParsed : ∀ p ∈ letters.remote.messages,
      ∃ text, Message.parse? text = some p.2 := by
    intro p hp
    simp only [letters, List.mem_cons, List.not_mem_nil, or_false] at hp
    rcases hp with rfl | rfl
    · exact ⟨_, Message.parse?_render rfl (by decide)⟩
    · exact ⟨_, Message.parse?_render rfl (by decide)⟩
  have hDisjoint : ∀ row, Matched fromAnn letters.store letters.now row →
      ¬Matched fromOthers letters.store letters.now row := by
    intro row h h'
    have hMem := matched_letters compile_fromAnn (fun _ => by decide +kernel) (by decide) h
    have hMem' := matched_letters compile_fromOthers (fun _ => by decide +kernel) (by decide) h'
    obtain ⟨-, hHas⟩ := List.mem_filter.1 hMem
    obtain ⟨hRow, hHasNot⟩ := List.mem_filter.1 hMem'
    have hNone : ∀ row ∈ [Row.encode Store.letter, Row.encode bobsLetter],
        MatchMode.all.satisfied [.text .sender .contains "ann"] 0 row = true →
          MatchMode.any.satisfied [.text .sender .lacks "ann"] 0 row = false := by
      decide +kernel
    rw [hNone row hRow hHas] at hHasNot
    cases hHasNot
  exact ⟨hMirror, hParsed, admitted_fromAnn, admitted_fromOthers, hDisjoint,
    apply_commutes _ hStore hMirror hParsed rfl admitted_fromAnn
      admitted_fromOthers hDisjoint⟩

end Mailroom.Rule
