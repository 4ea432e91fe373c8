import Mailroom.Proofs.Store.HistoryMaximum
import Mailroom.Sync.Reconcile
import Mathlib.Data.Finset.Max
import Mathlib.Data.Prod.Lex

/-!
# When the latest history id does not depend on the order of rows

The later of two history ids is chosen by number where both have one, and by length and
text otherwise. The two ways agree on numerals without a sign and zeros in front, but not
on others: `05` and `5` are one number, and the one that comes first is kept; and `99` is
less than `zz`, which is shorter than `010`, which is the number below `99`. So the choice
is not that of an order, and a list of ids has a latest one that does not depend on how
they are arranged only if one of them is chosen over each of the others, from either side.

Such a top is there wherever the choice is by a key of which no two ids share a value: by
length and text if all numbers are written plainly, and by number if all ids are numbers
of which none is written in two ways.
-/

namespace Mailroom.Store.HistoryId

variable {ids : List String} {top : String}

private theorem later_eq_or (a b : String) : later a b = a ∨ later a b = b := by
  unfold later laterText
  grind

/-! ## An id chosen over all others -/

/-- An id that is chosen over each of a list, whichever of the two comes first. -/
def Tops (top : String) (ids : List String) : Prop :=
  ∀ id ∈ ids, later top id = top ∧ later id top = top

/-- A list that has such an id, unless it is empty. -/
def HasTop (ids : List String) : Prop := ids = [] ∨ ∃ top ∈ ids, Tops top ids

private theorem Tops.perm {others : List String} (h : Tops top ids) (hPerm : others.Perm ids) :
    Tops top others :=
  fun id hid => h id (hPerm.mem_iff.1 hid)

private theorem foldl_later_mem (ids : List String) (first : String) :
    ids.foldl later first ∈ first :: ids := by
  induction ids generalizing first with
  | nil => exact List.mem_singleton_self first
  | cons id ids ih =>
      have hRest := ih (later first id)
      rw [List.foldl_cons]
      rcases List.mem_cons.1 hRest with hHere | hBehind
      · rw [hHere]
        rcases later_eq_or first id with h | h
        · rw [h]
          exact List.mem_cons_self
        · rw [h]
          exact List.mem_cons_of_mem _ List.mem_cons_self
      · exact List.mem_cons_of_mem _ (List.mem_cons_of_mem _ hBehind)

/-- An id that is neither where the choice starts nor on the way is not chosen. -/
theorem foldl_later_ne {first : String} (hFirst : first ≠ top) (hRest : top ∉ ids) :
    ids.foldl later first ≠ top := by
  intro h
  have hMem := foldl_later_mem ids first
  rw [h, List.mem_cons] at hMem
  exact hMem.elim (fun hSame => hFirst hSame.symm) hRest

/-- An id that is kept against each one stays to the end. -/
theorem foldl_later_stays {first : String} (h : ∀ id ∈ ids, later first id = first) :
    ids.foldl later first = first := by
  induction ids with
  | nil => rfl
  | cons id ids ih =>
      obtain ⟨hFirst, hRest⟩ := List.forall_mem_cons.1 h
      rw [List.foldl_cons, hFirst, ih hRest]

/-- **An id that is chosen over all others is the latest**: what comes before it gives way
to it, and then it stays. -/
theorem latest?_of_tops (hMem : top ∈ ids) (h : Tops top ids) : latest? ids = some top := by
  cases ids with
  | nil => exact absurd hMem List.not_mem_nil
  | cons first ids =>
      rw [latest?]
      congr 1
      induction ids generalizing first with
      | nil => exact (List.mem_singleton.1 hMem).symm
      | cons id ids ih =>
          obtain ⟨hFirst, hSecond, hRest⟩ : _ ∧ _ ∧ ∀ other ∈ ids, _ := by
            simpa only [Tops, List.forall_mem_cons] using h
          rw [List.foldl_cons]
          have hChosen : Tops top [later first id] := by
            rcases later_eq_or first id with hSame | hSame
            · simpa [Tops, hSame] using hFirst
            · simpa [Tops, hSame] using hSecond
          refine ih _ ?_ (List.forall_mem_cons.2 ⟨hChosen _ (List.mem_singleton_self _), hRest⟩)
          rcases List.mem_cons.1 hMem with rfl | hMem
          · rw [hSecond.1]
            exact List.mem_cons_self
          · rcases List.mem_cons.1 hMem with rfl | hMem
            · rw [hFirst.2]
              exact List.mem_cons_self
            · exact List.mem_cons_of_mem _ hMem

/-- Of a list, the copies of an id, another id behind them, and the others. -/
theorem exists_parts {id : String} (hMem : id ∈ ids) (hOther : id ≠ top) :
    ∃ copies rest : List String, (copies ++ id :: rest).Perm ids ∧
      (∀ copy ∈ copies, copy = top) ∧ top ∉ rest := by
  have hParts := List.filter_append_perm (fun other => decide (other = top)) ids
  have hAmong : id ∈ ids.filter fun other => !decide (other = top) := by
    simp [hMem, hOther]
  refine ⟨_, _, ((List.perm_cons_erase hAmong).symm.append_left _).trans hParts, ?_, ?_⟩
  · intro copy hCopy
    simpa using (List.mem_filter.1 hCopy).2
  · intro hTop
    simpa using (List.mem_filter.1 (List.mem_of_mem_erase hTop)).2

/-- **The latest id in any order is chosen over all others.** Were it not chosen over one
of them, then with that one right behind, or in front of, all its own copies it would be
lost, and nothing would bring it back. -/
theorem tops_of_perm (h : ∀ others : List String, others.Perm ids → latest? others = some top) :
    Tops top ids := by
  intro id hid
  by_cases hSame : id = top
  · rw [hSame, later_self]
    exact ⟨rfl, rfl⟩
  obtain ⟨copies, rest, hPerm, hCopies, hLost⟩ := exists_parts hid hSame
  constructor
  · have hBehind := h _ hPerm
    cases copies with
    | nil =>
        rw [List.nil_append, latest?, Option.some.injEq] at hBehind
        exact absurd hBehind (foldl_later_ne hSame hLost)
    | cons copy copies =>
        obtain ⟨rfl, hCopies⟩ := List.forall_mem_cons.1 hCopies
        have hStays : copies.foldl later copy = copy :=
          foldl_later_stays fun other hOther => by rw [hCopies other hOther, later_self]
        refine (later_eq_or copy id).resolve_right fun hGone => ?_
        rw [List.cons_append, latest?, List.foldl_append, hStays, List.foldl_cons, hGone,
          Option.some.injEq] at hBehind
        exact foldl_later_ne hSame hLost hBehind
  · have hFront := h _ (List.perm_middle.symm.trans hPerm)
    refine (later_eq_or id top).resolve_left fun hKept => ?_
    have hStays : copies.foldl later id = id :=
      foldl_later_stays fun copy hCopy => by rw [hCopies copy hCopy, hKept]
    rw [latest?, List.foldl_append, hStays, Option.some.injEq] at hFront
    exact foldl_later_ne hSame hLost hFront

/-- **Ids have a latest one in any order** just if one of them is chosen over all others. -/
theorem latest?_perm_iff :
    (∀ others : List String, others.Perm ids → latest? others = latest? ids) ↔ HasTop ids := by
  constructor
  · intro h
    cases ids with
    | nil => exact .inl rfl
    | cons first rest =>
        exact .inr ⟨_, foldl_later_mem rest first, tops_of_perm h⟩
  · rintro (rfl | ⟨top, hMem, hTop⟩) others hPerm
    · rw [List.perm_nil.1 hPerm]
    · rw [latest?_of_tops hMem hTop,
        latest?_of_tops (hPerm.mem_iff.2 hMem) (hTop.perm hPerm)]

/-! ## Choosing by a key -/

/-- **A choice by a key has a top**, if no two ids share a key. -/
theorem hasTop_of_key {κ : Type} [LinearOrder κ] (key : String → κ)
    (hLater : ∀ a ∈ ids, ∀ b ∈ ids, later a b = if key b ≤ key a then a else b)
    (hKeys : ∀ a ∈ ids, ∀ b ∈ ids, key a = key b → a = b) : HasTop ids := by
  by_cases hNone : ids = []
  · exact .inl hNone
  obtain ⟨top, hMem, hMost⟩ :=
    Finset.exists_max_image ids.toFinset key (List.toFinset_nonempty_iff ids |>.2 hNone)
  simp only [List.mem_toFinset] at hMem hMost
  refine .inr ⟨top, hMem, fun id hid => ⟨?_, ?_⟩⟩
  · rw [hLater top hMem id hid, if_pos (hMost id hid)]
  · rw [hLater id hid top hMem]
    split
    · next hLess => exact hKeys id hid top hMem (le_antisymm (hMost id hid) hLess)
    · rfl

/-- The order of lengths, and of texts of one length. -/
def lengthKey (id : String) : ℕ ×ₗ String := toLex (id.utf8ByteSize, id)

private theorem laterText_eq (a b : String) :
    laterText a b = if lengthKey b ≤ lengthKey a then a else b := by
  simp only [laterText, lengthKey, Prod.Lex.toLex_le_toLex]
  grind

/-- Ids of which those that are numbers are written without a sign and zeros in front. -/
def Plainly (ids : List String) : Prop :=
  ∀ id ∈ ids, ∀ n, uint64OfText? id = some n → Text.Canonical id.toList

/-- Plain numbers are chosen as the texts that they are. -/
theorem Plainly.later_eq (h : Plainly ids) {a b : String} (ha : a ∈ ids) (hb : b ∈ ids) :
    later a b = laterText a b := by
  cases hFirst : uint64OfText? a with
  | none => rw [later, hFirst]
  | some m =>
      cases hSecond : uint64OfText? b with
      | none => rw [later, hFirst, hSecond]
      | some n =>
          rw [← natText_value (h a ha m hFirst), ← natText_value (h b hb n hSecond),
            later_natText, laterText_natText]

private theorem Plainly.hasTop (h : Plainly ids) : HasTop ids :=
  hasTop_of_key lengthKey (fun a ha b hb => (h.later_eq ha hb).trans (laterText_eq a b))
    fun _ _ _ _ hSame => congrArg (fun key => (ofLex key).2) hSame

/-- Ids that are all numbers, none of them written in two ways. -/
structure Numbered (ids : List String) : Prop where
  number : ∀ id ∈ ids, ∃ n, uint64OfText? id = some n
  once : ∀ a ∈ ids, ∀ b ∈ ids, uint64OfText? a = uint64OfText? b → a = b

private theorem Numbered.hasTop (h : Numbered ids) : HasTop ids := by
  refine hasTop_of_key (fun id => ((uint64OfText? id).getD 0).toNat) ?_ ?_
  · intro a ha b hb
    obtain ⟨m, hm⟩ := h.number a ha
    obtain ⟨n, hn⟩ := h.number b hb
    simp only [later, hm, hn, Option.getD_some, UInt64.le_iff_toNat_le]
  · intro a ha b hb hSame
    obtain ⟨m, hm⟩ := h.number a ha
    obtain ⟨n, hn⟩ := h.number b hb
    simp only [hm, hn, Option.getD_some] at hSame
    exact h.once a ha b hb (by rw [hm, hn, UInt64.toNat_inj.1 hSame])

/-! ## Stores -/

/-- Rows that have the history ids of others in another order can be read as these can. -/
theorem historyIds_of_perm {t t' : Tables} (hIds : t.historyIds = .ok ids)
    (hPerm : (t'.rows.map (·.get .historyId)).Perm (t.rows.map (·.get .historyId))) :
    ∃ ids' : List String, ids'.Perm ids ∧ t'.historyIds = .ok ids' := by
  have hCounted : t'.Counted := by
    intro row hRow hSome
    have hValue := hPerm.mem_iff.1 (List.mem_map_of_mem (f := (·.get .historyId)) hRow)
    obtain ⟨first, hFirst, hSame⟩ := List.mem_map.1 hValue
    rw [← hSame] at hSome ⊢
    exact Tables.counted_iff.2 ⟨ids, hIds⟩ first hFirst hSome
  obtain ⟨ids', hIds'⟩ := Tables.counted_iff.1 hCounted
  have hTexts := hPerm.filter (!Tables.isNull ·)
  rw [Tables.texts_eq_ok.1 hIds, Tables.texts_eq_ok.1 hIds'] at hTexts
  have hInjective : Function.Injective Sql.Value.text := fun _ _ => Sql.Value.text.inj
  exact ⟨ids', (List.map_perm_map_iff hInjective).1 hTexts, hIds'⟩

/-- The statistics of a store are those of its rows in any order. -/
theorem stats_of_perm (hTop : HasTop ids) {t t' : Tables} (hIds : t.historyIds = .ok ids)
    (hPerm : (t'.rows.map (·.get .historyId)).Perm (t.rows.map (·.get .historyId))) :
    ∃ stats, (⟨some t⟩ : Store).stats = .ok stats ∧ (⟨some t'⟩ : Store).stats = .ok stats := by
  obtain ⟨ids', hOrder, hIds'⟩ := historyIds_of_perm hIds hPerm
  have hCount : t'.rows.length = t.rows.length := by
    simpa only [List.length_map] using hPerm.length_eq
  refine ⟨_, stats_of_texts (Tables.texts_eq_ok.1 hIds), ?_⟩
  rw [stats_of_texts (Tables.texts_eq_ok.1 hIds'), latest?_perm_iff.2 hTop ids' hOrder, hCount]

/-- **When the latest history id does not depend on the order.** It is the same for every
arrangement of a list of ids just if one of them is chosen over each of the others,
whichever comes first. That is so if the numbers among them are written without a sign and
zeros in front, whatever the others are, and also if all of them are numbers of which none
is written in two ways. Then a sync of a store with these ids is due or not, whatever the
order of its rows and whatever else has changed in them. -/
theorem latest_in_any_order (ids : List String) :
    ((∀ others : List String, others.Perm ids → latest? others = latest? ids) ↔ HasTop ids) ∧
      (Plainly ids → HasTop ids) ∧ (Numbered ids → HasTop ids) ∧
      (HasTop ids → ∀ t t' : Tables, t.historyIds = .ok ids →
        (t'.rows.map (·.get .historyId)).Perm (t.rows.map (·.get .historyId)) →
        ∃ stats stats', (⟨some t⟩ : Store).stats = .ok stats ∧
          (⟨some t'⟩ : Store).stats = .ok stats' ∧
          ∀ profile force,
            Sync.isNeeded profile stats' force = Sync.isNeeded profile stats force) := by
  refine ⟨latest?_perm_iff, Plainly.hasTop, Numbered.hasTop, ?_⟩
  intro hTop t t' hIds hPerm
  obtain ⟨stats, hStats, hStats'⟩ := stats_of_perm hTop hIds hPerm
  exact ⟨stats, stats, hStats, hStats', fun _ _ => rfl⟩

/-- A word, numbers of 64 bits and one of more: the order of the rows does not matter. -/
theorem latest_in_any_order_mixed :
    let ids := ["9", "zz", "18446744073709551616", "10"]
    Plainly ids ∧ latest? ids.reverse = latest? ids ∧
      ∃ stats stats', (⟨some (rowsOf ids)⟩ : Store).stats = .ok stats ∧
        (⟨some (rowsOf ids.reverse)⟩ : Store).stats = .ok stats' ∧
        ∀ profile force,
          Sync.isNeeded profile stats' force = Sync.isNeeded profile stats force := by
  intro ids
  have hPlainly : Plainly ids := by
    intro id hid n hNumber
    simp only [ids, List.mem_cons, List.not_mem_nil, or_false] at hid
    obtain rfl | rfl | rfl | rfl := hid
    · exact ⟨by decide, List.all_eq_true.1 rfl, by decide⟩
    · cases (show uint64OfText? "zz" = none by decide).symm.trans hNumber
    · exact ⟨by decide, List.all_eq_true.1 rfl, by decide⟩
    · exact ⟨by decide, List.all_eq_true.1 rfl, by decide⟩
  have hPerm : ids.reverse.Perm ids := List.reverse_perm ids
  have hColumn : (ids.reverse.map Sql.Value.text ++ [Sql.Value.null]).Perm
      (ids.map Sql.Value.text ++ [Sql.Value.null]) := (hPerm.map _).append_right _
  obtain ⟨hOrder, hTop, -, hStores⟩ := latest_in_any_order ids
  exact ⟨hPlainly, hOrder.2 (hTop hPlainly) _ hPerm,
    hStores (hTop hPlainly) (rowsOf ids) (rowsOf ids.reverse) rfl hColumn⟩

/-- **Two spellings of a number** are as late as each other, so the first one is kept, and
by the order of two rows a sync is due or not. And of three ids each may be chosen over
the one before it, in a circle. -/
theorem latest_depends_on_order :
    ["05", "5"].Perm ["5", "05"] ∧
      (⟨some (rowsOf ["5", "05"])⟩ : Store).stats = .ok ⟨some "5", 3⟩ ∧
      (⟨some (rowsOf ["05", "5"])⟩ : Store).stats = .ok ⟨some "05", 3⟩ ∧
      Sync.isNeeded ⟨"me@example.com", "5", 2, 2⟩ ⟨some "5", 3⟩ false = false ∧
      Sync.isNeeded ⟨"me@example.com", "5", 2, 2⟩ ⟨some "05", 3⟩ false = true ∧
      latest? ["99", "zz", "010"] = some "010" ∧ latest? ["zz", "010", "99"] = some "99" ∧
      latest? ["010", "99", "zz"] = some "zz" := by
  refine ⟨List.Perm.swap _ _ _, ?_, ?_, by decide, by decide, by decide, by decide, by decide⟩
  · have hTexts : ((rowsOf ["5", "05"]).rows.map (·.get .historyId)).filter (!Tables.isNull ·) =
        ["5", "05"].map .text := rfl
    exact stats_of_texts hTexts
  · have hTexts : ((rowsOf ["05", "5"]).rows.map (·.get .historyId)).filter (!Tables.isNull ·) =
        ["05", "5"].map .text := rfl
    exact stats_of_texts hTexts

end Mailroom.Store.HistoryId
