import Mailroom.Proofs.Store.AnyRows
import Mailroom.Proofs.Text.Numeral

/-!
# The latest of canonical history ids

Of two history ids the later one is found by their numbers if both fit 64 bits, and else
by their lengths and the order of texts. For canonical numerals the two ways agree: each
gives the greater number, also where one of the two fits and the other does not. So the
latest of a list is the numeral of the greatest number, in whatever order they come and
however long they are.
-/

namespace Mailroom.Store.HistoryId

/-! ## Two numerals -/

private theorem natText_lt_natText {m n : Nat}
    (hLength : (Text.digits m).length = (Text.digits n).length) (h : m < n) :
    natText m < natText n := by
  rw [String.lt_iff, Text.toList_natText, Text.toList_natText]
  exact Text.digits_lt_digits hLength h

/-- By length and then as texts, the later numeral is that of the greater number. -/
theorem laterText_natText (m n : Nat) :
    laterText (natText m) (natText n) = natText (max m n) := by
  rw [laterText, Text.size_natText, Text.size_natText]
  rcases Nat.lt_trichotomy m n with hLess | rfl | hMore
  · have hLength := Text.length_digits_le_of_le (Nat.le_of_lt hLess)
    rw [if_neg (by omega), Nat.max_eq_right (Nat.le_of_lt hLess)]
    by_cases hShorter : (Text.digits m).length < (Text.digits n).length
    · rw [if_pos hShorter]
    · rw [if_neg hShorter, if_pos (natText_lt_natText (by omega) hLess)]
  · simp
  · have hLength := Text.length_digits_le_of_le (Nat.le_of_lt hMore)
    rw [Nat.max_eq_left (Nat.le_of_lt hMore)]
    by_cases hLonger : (Text.digits n).length < (Text.digits m).length
    · rw [if_pos hLonger]
    · have hLess := natText_lt_natText (by omega) hMore
      rw [if_neg hLonger, if_neg (by omega), if_neg (String.lt_asymm hLess)]

private theorem uint64OfText?_natText (n : Nat) :
    uint64OfText? (natText n) =
      if n < UInt64.size then some (UInt64.ofNat n) else none := by
  rw [uint64OfText?, Text.unsigned?_natText, Option.bind_some, uint64OfInt?]
  by_cases hFits : n < UInt64.size
  · rw [if_pos hFits, if_pos ⟨Int.natCast_nonneg n, Int.ofNat_lt.2 hFits⟩, Int.toNat_natCast]
  · rw [if_neg hFits, if_neg fun h => hFits (Int.ofNat_lt.1 h.2)]

/-- **The later of two numerals is that of the greater number**, whether both fit 64
bits or not. -/
theorem later_natText (m n : Nat) :
    later (natText m) (natText n) = natText (max m n) := by
  rw [later, uint64OfText?_natText, uint64OfText?_natText]
  by_cases hFirst : m < UInt64.size
  · by_cases hSecond : n < UInt64.size
    · rw [if_pos hFirst, if_pos hSecond]
      simp only [UInt64.le_iff_toNat_le, UInt64.toNat_ofNat_of_lt' hFirst,
        UInt64.toNat_ofNat_of_lt' hSecond]
      by_cases hOrder : n ≤ m
      · rw [if_pos hOrder, Nat.max_eq_left hOrder]
      · rw [if_neg hOrder, Nat.max_eq_right (Nat.le_of_not_le hOrder)]
    · rw [if_pos hFirst, if_neg hSecond]
      exact laterText_natText m n
  · rw [if_neg hFirst]
    exact laterText_natText m n

/-! ## Many numerals -/

/-- **The latest of numerals is that of the greatest number.** -/
theorem latest?_natTexts (ns : List Nat) :
    latest? (ns.map natText) = ns.max?.map natText := by
  cases ns with
  | nil => rfl
  | cons n ns =>
      rw [List.max?_cons', List.map_cons, latest?, Option.map_some]
      congr 1
      induction ns generalizing n with
      | nil => rfl
      | cons n' ns ih =>
          rw [List.map_cons, List.foldl_cons, List.foldl_cons, later_natText, ih]

/-- A canonical history id is the numeral of its number. -/
theorem natText_value {id : String} (h : Text.Canonical id.toList) :
    natText (Text.value id.toList) = id := by
  rw [natText, Text.digits_value h, String.ofList_toList]

private theorem map_natText_value {ids : List String}
    (h : ∀ id ∈ ids, Text.Canonical id.toList) :
    (ids.map fun id => Text.value id.toList).map natText = ids := by
  rw [List.map_map]
  exact (List.map_congr_left fun id hid => natText_value (h id hid)).trans (List.map_id ids)

/-! ## Stores -/

/-- The statistics of a store, from the texts among its history ids. -/
theorem stats_of_texts {t : Tables} {ids : List String}
    (h : (t.rows.map (·.get .historyId)).filter (!Tables.isNull ·) = ids.map .text) :
    (⟨some t⟩ : Store).stats = .ok ⟨latest? ids, t.rows.length⟩ := by
  have hIds : t.historyIds = .ok ids := by
    rw [Tables.historyIds, h, Tables.texts_map_text]
  simp [Store.stats, getTables, hIds, bind, Except.bind, pure, Except.pure]

/-- **The latest of canonical history ids is the one with the greatest number**, however
long they are and in whatever order they come; and so it is for a store whose history
ids they are. -/
theorem latest_is_greatest {ids : List String} (hSome : ids ≠ [])
    (hCanonical : ∀ id ∈ ids, Text.Canonical id.toList) :
    ∃ id ∈ ids, latest? ids = some id ∧
      (∀ other ∈ ids, Text.value other.toList ≤ Text.value id.toList) ∧
      ∀ t : Tables,
        (t.rows.map (·.get .historyId)).filter (!Tables.isNull ·) = ids.map .text →
          (⟨some t⟩ : Store).stats = .ok ⟨some id, t.rows.length⟩ := by
  have hIds := map_natText_value hCanonical
  obtain ⟨greatest, hMax⟩ := Option.isSome_iff_exists.1
    (List.isSome_max?_of_ne_nil
      (fun h => hSome (List.map_eq_nil_iff.1 h) : ids.map (fun id => Text.value id.toList) ≠ []))
  have hLatest : latest? ids = some (natText greatest) := by
    rw [← hIds, latest?_natTexts, hMax, Option.map_some]
  obtain ⟨hMem, hGreatest⟩ := List.max?_eq_some_iff.1 hMax
  obtain ⟨id, hid, rfl⟩ := List.mem_map.1 hMem
  rw [natText_value (hCanonical id hid)] at hLatest
  refine ⟨id, hid, hLatest, fun other hOther => ?_, fun t hTexts => ?_⟩
  · exact hGreatest _ (List.mem_map_of_mem hOther)
  · rw [stats_of_texts hTexts, hLatest]

/-- A table with a row for each history id, and a last row without one. -/
def rowsOf (ids : List String) : Tables where
  rows := ids.map (fun id => Row.set (Column.all.map fun _ => .null) .historyId (.text id)) ++
    [Column.all.map fun _ => .null]
  headers := []

/-- Of four history ids the third is the greatest number that fits 64 bits, and the second
is one more. -/
theorem latest_is_greatest_past_size :
    (⟨some (rowsOf ["9", "18446744073709551616", "18446744073709551615", "10"])⟩ :
      Store).stats = .ok ⟨some "18446744073709551616", 5⟩ := by
  obtain ⟨id, hid, -, hGreatest, hStats⟩ := latest_is_greatest
    (show ["9", "18446744073709551616", "18446744073709551615", "10"] ≠ [] from nofun)
    (by
      intro id hid
      simp only [List.mem_cons, List.not_mem_nil, or_false] at hid
      obtain rfl | rfl | rfl | rfl := hid <;>
        exact ⟨by decide, List.all_eq_true.1 rfl, by decide⟩)
  have hSecond := hGreatest "18446744073709551616" (by decide)
  have hLatest : id = "18446744073709551616" := by
    simp only [List.mem_cons, List.not_mem_nil, or_false] at hid
    obtain rfl | rfl | rfl | rfl := hid
    · exact absurd hSecond (by decide)
    · rfl
    · exact absurd hSecond (by decide)
    · exact absurd hSecond (by decide)
  rw [hStats (rowsOf _) rfl, hLatest]
  rfl

end Mailroom.Store.HistoryId
