import Mailroom.Proofs.Url.Below
import Mailroom.Proofs.Url.Form

/-!
# The query of an address

The query is what stands behind the first `?` of an address, up to a `#`, and some of its
characters are encoded. A form is written with none of these, nor with one that is dropped, so a
form behind a `?` is the query as it stands, and its pairs are those of the address.
-/

namespace Mailroom.Url

open Text (cut)

/-- **The query** is what stands behind the first `?` in front of the fragment. -/
theorem query_of_parse {s : String} {u : Url} (h : parse s = .ok u)
    (hWeb : kindOf u.scheme = .web) :
    u.query = part '?' Percent.inWebQuery (cut '#' (cleaned s.toList)).1 := by
  unfold parse at h
  dsimp only at h
  split at h
  · cases h
  · rename_i scheme rest hScheme
    cases hRead : readHierarchy scheme _ rest with
    | error fault =>
        rw [hRead] at h
        cases h
    | ok parts =>
        rw [hRead] at h
        cases h
        show part '?' _ _ = _
        have hNotOther : kindOf scheme ≠ .other := fun hOther => by cases hOther.symm.trans hWeb
        rw [if_neg hNotOther]

/-- A form is written with characters that a query holds as they are. -/
theorem query_char {c : Char} (h : Form.isWritten c = true) :
    32 < c.toNat ∧ c.toNat < 0x80 ∧ c ≠ '#' ∧ Percent.inWebQuery c = false := by
  have hTable : ∀ n, n < 0x80 → Form.isWritten (Char.ofNat n) = true →
      32 < n ∧ Char.ofNat n ≠ '#' ∧ Percent.inWebQuery (Char.ofNat n) = false := by decide
  have hAscii := Form.toNat_lt_of_isWritten h
  have hChar := hTable c.toNat hAscii
  rw [Char.ofNat_toNat] at hChar
  exact ⟨(hChar h).1, hAscii, (hChar h).2⟩

/-- What is neither reserved nor beyond ASCII is encoded as it is. -/
theorem encode_eq_self {reserved : Char → Bool} {cs : List Char}
    (h : ∀ c ∈ cs, c.toNat < 0x80 ∧ reserved c = false) : Percent.encode reserved cs = cs := by
  induction cs with
  | nil => rfl
  | cons c cs ih =>
      have hRest := ih fun d hd => h d (List.mem_cons_of_mem c hd)
      have hFirst : Percent.encodeChar reserved c = [c] := if_pos (h c List.mem_cons_self)
      rw [Percent.encode, List.flatMap_cons, ← Percent.encode, hFirst, hRest]
      rfl

variable {front query : List Char}

/-- At the end of an address all of a form is kept. -/
theorem kept_form (h : ∀ c ∈ query, Form.isWritten c = true) : kept query = query := by
  have hEnd : Text.dropEnd (fun c => c.toNat ≤ 32) query = query := by
    refine Text.dropEnd_eq_self fun c hc => ?_
    have hVisible := (query_char (h c (List.mem_of_getLast? hc))).1
    simpa using hVisible
  rw [kept, hEnd, List.filter_eq_self]
  intro c hc
  have hVisible := (query_char (h c hc)).1
  have hNe (d : Char) (hd : d.toNat ≤ 32) : c ≠ d := fun hSame => by
    rw [hSame] at hVisible
    omega
  simp [hNe '\t' (by decide), hNe '\n' (by decide), hNe '\r' (by decide)]

/-- A form behind the first `?` is read as the query. -/
theorem part_form (hMarks : '?' ∉ front ∧ '#' ∉ front)
    (hForm : ∀ c ∈ query, Form.isWritten c = true) :
    part '?' Percent.inWebQuery (cut '#' (cleaned (front ++ '?' :: query))).1 =
      some (String.ofList query) := by
  have hWhole : cleaned (front ++ '?' :: query) = opening front ++ '?' :: query := by
    rw [cleaned_append (by decide), kept_form hForm]
  have hQuery : '?' ∉ opening front := fun h => hMarks.1 (opening_subset front h)
  have hFragment : '#' ∉ opening front ++ '?' :: query := by
    intro h
    rcases List.mem_append.1 h with hFront | hRest
    · exact hMarks.2 (opening_subset front hFront)
    · rcases List.mem_cons.1 hRest with hMark | hMem
      · cases hMark
      · exact (query_char (hForm '#' hMem)).2.2.1 rfl
  have hMain : (cut '#' (opening front ++ '?' :: query)).1 =
      opening front ++ '?' :: query := by
    have hAppend := Text.cut_append hFragment []
    rwa [List.append_nil, show (cut '#' []).1 = [] from rfl, List.append_nil] at hAppend
  have hSame : Percent.encode Percent.inWebQuery query = query :=
    encode_eq_self fun c hc => ⟨(query_char (hForm c hc)).2.1, (query_char (hForm c hc)).2.2.2⟩
  rw [hWhole, hMain, part, if_pos (by simp), Text.cut_append_cons hQuery, hSame]

/-- **The pairs of an address** that ends in a form. -/
theorem pairs_of_parse {ps : List (String × String)} {s : String} {u : Url}
    (hText : s.toList = front ++ '?' :: Form.write ps) (hMarks : '?' ∉ front ∧ '#' ∉ front)
    (h : parse s = .ok u) (hWeb : kindOf u.scheme = .web) : u.pairs = ps := by
  have hQuery := query_of_parse h hWeb
  rw [hText, part_form hMarks fun c hc => Form.isWritten_of_mem_write hc] at hQuery
  rw [pairs, hQuery, Option.getD_some, String.toList_ofList, Form.pairs_write]

end Mailroom.Url
