import Mailroom.Proofs.Text.Splitting
import Mailroom.Proofs.Url.Escapes
import Mailroom.Url.Basic

/-!
# Paths

The path of a web address is resolved from left to right: a dot segment adds no name, and may
take one away, and any other segment is a name. So a path is resolved by first going through the
front of it, and the rest is then resolved from there. A name is encoded as it is added and
stands for the bytes that it stood for, but a dot segment is lost: the path that comes out
stands for fewer bytes than the one that was put in. Only without dot segments nothing is lost.
-/

namespace Mailroom.Url

open Percent (inPath)
open Text (split)
open Text.Utf8 (encode)

/-! ## Segments with a slash in front -/

/-- Segments, each with a slash in front. -/
def slashed (parts : List (List Char)) : List Char := parts.flatMap ('/' :: ·)

theorem slashed_append (front back : List (List Char)) :
    slashed (front ++ back) = slashed front ++ slashed back := List.flatMap_append

theorem slashed_cons (part : List Char) (parts : List (List Char)) :
    slashed (part :: parts) = '/' :: (part ++ slashed parts) := by
  rw [slashed, List.flatMap_cons, List.cons_append, slashed]

/-- Splitting a text at its slashes loses nothing. -/
theorem slashed_split (cs : List Char) : slashed (split '/' cs) = '/' :: cs := by
  induction cs with
  | nil => rfl
  | cons c cs ih =>
      obtain ⟨part, parts, hParts⟩ := List.exists_cons_of_ne_nil (Text.split_ne_nil '/' cs)
      rw [hParts, slashed_cons, List.cons.injEq] at ih
      by_cases hc : c = '/'
      · rw [split, if_pos hc, slashed_cons, hParts, slashed_cons, ih.2, hc]
        rfl
      · rw [split, if_neg hc, hParts, slashed_cons, List.cons_append, ih.2]

/-- The segments of a path as texts. -/
def texts (names : List String) : List (List Char) := names.map String.toList

theorem text_segments (names : List String) :
    (Path.segments names).text.toList = slashed (texts names) := by
  rw [Path.text, String.toList_join, slashed, texts, List.flatMap_map, List.flatMap_map]
  simp

/-- The bytes that segments stand for. -/
theorem bytes_slashed_append (front back : List (List Char)) :
    Percent.bytes (slashed (front ++ back)) =
      Percent.bytes (slashed front) ++ Percent.bytes (slashed back) := by
  rw [slashed_append]
  cases back with
  | nil => simp [slashed, Percent.bytes, Percent.decode, encode]
  | cons part parts =>
      rw [slashed_cons]
      exact Percent.bytes_append (by decide) _ _

/-- How many bytes segments stand for, each with its slash. -/
def size (parts : List (List Char)) : Nat := (Percent.bytes (slashed parts)).length

private theorem size_append (front back : List (List Char)) :
    size (front ++ back) = size front + size back := by
  rw [size, bytes_slashed_append, List.length_append, size, size]

private theorem size_single (part : List Char) : size [part] = 1 + (Percent.bytes part).length := by
  rw [size, slashed_cons, Percent.bytes_cons (by decide)]
  simp [slashed]
  rfl

/-! ## One segment -/

/-- A dot segment stands for a place, and not for a name: for the one that was reached or for
the one above. -/
def IsDots (cs : List Char) : Prop := dots cs = ['.'] ∨ dots cs = ['.', '.']

/-- The places reached through a segment that others follow. -/
def enter (done : List String) (cs : List Char) : List String :=
  if dots cs = ['.', '.'] then shorten done
  else if dots cs = ['.'] then done
  else done ++ [segment .web done.isEmpty cs]

variable {done : List String} {cs : List Char} {parts : List (List Char)}

private theorem segment_web (first : Bool) (cs : List Char) :
    segment .web first cs = String.ofList (Percent.encode inPath cs) := rfl

private theorem enter_name (h : ¬IsDots cs) :
    enter done cs = done ++ [String.ofList (Percent.encode inPath cs)] := by
  rw [IsDots, not_or] at h
  rw [enter, if_neg h.2, if_neg h.1, segment_web]

private theorem resolve_cons (h : IsDots cs → parts ≠ []) :
    resolve .web done (cs :: parts) = resolve .web (enter done cs) parts := by
  rw [resolve, enter]
  by_cases hTwo : dots cs = ['.', '.']
  · simp [hTwo, h (.inr hTwo)]
  · by_cases hOne : dots cs = ['.']
    · simp [hOne, h (.inl hOne)]
    · simp [hOne, hTwo]

/-- After a dot segment at the end the path ends with a slash. -/
theorem resolve_last (h : IsDots cs) : resolve .web done [cs] = enter done cs ++ [""] := by
  rw [resolve, enter]
  rcases h with h | h <;> simp [h, resolve]

/-! ## A path -/

/-- **A path is resolved in two parts**, the front first. -/
theorem resolve_append (h : parts ≠ []) (front : List (List Char)) (done : List String) :
    resolve .web done (front ++ parts) = resolve .web (front.foldl enter done) parts := by
  induction front generalizing done with
  | nil => rfl
  | cons cs front ih =>
      rw [List.cons_append, resolve_cons fun _ => List.append_ne_nil_of_right_ne_nil front h, ih,
        List.foldl_cons]

/-- **Without dot segments** all segments are names. -/
theorem resolve_names (h : ∀ cs ∈ parts, ¬IsDots cs) (done : List String) :
    resolve .web done parts =
      done ++ parts.map fun cs => String.ofList (Percent.encode inPath cs) := by
  induction parts generalizing done with
  | nil => simp [resolve]
  | cons cs parts ih =>
      have hName := h cs List.mem_cons_self
      rw [resolve_cons fun hDots => absurd hDots hName,
        ih fun part hPart => h part (List.mem_cons_of_mem cs hPart), enter_name hName,
        List.append_assoc, List.map_cons, List.singleton_append]

private theorem mem_enter {s : String} (h : s ∈ enter done cs) :
    s ∈ done ∨ s = String.ofList (Percent.encode inPath cs) := by
  unfold enter shorten at h
  split_ifs at h
  · exact .inl h
  · exact .inl (List.dropLast_subset done h)
  · exact .inl h
  · simpa [segment_web] using h

/-- A path has the names from before, encoded ones, and perhaps an empty one at its end. -/
theorem mem_resolve {s : String} (h : s ∈ resolve .web done parts) :
    s ∈ done ∨ s = "" ∨ ∃ cs, s = String.ofList (Percent.encode inPath cs) := by
  induction parts generalizing done with
  | nil => exact .inl h
  | cons cs parts ih =>
      have hEnter (hMem : s ∈ enter done cs) :
          s ∈ done ∨ s = "" ∨ ∃ cs, s = String.ofList (Percent.encode inPath cs) :=
        (mem_enter hMem).imp_right fun hName => .inr ⟨cs, hName⟩
      by_cases hLast : IsDots cs ∧ parts = []
      · obtain ⟨hDots, rfl⟩ := hLast
        rw [resolve_last hDots, List.mem_append, List.mem_singleton] at h
        exact h.elim hEnter fun hEmpty => .inr (.inl hEmpty)
      · rw [resolve_cons fun hDots hNil => hLast ⟨hDots, hNil⟩] at h
        exact (ih h).elim hEnter .inr

theorem resolve_ne_nil (h : parts ≠ []) (done : List String) : resolve .web done parts ≠ [] := by
  induction parts generalizing done with
  | nil => exact absurd rfl h
  | cons cs parts ih =>
      by_cases hDots : IsDots cs
      · by_cases hLast : parts = []
        · subst hLast
          simp [resolve_last hDots]
        · rw [resolve_cons fun _ => hLast]
          exact ih hLast _
      · rw [resolve_cons fun h => absurd h hDots, enter_name hDots]
        cases parts with
        | nil => simp [resolve]
        | cons part parts => exact ih (List.cons_ne_nil _ _) _

/-! ## What a path stands for -/

private theorem size_shorten_le (done : List String) :
    size (texts (shorten done)) ≤ size (texts done) := by
  unfold shorten
  split_ifs
  · exact Nat.le_refl _
  · rcases List.eq_nil_or_concat done with rfl | ⟨front, last, rfl⟩
    · exact Nat.le_refl _
    · rw [List.concat_eq_append, List.dropLast_concat, texts, texts, List.map_append, size_append]
      exact Nat.le_add_right _ _

private theorem size_enter_dots (h : IsDots cs) (done : List String) :
    size (texts (enter done cs)) ≤ size (texts done) := by
  unfold enter
  split_ifs with hTwo hOne
  · exact size_shorten_le done
  · exact Nat.le_refl _
  · exact absurd h (not_or.2 ⟨hOne, hTwo⟩)

private theorem size_enter_name (h : ¬IsDots cs) (done : List String) :
    size (texts (enter done cs)) = size (texts done) + size [cs] := by
  rw [enter_name h, texts, List.map_append, size_append, size_single]
  simp [texts, size_single, Percent.bytes_encode]

/-- A dot segment stands for a byte at least, and what takes its place does not. -/
theorem size_dots_pos (h : IsDots cs) : 1 < size [cs] := by
  have hText : cs ≠ [] := by
    rintro rfl
    rcases h with h | h <;> cases h
  have hBytes := List.length_pos_iff.2 (Percent.bytes_ne_nil hText)
  rw [size_single]
  omega

/-- **No path stands for more** after it is resolved, and one with a dot segment for less. -/
theorem size_resolve (parts : List (List Char)) (done : List String) :
    size (texts (resolve .web done parts)) ≤ size (texts done) + size parts ∧
      ((∃ cs ∈ parts, IsDots cs) →
        size (texts (resolve .web done parts)) < size (texts done) + size parts) := by
  induction parts generalizing done with
  | nil => exact ⟨Nat.le_refl _, fun ⟨cs, hMem, _⟩ => absurd hMem List.not_mem_nil⟩
  | cons cs parts ih =>
      have hSize : size (cs :: parts) = size [cs] + size parts := size_append [cs] parts
      obtain ⟨hLe, hLt⟩ := ih (enter done cs)
      by_cases hDots : IsDots cs
      · have hPos := size_dots_pos hDots
        have hEnter := size_enter_dots hDots done
        suffices size (texts (resolve .web done (cs :: parts))) <
            size (texts done) + size (cs :: parts) from ⟨Nat.le_of_lt this, fun _ => this⟩
        by_cases hLast : parts = []
        · have hEnd : size (texts (enter done cs ++ [""])) = size (texts (enter done cs)) + 1 := by
            rw [texts, List.map_append, size_append, texts]
            rfl
          subst hLast
          rw [resolve_last hDots]
          omega
        · rw [resolve_cons fun _ => hLast]
          omega
      · have hEnter := size_enter_name hDots done
        rw [resolve_cons fun h => absurd h hDots]
        refine ⟨by omega, fun ⟨part, hMem, hPart⟩ => ?_⟩
        rcases List.mem_cons.1 hMem with rfl | hMem
        · exact absurd hPart hDots
        · have hLess := hLt ⟨part, hMem, hPart⟩
          omega

/-! ## Paths that spell a text -/

/-- A text that is the same as a path: it separates its segments with slashes only, it has no
escapes, and each of its segments is a name. -/
structure Straight (cs : List Char) : Prop where
  forward : '\\' ∉ cs
  unescaped : ¬Percent.Escaped cs
  named : ∀ part ∈ split '/' cs, part ≠ ['.'] ∧ part ≠ ['.', '.']

/-- A text with slashes for its backslashes. -/
def forward (cs : List Char) : List Char := cs.map fun c => if isSeparator .web c then '/' else c

theorem pieces_web (cs : List Char) : pieces .web cs = split '/' (forward cs) := rfl

/-- Two parts of a path. -/
theorem straight_append {front back : List Char} :
    Straight (front ++ '/' :: back) ↔ Straight front ∧ Straight back := by
  have hEscaped : ¬Percent.Escaped (front ++ '/' :: back) ↔
      ¬Percent.Escaped front ∧ ¬Percent.Escaped back := by
    have hFront := Percent.length_bytes_le front
    have hBack := Percent.length_bytes_le back
    rw [← Percent.bytes_eq_iff, ← Percent.bytes_eq_iff, ← Percent.bytes_eq_iff,
      Percent.bytes_append (by decide), Percent.bytes_cons (by decide), Text.Utf8.encode_append,
      Text.Utf8.encode_cons]
    refine ⟨fun h => ?_, fun ⟨hFront, hBack⟩ => by rw [hFront, hBack]⟩
    have hLength := congrArg List.length h
    simp only [List.length_append] at hLength
    obtain ⟨hFront, hRest⟩ := List.append_inj h (by omega)
    exact ⟨hFront, List.append_cancel_left hRest⟩
  constructor
  · rintro ⟨hForward, hUnescaped, hNamed⟩
    obtain ⟨hFront, hBack⟩ := hEscaped.1 hUnescaped
    rw [Text.split_append_cons] at hNamed
    exact ⟨⟨fun h => hForward (by simp [h]), hFront,
        fun part h => hNamed part (List.mem_append_left _ h)⟩,
      fun h => hForward (by simp [h]), hBack, fun part h => hNamed part (List.mem_append_right _ h)⟩
  · rintro ⟨hFront, hBack⟩
    refine ⟨?_, hEscaped.2 ⟨hFront.unescaped, hBack.unescaped⟩, fun part h => ?_⟩
    · simp [hFront.forward, hBack.forward]
    · rw [Text.split_append_cons] at h
      exact (List.mem_append.1 h).elim (hFront.named part) (hBack.named part)

private theorem isSeparator_web {c : Char} : isSeparator .web c = true ↔ c = '/' ∨ c = '\\' := by
  simp [isSeparator]

private theorem forward_eq_self : forward cs = cs ↔ '\\' ∉ cs := by
  induction cs with
  | nil => simp [forward]
  | cons c cs ih =>
      have hFirst : (if isSeparator .web c then '/' else c) = c ↔ '\\' ≠ c := by
        simp only [isSeparator_web]
        grind
      rw [forward, List.map_cons, List.cons.injEq, ← forward, hFirst, ih, List.mem_cons, not_or]

private theorem length_encode_forward (cs : List Char) :
    (encode (forward cs)).length = (encode cs).length := by
  induction cs with
  | nil => rfl
  | cons c cs ih =>
      have hFirst : (String.utf8EncodeChar (if isSeparator .web c then '/' else c)).length =
          (String.utf8EncodeChar c).length := by
        split_ifs with hSeparator
        · rcases isSeparator_web.1 hSeparator with rfl | rfl <;> rfl
        · rfl
      rw [forward, List.map_cons, ← forward, Text.Utf8.encode_cons, Text.Utf8.encode_cons,
        List.length_append, List.length_append, ih, hFirst]

private theorem dots_of_not_escaped (h : ¬Percent.Escaped cs) : dots cs = cs := by
  have hRest {c : Char} {r : List Char} (h : ¬Percent.Escaped (c :: r)) : ¬Percent.Escaped r :=
    fun hEscaped => h (hEscaped.of_isInfix (List.suffix_cons c r).isInfix)
  fun_induction dots cs with
  | case1 c r hE ih =>
      refine absurd ⟨[], '2', c, r, rfl, by decide, ?_⟩ h
      rcases hE with rfl | rfl <;> decide
  | case2 c r hE ih => rw [ih (hRest (hRest h))]
  | case3 c r _ ih => rw [ih (hRest h)]
  | case4 => rfl

/-- A path without dot segments, below others. -/
theorem slashed_names {t : List Char} (h : ∀ cs ∈ pieces .web t, ¬IsDots cs)
    (root : List String) : slashed (texts (resolve .web root (pieces .web t))) =
      slashed (texts root) ++ '/' :: Percent.encode inPath (forward t) := by
  have hEncode (parts : List (List Char)) :
      slashed (parts.map (Percent.encode inPath)) = Percent.encode inPath (slashed parts) := by
    have hSlash : Percent.encodeChar inPath '/' = ['/'] := by decide
    simp [slashed, Percent.encode, List.flatMap_assoc, List.flatMap_map, hSlash]
  have hSlash : Percent.encode inPath ('/' :: forward t) =
      '/' :: Percent.encode inPath (forward t) := by
    rw [Percent.encode, List.flatMap_cons]
    rfl
  rw [resolve_names h, texts, List.map_append, slashed_append, List.map_map, pieces_web, ← hSlash,
    ← slashed_split, ← hEncode]
  simp [texts, Function.comp_def]

/-- **A path stands for a text** that its end was taken from exactly if its end is that text, and
the text is a path. -/
theorem stands_for_iff {t p : List Char} (h : t.Sublist p) (root : List String) :
    (∃ rest, slashed (texts (resolve .web root (pieces .web t))) =
        slashed (texts root) ++ '/' :: rest ∧ Percent.bytes rest = encode p) ↔
      t = p ∧ Straight p := by
  constructor
  · rintro ⟨rest, hText, hBytes⟩
    have hSize : size (texts (resolve .web root (pieces .web t))) =
        size (texts root) + (1 + (encode p).length) := by
      rw [size, hText, Percent.bytes_append (by decide), Percent.bytes_cons (by decide), hBytes,
        List.length_append, List.length_append, size]
      rfl
    have hPieces : size (pieces .web t) = 1 + (Percent.bytes (forward t)).length := by
      rw [size, pieces_web, slashed_split, Percent.bytes_cons (by decide), List.length_append]
      rfl
    obtain ⟨hLe, hLt⟩ := size_resolve (pieces .web t) root
    have hForward := Percent.length_bytes_le (forward t)
    have hLength := length_encode_forward t
    have hKept := Text.Utf8.length_encode_le h
    obtain rfl : t = p := Text.Utf8.eq_of_sublist h (by omega)
    have hNames : ∀ cs ∈ pieces .web t, ¬IsDots cs := fun cs hMem hDots => by
      have hLess := hLt ⟨cs, hMem, hDots⟩
      omega
    have hUnescaped : ¬Percent.Escaped (forward t) := fun hEscaped => by
      have hLess := Percent.length_bytes_lt hEscaped
      omega
    rw [slashed_names hNames, List.append_cancel_left_eq, List.cons.injEq] at hText
    have hSame : forward t = t := by
      rw [← hText.2, Percent.bytes_encode, Percent.bytes_of_not_escaped hUnescaped] at hBytes
      exact Text.Utf8.encode_inj.1 hBytes
    rw [hSame] at hUnescaped
    rw [pieces_web, hSame] at hNames
    refine ⟨rfl, forward_eq_self.1 hSame, hUnescaped, fun part hPart => ⟨?_, ?_⟩⟩
    · rintro rfl
      exact hNames _ hPart (.inl rfl)
    · rintro rfl
      exact hNames _ hPart (.inr rfl)
  · rintro ⟨rfl, hForward, hUnescaped, hNamed⟩
    have hSame := forward_eq_self.2 hForward
    have hNames : ∀ cs ∈ pieces .web t, ¬IsDots cs := by
      intro cs hMem hDots
      rw [pieces_web, hSame] at hMem
      have hInfix := Text.isInfix_of_mem_split hMem
      rw [IsDots, dots_of_not_escaped fun hEscaped => hUnescaped (hEscaped.of_isInfix hInfix)]
        at hDots
      exact hDots.elim (hNamed cs hMem).1 (hNamed cs hMem).2
    refine ⟨_, slashed_names hNames root, ?_⟩
    rw [Percent.bytes_encode, hSame, Percent.bytes_of_not_escaped hUnescaped]

end Mailroom.Url
