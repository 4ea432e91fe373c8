import Mailroom.Proofs.Text.Trimming
import Mailroom.Proofs.Url.Path
import Mailroom.Url.Strict

/-!
# Addresses below another

A path is put behind the address of an account, with a slash in front, and the whole is read
again. The scheme and the host are those of the account then, and the path is resolved from
where the path of the account ends; but what is put behind is not all path. Blanks at its end,
line ends and tabs are dropped, and a `?` or a `#` ends the path.
-/

namespace Mailroom

namespace Url

open Percent (inPath)
open Text (cut)
open Text.Utf8 (encode)

/-! ## What is read as a path -/

/-- What is kept of the end of an address. -/
def kept (cs : List Char) : List Char :=
  (Text.dropEnd (fun c => c.toNat ≤ 32) cs).filter fun c => c ≠ '\t' && c ≠ '\n' && c ≠ '\r'

/-- What stands before the query and the fragment. -/
def beforeMarks (cs : List Char) : List Char := (cut '?' (cut '#' cs).1).1

/-- What is read of a path below an address. -/
def below (cs : List Char) : List Char := beforeMarks (kept cs)

private theorem below_sublist (cs : List Char) : (below cs).Sublist cs :=
  ((List.takeWhile_sublist _).trans (List.takeWhile_sublist _)).trans
    (List.filter_sublist.trans (Text.dropEnd_isPrefix _ cs).sublist)

/-- A text that is the same as a path below an address: neither a mark nor a dropped character
stands in it, and the path runs straight. -/
structure Spelled (cs : List Char) : Prop extends Straight cs where
  marks : '?' ∉ cs ∧ '#' ∉ cs
  lines : '\t' ∉ cs ∧ '\n' ∉ cs ∧ '\r' ∉ cs

/-- Blanks are dropped at the end of an address. -/
def EndsVisibly (cs : List Char) : Prop := ∀ c ∈ cs.getLast?, 32 < c.toNat

private theorem below_eq_self {cs : List Char} : below cs = cs ↔
    (('?' ∉ cs ∧ '#' ∉ cs) ∧ ('\t' ∉ cs ∧ '\n' ∉ cs ∧ '\r' ∉ cs)) ∧ EndsVisibly cs := by
  have hDropped : (Text.dropEnd (fun c => c.toNat ≤ 32) cs).Sublist cs :=
    (Text.dropEnd_isPrefix _ cs).sublist
  constructor
  · intro h
    have hMain : (below cs).Sublist (cut '#' (kept cs)).1 := List.takeWhile_sublist _
    have hKept : (below cs).Sublist (kept cs) := hMain.trans (List.takeWhile_sublist _)
    have hEnd := hKept.trans List.filter_sublist
    have hNone (c : Char) (ds : List Char) : c ∉ (cut c ds).1 := fun hMem => by
      simpa using List.all_eq_true.1 List.all_takeWhile c hMem
    have hLines (c : Char) (hc : c ∈ kept cs) : c ≠ '\t' ∧ c ≠ '\n' ∧ c ≠ '\r' := by
      simpa [and_assoc] using (List.mem_filter.1 hc).2
    have hQuery : '?' ∉ below cs := hNone '?' _
    rw [h] at hMain hKept hEnd hQuery
    refine ⟨⟨⟨hQuery, fun hMem => hNone '#' _ (hMain.subset hMem)⟩,
      fun hMem => (hLines _ (hKept.subset hMem)).1 rfl,
      fun hMem => (hLines _ (hKept.subset hMem)).2.1 rfl,
      fun hMem => (hLines _ (hKept.subset hMem)).2.2 rfl⟩, fun c hc => ?_⟩
    rw [← hDropped.eq_of_length_le hEnd.length_le] at hc
    simpa using Text.getLast?_dropEnd _ c hc
  · rintro ⟨⟨⟨hQuery, hFragment⟩, hTab, hFeed, hReturn⟩, hVisible⟩
    have hEnd : Text.dropEnd (fun c => c.toNat ≤ 32) cs = cs :=
      Text.dropEnd_eq_self fun c hc => by simpa using hVisible c hc
    have hKept : kept cs = cs := by
      rw [kept, hEnd, List.filter_eq_self]
      intro c hc
      simp only [ne_eq, Bool.and_eq_true, decide_not, Bool.not_eq_true', decide_eq_false_iff_not]
      exact ⟨⟨fun h => hTab (h ▸ hc), fun h => hFeed (h ▸ hc)⟩, fun h => hReturn (h ▸ hc)⟩
    have hCut {c : Char} (hc : c ∉ cs) : (cut c cs).1 = cs := by
      have hAppend := Text.cut_append hc []
      rwa [List.append_nil, show (cut c []).1 = [] from rfl, List.append_nil] at hAppend
    rw [below, beforeMarks, hKept, hCut hFragment, hCut hQuery]

/-- A path in two parts. -/
theorem spelled_append {front back : List Char} :
    Spelled (front ++ '/' :: back) ↔ Spelled front ∧ Spelled back := by
  have hMem {c : Char} (hc : c ≠ '/') : c ∉ front ++ '/' :: back ↔ c ∉ front ∧ c ∉ back := by
    simp [hc]
  constructor
  · rintro ⟨hStraight, ⟨hQuery, hFragment⟩, hTab, hFeed, hReturn⟩
    obtain ⟨hFront, hBack⟩ := straight_append.1 hStraight
    rw [hMem (by decide)] at hQuery hFragment hTab hFeed hReturn
    exact ⟨⟨hFront, ⟨hQuery.1, hFragment.1⟩, hTab.1, hFeed.1, hReturn.1⟩,
      ⟨hBack, ⟨hQuery.2, hFragment.2⟩, hTab.2, hFeed.2, hReturn.2⟩⟩
  · rintro ⟨⟨hFront, hMarks, hLines⟩, ⟨hBack, hMarks', hLines'⟩⟩
    refine ⟨straight_append.2 ⟨hFront, hBack⟩, ⟨?_, ?_⟩, ?_, ?_, ?_⟩
    · exact (hMem (by decide)).2 ⟨hMarks.1, hMarks'.1⟩
    · exact (hMem (by decide)).2 ⟨hMarks.2, hMarks'.2⟩
    · exact (hMem (by decide)).2 ⟨hLines.1, hLines'.1⟩
    · exact (hMem (by decide)).2 ⟨hLines.2.1, hLines'.2.1⟩
    · exact (hMem (by decide)).2 ⟨hLines.2.2, hLines'.2.2⟩

/-! ## Reading a text with a slash in it -/

/-- What is kept of the start of an address. -/
def opening (cs : List Char) : List Char :=
  (cs.dropWhile fun c => c.toNat ≤ 32).filter fun c => c ≠ '\t' && c ≠ '\n' && c ≠ '\r'

theorem opening_subset (cs : List Char) : opening cs ⊆ cs := fun _ hc =>
  (List.dropWhile_sublist _).subset (List.mem_filter.1 hc).1

/-- What stands on both sides of a character that is no blank is cleaned on its own. -/
theorem cleaned_append {c : Char} (hc : 32 < c.toNat) (front back : List Char) :
    cleaned (front ++ c :: back) = opening front ++ c :: kept back := by
  have hVisible : decide (c.toNat ≤ 32) = false := by simpa using hc
  have hKept : (c ≠ '\t' && c ≠ '\n' && c ≠ '\r') = true := by
    have hNe (d : Char) (hd : d.toNat ≤ 32) : c ≠ d := fun hSame => by
      rw [hSame] at hc
      omega
    simp [hNe '\t' (by decide), hNe '\n' (by decide), hNe '\r' (by decide)]
  rw [cleaned, Text.dropWhile_append_cons hVisible, Text.dropEnd_append hVisible,
    List.filter_append, List.filter_cons, if_pos hKept, kept, opening]

/-- Behind a text without marks only what is read of the path is left. -/
theorem beforeMarks_cleaned {front : List Char} (h : '?' ∉ front ∧ '#' ∉ front)
    (back : List Char) :
    beforeMarks (cleaned (front ++ '/' :: back)) = opening front ++ '/' :: below back := by
  have hCut {c : Char} (hc : c ∉ front) (hSlash : c ≠ '/') (back : List Char) :
      (cut c (opening front ++ '/' :: back)).1 = opening front ++ '/' :: (cut c back).1 := by
    have hFront : c ∉ opening front ++ ['/'] := by
      simpa [hSlash] using fun hMem => hc (opening_subset front hMem)
    simpa using Text.cut_append hFront back
  rw [cleaned_append (by decide), beforeMarks, hCut h.2 (by decide), hCut h.1 (by decide), below,
    beforeMarks]

private theorem scheme?_append (front back : List Char) : scheme? (front ++ '/' :: back) =
    (scheme? front).map fun (scheme, rest) => (scheme, rest ++ '/' :: back) := by
  have hName := Text.takeWhile_append_cons (show isSchemeChar '/' = false by decide) front back
  have hLength : (front.takeWhile isSchemeChar).length ≤ front.length :=
    (List.takeWhile_sublist _).length_le
  rw [scheme?, scheme?, hName, List.drop_append_of_le_length hLength]
  cases front.drop (front.takeWhile isSchemeChar).length with
  | nil => rfl
  | cons c rest =>
      by_cases hc : c = ':'
      · subst hc
        simp only [List.cons_append]
        split_ifs <;> rfl
      · simp [hc]

/-- What stands before the marks gives the scheme, the host and the path. -/
theorem parse_eq (s : String) : ∃ (last : Bool) (query : String → Option String) (fragment : _),
    parse s = match scheme? (beforeMarks (cleaned s.toList)) with
      | none => .error .noScheme
      | some (scheme, rest) => (readHierarchy scheme last rest).map fun (authority, path) =>
          ⟨scheme, authority, path, query scheme, fragment⟩ := by
  let whole := cleaned s.toList
  let main := (cut '#' whole).1
  refine ⟨main = whole && '?' ∉ main, fun scheme => part '?'
    (if kindOf scheme = .other then Percent.inQuery else Percent.inWebQuery) main,
    part '#' Percent.inFragment whole, ?_⟩
  show (match scheme? (beforeMarks whole) with
    | none => Except.error Fault.noScheme
    | some (scheme, rest) => do
        let (authority, path) ← readHierarchy scheme (main = whole && '?' ∉ main) rest
        return Url.mk scheme authority path _ _) = _
  cases scheme? (beforeMarks whole) with
  | none => rfl
  | some found =>
      dsimp only
      cases readHierarchy found.1 (main = whole && '?' ∉ main) found.2 <;> rfl

private theorem hierarchy_of_parse {s : String} {u : Url} (h : parse s = .ok u) : ∃ rest last,
    scheme? (beforeMarks (cleaned s.toList)) = some (u.scheme, rest) ∧
      readHierarchy u.scheme last rest = .ok (u.authority, u.path) := by
  obtain ⟨last, query, fragment, hParse⟩ := parse_eq s
  rw [hParse] at h
  split at h
  · cases h
  · rename_i scheme rest hScheme
    cases hRead : readHierarchy scheme last rest with
    | error fault =>
        rw [hRead] at h
        cases h
    | ok parts =>
        rw [hRead] at h
        cases h
        exact ⟨rest, last, hScheme, hRead⟩

private theorem parse_of_hierarchy {s scheme : String} {rest : List Char}
    {authority : Option Authority} {path : Path}
    (hScheme : scheme? (beforeMarks (cleaned s.toList)) = some (scheme, rest))
    (hRead : ∀ last, readHierarchy scheme last rest = .ok (authority, path)) :
    ∃ u, parse s = .ok u ∧ u.scheme = scheme ∧ u.authority = authority ∧ u.path = path := by
  obtain ⟨last, query, fragment, hParse⟩ := parse_eq s
  rw [hScheme] at hParse
  simp only [hRead, Except.map] at hParse
  exact ⟨_, hParse, rfl, rfl, rfl⟩

/-- The scheme stands in front of the first slash, if no mark stands there. -/
theorem scheme_of_parse {s scheme : String} {u : Url} {front back : List Char}
    (hText : s.toList = front ++ '/' :: back) (hMarks : '?' ∉ front ∧ '#' ∉ front)
    (hScheme : (scheme? (opening front)).map Prod.fst = some scheme) (h : parse s = .ok u) :
    u.scheme = scheme := by
  obtain ⟨rest, last, hRead, -⟩ := hierarchy_of_parse h
  obtain ⟨found, hFound, rfl⟩ := Option.map_eq_some_iff.1 hScheme
  rw [hText, beforeMarks_cleaned hMarks, scheme?_append, hFound] at hRead
  exact (congrArg Prod.fst (Option.some.inj hRead)).symm

/-! ## The host and the path -/

variable {scheme : String}

private theorem readAuthority_nil (hWeb : kindOf scheme = .web) (last : Bool) :
    readAuthority scheme last [] = .error .emptyHost := by
  simp [readAuthority, splitUser, splitHost, hWeb]
  rfl

/-- Reading a web address: the host goes on up to the next slash, and the rest is its path. -/
theorem readHierarchy_web (hWeb : kindOf scheme = .web) (last : Bool) (cs : List Char) :
    readHierarchy scheme last cs =
      let start := cs.dropWhile (isSeparator .web)
      let path := start.dropWhile (!isSeparator .web ·)
      (readAuthority scheme (last && path.isEmpty) (start.takeWhile (!isSeparator .web ·))).map
        fun (authority, _) => (some authority, readPath .web path) := by
  unfold readHierarchy
  simp only [hWeb, splitPath]
  cases readAuthority scheme _ _ <;> rfl

/-- Slashes alone are no web address. -/
theorem readHierarchy_slashes (hWeb : kindOf scheme = .web) {r : List Char}
    (h : r.dropWhile (isSeparator .web) = []) (last : Bool) :
    readHierarchy scheme last (r ++ ['/']) = .error .emptyHost := by
  have hAll : (r ++ ['/']).dropWhile (isSeparator .web) = [] := by
    rw [List.dropWhile_append, h]
    rfl
  rw [readHierarchy_web hWeb, hAll]
  simp only [List.takeWhile_nil, readAuthority_nil hWeb]
  rfl

/-- What follows a slash behind a path comes last in it. -/
theorem readPath_append {path : List Char} (h : ∀ c ∈ path.head?, isSeparator .web c = true) :
    ∃ front, ∀ back, readPath .web (path ++ '/' :: back) =
      .segments (resolve .web [] (front ++ pieces .web back)) := by
  cases path with
  | nil => exact ⟨[], fun back => rfl⟩
  | cons c path =>
      refine ⟨pieces .web path, fun back => ?_⟩
      rw [List.cons_append, readPath, if_pos (h c rfl), pieces_web, forward, List.map_append,
        List.map_cons]
      exact congrArg (fun parts => Path.segments (resolve .web [] parts))
        (Text.split_append_cons _ _)

/-- What follows a slash behind the host does not change the host, and it comes last in the path. -/
theorem readHierarchy_append (hWeb : kindOf scheme = .web) {r : List Char}
    (h : r.dropWhile (isSeparator .web) ≠ []) : ∃ host front, ∀ last back,
      readHierarchy scheme last (r ++ '/' :: back) =
        (readAuthority scheme false host).map fun (authority, _) =>
          (some authority, .segments (resolve .web [] (front ++ pieces .web back))) := by
  let isOther (c : Char) : Bool := !isSeparator .web c
  let start := r.dropWhile (isSeparator .web)
  have hSlash : isOther '/' = false := by decide
  have hFirst : ∀ c ∈ (start.dropWhile isOther).head?, isSeparator .web c = true := fun c hc => by
    simpa [isOther] using Text.head?_dropWhile start c hc
  obtain ⟨front, hPath⟩ := readPath_append hFirst
  refine ⟨start.takeWhile isOther, front, fun last back => ?_⟩
  have hStart : (r ++ '/' :: back).dropWhile (isSeparator .web) = start ++ '/' :: back := by
    rw [List.dropWhile_append, if_neg (by simpa using h)]
  have hMore : (start.dropWhile isOther ++ '/' :: back).isEmpty = false :=
    Bool.eq_false_iff.2 fun hEmpty => by simp at hEmpty
  rw [readHierarchy_web hWeb, hStart]
  dsimp only
  rw [Text.takeWhile_append_cons hSlash, Text.dropWhile_append_cons hSlash, hPath, hMore,
    Bool.and_false]

/-! ## Below an address -/

/-- A URL is below an address by a path, if `front` is the path of the address. -/
structure Below (home : Url) (front : List (List Char)) (p : List Char) (u : Url) : Prop where
  scheme : u.scheme = home.scheme
  authority : u.authority = home.authority
  path : u.path = .segments (resolve .web [] (front ++ pieces .web (below p)))

/-- **A path below an address** is read on from the path of the address. -/
theorem parse_below {base : String} {home : Url} (hMarks : '?' ∉ base.toList ∧ '#' ∉ base.toList)
    (h : parse (base ++ "/") = .ok home) (hWeb : kindOf home.scheme = .web) :
    home.authority.isSome = true ∧ ∃ front, ∀ p : String, ∃ u,
      parse (base ++ "/" ++ p) = .ok u ∧ Below home front p.toList u := by
  have hBelow (p : String) : beforeMarks (cleaned (base ++ "/" ++ p).toList) =
      opening base.toList ++ '/' :: below p.toList := by
    rw [← beforeMarks_cleaned hMarks]
    simp
  obtain ⟨rest, last, hScheme, hRead⟩ := hierarchy_of_parse h
  have hEmpty := hBelow ""
  rw [String.append_empty] at hEmpty
  rw [hEmpty, scheme?_append, Option.map_eq_some_iff] at hScheme
  obtain ⟨⟨scheme, r⟩, hScheme, hSame⟩ := hScheme
  obtain ⟨rfl, rfl⟩ := Prod.mk.inj hSame
  by_cases hSlashes : r.dropWhile (isSeparator .web) = []
  · have hNone := readHierarchy_slashes hWeb hSlashes last
    cases hRead.symm.trans hNone
  · obtain ⟨host, front, hHierarchy⟩ := readHierarchy_append hWeb hSlashes
    rw [hHierarchy] at hRead
    cases hAuthority : readAuthority home.scheme false host with
    | error fault =>
        rw [hAuthority] at hRead
        cases hRead
    | ok found =>
        rw [hAuthority] at hRead
        obtain ⟨hHost, -⟩ := Prod.mk.inj (Except.ok.inj hRead)
        refine ⟨hHost ▸ rfl, front, fun p => ?_⟩
        have hPath : scheme? (beforeMarks (cleaned (base ++ "/" ++ p).toList)) =
            some (home.scheme, r ++ '/' :: below p.toList) := by
          rw [hBelow, scheme?_append, hScheme]
          rfl
        obtain ⟨u, hParse, hSame⟩ := parse_of_hierarchy hPath fun last => by
          rw [hHierarchy, hAuthority]
          rfl
        exact ⟨u, hParse, hSame.1, hSame.2.1.trans hHost, hSame.2.2⟩

variable {home u : Url} {front : List (List Char)} {p : List Char}

/-- Pairs that are added to the query do not change the path. -/
theorem Below.addPairs (h : Below home front p u) (added : List (String × String)) :
    Below home front p (u.addPairs added).dropEmptyQuery := by
  unfold dropEmptyQuery Url.addPairs
  split_ifs
  all_goals exact ⟨h.scheme, h.authority, h.path⟩

/-- The path of a target, below that of an address, stands for a text. -/
def PathDecodes (home : Url) (target : String) (p : List Char) : Prop :=
  ∃ rest, (cut '?' target.toList).1 = home.path.text.toList ++ rest ∧
    Percent.bytes rest = encode p

/-- A target and an address have one such text only. -/
theorem PathDecodes.unique {target : String} {p q : List Char} (hp : PathDecodes home target p)
    (hq : PathDecodes home target q) : p = q := by
  obtain ⟨rest, hRest, hp⟩ := hp
  obtain ⟨rest', hRest', hq⟩ := hq
  rw [hRest, List.append_cancel_left_eq] at hRest'
  rw [hRest', hq] at hp
  exact (Text.Utf8.encode_inj.1 hp).symm

private theorem notMem_text (parts : List (List Char)) :
    '?' ∉ (Path.segments (resolve .web [] parts)).text.toList := by
  rw [text_segments, slashed, List.mem_flatMap]
  rintro ⟨part, hPart, hMem⟩
  obtain ⟨s, hs, rfl⟩ := List.mem_map.1 hPart
  rcases mem_resolve hs with hs | rfl | ⟨cs, rfl⟩
  · cases hs
  · simp at hMem
  · have hNone := Percent.notMem_encode (show inPath '?' = true by decide) (by decide) cs
    simp [hNone] at hMem

private theorem Below.text_path (h : Below home front p u) : u.path.text.toList =
    slashed (texts (resolve .web (front.foldl enter []) (pieces .web (below p)))) := by
  have hParts : pieces .web (below p) ≠ [] := Text.split_ne_nil '/' _
  rw [h.path, text_segments, resolve_append hParts]

/-- The path of the address itself ends with a slash. -/
theorem Below.text_home (h : Below home front [] home) :
    home.path.text.toList = slashed (texts (front.foldl enter [])) ++ ['/'] := by
  have hName : ∀ cs ∈ ([[]] : List (List Char)), ¬IsDots cs := by simp [IsDots, dots]
  have hLast (root : List String) : resolve .web root (pieces .web (below [])) = root ++ [""] :=
    resolve_names hName root
  rw [h.text_path, hLast, texts, List.map_append, slashed_append, texts]
  rfl

/-- The path of a target goes up to the query. -/
theorem Below.path_of_target (h : Below home front p u) :
    (cut '?' u.target.toList).1 = u.path.text.toList := by
  have hQuery : (cut '?' (marked "?" u.query).toList).1 = [] := by
    cases u.query with
    | none => rfl
    | some query => simp [marked, cut]
  have hPath : '?' ∉ u.path.text.toList := h.path ▸ notMem_text _
  rw [target, String.toList_append, Text.cut_append hPath, hQuery, List.append_nil]

/-- **A path is found again in its address** exactly if it spells out what it is and does not end
in a blank. -/
theorem Below.decodes_iff (hHome : Below home front [] home) (h : Below home front p u) :
    PathDecodes home u.target p ↔ Spelled p ∧ EndsVisibly p := by
  have hSpelled : Spelled p ∧ EndsVisibly p ↔ below p = p ∧ Straight p := by
    rw [below_eq_self]
    exact ⟨fun ⟨⟨hStraight, hMarks, hLines⟩, hEnd⟩ => ⟨⟨⟨hMarks, hLines⟩, hEnd⟩, hStraight⟩,
      fun ⟨⟨⟨hMarks, hLines⟩, hEnd⟩, hStraight⟩ => ⟨⟨hStraight, hMarks, hLines⟩, hEnd⟩⟩
  rw [hSpelled, ← stands_for_iff (below_sublist p) (front.foldl enter []), PathDecodes,
    h.path_of_target, h.text_path, hHome.text_home]
  simp only [List.append_assoc, List.singleton_append]

/-! ## Requests -/

/-- Whether a request can be made for a web address depends on its host, and on how long it is. -/
theorem isStrict_web (authority rest : List Char) :
    Strict.isStrict ("http://".toList ++ (authority ++ '/' :: rest)) = true ↔
      ("http://".toList ++ (authority ++ '/' :: rest)).length ≤ Strict.maxLength ∧
        authority.takeWhile (fun c => !Strict.endsAuthority c) ≠ [] ∧
        Strict.isAuthority (authority.takeWhile fun c => !Strict.endsAuthority c) = true := by
  have hHost : (authority ++ '/' :: rest).takeWhile (fun c => !Strict.endsAuthority c) =
      authority.takeWhile fun c => !Strict.endsAuthority c :=
    Text.takeWhile_append_cons (by decide) _ _
  have hScheme : ("http://".toList ++ (authority ++ '/' :: rest)).takeWhile (· ≠ ':') =
      "http".toList := by simp
  have hRest : ("http://".toList ++ (authority ++ '/' :: rest)).drop "http".toList.length =
      ':' :: '/' :: '/' :: (authority ++ '/' :: rest) := rfl
  rw [Strict.isStrict, hScheme, hRest]
  simp only [hHost]
  simp [Strict.maxScheme]

/-- The text of a web address with a path. -/
theorem toList_text (hScheme : u.scheme = "http") {authority : Authority}
    (hAuthority : u.authority = some authority) {parts : List (List Char)} (hParts : parts ≠ [])
    (hPath : u.path = .segments (resolve .web [] parts)) : ∃ rest, u.text.toList =
      "http://".toList ++ (authority.text.toList ++ '/' :: rest) := by
  obtain ⟨name, names, hNames⟩ := List.exists_cons_of_ne_nil (resolve_ne_nil hParts [])
  have hGuard : u.guard = "" := by rw [guard, hAuthority]
  have hText : u.path.text.toList = '/' :: (name.toList ++ slashed (texts names)) := by
    rw [hPath, hNames, text_segments, texts, List.map_cons, slashed_cons, texts]
  refine ⟨name.toList ++ slashed (texts names) ++
    ((marked "?" u.query).toList ++ (marked "#" u.fragment).toList), ?_⟩
  rw [text, target, hGuard, hScheme, hAuthority]
  simp [marked, hText]

/-- **A request can be made** for an address below another if it is not too long. -/
theorem Below.isStrict_iff (hHome : Below home front [] home) (h : Below home front p u)
    (hScheme : home.scheme = "http") (hAuthority : home.authority.isSome = true)
    (hStrict : home.isStrict = true) :
    u.isStrict = true ↔ u.text.length ≤ Strict.maxLength := by
  obtain ⟨authority, hAuthority⟩ := Option.isSome_iff_exists.1 hAuthority
  have hParts (cs : List Char) : front ++ pieces .web cs ≠ [] :=
    List.append_ne_nil_of_right_ne_nil front (Text.split_ne_nil '/' _)
  obtain ⟨rest, hHomeText⟩ := toList_text hScheme hAuthority (hParts _) hHome.path
  obtain ⟨rest', hText⟩ := toList_text (h.scheme.trans hScheme) (h.authority.trans hAuthority)
    (hParts _) h.path
  rw [isStrict, hHomeText, isStrict_web] at hStrict
  rw [isStrict, ← String.length_toList, hText, isStrict_web, and_iff_left hStrict.2]

end Url

end Mailroom
