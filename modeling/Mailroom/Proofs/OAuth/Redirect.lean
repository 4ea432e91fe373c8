import Mailroom.OAuth.Code
import Mailroom.Proofs.Url.Query
import Mathlib.Data.List.Basic

/-!
# The code in a redirect

After consent the browser is sent to an address with the code among its parameters, and the user
pastes that address, maybe with blanks around it. The parameters are written as a form, so each of
them is read as it was, whatever characters it has; and the code is the first one of that name. The
path in front of the parameters makes no difference, as long as there is no mark in it, and neither
does the site, as long as it is one.
-/

namespace Mailroom.OAuth.Code

variable {s input code : String}

/-! ## What is found -/

theorem ofAddress_eq_ok : ofAddress s = .ok code ↔
    ∃ url, Url.parse s = .ok url ∧ url.pairs.lookup "code" = some code := by
  unfold ofAddress
  cases Url.parse s with
  | error fault => simp
  | ok url => cases hCode : url.pairs.lookup "code" <;> simp [hCode]

/-- A code is found in a line that is not blank, in its address or alone. -/
theorem extract_eq_ok : extract input = .ok code ↔ trimmed input ≠ "" ∧
    (isAddress (trimmed input) = true ∧ ofAddress (trimmed input) = .ok code ∨
      isAddress (trimmed input) = false ∧ trimmed input = code) := by
  unfold extract
  by_cases hBlank : trimmed input = ""
  · simp [hBlank]
  · by_cases hAddress : isAddress (trimmed input) = true
    · simp [hBlank, hAddress]
    · simp [hBlank, hAddress]

/-! ## Web addresses -/

private theorem isAddress_iff : isAddress s = true ↔
    "http://".toList <+: s.toList ∨ "https://".toList <+: s.toList := by
  simp only [isAddress, Bool.or_eq_true, String.startsWith_string_iff]

/-- A longer text still starts like a web address. -/
theorem isAddress_append (h : isAddress s = true) (t : String) : isAddress (s ++ t) = true := by
  have hLonger : s.toList <+: (s ++ t).toList := by
    rw [String.toList_append]
    exact List.prefix_append _ _
  rw [isAddress_iff] at h ⊢
  exact h.imp (·.trans hLonger) (·.trans hLonger)

/-- Web addresses start with a letter. -/
theorem head?_of_isAddress (h : isAddress s = true) : s.toList.head? = some 'h' := by
  rcases isAddress_iff.1 h with ⟨rest, hText⟩ | ⟨rest, hText⟩
  · rw [← hText]
    rfl
  · rw [← hText]
    rfl

/-- What starts like a web address is read as one. -/
theorem web_of_isAddress {u : Url} (h : isAddress s = true) (hParse : Url.parse s = .ok u) :
    Url.kindOf u.scheme = .web := by
  rcases isAddress_iff.1 h with ⟨rest, hText⟩ | ⟨rest, hText⟩
  · have hSlash : s.toList = "http:".toList ++ '/' :: '/' :: rest := hText.symm
    have hScheme : u.scheme = "http" :=
      Url.scheme_of_parse hSlash (by decide) (by decide) hParse
    rw [hScheme]
    decide
  · have hSlash : s.toList = "https:".toList ++ '/' :: '/' :: rest := hText.symm
    have hScheme : u.scheme = "https" :=
      Url.scheme_of_parse hSlash (by decide) (by decide) hParse
    rw [hScheme]
    decide

/-! ## Redirects -/

/-- A text with neither of the marks that end a path. -/
def Unmarked (s : String) : Prop := '?' ∉ s.toList ∧ '#' ∉ s.toList

/-- A site on the web: with a slash behind it, it is an address. -/
structure IsSite (site : String) : Prop where
  web : isAddress site = true
  unmarked : Unmarked site
  valid : ∃ home, Url.parse (site ++ "/") = .ok home

/-- The address of a path at a site, with parameters. -/
def redirect (site path : String) (ps : List (String × String)) : String :=
  site ++ "/" ++ path ++ "?" ++ String.ofList (Url.Form.write ps)

variable {site path : String} {ps : List (String × String)}

/-- The parameters stand behind the first mark. -/
theorem toList_redirect (site path : String) (ps : List (String × String)) :
    (redirect site path ps).toList =
      (site ++ "/" ++ path).toList ++ '?' :: Url.Form.write ps := by
  simp [redirect]

/-- There is no blank among the parameters. -/
theorem isBlank_of_mem {c : Char} (h : c ∈ '?' :: Url.Form.write ps) :
    Text.isBlank c = false := by
  rcases List.mem_cons.1 h with rfl | hWritten
  · decide
  · obtain ⟨hVisible, hAscii, -⟩ := Url.query_char (Url.Form.isWritten_of_mem_write hWritten)
    simp only [Text.isBlank, Bool.or_eq_false_iff, Bool.and_eq_false_iff, decide_eq_false_iff_not,
      beq_eq_false_iff_ne]
    omega

private theorem isAddress_redirect (h : IsSite site) (path : String) (ps : List (String × String)) :
    isAddress (redirect site path ps) = true := by
  simp only [redirect, String.append_assoc]
  exact isAddress_append h.web _

/-- A redirect neither starts nor ends with a blank. -/
theorem trimmed_redirect (h : IsSite site) (path : String) (ps : List (String × String))
    {lead trail : String} (hLead : ∀ c ∈ lead.toList, Text.isBlank c = true)
    (hTrail : ∀ c ∈ trail.toList, Text.isBlank c = true) :
    trimmed (lead ++ redirect site path ps ++ trail) = redirect site path ps := by
  have hFirst : ∀ c ∈ (redirect site path ps).toList.head?, Text.isBlank c = false := by
    rw [head?_of_isAddress (isAddress_redirect h path ps)]
    rintro c ⟨⟩
    decide
  have hLast : ∀ c ∈ (redirect site path ps).toList.getLast?, Text.isBlank c = false := by
    intro c hc
    rw [toList_redirect, List.getLast?_append_of_ne_nil _ (List.cons_ne_nil _ _)] at hc
    exact isBlank_of_mem (List.mem_of_getLast? hc)
  rw [trimmed, String.toList_append, String.toList_append,
    Text.trim_append hLead hTrail hFirst hLast, String.ofList_toList]

/-- **The code of a redirect** is the first parameter of that name. -/
theorem ofAddress_redirect (h : IsSite site) (hPath : Unmarked path)
    (hCode : ps.lookup "code" = some code) : ofAddress (redirect site path ps) = .ok code := by
  obtain ⟨home, hHome⟩ := h.valid
  have hFront : '?' ∉ (site ++ "/" ++ path).toList ∧ '#' ∉ (site ++ "/" ++ path).toList := by
    simp [h.unmarked.1, h.unmarked.2, hPath.1, hPath.2]
  have hWeb := web_of_isAddress (isAddress_append h.web "/") hHome
  obtain ⟨-, front, hBelow⟩ := Url.parse_below h.unmarked hHome hWeb
  obtain ⟨url, hParse, hUrl⟩ := hBelow (path ++ "?" ++ String.ofList (Url.Form.write ps))
  have hText : site ++ "/" ++ (path ++ "?" ++ String.ofList (Url.Form.write ps)) =
      redirect site path ps := by
    simp only [redirect, String.append_assoc]
  rw [hText] at hParse
  have hPairs : url.pairs = ps :=
    Url.pairs_of_parse (toList_redirect site path ps) hFront hParse (hUrl.scheme ▸ hWeb)
  rw [← hPairs] at hCode
  exact ofAddress_eq_ok.2 ⟨url, hParse, hCode⟩

/-- The first parameter of that name, behind parameters of other names. -/
theorem lookup_code {before : List (String × String)} (hBefore : ∀ p ∈ before, p.1 ≠ "code")
    (code : String) (after : List (String × String)) :
    (before ++ ("code", code) :: after).lookup "code" = some code :=
  List.lookup_eq_some_iff.2
    ⟨before, after, rfl, fun p hp => bne_iff_ne.2 fun hName => hBefore p hp hName.symm⟩

/-- **The code is found again.** Whatever a code is, and whatever parameters of other names stand
in front of it and behind it, it is the code of any redirect with these parameters, with blanks
around it or without. A text that does not start like a web address is the code itself, but for
the blanks around it. -/
theorem extract_redirect :
    (∀ (site path : String) (before after : List (String × String)) (code lead trail : String),
      IsSite site → Unmarked path → (∀ p ∈ before, p.1 ≠ "code") →
      (∀ c ∈ lead.toList, Text.isBlank c = true) → (∀ c ∈ trail.toList, Text.isBlank c = true) →
      extract (lead ++ redirect site path (before ++ ("code", code) :: after) ++ trail) =
        .ok code) ∧
    ∀ input : String, trimmed input ≠ "" → isAddress (trimmed input) = false →
      extract input = .ok (trimmed input) := by
  refine ⟨?_, fun _ hFilled hPlain => extract_plain hFilled hPlain⟩
  intro site path before after code lead trail hSite hPath hBefore hLead hTrail
  have hTrimmed := trimmed_redirect hSite path (before ++ ("code", code) :: after) hLead hTrail
  have hAddress := isAddress_redirect hSite path (before ++ ("code", code) :: after)
  have hFilled : redirect site path (before ++ ("code", code) :: after) ≠ "" := fun hNone => by
    rw [hNone] at hAddress
    exact absurd hAddress (by decide +kernel)
  rw [extract_eq_ok, hTrimmed]
  exact ⟨hFilled, .inl ⟨hAddress, ofAddress_redirect hSite hPath (lookup_code hBefore code after)⟩⟩

/-- A code of other characters than those a form is written with, sent to a program on the same
machine, and one that is pasted alone. -/
theorem extract_redirect_port :
    IsSite "http://localhost:8080" ∧ Unmarked "auth/done" ∧
      redirect "http://localhost:8080" "auth/done"
          [("state", "x y"), ("code", "4/0A+b%é"), ("scope", "a&b")] =
        "http://localhost:8080/auth/done?state=x+y&code=4%2F0A%2Bb%25%C3%A9&scope=a%26b" ∧
      extract (" " ++ redirect "http://localhost:8080" "auth/done"
          ([("state", "x y")] ++ ("code", "4/0A+b%é") :: [("scope", "a&b")]) ++ "\n") =
        .ok "4/0A+b%é" ∧
      extract " 4/0A+b%é\n" = .ok (trimmed " 4/0A+b%é\n") := by
  have hSite : IsSite "http://localhost:8080" := {
    web := by decide +kernel
    unmarked := by
      unfold Unmarked
      decide
    valid := ⟨⟨"http", some ⟨"", "", .name "localhost", some 8080⟩, .segments [""], none, none⟩,
      by decide +kernel⟩ }
  have hPath : Unmarked "auth/done" := by
    unfold Unmarked
    decide
  exact ⟨hSite, hPath, by decide +kernel,
    extract_redirect.1 _ _ _ _ _ _ _ hSite hPath (by decide)
      (List.all_eq_true.1 (by decide)) (List.all_eq_true.1 (by decide)),
    extract_redirect.2 _ (by decide) (by decide +kernel)⟩

end Mailroom.OAuth.Code
