import Mailroom.Proofs.Provider.Schedule
import Mailroom.Proofs.Sync.Walk
import Mailroom.Proofs.Text.Numeral

/-!
# How a mailbox is listed

Listing and fetching leave a mailbox as it was, so a walk through it can be
made again, and the messages that are fetched are those that it keeps. A
mailbox without failures, whose pages name only ids that are there, is listed
to the end: each token spells a larger number than the one before, and none
reaches the number of messages or pages.

With a schedule, the walks are those of the provider behind it.
-/

namespace Mailroom.Mailbox

/-! ## Mailboxes as they are kept -/

/-- Each message is kept under its own id. A mailbox that is filled with
messages under their ids stays so, whatever is removed or relabelled. -/
def Keyed (b : Mailbox) : Prop := ∀ id m, b.find? id = some m → m.id = id

theorem keyed_empty : empty.Keyed := by
  intro id m h
  cases h

private theorem lookup_putSorted_ne {key id : String} (h : id ≠ key) (m : Message)
    (ms : List (String × Message)) :
    (putSorted key m ms).lookup id = ms.lookup id := by
  have hOther : (id == key) = false := by simpa using h
  induction ms with
  | nil => simp [putSorted, List.lookup_cons, hOther]
  | cons p r ih =>
      obtain ⟨k, x⟩ := p
      unfold putSorted
      split
      · rename_i hSame
        subst hSame
        simp [List.lookup_cons, hOther]
      · split
        · simp [List.lookup_cons, hOther]
        · simp [List.lookup_cons, ih]

theorem find?_put_ne {b : Mailbox} {key id : String} (h : id ≠ key)
    (m : Message) : (b.put key m).find? id = b.find? id :=
  lookup_putSorted_ne h m b.messages

/-- Putting messages under their ids keeps a mailbox keyed. -/
theorem Keyed.put {b : Mailbox} (h : b.Keyed) (m : Message) :
    (b.put m.id m).Keyed := by
  intro id m' hFind
  by_cases hId : id = m.id
  · subst hId
    rw [find?_put_self] at hFind
    cases hFind
    rfl
  · refine h id m' ?_
    rwa [find?_put_ne hId] at hFind

theorem Keyed.changeLabels {b : Mailbox} (h : b.Keyed) (key : String)
    (change : Rule.LabelChange) : (b.changeLabels key change).Keyed := by
  intro id m hFind
  by_cases hId : id = key
  · subst hId
    rw [find?_changeLabels_self] at hFind
    obtain ⟨m', hOld, rfl⟩ := Option.map_eq_some_iff.1 hFind
    exact h id m' hOld
  · rw [find?_changeLabels_ne hId] at hFind
    exact h id m hFind

/-- A mailbox without failures, whose pages name only what is there. -/
structure Reliable (b : Mailbox) : Prop where
  failures : b.failures = []
  present : ∀ pages, b.pages = some pages →
    ∀ ids ∈ pages, ∀ id ∈ ids, ∃ m, b.find? id = some m

private theorem Reliable.list_eq {b : Mailbox} (h : b.Reliable) (token : Option String)
    (size : Nat) : provider.list token size b = (.ok (b.page token size), b) := by
  simp only [provider, call, failure?_of_nil h.failures]

theorem get_of_find? {b : Mailbox} (h : b.failures = []) {id : String}
    {m : Message} (hFind : b.find? id = some m) :
    provider.get id b = (.ok m, b) := by
  simp only [provider, call, failure?_of_nil h, hFind]

private theorem exists_of_mem_keys {b : Mailbox} {id : String} (h : id ∈ b.keys) :
    ∃ m, b.find? id = some m := by
  unfold keys at h
  unfold find?
  generalize b.messages = ms at h ⊢
  induction ms with
  | nil => cases h
  | cons p r ih =>
      obtain ⟨k, x⟩ := p
      by_cases hSame : id = k
      · exact ⟨x, by simp [hSame]⟩
      · have hOther : (id == k) = false := by simpa using hSame
        rw [List.lookup_cons, hOther]
        refine ih ?_
        rw [List.map_cons, List.mem_cons] at h
        exact h.resolve_left hSame

/-- What a reliable mailbox lists is there. -/
theorem Reliable.find_of_listed {b : Mailbox} (h : b.Reliable)
    {token : Option String} {size : Nat} {id : String}
    (hid : id ∈ (b.page token size).ids) : ∃ m, b.find? id = some m := by
  unfold page at hid
  cases hPages : b.pages with
  | none =>
      simp only [hPages] at hid
      exact exists_of_mem_keys (List.mem_of_mem_drop (List.mem_of_mem_take hid))
  | some pages =>
      simp only [hPages, List.getD_getElem?] at hid
      split at hid
      · exact h.present pages hPages _ (List.getElem_mem _) id hid
      · cases hid

/-! ## Tokens -/

/-- Where the page of a token starts. -/
def start (token : Option String) : Nat :=
  (token.bind fun t => Text.unsigned? t.toList).getD 0

theorem start_natText (n : Nat) : start (some (natText n)) = n := by
  rw [start, Option.bind_some, Text.unsigned?_natText, Option.getD_some]

/-- How many messages, or pages, come after the start of a token's page. -/
def pagesAfter (b : Mailbox) (token : Option String) : Nat :=
  (b.pages.elim b.messages.length List.length) - start token

private theorem pagesAfter_none (b : Mailbox) :
    b.pagesAfter none + 1 = provider.pagesLeft b := by
  simp only [pagesAfter, provider, start]
  cases b.pages with
  | none => rfl
  | some pages => rfl

theorem nextToken_of_none {b : Mailbox} (h : b.pages = none)
    (token : Option String) (size : Nat) :
    (b.page token size).nextToken =
      if start token + min size (b.messages.length - start token) <
        b.messages.length
      then some (natText
        (start token + min size (b.messages.length - start token)))
      else none := by
  have hLength : ((b.keys.drop (start token)).take size).length =
      min size (b.messages.length - start token) := by
    rw [List.length_take, List.length_drop, keys, List.length_map]
  rw [← hLength]
  simp only [page, h]
  rfl

theorem nextToken_of_some {b : Mailbox} {pages : List (List String)}
    (h : b.pages = some pages) (token : Option String) (size : Nat) :
    (b.page token size).nextToken =
      if start token + 1 < pages.length then some (natText (start token + 1))
      else none := by
  simp only [page, h]
  rfl

/-- The ids on the pages from this start on. -/
def listedFrom (b : Mailbox) (start : Nat) : List String :=
  b.pages.elim (b.keys.drop start) fun pages => (pages.drop start).flatten

/-- The ids that are listed: all keys, unless the pages are laid out. -/
def listed (b : Mailbox) : List String := b.listedFrom 0

theorem listed_of_none {b : Mailbox} (h : b.pages = none) : b.listed = b.keys := by
  rw [listed, listedFrom, h, Option.elim_none, List.drop_zero]

/-- What is listed from a token on is its page and what is listed from the next
token on. -/
theorem listedFrom_start (b : Mailbox) (token : Option String) (size : Nat) :
    b.listedFrom (start token) = (b.page token size).ids ++
      (b.page token size).nextToken.elim [] fun next =>
        b.listedFrom (start (some next)) := by
  unfold listedFrom
  cases hPages : b.pages with
  | none =>
      have hIds : (b.page token size).ids =
          (b.keys.drop (start token)).take size := by
        simp only [page, hPages]
        rfl
      have hKeys : b.keys.length = b.messages.length := List.length_map _
      rw [nextToken_of_none hPages, hIds]
      simp only [Option.elim_none]
      split
      · rename_i hMore
        have hNext : min size (b.messages.length - start token) = size := by omega
        rw [Option.elim_some, start_natText, hNext, ← List.drop_drop,
          List.take_append_drop]
      · rename_i hLast
        rw [Option.elim_none, List.append_nil, List.take_of_length_le]
        rw [List.length_drop, hKeys]
        omega
  | some pages =>
      have hIds : (b.page token size).ids = pages[start token]?.getD [] := by
        simp only [page, hPages]
        rfl
      have hFirst : (pages.drop (start token)).flatten =
          pages[start token]?.getD [] ++ (pages.drop (start token + 1)).flatten := by
        by_cases hStart : start token < pages.length
        · rw [List.drop_eq_getElem_cons hStart, List.flatten_cons,
            List.getElem?_eq_getElem hStart, Option.getD_some]
        · have hOver := Nat.le_of_not_lt hStart
          rw [List.drop_eq_nil_of_le hOver, List.getElem?_eq_none hOver,
            List.drop_eq_nil_of_le (Nat.le_succ_of_le hOver)]
          rfl
      rw [nextToken_of_some hPages, hIds]
      simp only [Option.elim_some]
      rw [hFirst]
      split
      · rw [Option.elim_some, start_natText]
      · rename_i hLast
        rw [Option.elim_none, List.drop_eq_nil_of_le (Nat.le_of_not_lt hLast)]
        rfl

/-- The page that a page names starts after it. -/
theorem pagesAfter_lt (b : Mailbox) {token : Option String} {size : Nat}
    (hSize : 1 ≤ size) {next : String}
    (h : (b.page token size).nextToken = some next) :
    b.pagesAfter (some next) < b.pagesAfter token := by
  unfold pagesAfter
  cases hPages : b.pages with
  | none =>
      rw [nextToken_of_none hPages] at h
      split at h
      · cases h
        rw [start_natText, Option.elim_none]
        omega
      · cases h
  | some pages =>
      rw [nextToken_of_some hPages] at h
      split at h
      · cases h
        rw [start_natText, Option.elim_some]
        omega
      · cases h

end Mailroom.Mailbox

namespace Mailroom.Sync

open Mailroom.Mailbox (provider)

variable {σ : Type}

/-! ## Schedules -/

private theorem scheduled_ok {α : Type} {c : Call σ α} {s s' : Scheduled σ} {a : α}
    (h : c.scheduled s = (.ok a, s')) : c s.state = (.ok a, s'.state) := by
  rcases Call.scheduled_cases h with ⟨stop, hStop, -⟩ | hMade
  · cases hStop
  · exact hMade

/-- A walk that the schedule lets through is a walk of the provider behind. -/
theorem Walk.behind {p : Provider σ} {size limit : Nat} {token : Option String}
    {seen : List String} {s s' : Scheduled σ} {pages : List IdPage}
    {truncated : Bool}
    (h : Walk p.scheduled size limit token seen s pages truncated s') :
    Walk p size limit token seen s.state pages truncated s'.state := by
  induction h with
  | last list more => exact .last (scheduled_ok list) more
  | cut list more reached => exact .cut (scheduled_ok list) more reached
  | next list more below rest ih => exact .next (scheduled_ok list) more below ih

theorem Fetches.behind {p : Provider σ} {ids : List String} {s s' : Scheduled σ}
    {ms : List Message} (h : Fetches p.scheduled ids s ms s') :
    Fetches p ids s.state ms s'.state := by
  induction h with
  | nil => exact .nil
  | cons get rest ih => exact .cons (scheduled_ok get) ih

private theorem scheduled_nil {α : Type} {c : Call σ α} {r r' : σ}
    {result : Except Stop α} (h : c r = (result, r')) :
    c.scheduled ⟨r, []⟩ = (result, ⟨r', []⟩) := by
  show ((c r).1, (⟨(c r).2, []⟩ : Scheduled σ)) = _
  rw [h]

/-- With nothing scheduled, the walks are all there. -/
theorem Walk.scheduled {p : Provider σ} {size limit : Nat} {token : Option String}
    {seen : List String} {r r' : σ} {pages : List IdPage} {truncated : Bool}
    (h : Walk p size limit token seen r pages truncated r') :
    Walk p.scheduled size limit token seen ⟨r, []⟩ pages truncated ⟨r', []⟩ := by
  induction h with
  | last list more => exact .last (scheduled_nil list) more
  | cut list more reached => exact .cut (scheduled_nil list) more reached
  | next list more below rest ih => exact .next (scheduled_nil list) more below ih

theorem Fetches.scheduled {p : Provider σ} {ids : List String} {r r' : σ}
    {ms : List Message} (h : Fetches p ids r ms r') :
    Fetches p.scheduled ids ⟨r, []⟩ ms ⟨r', []⟩ := by
  induction h with
  | nil => exact .nil
  | cons get rest ih => exact .cons (scheduled_nil get) ih

theorem Carries.scheduled {p : Provider σ} {o : Options} {s : Scheduled σ}
    (h : Carries p o s.state) : Carries p.scheduled o s := by
  intro pages truncated s₁ ids fetched s₂ hWalk hFetches id hid m s₃ hGet
  exact h hWalk.behind hFetches.behind id hid m _ (scheduled_ok hGet)

/-! ## Mailboxes -/

/-- A walk leaves a mailbox as it was, and goes through its pages. -/
theorem Walk.same {size limit : Nat} {token : Option String}
    {seen : List String} {b b' : Mailbox} {pages : List IdPage} {truncated : Bool}
    (h : Walk provider size limit token seen b pages truncated b') :
    b' = b ∧ ∀ page ∈ pages, ∃ token, page = b.page token size := by
  induction h with
  | last list more =>
      obtain ⟨hSame, hPage⟩ := Mailbox.list_cases list
      exact ⟨hSame, fun page hp => ⟨_, (List.mem_singleton.1 hp).trans (hPage _ rfl)⟩⟩
  | cut list more reached =>
      obtain ⟨hSame, hPage⟩ := Mailbox.list_cases list
      exact ⟨hSame, fun page hp => ⟨_, (List.mem_singleton.1 hp).trans (hPage _ rfl)⟩⟩
  | next list more below rest ih =>
      obtain ⟨rfl, hPage⟩ := Mailbox.list_cases list
      obtain ⟨hSame, hPages⟩ := ih
      refine ⟨hSame, fun page hp => ?_⟩
      rcases List.mem_cons.1 hp with rfl | hp
      · exact ⟨_, hPage _ rfl⟩
      · exact hPages page hp

/-- Without a limit, a walk goes on to the end. -/
theorem Walk.whole_of_unlimited {p : Provider σ} {size : Nat}
    {token : Option String} {seen : List String} {r r' : σ}
    {pages : List IdPage} {truncated : Bool}
    (h : Walk p size 0 token seen r pages truncated r') : truncated = false := by
  generalize hLimit : 0 = limit at h
  induction h with
  | last list more => rfl
  | cut list more reached => exact absurd hLimit.symm reached.1
  | next list more below rest ih => exact ih

/-- A walk to the end goes through all ids from its token on. -/
theorem Walk.ids_of_whole {size limit : Nat} {token : Option String}
    {seen : List String} {b b' : Mailbox} {pages : List IdPage}
    (h : Walk provider size limit token seen b pages false b') :
    idsOf pages = b.listedFrom (Mailbox.start token) := by
  generalize hEnd : false = truncated at h
  induction h with
  | cut => cases hEnd
  | last list more =>
      obtain ⟨-, hPage⟩ := Mailbox.list_cases list
      rw [hPage _ rfl] at more ⊢
      rw [Mailbox.listedFrom_start _ _ size, more, Option.elim_none,
        List.append_nil, idsOf, List.flatMap_singleton]
  | next list more below rest ih =>
      obtain ⟨rfl, hPage⟩ := Mailbox.list_cases list
      rw [hPage _ rfl] at more ⊢
      rw [Mailbox.listedFrom_start _ _ size, more, Option.elim_some, ← ih hEnd]
      rfl

/-- Fetching leaves a mailbox as it was, and gives what it keeps. -/
theorem Fetches.same {ids : List String} {b b' : Mailbox} {ms : List Message}
    (h : Fetches provider ids b ms b') :
    b' = b ∧ ids.map b.find? = ms.map some := by
  induction h with
  | nil => exact ⟨rfl, rfl⟩
  | cons get rest ih =>
      obtain ⟨rfl, hFind⟩ := Mailbox.get_cases get
      obtain ⟨hSame, hFinds⟩ := ih
      exact ⟨hSame, by rw [List.map_cons, List.map_cons, hFind _ rfl, hFinds]⟩

theorem carries_of_keyed {b : Mailbox} (h : b.Keyed) (o : Options) :
    Carries provider o b := by
  intro pages truncated b₁ ids fetched b₂ hWalk hFetches id hid m b₃ hGet
  rw [hFetches.same.1, hWalk.same.1] at hGet
  exact h id m ((Mailbox.get_cases hGet).2 m rfl)

/-- A provider whose listing gets nearer to its end with every page can be
listed to the end, or to the limit. -/
theorem exists_walk_of_measure {p : Provider σ} {size limit : Nat} {r : σ}
    (left : Option String → Nat)
    (hList : ∀ token, ∃ page, p.list token size r = (.ok page, r) ∧
      ∀ next, page.nextToken = some next → left (some next) < left token)
    (token : Option String) (seen : List String) :
    ∃ pages truncated, pages.length ≤ left token + 1 ∧
      Walk p size limit token seen r pages truncated r := by
  induction hLeft : left token using Nat.strongRecOn generalizing token seen with
  | ind n ih =>
      obtain ⟨page, hPage, hNearer⟩ := hList token
      cases hNext : page.nextToken with
      | none => exact ⟨[page], false, by simp, .last hPage hNext⟩
      | some next =>
          by_cases hLimit : limit ≠ 0 ∧ limit ≤ (collect seen page.ids).length
          · exact ⟨[page], true, by simp, .cut hPage hNext hLimit⟩
          · have hLess := hNearer next hNext
            rw [hLeft] at hLess
            obtain ⟨pages, truncated, hLength, hWalk⟩ :=
              ih _ hLess (some next) (collect seen page.ids) rfl
            refine ⟨page :: pages, truncated, ?_, .next hPage hNext hLimit hWalk⟩
            rw [List.length_cons]
            omega

/-- **A reliable mailbox can be listed**, in no more pages than are allowed. -/
theorem exists_walk {b : Mailbox} (h : b.Reliable) (o : Options) :
    ∃ pages truncated, pages.length ≤ provider.pagesLeft b ∧
      Walk provider o.size o.scanLimit none [] b pages truncated b := by
  have hSize : 1 ≤ o.size := Nat.le_max_left _ _
  rw [← b.pagesAfter_none]
  exact exists_walk_of_measure b.pagesAfter (fun token =>
    ⟨_, h.list_eq token o.size, fun next hNext => b.pagesAfter_lt hSize hNext⟩)
    none []

/-- **What is listed can be fetched.** -/
theorem exists_fetches {b : Mailbox} (h : b.Reliable) {ids : List String}
    (hIds : ∀ id ∈ ids, ∃ m, b.find? id = some m) :
    ∃ ms, Fetches provider ids b ms b := by
  induction ids with
  | nil => exact ⟨[], .nil⟩
  | cons id ids ih =>
      obtain ⟨m, hFind⟩ := hIds id List.mem_cons_self
      obtain ⟨ms, hRest⟩ := ih fun id hid => hIds id (List.mem_cons_of_mem _ hid)
      exact ⟨m :: ms, .cons (Mailbox.get_of_find? h.failures hFind) hRest⟩

end Mailroom.Sync
