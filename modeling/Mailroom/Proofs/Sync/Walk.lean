import Mailroom.Proofs.Session
import Mailroom.Proofs.Store.Contents
import Mailroom.Sync.Reconcile

/-!
# Walking through a listing

`Walk` says how a listing goes: which pages come, one after the other, and
whether the last one was the end or the limit stopped it there. `Fetches` says
the same of messages. Neither speaks of the store or the log.

A scan is a walk or stops, and a walk is what a scan does, with the requests it
makes and the ids it collects; and so for fetching. With that, what a sync does
is a matter of lists.
-/

namespace Mailroom

/-- Whether a request asks for a page. -/
def Request.isList : Request → Bool
  | .list _ _ => true
  | _ => false

end Mailroom

namespace Mailroom.Sync

open Mailroom.Session (Ends)

variable {σ : Type}

/-! ## Listings -/

/-- The pages that a listing from a token on goes through, and whether it was
cut off at the limit; `seen` are the ids collected before. -/
inductive Walk (p : Provider σ) (size limit : Nat) :
    Option String → List String → σ → List IdPage → Bool → σ → Prop
  | last {token seen r page r'} (list : p.list token size r = (.ok page, r'))
      (more : page.nextToken = none) :
      Walk p size limit token seen r [page] false r'
  | cut {token seen r page next r'}
      (list : p.list token size r = (.ok page, r'))
      (more : page.nextToken = some next)
      (reached : limit ≠ 0 ∧ limit ≤ (collect seen page.ids).length) :
      Walk p size limit token seen r [page] true r'
  | next {token seen r page next r₁ pages truncated r'}
      (list : p.list token size r = (.ok page, r₁))
      (more : page.nextToken = some next)
      (below : ¬(limit ≠ 0 ∧ limit ≤ (collect seen page.ids).length))
      (rest : Walk p size limit (some next) (collect seen page.ids) r₁ pages
        truncated r') :
      Walk p size limit token seen r (page :: pages) truncated r'

/-- All ids on pages. -/
def idsOf (pages : List IdPage) : List String := pages.flatMap (·.ids)

/-- The requests for pages: each but the first asks for the page that the one
before it named. -/
def listRequests (size : Nat) : Option String → List IdPage → List Request
  | _, [] => []
  | token, page :: pages =>
      .list token size :: listRequests size page.nextToken pages

theorem length_listRequests (size : Nat) (token : Option String)
    (pages : List IdPage) : (listRequests size token pages).length = pages.length := by
  induction pages generalizing token with
  | nil => rfl
  | cons page pages ih => rw [listRequests, List.length_cons, ih, List.length_cons]

theorem isList_of_mem_listRequests {size : Nat} {token : Option String}
    {pages : List IdPage} {q : Request} (h : q ∈ listRequests size token pages) :
    q.isList := by
  induction pages generalizing token with
  | nil => cases h
  | cons page pages ih =>
      rcases List.mem_cons.1 h with rfl | h
      · rfl
      · exact ih h

theorem collect_append (seen ids ids' : List String) :
    collect (collect seen ids) ids' = collect seen (ids ++ ids') := by
  rw [collect, collect, collect, List.foldl_append]

/-- A listing that is written down. -/
theorem traced_list_eq {p : Provider σ} {token : Option String} {size : Nat}
    {t : Traced σ} {result : Except Stop IdPage} {r : σ}
    (h : p.list token size t.state = (result, r)) :
    p.traced.list token size t = (result, ⟨r, .list token size :: t.calls⟩) := by
  rw [Provider.traced_list, h]

private theorem traced_get_eq {p : Provider σ} {id : String} {t : Traced σ}
    {result : Except Stop Message} {r : σ}
    (h : p.get id t.state = (result, r)) :
    p.traced.get id t = (result, ⟨r, .get id :: t.calls⟩) := by
  simp only [Provider.traced, Provider.record, h]

/-- A world after a request for a page. -/
def listed (w : World (Traced σ)) (r : σ) (token : Option String) (size : Nat) :
    World (Traced σ) :=
  { w with remote := ⟨r, .list token size :: w.remote.calls⟩ }

theorem remote_list {p : Provider σ} {size : Nat} {token : Option String}
    {w : World (Traced σ)} {result : Except Stop IdPage} {r : σ}
    (list : p.list token size w.remote.state = (result, r)) :
    Session.remote (p.traced.list token size) w = (result, listed w r token size) := by
  rw [Session.remote_apply, traced_list_eq list]
  rfl

/-- A scan below its limit goes on with the next page. -/
theorem scanFrom_next {p : Provider σ} {size limit f : Nat}
    {token : Option String} {seen : List String} {w : World (Traced σ)}
    {page : IdPage} {next : String} {r : σ}
    (list : p.list token size w.remote.state = (.ok page, r))
    (more : page.nextToken = some next)
    (below : ¬(limit ≠ 0 ∧ limit ≤ (collect seen page.ids).length)) :
    scanFrom p.traced size limit (f + 1) token seen w =
      scanFrom p.traced size limit f (some next) (collect seen page.ids)
        (listed w r token size) := by
  rw [scanFrom, Call.bind_of_ok (remote_list list)]
  simp only [more, if_neg below]

/-- **A walk is what a scan does.** -/
theorem scanFrom_of_walk {p : Provider σ} {size limit fuel : Nat}
    {token : Option String} {seen : List String} {pages : List IdPage}
    {truncated : Bool} {r r' : σ}
    (h : Walk p size limit token seen r pages truncated r')
    (hFuel : pages.length ≤ fuel) {w : World (Traced σ)}
    (hRemote : w.remote.state = r) :
    Ends (scanFrom p.traced size limit fuel token seen) w
      (.ok ⟨collect seen (idsOf pages), truncated⟩)
      ⟨r', (listRequests size token pages).reverse ++ w.remote.calls⟩ w.store := by
  induction h generalizing fuel w with
  | last list more =>
      obtain ⟨fuel, rfl⟩ := Nat.exists_eq_add_of_le' hFuel
      subst hRemote
      rw [List.length_singleton, scanFrom]
      refine (Ends.remote (traced_list_eq list)).bind fun w' hr hs hn => ?_
      simp only [more, idsOf, List.flatMap_singleton]
      exact Ends.pure hr hs
  | cut list more reached =>
      obtain ⟨fuel, rfl⟩ := Nat.exists_eq_add_of_le' hFuel
      subst hRemote
      rw [List.length_singleton, scanFrom]
      refine (Ends.remote (traced_list_eq list)).bind fun w' hr hs hn => ?_
      simp only [more, if_pos reached, idsOf, List.flatMap_singleton]
      refine (Ends.log _ _ w').bind fun w'' hr' hs' hn' => ?_
      exact Ends.pure (hr'.trans hr) (hs'.trans hs)
  | next list more below rest ih =>
      obtain ⟨fuel, rfl⟩ := Nat.exists_eq_add_of_le' hFuel
      subst hRemote
      rename_i token seen page next r₁ pages truncated r'
      rw [List.length_cons, ← Nat.add_assoc]
      have hSame := scanFrom_next (f := fuel + pages.length) list more below
      obtain ⟨log, hRest⟩ := ih (Nat.le_add_left _ fuel)
        (w := listed w r₁ token size) rfl
      refine ⟨log, hSame.trans (hRest.trans ?_)⟩
      simp [listed, collect_append, idsOf, listRequests, more]

/-- A scan is a walk, or it stops: then it has asked for pages and for nothing
else, and the store is as it was. -/
theorem walk_or_stops (p : Provider σ) (size limit fuel : Nat)
    (token : Option String) (seen : List String) (w : World (Traced σ)) :
    (∃ pages truncated r', pages.length ≤ fuel ∧
      Walk p size limit token seen w.remote.state pages truncated r') ∨
    ∃ stop r asked, (∀ q ∈ asked, q.isList) ∧ r.calls = asked ++ w.remote.calls ∧
      Ends (scanFrom p.traced size limit fuel token seen) w (.error stop) r
        w.store := by
  induction fuel generalizing token seen w with
  | zero =>
      refine .inr ⟨.unending, w.remote, [], by simp, by simp, w.log, ?_⟩
      rfl
  | succ fuel ih =>
      cases hCall : p.list token size w.remote.state with
      | mk result r₁ =>
          have hList := Ends.remote (w := w) (traced_list_eq hCall)
          cases result with
          | error stop =>
              refine .inr ⟨stop, ⟨r₁, .list token size :: w.remote.calls⟩,
                [.list token size], by simp [Request.isList], rfl, ?_⟩
              rw [scanFrom]
              exact hList.stop
          | ok page =>
              cases hNext : page.nextToken with
              | none => exact .inl ⟨[page], false, r₁, by simp, .last hCall hNext⟩
              | some next =>
                  by_cases hLimit : limit ≠ 0 ∧ limit ≤ (collect seen page.ids).length
                  · exact .inl ⟨[page], true, r₁, by simp, .cut hCall hNext hLimit⟩
                  · have hSame := scanFrom_next (f := fuel) hCall hNext hLimit
                    rcases ih (some next) (collect seen page.ids)
                        (listed w r₁ token size) with
                      ⟨pages, truncated, r', hLength, hWalk⟩ |
                      ⟨stop, r, asked, hAsked, hCalls, log, hStop⟩
                    · refine .inl ⟨page :: pages, truncated, r', ?_, ?_⟩
                      · rw [List.length_cons]
                        omega
                      · exact .next hCall hNext hLimit hWalk
                    · refine .inr ⟨stop, r, asked ++ [.list token size], ?_, ?_,
                        log, hSame.trans hStop⟩
                      · intro q hq
                        rcases List.mem_append.1 hq with hq | hq
                        · exact hAsked q hq
                        · rw [List.mem_singleton.1 hq]
                          rfl
                      · rw [hCalls, List.append_assoc]
                        rfl

/-- Two walks from one place are the same. -/
theorem Walk.unique {p : Provider σ} {size limit : Nat} {token : Option String}
    {seen : List String} {r r₁ r₂ : σ} {pages pages' : List IdPage}
    {truncated truncated' : Bool}
    (h : Walk p size limit token seen r pages truncated r₁)
    (h' : Walk p size limit token seen r pages' truncated' r₂) :
    pages = pages' ∧ truncated = truncated' := by
  induction h generalizing pages' truncated' r₂ with
  | last list more =>
      cases h' with
      | last list' more' =>
          rw [list] at list'
          cases list'
          exact ⟨rfl, rfl⟩
      | cut list' more' reached =>
          rw [list] at list'
          cases list'
          rw [more] at more'
          cases more'
      | next list' more' below rest =>
          rw [list] at list'
          cases list'
          rw [more] at more'
          cases more'
  | cut list more reached =>
      cases h' with
      | last list' more' =>
          rw [list] at list'
          cases list'
          rw [more] at more'
          cases more'
      | cut list' more' reached' =>
          rw [list] at list'
          cases list'
          exact ⟨rfl, rfl⟩
      | next list' more' below rest =>
          rw [list] at list'
          cases list'
          exact absurd reached below
  | next list more below rest ih =>
      cases h' with
      | last list' more' =>
          rw [list] at list'
          cases list'
          rw [more] at more'
          cases more'
      | cut list' more' reached =>
          rw [list] at list'
          cases list'
          exact absurd reached below
      | next list' more' below' rest' =>
          rw [list] at list'
          cases list'
          rw [more] at more'
          cases more'
          obtain ⟨hPages, hTruncated⟩ := ih rest'
          exact ⟨by rw [hPages], hTruncated⟩

/-! ## Messages -/

/-- The messages that are fetched for ids, one after the other. -/
inductive Fetches (p : Provider σ) :
    List String → σ → List Message → σ → Prop
  | nil {r} : Fetches p [] r [] r
  | cons {id ids r m r₁ ms r'} (get : p.get id r = (.ok m, r₁))
      (rest : Fetches p ids r₁ ms r') : Fetches p (id :: ids) r (m :: ms) r'

/-- Messages that are fetched, and messages that are fetched after them. -/
theorem Fetches.append {p : Provider σ} {ids ids' : List String} {r r₁ r' : σ}
    {ms ms' : List Message} (h : Fetches p ids r ms r₁)
    (h' : Fetches p ids' r₁ ms' r') :
    Fetches p (ids ++ ids') r (ms ++ ms') r' := by
  induction h with
  | nil => exact h'
  | cons get rest ih => exact .cons get (ih h')

theorem Fetches.split {p : Provider σ} {ids ids' : List String} {r r' : σ}
    {ms : List Message} (h : Fetches p (ids ++ ids') r ms r') :
    ∃ ms₁ ms₂ r₁, ms = ms₁ ++ ms₂ ∧ Fetches p ids r ms₁ r₁ ∧
      Fetches p ids' r₁ ms₂ r' := by
  induction ids generalizing r ms with
  | nil => exact ⟨[], ms, r, rfl, .nil, h⟩
  | cons id ids ih =>
      cases h with
      | cons get rest =>
          obtain ⟨ms₁, ms₂, r₁, rfl, hFirst, hSecond⟩ := ih rest
          exact ⟨_ :: ms₁, ms₂, r₁, rfl, .cons get hFirst, hSecond⟩

/-- After a walk, and after however many messages, each listed id is fetched as
a message that carries it. -/
def Carries (p : Provider σ) (o : Options) (r : σ) : Prop :=
  ∀ {pages truncated r₁ ids fetched r₂},
    Walk p o.size o.scanLimit none [] r pages truncated r₁ →
    Fetches p ids r₁ fetched r₂ →
      ∀ id ∈ idsOf pages, ∀ m r₃, p.get id r₂ = (.ok m, r₃) → m.id = id

/-- The messages fetched for listed ids carry them. -/
theorem Fetches.map_id {p : Provider σ} {o : Options} {r r₁ r₂ : σ}
    {pages : List IdPage} {truncated : Bool} {ids : List String}
    {fetched : List Message} (hCarries : Carries p o r)
    (hWalk : Walk p o.size o.scanLimit none [] r pages truncated r₁)
    (h : Fetches p ids r₁ fetched r₂) (hListed : ∀ id ∈ ids, id ∈ idsOf pages) :
    fetched.map (·.id) = ids := by
  -- the messages fetched before any one are those that `Carries` speaks of
  have hAfter : ∀ {ids fetched r₂ r₃} {before : List String}
      {done : List Message}, Fetches p before r₁ done r₂ →
      Fetches p ids r₂ fetched r₃ → (∀ id ∈ ids, id ∈ idsOf pages) →
        fetched.map (·.id) = ids := by
    intro ids fetched r₂ r₃ before done hBefore h hListed
    induction h generalizing before done with
    | nil => rfl
    | cons get rest ih =>
        have hId := hCarries hWalk hBefore _ (hListed _ List.mem_cons_self) _ _ get
        have hRest := ih (hBefore.append (.cons get .nil)) fun id hid =>
          hListed id (List.mem_cons_of_mem _ hid)
        rw [List.map_cons, hId, hRest]
  exact hAfter .nil h hListed

/-- What has been fetched is stored behind what was there, and the fetching goes
on with the later ids from any such world. -/
theorem fetchFrom_append {p : Provider σ} {total n : Nat}
    {before later : List String} {r r' : σ} {fetched : List Message}
    (h : Fetches p before r fetched r') {w : World (Traced σ)}
    (hRemote : w.remote.state = r) {ms : List Message} (hHolds : w.store.Holds ms)
    (hNew : ((ms ++ fetched).map (·.id)).Nodup) {result : Except Stop Nat}
    {t : Traced σ} {s : Store}
    (hLater : ∀ w' : World (Traced σ),
      w'.remote = ⟨r', (before.map .get).reverse ++ w.remote.calls⟩ →
      w'.store.Holds (ms ++ fetched) →
        Ends (fetchFrom p.traced total (n + before.length) later) w' result t s) :
    Ends (fetchFrom p.traced total n (before ++ later)) w result t s := by
  induction h generalizing n w ms with
  | nil =>
      subst hRemote
      exact hLater w rfl (by rwa [List.append_nil])
  | cons get rest ih =>
      rename_i id ids r m r₁ fetched r'
      subst hRemote
      have hSplit : ms ++ m :: fetched = ms ++ [m] ++ fetched := by simp
      have hCount : n + 1 + ids.length = n + (id :: ids).length := by
        rw [List.length_cons]
        omega
      rw [hSplit] at hNew hLater
      rw [← hCount] at hLater
      have hFresh : m.id ∉ ms.map (·.id) := by
        rw [List.append_assoc, List.map_append, List.nodup_append] at hNew
        exact fun hOld => hNew.2.2 m.id hOld m.id (by simp) rfl
      obtain ⟨s', hInsert, hHolds'⟩ := hHolds.insert hFresh
      -- the rest is fetched from any world with this message stored
      have hRest : ∀ w' : World (Traced σ),
          w'.remote = ⟨r₁, .get id :: w.remote.calls⟩ → w'.store = s' →
          Ends (fetchFrom p.traced total (n + 1) (ids ++ later)) w' result t s := by
        intro w' hr hs
        refine ih (by rw [hr]) (by rwa [hs]) hNew fun w'' hr'' hHolds'' => ?_
        refine hLater w'' ?_ hHolds''
        rw [hr'', hr]
        simp
      rw [List.cons_append, fetchFrom]
      refine (Ends.remote (traced_get_eq get)).bind fun w₂ hr₂ hs₂ hn₂ => ?_
      have hWrite : w₂.store.insert m = .ok s' := by rw [hs₂, hInsert]
      refine (Ends.write hWrite).bind fun w₃ hr₃ hs₃ hn₃ => ?_
      simp only
      split
      · exact (Ends.log _ _ w₃).bind fun w₄ hr₄ hs₄ hn₄ =>
          hRest w₄ (hr₄.trans (hr₃.trans hr₂)) (hs₄.trans hs₃)
      · exact hRest w₃ (hr₃.trans hr₂) hs₃

/-- **Fetching stores what it fetches**, behind what was there. -/
theorem fetchFrom_of_fetches {p : Provider σ} {total n : Nat} {ids : List String}
    {fetched : List Message} {r' : σ} {w : World (Traced σ)}
    (h : Fetches p ids w.remote.state fetched r') {ms : List Message}
    (hHolds : w.store.Holds ms) (hNew : ((ms ++ fetched).map (·.id)).Nodup) :
    Ends (fetchFrom p.traced total n ids) w (.ok (n + ids.length))
      ⟨r', (ids.map .get).reverse ++ w.remote.calls⟩
      (Store.ofMessages (ms ++ fetched)) := by
  have hAll : Ends (fetchFrom p.traced total n (ids ++ [])) w
      (.ok (n + ids.length)) ⟨r', (ids.map .get).reverse ++ w.remote.calls⟩
      (Store.ofMessages (ms ++ fetched)) :=
    fetchFrom_append h rfl hHolds hNew fun w' hr hHolds' =>
      Ends.pure hr hHolds'.eq_ofMessages
  rwa [List.append_nil] at hAll

/-- **A call that stops ends the fetching**; what was fetched before is stored. -/
theorem fetchFrom_of_stop {p : Provider σ} {total n : Nat} {id : String}
    {before later : List String} {fetched : List Message} {r₁ r₂ : σ} {stop : Stop}
    {w : World (Traced σ)} (h : Fetches p before w.remote.state fetched r₁)
    (hStop : p.get id r₁ = (.error stop, r₂)) {ms : List Message}
    (hHolds : w.store.Holds ms) (hNew : ((ms ++ fetched).map (·.id)).Nodup) :
    Ends (fetchFrom p.traced total n (before ++ id :: later)) w (.error stop)
      ⟨r₂, .get id :: (before.map .get).reverse ++ w.remote.calls⟩
      (Store.ofMessages (ms ++ fetched)) := by
  refine fetchFrom_append h rfl hHolds hNew fun w' hr hHolds' => ?_
  have hGet : p.get id w'.remote.state = (.error stop, r₂) := by rw [hr, hStop]
  have hEnds := Ends.remote (traced_get_eq hGet)
  rw [hr, hHolds'.eq_ofMessages] at hEnds
  rw [fetchFrom]
  exact hEnds.stop

/-- Messages are fetched one after the other up to the end, or up to a call
that stops. -/
theorem fetches_or_stops (p : Provider σ) (ids : List String) (r : σ) :
    (∃ fetched r', Fetches p ids r fetched r') ∨
    ∃ before id later fetched r₁ stop r₂, ids = before ++ id :: later ∧
      Fetches p before r fetched r₁ ∧ p.get id r₁ = (.error stop, r₂) := by
  induction ids generalizing r with
  | nil => exact .inl ⟨[], r, .nil⟩
  | cons id ids ih =>
      cases hCall : p.get id r with
      | mk result r₁ =>
          cases result with
          | error stop =>
              exact .inr ⟨[], id, ids, [], r, stop, r₁, rfl, .nil, hCall⟩
          | ok m =>
              rcases ih r₁ with ⟨fetched, r', hFetches⟩ |
                ⟨before, id', later, fetched, r', stop, r'', rfl, hFetches, hStop⟩
              · exact .inl ⟨m :: fetched, r', .cons hCall hFetches⟩
              · exact .inr ⟨id :: before, id', later, m :: fetched, r', stop, r'',
                  rfl, .cons hCall hFetches, hStop⟩

/-! ## Deleting -/

/-- **Deleting leaves the others**, in their order. -/
theorem delete_of_holds (ids : List String) {w : World σ} {ms : List Message}
    (hHolds : w.store.Holds ms) :
    Ends (delete ids) w (.ok ids.length) w.remote
      (Store.ofMessages (ms.filter (·.id ∉ ids))) := by
  induction ids generalizing w ms with
  | nil =>
      have hAll : ms.filter (fun m => decide (m.id ∉ ([] : List String))) = ms := by
        simp
      rw [delete, hAll]
      exact Ends.pure rfl hHolds.eq_ofMessages
  | cons id ids ih =>
      obtain ⟨s, hRemove, hHolds'⟩ := hHolds.remove id
      have hFilter : (ms.filter (·.id ≠ id)).filter (·.id ∉ ids) =
          ms.filter (·.id ∉ id :: ids) := by
        rw [List.filter_filter]
        refine List.filter_congr fun m _ => ?_
        simp [Bool.and_comm]
      rw [delete]
      refine (Ends.write hRemove).bind fun w₁ hr₁ hs₁ hn₁ => ?_
      have hRest := ih (w := w₁) (by rwa [hs₁])
      rw [hr₁, hFilter] at hRest
      exact hRest.bind fun w₂ hr₂ hs₂ hn₂ => Ends.pure hr₂ hs₂

end Mailroom.Sync
