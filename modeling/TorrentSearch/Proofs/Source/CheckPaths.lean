import TorrentSearch.Proofs.Search.Paths
import TorrentSearch.Proofs.Source.Requests
import TorrentSearch.Source.Ibit
import TorrentSearch.Source.Yts

/-!
# Paths of checks

What a check of a site does, act by act: it looks into the cache, and unless a fresh entry answers it
requests pages, may keep what it found, and counts its success and its duration at the end.
-/

namespace TorrentSearch.Source

open Search (Act Shared Work)
open Search.Work (Path)

variable {E : Shared → Shared → Prop} {s t : Shared} {acts : List Act}

theorem path_get {url : String} {timeout : Nat} {reply : Except Error Http.Response}
    (h : Path E (get url timeout) s acts reply t) :
    (requested? url = none ∧ acts = [] ∧ t = s ∧ ∃ e, reply = .error e) ∨
      ∃ u shown, requested? url = some u ∧ E (s.request u timeout).2 t ∧
        acts = [.requested u (s.request u timeout).1.2] ∧
        reply = received url shown (s.request u timeout).1.2 := by
  unfold get at h
  unfold requested?
  cases hurl : Url.ofText url with
  | error e =>
    rw [hurl] at h
    cases h
    exact .inl ⟨rfl, rfl, rfl, _, rfl⟩
  | ok u =>
    rw [hurl] at h
    dsimp only at h ⊢
    by_cases hok : isRequestable (withoutUser u) = true
    · rw [if_pos hok] at h ⊢
      cases h with
      | request hs hdone =>
        cases hdone
        exact .inr ⟨_, _, rfl, hs, rfl, rfl⟩
    · rw [if_neg hok] at h ⊢
      cases h
      exact .inl ⟨rfl, rfl, rfl, _, rfl⟩

/-- What a check does after it has looked into the cache: a fresh entry answers it, or else a live check
does. -/
inductive Answered (E : Shared → Shared → Prop) (found : Cache.Lookup) (live : Work Outcome)
    (s : Shared) : List Act → Outcome → Shared → Prop where
  | served {results : List Torrent} (hhit : found.hit? = some results) :
      Answered E found live s [] (.ok results) s
  | live {acts : List Act} {outcome : Outcome} {t : Shared} (hmiss : found.hit? = none)
      (hlive : Path E live s acts outcome t) : Answered E found live s acts outcome t

theorem path_cached {id name : String} {maxAge : Time.Span} {found : Option (List Torrent)}
    (h : Path E (cached id name maxAge) s acts found t) :
    acts = [.changed s (s.lookup id name maxAge).2] ∧ found = (s.lookup id name maxAge).1.hit? ∧
      t = (s.lookup id name maxAge).2 := by
  obtain ⟨first, second, looked, u, rfl, hlook, hpure⟩ := h.of_bind
  obtain ⟨rfl, rfl, rfl⟩ := hlook.of_consult
  obtain ⟨rfl, rfl, rfl⟩ := hpure.of_pure
  exact ⟨rfl, rfl, rfl⟩

/-- A check looks into the cache first, and it counts its success and its duration at the end. -/
theorem path_check {id name : String} {maxAge : Time.Span} {live : Work Outcome} {outcome : Outcome}
    (h : Path E (timed name (answeredBy (cached id name maxAge) live)) s acts outcome t) :
    ∃ middle u duration,
      Answered E (s.lookup id name maxAge).1 live (s.lookup id name maxAge).2 middle outcome u ∧
      t = u.count (·.observeCheck name outcome.isOk duration) ∧
      acts = .changed s (s.lookup id name maxAge).2 :: (middle ++ [.changed u t]) := by
  obtain ⟨start, rest, begun, s', rfl, hstart, hrest⟩ := h.of_bind
  cases hstart with
  | look hdone =>
  cases hdone with
  | done =>
  obtain ⟨check, tail, outcome', u, rfl, hcheck, htail⟩ := hrest.of_bind
  obtain ⟨count, last, _, u', rfl, hcount, hlast⟩ := htail.of_bind
  obtain ⟨rfl, rfl⟩ := hcount.of_update
  obtain ⟨rfl, rfl, rfl⟩ := hlast.of_pure
  obtain ⟨look, middle, found, v, rfl, hlook, hanswer⟩ := hcheck.of_bind
  obtain ⟨rfl, rfl, rfl⟩ := path_cached hlook
  refine ⟨middle, u, _, ?_, rfl, by simp⟩
  cases hfound : (s.lookup id name maxAge).1.hit? with
  | some results =>
    rw [hfound] at hanswer
    obtain ⟨rfl, rfl, rfl⟩ := hanswer.of_pure
    exact .served hfound
  | none =>
    rw [hfound] at hanswer
    exact .live hfound hanswer

namespace Yts

/-- What is done about an outcome before the end of a live check: results are kept in the cache. -/
def storing (id : String) (s : Shared) : Outcome → List Act
  | .ok results => [.changed s (s.store id name results)]
  | .error _ => []

namespace Access

variable {a : Access} {id : String}

/-- One fetch: what it does and what it brings, in some state. -/
def Fetch (a : Access) (id : String) (acts : List Act) (outcome : Outcome) : Prop :=
  ∃ s t, Path (fun _ _ => True) (a.attempt id) s acts outcome t

/-- A fetch is one request of the search URL, if that can be requested at all. -/
theorem Fetch.requests {outcome : Outcome} (h : a.Fetch id acts outcome) :
    ∃ reply, acts = ((requested? (a.searchUrl id)).toList.map fun url => .requested url reply) := by
  obtain ⟨s, t, hpath⟩ := h
  obtain ⟨first, second, reply, u, rfl, hget, hpure⟩ := hpath.of_bind
  obtain ⟨rfl, -, -⟩ := hpure.of_pure
  rcases path_get hget with ⟨hnone, rfl, -⟩ | ⟨url, shown, hsome, -, rfl, -⟩
  · exact ⟨.dropped, by simp [hnone]⟩
  · exact ⟨(s.request url a.timeout).1.2, by simp [hsome]⟩

/-- Fetches one after another, up to so many after the first one: each but the last one failed, and the
last one succeeded or was the last that was allowed. -/
inductive Tries (fetch : List Act → Outcome → Prop) : Nat → List (List Act × Outcome) → Outcome → Prop
    where
  | succeeds {more : Nat} {acts : List Act} {results : List Torrent} (h : fetch acts (.ok results)) :
      Tries fetch more [(acts, .ok results)] (.ok results)
  | givesUp {acts : List Act} {e : Error} (h : fetch acts (.error e)) :
      Tries fetch 0 [(acts, .error e)] (.error e)
  | again {more : Nat} {acts : List Act} {e : Error} {rest : List (List Act × Outcome)}
      {outcome : Outcome} (h : fetch acts (.error e)) (hrest : Tries fetch more rest outcome) :
      Tries fetch (more + 1) ((acts, .error e) :: rest) outcome

theorem Tries.forall_fetch {fetch : List Act → Outcome → Prop} {more : Nat}
    {fetches : List (List Act × Outcome)} {outcome : Outcome}
    (h : Tries fetch more fetches outcome) : ∀ f ∈ fetches, fetch f.1 f.2 := by
  induction h with
  | succeeds h => simpa using h
  | givesUp h => simpa using h
  | again h _ ih => exact List.forall_mem_cons.mpr ⟨h, ih⟩

theorem Tries.requested {more : Nat} {fetches : List (List Act × Outcome)} {outcome : Outcome}
    (h : Tries (a.Fetch id) more fetches outcome) :
    ∀ act ∈ fetches.flatMap Prod.fst, ∃ url reply, act = .requested url reply := by
  intro act hact
  obtain ⟨fetch, hfetch, hmem⟩ := List.mem_flatMap.mp hact
  obtain ⟨reply, heq⟩ := (h.forall_fetch fetch hfetch).requests
  rw [heq] at hmem
  obtain ⟨url, -, rfl⟩ := List.mem_map.mp hmem
  exact ⟨url, reply, rfl⟩

theorem path_attempts {more : Nat} {outcome : Outcome} (h : Path E (a.attempts id more) s acts outcome t) :
    ∃ fetches, Tries (a.Fetch id) more fetches outcome ∧ acts = fetches.flatMap Prod.fst := by
  induction more generalizing s acts with
  | zero =>
    have hfetch : a.Fetch id acts outcome := ⟨s, t, h.imp fun _ _ _ => trivial⟩
    cases outcome with
    | ok results => exact ⟨_, .succeeds hfetch, by simp⟩
    | error e => exact ⟨_, .givesUp hfetch, by simp⟩
  | succ more ih =>
    obtain ⟨first, second, attempted, u, rfl, hattempt, hrest⟩ := h.of_bind
    have hfetch : a.Fetch id first attempted := ⟨s, u, hattempt.imp fun _ _ _ => trivial⟩
    cases attempted with
    | ok results =>
      obtain ⟨rfl, rfl, rfl⟩ := hrest.of_pure
      exact ⟨_, .succeeds hfetch, by simp⟩
    | error e =>
      obtain ⟨fetches, htries, rfl⟩ := ih hrest
      exact ⟨_, .again hfetch htries, by simp⟩

theorem path_checkLive {count : Nat} {outcome : Outcome}
    (h : Path E (a.checkLive count id) s acts outcome t) :
    ∃ fetches u, Tries (a.Fetch id) (count - 1) fetches outcome ∧
      acts = fetches.flatMap Prod.fst ++ storing id u outcome ∧
      t = (match outcome with
        | .ok results => u.store id name results
        | .error _ => u) := by
  obtain ⟨first, second, attempted, u, rfl, hattempts, hrest⟩ := h.of_bind
  obtain ⟨fetches, htries, rfl⟩ := path_attempts hattempts
  cases attempted with
  | ok results =>
    obtain ⟨keep, last, _, v, rfl, hkeep, hlast⟩ := hrest.of_bind
    obtain ⟨rfl, rfl⟩ := hkeep.of_update
    obtain ⟨rfl, rfl, rfl⟩ := hlast.of_pure
    exact ⟨fetches, u, htries, rfl, rfl⟩
  | error e =>
    obtain ⟨rfl, rfl, rfl⟩ := hrest.of_pure
    exact ⟨fetches, t, htries, rfl, rfl⟩

end Access

end Yts

namespace Ibit.Access

variable {a : Access} {id : String}

/-- What a visit does: it requests the page, or it counts that the page was skipped. -/
inductive Visiting : Act → Prop where
  | requested (url : String) (reply : Http.Reply) : Visiting (.requested url reply)
  | skipped (s : Shared) (reason : Page.SkipReason) :
      Visiting (.changed s (s.count (·.observeSkippedPage name reason)))

theorem path_visit {href : String} {found : Except Page.SkipReason Torrent}
    (h : Path E (a.visit href) s acts found t) : ∀ act ∈ acts, Visiting act := by
  unfold visit at h
  split at h
  · cases h
    simp
  · obtain ⟨first, second, reply, u, rfl, hget, hpure⟩ := h.of_bind
    obtain ⟨rfl, -, -⟩ := hpure.of_pure
    rcases path_get hget with ⟨-, rfl, -⟩ | ⟨url, shown, -, -, rfl, -⟩
    · simp
    · simpa using Visiting.requested url _

theorem path_visitAll {hrefs : List String} {torrents : List Torrent}
    (h : Path E (a.visitAll hrefs) s acts torrents t) : ∀ act ∈ acts, Visiting act := by
  induction hrefs generalizing s t acts torrents with
  | nil =>
    obtain ⟨rfl, -, -⟩ := h.of_pure
    simp
  | cons href hrefs ih =>
    obtain ⟨pause, rest, _, u, rfl, hpause, hrest⟩ := h.of_bind
    obtain ⟨rfl, -⟩ := hpause.of_wait
    obtain ⟨visit, more, found, v, rfl, hvisit, hmore⟩ := hrest.of_bind
    rw [List.nil_append]
    refine List.forall_mem_append.mpr ⟨path_visit hvisit, ?_⟩
    cases found with
    | ok torrent =>
      obtain ⟨others, last, torrents', w, rfl, hothers, hlast⟩ := hmore.of_bind
      obtain ⟨rfl, -, -⟩ := hlast.of_pure
      rw [List.append_nil]
      exact ih hothers
    | error reason =>
      obtain ⟨skip, others, _, w, rfl, hskip, hothers⟩ := hmore.of_bind
      obtain ⟨rfl, -⟩ := hskip.of_update
      refine List.forall_mem_append.mpr ⟨?_, ih hothers⟩
      simpa using Visiting.skipped v reason

/-- How a live check goes: the result page cannot be requested or cannot be had, or it has no links, or its
links are visited and what is found there is kept. -/
inductive Live (E : Shared → Shared → Prop) (a : Access) (id : String) :
    List Act → Outcome → Shared → Prop where
  | unsent (e : Error) (t : Shared) : Live E a id [] (.error e) t
  | failed {url : String} {reply : Http.Reply} {e : Error} (t : Shared)
      (hpage : ∀ r, reply = .response r → pageOf (a.searchUrl id) (.ok r) = .error e) :
      Live E a id [.requested url reply] (.error e) t
  | linkless {url page : String} {r : Http.Response} (t : Shared)
      (hpage : pageOf (a.searchUrl id) (.ok r) = .ok page)
      (hlinks : (Page.Links.ofPage page).hrefs = []) :
      Live E a id [.requested url (.response r), .changed t (t.count (·.observeZeroLinkPage name))]
        (.ok []) (t.count (·.observeZeroLinkPage name))
  | scraped {url page : String} {r : Http.Response} {s t : Shared} {visits : List Act}
      {torrents : List Torrent} (hpage : pageOf (a.searchUrl id) (.ok r) = .ok page)
      (hlinks : (Page.Links.ofPage page).hrefs ≠ [])
      (hvisits : Path E (a.visitAll (Page.Links.ofPage page).hrefs) s visits torrents t) :
      Live E a id
        (.requested url (.response r) :: (visits ++ [.changed t (t.store id name torrents)]))
        (.ok torrents) (t.store id name torrents)

theorem response_of_pageOf {url shown page : String} {reply : Http.Reply}
    (h : pageOf url (received url shown reply) = .ok page) :
    ∃ r, reply = .response r ∧ pageOf url (.ok r) = .ok page := by
  cases reply with
  | response r => exact ⟨r, rfl, h⟩
  | dropped => cases h
  | late => cases h

theorem path_checkLive {outcome : Outcome} (h : Path E (a.checkLive id) s acts outcome t) :
    Live E a id acts outcome t := by
  obtain ⟨first, rest, reply, u, rfl, hget, hrest⟩ := h.of_bind
  cases hpage : pageOf (a.searchUrl id) reply with
  | error e =>
    rw [hpage] at hrest
    obtain ⟨rfl, rfl, rfl⟩ := hrest.of_pure
    rcases path_get hget with ⟨-, rfl, -⟩ | ⟨url, shown, -, -, rfl, rfl⟩
    · exact .unsent e t
    · refine .failed t fun r hr => ?_
      rw [hr] at hpage
      exact hpage
  | ok page =>
    rw [hpage] at hrest
    rcases path_get hget with ⟨-, -, -, e, rfl⟩ | ⟨url, shown, -, -, rfl, rfl⟩
    · cases hpage
    · obtain ⟨r, hr, hpage⟩ := response_of_pageOf hpage
      rw [hr]
      change Path E (a.follow id (Page.Links.ofPage page)) _ rest outcome t at hrest
      unfold follow at hrest
      split at hrest
      · rename_i hempty
        obtain ⟨count, last, _, v, rfl, hcount, hlast⟩ := hrest.of_bind
        obtain ⟨rfl, rfl⟩ := hcount.of_update
        obtain ⟨rfl, rfl, rfl⟩ := hlast.of_pure
        exact .linkless u hpage (List.isEmpty_iff.mp hempty)
      · rename_i hlinks
        obtain ⟨visits, kept, torrents, v, rfl, hvisits, hkept⟩ := hrest.of_bind
        obtain ⟨keep, last, _, w, rfl, hkeep, hlast⟩ := hkept.of_bind
        obtain ⟨rfl, rfl⟩ := hkeep.of_update
        obtain ⟨rfl, rfl, rfl⟩ := hlast.of_pure
        exact .scraped hpage (fun h => hlinks (List.isEmpty_iff.mpr h)) hvisits

theorem sturdy_check (a : Access) (id : String) : (a.check id).Sturdy := by
  unfold check
  split
  · exact (Work.Plain.done _).sturdy
  · exact Work.Plain.sturdy_locked name
      (plain_timed name (plain_answeredBy (plain_cached id name _) (a.plain_checkLive id)))

end Ibit.Access

end TorrentSearch.Source
