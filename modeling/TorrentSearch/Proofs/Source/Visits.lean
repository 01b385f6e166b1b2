import TorrentSearch.Proofs.Cache.History
import TorrentSearch.Proofs.Cache.Residence
import TorrentSearch.Proofs.Search.Queue
import TorrentSearch.Proofs.Source.Requests
import TorrentSearch.Source.Ibit

/-!
# Visits of the scraped site

However many checks of the site run side by side, each of them asks for its own pages in one go. What it
asks for is told by what it finds in the cache and by what servers reply, and a fresh entry spares all
of it.
-/

namespace TorrentSearch

open Search (Shared Work Visit Chain Course Pool)
open Search.Work (Alone)
open Cache (Store)
open Cache.Store (resultsKey Thins)

namespace Source

namespace Ibit

/-- The name of the source as it stands in keys. -/
def sourceName : Cache.SourceName := ⟨name, by decide⟩

namespace Access

def pageUrl? (a : Access) (href : String) : Option String :=
  match Page.resolveLink href (String.ofList a.base) with
  | .error _ => none
  | .ok url => requested? url

/-- The links that a reply to the search for an identifier holds. -/
def linksOf (a : Access) (id : String) : Http.Reply → List String
  | .response r =>
    match pageOf (a.searchUrl id) (.ok r) with
    | .ok page => (Page.Links.ofPage page).hrefs
    | .error _ => []
  | _ => []

/-- The results that a check finds in the cache, if they are fresh. -/
def fresh? (a : Access) (id : String) (s : Shared) : Option (List Torrent) :=
  (s.cache.lookupResults id name a.maxAge s.now).1.hit?

/-- The URLs that a live check requests: that of the search page, and then those that it links to. -/
def urls (a : Access) (id : String) (s : Shared) : List String :=
  match requested? (a.searchUrl id) with
  | none => []
  | some url => url :: (a.linksOf id (s.request url a.timeout).1.2).filterMap a.pageUrl?

/-- What a check by itself asks servers for: the search page and then the pages behind its links, in
their order; or nothing if there are fresh results. -/
def block (a : Access) (id : String) (s : Shared) : List String :=
  if Text.isBlankText id ∨ (a.fresh? id s).isSome then []
  else s.network.reached s.requests (a.urls id s)

/-- What a check brings and what it makes of the cache. -/
inductive Settles (a : Access) (id : String) (s : Shared) : Outcome → Store → Prop where
  | refused (e : Error) (h : validateIdentifier id = .error e) : Settles a id s (.error e) s.cache
  | hit {results : List Torrent} (h : a.fresh? id s = some results) :
      Settles a id s (.ok results) (s.cache.lookupResults id name a.maxAge s.now).2
  | failed (h : a.fresh? id s = none) (e : Error) :
      Settles a id s (.error e) (s.cache.lookupResults id name a.maxAge s.now).2
  | noLinks (h : a.fresh? id s = none) :
      Settles a id s (.ok []) (s.cache.lookupResults id name a.maxAge s.now).2
  | stored (h : a.fresh? id s = none) (results : List Torrent) (now : Time.Instant) :
      Settles a id s (.ok results)
        ((s.cache.lookupResults id name a.maxAge s.now).2.storeResults id name results now)

variable {a : Access} {id : String} {s t : Shared}

theorem alone_visit {href : String} {found : Except Page.SkipReason Torrent}
    (h : Alone (a.visit href) s found t) : s.Asks (a.pageUrl? href).toList t := by
  unfold visit at h
  unfold pageUrl?
  cases hlink : Page.resolveLink href (String.ofList a.base) with
  | error e =>
    rw [hlink] at h
    cases h
    exact .refl s
  | ok url =>
    rw [hlink] at h
    obtain ⟨reply, u, hget, hpure⟩ := h.of_bind
    obtain ⟨-, rfl⟩ := hpure.of_pure
    exact (alone_get hget).1

theorem alone_visitAll {hrefs : List String} {found : List Torrent}
    (h : Alone (a.visitAll hrefs) s found t) : s.Asks (hrefs.filterMap a.pageUrl?) t := by
  induction hrefs generalizing s found with
  | nil =>
    obtain ⟨-, rfl⟩ := h.of_pure
    exact .refl _
  | cons href hrefs ih =>
    obtain ⟨_, u, hwait, h⟩ := h.of_bind
    obtain ⟨found, v, hvisit, h⟩ := h.of_bind
    have hasks := (Shared.Asks.of_meanwhile hwait.of_wait).trans (alone_visit hvisit)
    have hrest : v.Asks (hrefs.filterMap a.pageUrl?) t := by
      cases found with
      | ok torrent =>
        obtain ⟨torrents, w, hall, hpure⟩ := h.of_bind
        obtain ⟨-, rfl⟩ := hpure.of_pure
        exact ih hall
      | error reason =>
        obtain ⟨_, w, hcount, hall⟩ := h.of_bind
        obtain rfl := hcount.of_update
        exact (Shared.Asks.count _ v).trans (ih hall)
    have hurls : (href :: hrefs).filterMap a.pageUrl? =
        [] ++ (a.pageUrl? href).toList ++ hrefs.filterMap a.pageUrl? := by
      rw [List.filterMap_cons]
      cases a.pageUrl? href <;> rfl
    rw [hurls]
    exact hasks.trans hrest

/-- What is left after a search that was followed up: nothing is kept of a page without links. -/
theorem alone_follow {links : Page.Links} {outcome : Outcome}
    (h : Alone (a.follow id links) s outcome t) :
    ∃ u, s.Asks (links.hrefs.filterMap a.pageUrl?) u ∧ t.network = u.network ∧
      t.requests = u.requests ∧ ((outcome = .ok [] ∧ t.cache = u.cache) ∨
        ∃ results now, outcome = .ok results ∧
          t.cache = u.cache.storeResults id name results now) := by
  unfold follow at h
  split at h
  · rename_i hnone
    obtain ⟨_, u, hcount, hpure⟩ := h.of_bind
    obtain ⟨rfl, rfl⟩ := hpure.of_pure
    obtain rfl := hcount.of_update
    rw [List.isEmpty_iff] at hnone
    rw [hnone]
    exact ⟨s, .refl s, rfl, rfl, .inl ⟨rfl, rfl⟩⟩
  · obtain ⟨torrents, u, hall, h⟩ := h.of_bind
    obtain ⟨_, v, hkeep, hpure⟩ := h.of_bind
    obtain ⟨rfl, rfl⟩ := hpure.of_pure
    obtain rfl := Alone.of_update hkeep
    exact ⟨u, alone_visitAll hall, Shared.network_store .., Shared.requests_store ..,
      .inr ⟨torrents, u.now, rfl, Shared.cache_store ..⟩⟩

theorem linksOf_eq (a : Access) (id shown : String) (reply : Http.Reply) :
    a.linksOf id reply =
      match pageOf (a.searchUrl id) (received (a.searchUrl id) shown reply) with
      | .ok page => (Page.Links.ofPage page).hrefs
      | .error _ => [] := by
  cases reply <;> rfl

/-- A live check asks for its pages. It keeps something of them or leaves the cache alone. -/
theorem alone_checkLive {outcome : Outcome} (h : Alone (a.checkLive id) s outcome t) :
    ∃ u, s.Asks (a.urls id s) u ∧ t.network = u.network ∧ t.requests = u.requests ∧
      ((((∃ e, outcome = .error e) ∨ outcome = .ok []) ∧ t.cache = u.cache) ∨
        ∃ results now, outcome = .ok results ∧
          t.cache = u.cache.storeResults id name results now) := by
  obtain ⟨reply, u, hget, h⟩ := h.of_bind
  obtain ⟨hasks, hreply⟩ := alone_get hget
  have hurls : a.urls id s = (requested? (a.searchUrl id)).toList ++
      (match pageOf (a.searchUrl id) reply with
      | .ok page => (Page.Links.ofPage page).hrefs
      | .error _ => []).filterMap a.pageUrl? := by
    unfold urls
    obtain ⟨hnone, e, rfl⟩ | ⟨url, shown, hsome, rfl⟩ := hreply
    · rw [hnone]
      rfl
    · rw [hsome, ← linksOf_eq a id shown]
      rfl
  rw [hurls]
  cases hpage : pageOf (a.searchUrl id) reply with
  | error e =>
    rw [hpage] at h
    obtain ⟨rfl, rfl⟩ := h.of_pure
    rw [List.filterMap_nil, List.append_nil]
    exact ⟨_, hasks, rfl, rfl, .inl ⟨.inl ⟨e, rfl⟩, rfl⟩⟩
  | ok page =>
    rw [hpage] at h
    obtain ⟨v, hmore, hnetwork, hrequests, hend⟩ := alone_follow h
    refine ⟨v, hasks.trans hmore, hnetwork, hrequests, ?_⟩
    rcases hend with ⟨houtcome, hcache⟩ | hstored
    · exact .inl ⟨.inr houtcome, hcache⟩
    · exact .inr hstored

theorem urls_congr (hnetwork : t.network = s.network) (hrequests : t.requests = s.requests) :
    a.urls id t = a.urls id s := by
  unfold urls
  split
  · rfl
  · rw [Shared.request_congr hnetwork hrequests]

theorem alone_check {outcome : Outcome} (h : Alone (a.check id) s outcome t) :
    t.network = s.network ∧ t.requests = (a.block id s).reverse ++ s.requests ∧
      a.Settles id s outcome t.cache := by
  unfold check at h
  unfold block
  cases hid : validateIdentifier id with
  | error e =>
    rw [hid] at h
    cases h
    have hblank : Text.isBlankText id = true := by
      unfold validateIdentifier at hid
      split at hid
      · assumption
      · cases hid
    rw [if_pos (.inl hblank)]
    exact ⟨rfl, rfl, .refused e hid⟩
  | ok =>
    rw [hid] at h
    have hblank : Text.isBlankText id = false := validateIdentifier_eq_ok_iff.mp hid
    have htimed : Alone (timed name (answeredBy (cached id name a.maxAge) (a.checkLive id)))
        s outcome t := Alone.of_locked h
    obtain ⟨began, u, hlook, hrest⟩ := Alone.of_bind htimed
    have hu : u = s := by
      cases hlook with
      | look hdone =>
        cases hdone
        rfl
    subst hu
    obtain ⟨outcome', v, hanswer, hend⟩ := hrest.of_bind
    obtain ⟨_, w, hcount, hpure⟩ := hend.of_bind
    obtain ⟨rfl, rfl⟩ := hpure.of_pure
    obtain rfl := hcount.of_update
    obtain ⟨found, w, hcached, hfrom⟩ := Alone.of_bind hanswer
    obtain ⟨hfound, hcache, hnetwork, hrequests⟩ := alone_cached hcached
    change found = a.fresh? id u at hfound
    rw [← hfound]
    cases found with
    | some results =>
      obtain ⟨rfl, rfl⟩ := hfrom.of_pure
      rw [if_pos (.inr rfl)]
      refine ⟨hnetwork, hrequests, ?_⟩
      change a.Settles id u _ v.cache
      rw [hcache]
      exact .hit hfound.symm
    | none =>
      obtain ⟨x, hasks, hnetwork', hrequests', hend⟩ := alone_checkLive hfrom
      rw [urls_congr hnetwork hrequests] at hasks
      rw [if_neg (by simp [hblank])]
      refine ⟨hnetwork'.trans (hasks.network.trans hnetwork), ?_, ?_⟩
      · change v.requests = _
        rw [hrequests', hasks.requests, hnetwork, hrequests]
      · change a.Settles id u outcome v.cache
        rcases hend with ⟨⟨e, rfl⟩ | rfl, hleft⟩ | ⟨results, now, rfl, hleft⟩
        · rw [hleft, hasks.cache, hcache]
          exact .failed hfound.symm e
        · rw [hleft, hasks.cache, hcache]
          exact .noLinks hfound.symm
        · rw [hleft, hasks.cache, hcache]
          exact .stored hfound.symm results now

/-- The cache keeps results for an identifier, whatever their age. -/
def Keeps (id : String) (results : List Torrent) (cache : Store) : Prop :=
  ∃ value e, cache.find? (resultsKey id name) = some value ∧ Entry.decode? value = some e ∧
    e.results = results

theorem keeps_of_fresh {results : List Torrent} (h : a.fresh? id s = some results) :
    Keeps id results s.cache := by
  unfold fresh? at h
  rw [Store.fst_lookupResults, Cache.Lookup.hit?_judge_eq_some_iff] at h
  obtain ⟨value, e, hfind, hread, -, hresults⟩ := h
  exact ⟨value, e, hfind, hread, hresults⟩

theorem Keeps.eq {results results' : List Torrent} {cache cache' : Store}
    (h : Keeps id results cache) (h' : Keeps id results' cache')
    (hthins : Thins (resultsKey id name) cache cache') : results' = results := by
  obtain ⟨value, e, hfind, hread, rfl⟩ := h
  obtain ⟨value', e', hfind', hread', rfl⟩ := h'
  rw [hthins.find?_eq hfind', Option.some.injEq] at hfind
  subst hfind
  rw [hread', Option.some.injEq] at hread
  rw [hread]

variable {outcome : Outcome} {cache : Store}

theorem Settles.thins (h : a.Settles id s outcome cache) {other : String} (hother : other ≠ id) :
    Thins (resultsKey other name) s.cache cache := by
  have hkey : resultsKey other name ≠ resultsKey id name := by
    intro heq
    have hkeys : resultsKey other sourceName.text = resultsKey id sourceName.text := heq
    exact hother (Cache.resultsKey_inj hkeys).1
  have hlooked : Thins (resultsKey other name) s.cache
      (s.cache.lookupResults id name a.maxAge s.now).2 :=
    .of_eq (Store.find?_lookupResults ..)
  cases h with
  | refused e _ => exact .refl _ _
  | hit _ => exact hlooked
  | failed _ e => exact hlooked
  | noLinks _ => exact hlooked
  | stored _ results now =>
    rw [Store.storeResults_eq_put]
    exact hlooked.trans (Store.thins_put hkey _ _)

theorem Settles.of_fresh (h : a.Settles id s outcome cache) (hid : Text.isBlankText id = false)
    {results : List Torrent} (hfresh : a.fresh? id s = some results) :
    outcome = .ok results ∧ Thins (resultsKey id name) s.cache cache := by
  have hnot (hnone : a.fresh? id s = none) : False := by
    rw [hfresh] at hnone
    cases hnone
  cases h with
  | refused e hrefused =>
    rw [validateIdentifier_eq_ok_iff.mpr hid] at hrefused
    cases hrefused
  | hit hhit =>
    rw [hfresh, Option.some.injEq] at hhit
    exact ⟨congrArg Except.ok hhit.symm, .of_eq (Store.find?_lookupResults ..)⟩
  | failed hnone e => exact (hnot hnone).elim
  | noLinks hnone => exact (hnot hnone).elim
  | stored hnone _ _ => exact (hnot hnone).elim

theorem not_blank_of_ok {results : List Torrent} (h : Alone (a.check id) s (.ok results) t) :
    Text.isBlankText id = false := by
  rw [← validateIdentifier_eq_ok_iff]
  unfold check at h
  split at h
  · cases h
  · assumption

theorem underLock_check (a : Access) : Search.UnderLock a.check name := by
  intro id
  unfold check
  split
  · exact .inr ⟨_, rfl⟩
  · exact .inl ⟨_, plain_timed name (plain_answeredBy (plain_cached id name _)
      (a.plain_checkLive id)), rfl⟩

variable {start : Shared} {visits : List (Visit String)}

theorem requests_chain (h : Chain a.check start visits s) :
    s.requests.reverse =
      start.requests.reverse ++ visits.flatMap fun v => a.block v.index v.before := by
  induction h with
  | start => simp
  | waits _ hs ih => rw [hs.requests_eq, ih]
  | visit _ hv ih =>
    rw [(alone_check hv).2.1, List.reverse_append, List.reverse_reverse, ih]
    simp

theorem settles_of_mem (h : Chain a.check start visits s) {v : Visit String} (hv : v ∈ visits) :
    a.Settles v.index v.before v.outcome v.after.cache := by
  induction h with
  | start => cases hv
  | waits _ _ ih => exact ih hv
  | @visit visits u _ hu ih =>
    rcases List.mem_append.mp hv with hv | hv
    · exact ih hv
    · rw [List.mem_singleton.mp hv]
      exact (alone_check hu).2.2

theorem chain_before (h : Chain a.check start visits s) {front back : List (Visit String)}
    {w : Visit String} (hsplit : visits = front ++ w :: back) :
    Chain a.check start front w.before ∧ Alone (a.check w.index) w.before w.outcome w.after := by
  induction h generalizing back with
  | start => simp at hsplit
  | waits _ _ ih => exact ih hsplit
  | @visit visits u hchain hu ih =>
    rcases List.eq_nil_or_concat back with rfl | ⟨back, last, rfl⟩
    · obtain ⟨rfl, hlast⟩ := List.append_inj' hsplit rfl
      obtain rfl := List.singleton_inj.mp hlast
      exact ⟨hchain, hu⟩
    · rw [List.concat_eq_append, ← List.cons_append, ← List.append_assoc] at hsplit
      exact ih (List.append_inj' hsplit rfl).1

/-- As long as checks of the identifier find fresh results, the entry stays the same. -/
theorem thins_chain (h : Chain a.check start visits s) {front middle : List (Visit String)}
    {v : Visit String} (hsplit : visits = front ++ v :: middle)
    (hid : Text.isBlankText v.index = false)
    (hfresh : ∀ u ∈ middle, u.index = v.index → (a.fresh? u.index u.before).isSome) :
    Thins (resultsKey v.index name) v.after.cache s.cache := by
  induction h generalizing middle with
  | start => simp at hsplit
  | waits _ hs ih =>
    rw [hs.cache_eq]
    exact ih hsplit hfresh
  | @visit visits u _ hu ih =>
    rcases List.eq_nil_or_concat middle with rfl | ⟨middle, last, rfl⟩
    · obtain ⟨-, hlast⟩ := List.append_inj' hsplit rfl
      obtain rfl := List.singleton_inj.mp hlast
      exact .refl _ _
    · rw [List.concat_eq_append, ← List.cons_append, ← List.append_assoc] at hsplit
      obtain ⟨hfront, hlast⟩ := List.append_inj' hsplit rfl
      obtain rfl := List.singleton_inj.mp hlast
      have hmem (t : Visit String) (ht : t ∈ middle) : t ∈ middle.concat u := by
        simp [ht]
      refine (ih hfront fun t ht => hfresh t (hmem t ht)).trans ?_
      have hsettles := (alone_check hu).2.2
      by_cases hsame : u.index = v.index
      · obtain ⟨results, hresults⟩ := Option.isSome_iff_exists.mp (hfresh u (by simp) hsame)
        rw [hsame] at hsettles hresults
        exact (hsettles.of_fresh hid hresults).2
      · exact hsettles.thins (Ne.symm hsame)

/-- Checks of an identifier that find the stored answer of an earlier one, still fresh, bring the same
and ask for nothing. -/
theorem spared (h : Chain a.check start visits s) {front middle back : List (Visit String)}
    {v w : Visit String} (hsplit : visits = front ++ v :: (middle ++ w :: back))
    (hsame : w.index = v.index) {results : List Torrent} (hbrought : v.outcome = .ok results)
    (hkept : Keeps v.index results v.after.cache)
    (hfresh : ∀ u ∈ middle ++ [w], u.index = v.index → (a.fresh? u.index u.before).isSome) :
    w.outcome = .ok results ∧ a.block w.index w.before = [] := by
  have hid : Text.isBlankText v.index = false := by
    obtain ⟨-, hv⟩ := chain_before h hsplit
    rw [hbrought] at hv
    exact not_blank_of_ok hv
  rw [← List.cons_append, ← List.append_assoc] at hsplit
  obtain ⟨hchain, hw⟩ := chain_before h hsplit
  have hthins := thins_chain hchain rfl hid fun u hu => hfresh u (List.mem_append_left _ hu)
  have hwfresh := hfresh w (by simp) hsame
  obtain ⟨found, hfound⟩ := Option.isSome_iff_exists.mp hwfresh
  have hsettles := (alone_check hw).2.2
  rw [hsame] at hfound hsettles hwfresh ⊢
  obtain rfl := hkept.eq (keeps_of_fresh hfound) hthins
  exact ⟨(hsettles.of_fresh hid hfound).1, if_pos (.inr hwfresh)⟩

/-- Checks of the site that begin at any time, go on at any moments and get any replies come to their
ends, and then they were one after another, in the order in which they asked for the lock: each brought
what it brings by itself, and together they made of the cache and of all else what they make of it one
after another. The requests are those of their blocks in this order. Once a check has brought results
that the cache keeps, the checks of its identifier bring the same without a request as long as the
results are there and fresh. -/
theorem checks_oneByOne (a : Access) {start : Shared} {p : Pool} {begun : List (Nat × String)}
    {asked : List Nat} (h : Course a.check start p begun asked) :
    (∃ q more, p.Reaches q ∧ q.jobs = [] ∧ Course a.check start q begun (asked ++ more)) ∧
    (p.jobs = [] → ∃ visits, Search.OneByOne a.check start p begun asked visits ∧
      p.shared.requests.reverse =
        start.requests.reverse ++ (visits.flatMap fun v => a.block v.index v.before) ∧
      (∀ v ∈ visits, a.Settles v.index v.before v.outcome v.after.cache) ∧
      ∀ front v middle w back, visits = front ++ v :: (middle ++ w :: back) → w.index = v.index →
        ∀ results, v.outcome = .ok results → Keeps v.index results v.after.cache →
          (∀ u ∈ middle ++ [w], u.index = v.index → (a.fresh? u.index u.before).isSome) →
          w.outcome = .ok results ∧ a.block w.index w.before = []) := by
  have hunder := a.underLock_check
  refine ⟨h.ends hunder, fun hjobs => ?_⟩
  obtain ⟨visits, hone⟩ := h.oneByOne hunder hjobs
  refine ⟨visits, hone, requests_chain hone.chain, fun v hv => settles_of_mem hone.chain hv, ?_⟩
  intro front v middle w back hsplit hsame results hbrought hkept hfresh
  exact spared hone.chain hsplit hsame hbrought hkept hfresh

/-- Two checks of one identifier at once. The second one finds in the cache what the first one brought
from a search page and the page behind its link. -/
theorem checks_oneByOne_of_two :
    let now : Time.Instant := ⟨0, 0, 0, by decide, by decide, by decide, by decide⟩
    let search := "<table class=torrents><tr><td><a href=/1>Film</a></table>"
    let detail := "<div id=extra-info><h2><a>Film</a></h2></div>" ++
      "<script>'magnet:?xt=urn:btih:AB&dn=720p'</script>"
    let network : Http.Network := ⟨fun earlier _ => some ⟨some 5,
      .response (.ofBody 200 (Text.Utf8.encode (if earlier.isEmpty then search else detail)))⟩⟩
    let a : Access := ⟨"http://[::1]".toList, 1000, .ofSeconds 60, 150⟩
    let start := Shared.start now (.empty 1000) network []
    ∃ p asked, Course a.check start p [(0, "tt"), (1, "tt")] asked ∧ p.jobs = [] ∧
      p.shared.requests.reverse = ["http://[::1]/torrent-search/tt", "http://[::1]/1"] ∧
      ∃ visits, Search.OneByOne a.check start p [(0, "tt"), (1, "tt")] asked visits ∧
        p.shared.requests.reverse =
          start.requests.reverse ++ visits.flatMap fun v => a.block v.index v.before := by
  intro now search detail network a start
  let stop (p : Pool) : Bool := p.jobs.isEmpty
  let both := (((Pool.idle start).spawn true (a.check "tt")).1.spawn true (a.check "tt")).1
  have hbegun : Course a.check start both [(0, "tt"), (1, "tt")] [] :=
    (Course.idle.begins true "tt").begins true "tt"
  have hend : (both.runWithin stop none 20).map (fun p => (stop p, p.shared.requests.reverse)) =
      some (true, ["http://[::1]/torrent-search/tt", "http://[::1]/1"]) := by
    decide +kernel
  obtain ⟨p, hrun, heq⟩ := Option.map_eq_some_iff.mp hend
  obtain ⟨hstop, hrequests⟩ := Prod.mk.inj heq
  have hreaches : both.Reaches p := Pool.runUntil_of_runWithin hrun ▸ Pool.reaches_runUntil ..
  obtain ⟨asked, hcourse⟩ := hbegun.reaches hreaches
  have hjobs : p.jobs = [] := List.isEmpty_iff.mp hstop
  obtain ⟨-, hone⟩ := a.checks_oneByOne hcourse
  obtain ⟨visits, hvisits, hblocks, -⟩ := hone hjobs
  exact ⟨p, asked, hcourse, hjobs, hrequests, visits, hvisits, hblocks⟩

end Access

end Ibit

end Source

end TorrentSearch
