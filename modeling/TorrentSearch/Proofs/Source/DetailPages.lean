import TorrentSearch.Proofs.Search.Dues
import TorrentSearch.Proofs.Source.CheckPaths
import TorrentSearch.Proofs.Source.Visits

/-!
# Detail pages

A result page may link to any number of detail pages, and each of them may fail in its own way. A check
visits all of them, one after another. What a visit contributes, a torrent or one more skipped page, is
told by the link and by what the visit receives, so no page spoils or hides another one.
-/

namespace TorrentSearch

open Search (Act Pool Shared)

/-- How many pages of a source were skipped for a reason. -/
def Counters.skips (source : String) (reason : Page.SkipReason) (c : Counters) : ℤ :=
  c.skippedPages.count (source, reason)

namespace Search.Act

theorem Linked.sum_gain {m : Counters → ℤ} {v w : ℤ} {acts : List Act}
    (h : Linked (fun s => m s.counters) v acts w) : w = v + (acts.map (gain m)).sum := by
  induction acts generalizing v with
  | nil =>
    rw [List.map_nil, List.sum_nil, add_zero]
    exact h
  | cons act acts ih =>
    cases act with
    | changed before after =>
      obtain ⟨rfl, hrest⟩ := h
      simp only [List.map_cons, List.sum_cons, ih hrest, gain]
      omega
    | requested url reply =>
      rw [List.map_cons, List.sum_cons, ih h, gain, zero_add]

theorem gain_skip (source : String) (reason : Page.SkipReason) (s : Shared) (source' : String)
    (reason' : Page.SkipReason) :
    gain (Counters.skips source reason)
        (.changed s (s.count (·.observeSkippedPage source' reason'))) =
      if source' = source ∧ reason' = reason then 1 else 0 := by
  have hbump := Tally.count_bump s.counters.skippedPages (source', reason') (source, reason)
  simp only [Prod.mk.injEq] at hbump
  change ((s.counters.skippedPages.bump (source', reason')).count (source, reason) : ℤ) -
    s.counters.skippedPages.count (source, reason) = _
  rw [hbump]
  split <;> omega

end Search.Act

namespace Source.Ibit

open Search.Work (Path)

variable {E : Shared → Shared → Prop} {s t : Shared} {acts : List Act}

/-- A visit of a detail page: the link, and what becomes of its request if the link can be requested. -/
structure PageVisit where
  href : String
  received : Option Http.Reply

namespace Access

variable {a : Access} {id : String}

def result (a : Access) (v : PageVisit) : Except Page.SkipReason Torrent :=
  match Page.resolveLink v.href (String.ofList a.base), v.received with
  | .error _, _ => .error .badLink
  | .ok _, some (.response r) => torrentOf (.ok r)
  | .ok _, _ => .error .request

def kept (a : Access) (visits : List PageVisit) : List Torrent :=
  visits.filterMap fun v => (a.result v).toOption

def skipped (a : Access) (visits : List PageVisit) (reason : Page.SkipReason) : ℕ :=
  visits.countP fun v => decide (a.result v = .error reason)

/-- The visit requests the page behind its link, or it cannot. -/
inductive Asks (a : Access) : PageVisit → List Act → Prop where
  | unsent {href : String} (h : a.pageUrl? href = none) : Asks a ⟨href, none⟩ []
  | sent {href url : String} (h : a.pageUrl? href = some url) (reply : Http.Reply) :
      Asks a ⟨href, some reply⟩ [.requested url reply]

/-- What is done about a visit: a page that brings no torrent is counted under its reason. -/
def Visits (a : Access) (v : PageVisit) (acts : List Act) : Prop :=
  ∃ (asked : List Act) (s : Shared), a.Asks v asked ∧ acts = asked ++
    match a.result v with
    | .ok _ => []
    | .error reason => [.changed s (s.count (·.observeSkippedPage name reason))]

theorem asks_of_visit {href : String} {found : Except Page.SkipReason Torrent}
    (h : Path E (a.visit href) s acts found t) :
    ∃ received, a.Asks ⟨href, received⟩ acts ∧ found = a.result ⟨href, received⟩ := by
  unfold visit at h
  cases hlink : Page.resolveLink href (String.ofList a.base) with
  | error e =>
    have hurl : a.pageUrl? href = none := by rw [pageUrl?, hlink]
    rw [hlink] at h
    cases h
    exact ⟨none, .unsent hurl, by simp [result, hlink]⟩
  | ok url =>
    have hurl : a.pageUrl? href = requested? url := by rw [pageUrl?, hlink]
    rw [hlink] at h
    obtain ⟨asked, last, reply, u, rfl, hget, hpure⟩ := h.of_bind
    obtain ⟨rfl, rfl, -⟩ := hpure.of_pure
    rw [List.append_nil]
    rcases path_get hget with ⟨hnone, rfl, -, e, rfl⟩ | ⟨target, shown, hsome, -, rfl, rfl⟩
    · exact ⟨none, .unsent (hurl.trans hnone), by simp [result, hlink, torrentOf]⟩
    · refine ⟨_, .sent (hurl.trans hsome) _, ?_⟩
      simp only [result, hlink]
      cases (s.request target a.timeout).1.2 <;> rfl

theorem visits_of_visitAll {hrefs : List String} {torrents : List Torrent}
    (h : Path E (a.visitAll hrefs) s acts torrents t) :
    ∃ visits parts, visits.map PageVisit.href = hrefs ∧ List.Forall₂ a.Visits visits parts ∧
      acts = parts.flatten ∧ torrents = a.kept visits := by
  induction hrefs generalizing s t acts torrents with
  | nil =>
    obtain ⟨rfl, rfl, -⟩ := h.of_pure
    exact ⟨[], [], rfl, .nil, rfl, rfl⟩
  | cons href hrefs ih =>
    obtain ⟨pause, rest, _, u, rfl, hpause, hrest⟩ := h.of_bind
    obtain ⟨rfl, -⟩ := hpause.of_wait
    obtain ⟨visit, more, found, v, rfl, hvisit, hmore⟩ := hrest.of_bind
    obtain ⟨received, hasks, rfl⟩ := asks_of_visit hvisit
    rw [List.nil_append]
    cases hresult : a.result ⟨href, received⟩ with
    | ok torrent =>
      rw [hresult] at hmore
      obtain ⟨others, last, torrents', w, rfl, hothers, hlast⟩ := hmore.of_bind
      obtain ⟨rfl, rfl, -⟩ := hlast.of_pure
      obtain ⟨visits, parts, rfl, hparts, rfl, rfl⟩ := ih hothers
      have hpart : a.Visits ⟨href, received⟩ visit := ⟨visit, s, hasks, by simp [hresult]⟩
      refine ⟨_, _, rfl, .cons hpart hparts, by simp, ?_⟩
      simp [kept, hresult, Except.toOption]
    | error reason =>
      rw [hresult] at hmore
      obtain ⟨skip, others, _, w, rfl, hskip, hothers⟩ := hmore.of_bind
      obtain ⟨rfl, rfl⟩ := hskip.of_update
      obtain ⟨visits, parts, rfl, hparts, rfl, rfl⟩ := ih hothers
      have hpart : a.Visits ⟨href, received⟩
          (visit ++ [.changed v (v.count (·.observeSkippedPage name reason))]) :=
        ⟨visit, v, hasks, by simp [hresult]⟩
      refine ⟨_, _, rfl, .cons hpart hparts, by simp, ?_⟩
      simp [kept, hresult, Except.toOption]

theorem kept_append (front back : List PageVisit) :
    a.kept (front ++ back) = a.kept front ++ a.kept back :=
  List.filterMap_append

theorem skipped_append (front back : List PageVisit) (reason : Page.SkipReason) :
    a.skipped (front ++ back) reason = a.skipped front reason + a.skipped back reason :=
  List.countP_append

theorem kept_singleton (v : PageVisit) : a.kept [v] = (a.result v).toOption.toList := by
  cases hresult : a.result v <;> simp [kept, hresult, Except.toOption]

theorem skipped_singleton (v : PageVisit) (reason : Page.SkipReason) :
    a.skipped [v] reason = if a.result v = .error reason then 1 else 0 := by
  simp [skipped]

theorem length_kept_add_skipped (visits : List PageVisit) :
    (a.kept visits).length + (Page.SkipReason.all.map (a.skipped visits)).sum = visits.length := by
  induction visits with
  | nil => rfl
  | cons v visits ih =>
    have hone : (a.kept [v]).length + (Page.SkipReason.all.map (a.skipped [v])).sum = 1 := by
      cases hresult : a.result v with
      | ok torrent =>
        simp [kept_singleton, skipped_singleton, hresult, Except.toOption, Page.SkipReason.all]
      | error reason =>
        cases reason <;>
          simp [kept_singleton, skipped_singleton, hresult, Except.toOption, Page.SkipReason.all]
    simp only [Page.SkipReason.all, List.map_cons, List.map_nil, List.sum_cons, List.sum_nil] at ih hone ⊢
    rw [← List.singleton_append, kept_append, List.length_append, List.length_append,
      List.length_singleton]
    simp only [skipped_append]
    omega

theorem Visits.sum_gain {v : PageVisit} (h : a.Visits v acts) (source : String)
    (reason : Page.SkipReason) : (acts.map (Act.gain (Counters.skips source reason))).sum =
      if source = name then (a.skipped [v] reason : ℤ) else 0 := by
  obtain ⟨asked, s, hasks, rfl⟩ := h
  have hasked : (asked.map (Act.gain (Counters.skips source reason))).sum = 0 := by
    cases hasks <;> rfl
  rw [List.map_append, List.sum_append, hasked, zero_add]
  cases hresult : a.result v with
  | ok torrent => simp [skipped_singleton, hresult]
  | error reason' =>
    rw [List.map_singleton, List.sum_singleton, Act.gain_skip, skipped_singleton, hresult]
    simp only [Except.error.injEq]
    rcases eq_or_ne source name with rfl | hsource
    · simp only [true_and, if_true]
      split <;> rfl
    · simp [hsource, hsource.symm]

theorem sum_gain_visits {visits : List PageVisit} {parts : List (List Act)}
    (h : List.Forall₂ a.Visits visits parts) (source : String) (reason : Page.SkipReason) :
    (parts.flatten.map (Act.gain (Counters.skips source reason))).sum =
      if source = name then (a.skipped visits reason : ℤ) else 0 := by
  induction h with
  | nil => simp [skipped]
  | @cons v part visits parts hv _ ih =>
    have hskipped := skipped_append (a := a) [v] visits reason
    rw [List.singleton_append] at hskipped
    rw [List.flatten_cons, List.map_append, List.sum_append, ih, hv.sum_gain, hskipped]
    split <;> omega

/-- After the look into the cache, the result page was requested, and this page came. -/
def Finds (a : Access) (id page : String) (acts : List Act) : Prop :=
  ∃ look url r rest, acts = look :: .requested url (.response r) :: rest ∧
    pageOf (a.searchUrl id) (.ok r) = .ok page

/-- A check that finds a page with links makes the visits, one for each link in the order of the page, and
nothing else before it keeps and brings the torrents of the visits, in their order. -/
inductive Scrapes (a : Access) (id page : String) (visits : List PageVisit) :
    List Act → Outcome → Prop where
  | intro {s t u : Shared} {url : String} {r : Http.Response} {parts : List (List Act)} {duration : ℕ}
      (hpage : pageOf (a.searchUrl id) (.ok r) = .ok page)
      (hlinks : visits.map PageVisit.href = (Page.Links.ofPage page).hrefs)
      (hvisits : List.Forall₂ a.Visits visits parts) :
      Scrapes a id page visits
        (.changed s (s.lookup id name a.maxAge).2 :: .requested url (.response r) ::
          (parts.flatten ++ [.changed t (t.store id name (a.kept visits)),
            .changed u (u.count (·.observeCheck name true duration))]))
        (.ok (a.kept visits))

theorem scrapes_of_check {page : String} {outcome : Outcome} (hid : Text.isBlankText id = false)
    (h : Path E (a.check id) s acts outcome t) (hfinds : a.Finds id page acts)
    (hlinks : (Page.Links.ofPage page).hrefs ≠ []) :
    ∃ visits, a.Scrapes id page visits acts outcome := by
  rw [check, validateIdentifier_eq_ok_iff.mpr hid] at h
  obtain ⟨s₀, -, hcheck⟩ := h.of_locked
  obtain ⟨middle, u, duration, hanswered, rfl, rfl⟩ := path_check hcheck
  obtain ⟨look, url, r, rest, hacts, hpage⟩ := hfinds
  cases hanswered with
  | served hhit => simp at hacts
  | live hmiss hlive =>
    cases path_checkLive hlive with
    | unsent e => simp at hacts
    | failed _ hfailed =>
      simp only [List.cons_append, List.cons.injEq, Act.requested.injEq] at hacts
      rw [hfailed r hacts.2.1.2] at hpage
      cases hpage
    | linkless _ hpage' hnone =>
      simp only [List.cons_append, List.cons.injEq, Act.requested.injEq, Http.Reply.response.injEq] at hacts
      rw [hacts.2.1.2, hpage, Except.ok.injEq] at hpage'
      exact absurd (hpage' ▸ hnone) hlinks
    | scraped hpage' _ hvisits =>
      simp only [List.cons_append, List.cons.injEq, Act.requested.injEq, Http.Reply.response.injEq] at hacts
      have hsame := hpage'
      rw [hacts.2.1.2, hpage, Except.ok.injEq] at hsame
      subst hsame
      obtain ⟨visits, parts, hhrefs, hparts, rfl, rfl⟩ := visits_of_visitAll hvisits
      rw [List.cons_append, List.append_assoc]
      exact ⟨visits, .intro hpage' hhrefs hparts⟩

/-- A check by itself that brings torrents, though no fresh entry was there, has found a page with links. -/
theorem finds_of_brings {p q : Pool} {foreground : Bool} {first : Torrent} {others : List Torrent}
    (hid : Text.isBlankText id = false) (hp : p.Sound) (hnew : p.fresh ∉ p.finished.map Prod.fst)
    (hjobs : p.jobs = []) (hmiss : (p.shared.lookup id name a.maxAge).1.hit? = none)
    (h : p.Brings foreground (a.check id) acts (.ok (first :: others)) q) :
    ∃ page, a.Finds id page acts ∧ (Page.Links.ofPage page).hrefs ≠ [] := by
  have hrunning : (p.spawn foreground (a.check id)).1.running = [p.fresh] := by
    have hnone : p.running = [] := by simp [Pool.running, hjobs]
    rw [Pool.running_spawn, hnone, List.nil_append]
  obtain ⟨s, t, hs, hpath, -⟩ :=
    h.path hp hnew (a.sturdy_check id) (a.orderly_check id) (Pool.around_alone hrunning)
  rw [check, validateIdentifier_eq_ok_iff.mpr hid] at hpath
  obtain ⟨s₀, hs₀, hcheck⟩ := hpath.of_locked
  obtain ⟨middle, u, duration, hanswered, -, rfl⟩ := path_check hcheck
  cases hanswered with
  | served hhit =>
    -- the clock of the pool has gone on, but the look into the cache is told by the wall clock
    have hlook : (s₀.lookup id name a.maxAge).1 = (p.shared.lookup id name a.maxAge).1 := by
      rw [hs₀, hs]
      rfl
    rw [hlook, hmiss] at hhit
    cases hhit
  | live _ hlive =>
    cases path_checkLive hlive with
    | scraped hpage hlinks _ => exact ⟨_, ⟨_, _, _, _, rfl, hpage⟩, hlinks⟩

theorem Scrapes.sum_gain {page : String} {visits : List PageVisit} {outcome : Outcome}
    (h : a.Scrapes id page visits acts outcome) (source : String) (reason : Page.SkipReason) :
    (acts.map (Act.gain (Counters.skips source reason))).sum =
      if source = name then (a.skipped visits reason : ℤ) else 0 := by
  cases h with
  | @intro s t u url r parts duration _ _ hvisits =>
  have hlook : Act.gain (Counters.skips source reason) (.changed s (s.lookup id name a.maxAge).2) = 0 := by
    simp [Act.gain, Counters.skips, Counters.observeLookup]
  have hstore : Act.gain (Counters.skips source reason)
      (.changed t (t.store id name (a.kept visits))) = 0 := by
    simp [Act.gain]
  have hcount : Act.gain (Counters.skips source reason)
      (.changed u (u.count (·.observeCheck name true duration))) = 0 := by
    simp [Act.gain, Counters.skips, Shared.count, Counters.observeCheck]
  have hrequest : Act.gain (Counters.skips source reason) (.requested url (.response r)) = 0 := rfl
  simp only [List.map_cons, List.map_append, List.map_nil, List.sum_cons, List.sum_append, List.sum_nil,
    hlook, hstore, hcount, hrequest, sum_gain_visits hvisits]
  omega

theorem Scrapes.outcome_eq {page : String} {visits : List PageVisit} {outcome : Outcome}
    (h : a.Scrapes id page visits acts outcome) : outcome = .ok (a.kept visits) := by
  cases h
  rfl

/-- Every check comes to its end. If the result page has links, repeated ones included, each link is visited
once, in their order, whatever becomes of the visits: the link may lead nowhere, the request may fail, and
the page may be of any kind. The check brings the torrents of those visits that bring one, in their order,
and it counts every other visit once, under its reason, and nothing else as skipped. If one of the visits
receives something else, then what that visit contributes changes, and nothing else. -/
theorem check_visits_each_link (a : Access) {id : String} (hid : Text.isBlankText id = false) {p : Pool}
    (hp : p.Sound) (hnew : p.fresh ∉ p.finished.map Prod.fst) (foreground : Bool) :
    (∃ acts outcome, p.Brings foreground (a.check id) acts outcome
      (p.spawn foreground (a.check id)).1.atEnd) ∧
    (∀ acts outcome q, p.Brings foreground (a.check id) acts outcome q →
      ∀ page, a.Finds id page acts → (Page.Links.ofPage page).hrefs ≠ [] →
        ∃ visits : List PageVisit, visits.map PageVisit.href = (Page.Links.ofPage page).hrefs ∧
          a.Scrapes id page visits acts outcome ∧ outcome = .ok (a.kept visits) ∧
          (a.kept visits).length + (Page.SkipReason.all.map (a.skipped visits)).sum =
            (Page.Links.ofPage page).hrefs.length ∧
          (∀ source reason, (acts.map (Act.gain (Counters.skips source reason))).sum =
            if source = name then (a.skipped visits reason : ℤ) else 0) ∧
          (p.jobs = [] → ∀ reason,
            q.shared.counters.skips name reason =
              p.shared.counters.skips name reason + a.skipped visits reason)) ∧
    ∀ front v v' back page page' acts acts' outcome outcome',
      a.Scrapes id page (front ++ v :: back) acts outcome →
      a.Scrapes id page' (front ++ v' :: back) acts' outcome' →
        outcome = .ok (a.kept front ++ (a.result v).toOption.toList ++ a.kept back) ∧
        outcome' = .ok (a.kept front ++ (a.result v').toOption.toList ++ a.kept back) ∧
        ∀ reason,
          a.skipped (front ++ v :: back) reason = a.skipped (front ++ back) reason +
            (if a.result v = .error reason then 1 else 0) ∧
          a.skipped (front ++ v' :: back) reason = a.skipped (front ++ back) reason +
            (if a.result v' = .error reason then 1 else 0) := by
  have hsturdy := a.sturdy_check id
  have horderly := a.orderly_check id
  refine ⟨hp.brings hnew hsturdy horderly foreground,
    fun acts outcome q hq page hfinds hlinks => ?_, ?_⟩
  · obtain ⟨s, t, -, hpath, -⟩ := hq.path hp hnew hsturdy horderly (Pool.around_any _ _)
    obtain ⟨visits, hscrapes⟩ := scrapes_of_check hid hpath hfinds hlinks
    have hhrefs : visits.map PageVisit.href = (Page.Links.ofPage page).hrefs := by
      cases hscrapes
      assumption
    have hlength : visits.length = (Page.Links.ofPage page).hrefs.length := by
      rw [← hhrefs, List.length_map]
    refine ⟨visits, hhrefs, hscrapes, hscrapes.outcome_eq, hlength ▸ length_kept_add_skipped visits,
      hscrapes.sum_gain, fun hjobs reason => ?_⟩
    have hlinked := hq.linked hp hnew hsturdy horderly hjobs (fun s => s.counters.skips name reason)
      (fun _ _ => rfl) (by simp)
    have hsum := hlinked.sum_gain
    rwa [hscrapes.sum_gain, if_pos rfl] at hsum
  · intro front v v' back page page' acts acts' outcome outcome' h h'
    have hkept (w : PageVisit) : a.kept (front ++ w :: back) =
        a.kept front ++ (a.result w).toOption.toList ++ a.kept back := by
      rw [← List.singleton_append, kept_append, kept_append, kept_singleton, List.append_assoc]
    have hskipped (w : PageVisit) (reason : Page.SkipReason) :
        a.skipped (front ++ w :: back) reason = a.skipped (front ++ back) reason +
          (if a.result w = .error reason then 1 else 0) := by
      rw [← List.singleton_append, skipped_append, skipped_append, skipped_append, skipped_singleton]
      omega
    exact ⟨hkept v ▸ h.outcome_eq, hkept v' ▸ h'.outcome_eq,
      fun reason => ⟨hskipped v reason, hskipped v' reason⟩⟩

/-- A page with three links, two of which are the same. The first visit brings a torrent, the second one is
refused, and the last link leads nowhere. -/
theorem check_visits_each_link_of_three :
    let search := "<table class=torrents><tr><td><a href=/1>A</a><tr><td><a href=/1>A</a>" ++
      "<tr><td><a href=http://>B</a></table>"
    let detail := "<div id=extra-info><h2><a>A</a></h2></div>" ++
      "<script>'magnet:?xt=urn:btih:AB&dn=720p'</script>"
    let network : Http.Network := ⟨fun earlier _ => some ⟨some 5, .response (match earlier.length with
      | 0 => .ofBody 200 (Text.Utf8.encode search)
      | 1 => .ofBody 200 (Text.Utf8.encode detail)
      | _ => .notFound)⟩⟩
    let a : Access := ⟨"http://[::1]".toList, 1000, .ofSeconds 60, 150⟩
    let p := Pool.idle (.start .epoch (.empty 1000) network [])
    let q := (p.spawn true (a.check "tt")).1.atEnd
    let t : Torrent := ⟨"A", "720p", "AB", "magnet:?xt=urn:btih:AB&dn=720p"⟩
    Text.isBlankText "tt" = false ∧ p.Sound ∧ p.fresh ∉ p.finished.map Prod.fst ∧
      q.finished = [(0, .ok [t])] ∧
      ∃ acts page visits, p.Brings true (a.check "tt") acts (.ok [t]) q ∧ a.Finds "tt" page acts ∧
        (Page.Links.ofPage page).hrefs ≠ [] ∧ a.Scrapes "tt" page visits acts (.ok [t]) ∧
        a.skipped visits .badStatus = 1 ∧ a.skipped visits .badLink = 1 := by
  intro search detail network a p q t
  have hid : Text.isBlankText "tt" = false := by decide
  have hnew : p.fresh ∉ p.finished.map Prod.fst := List.not_mem_nil
  have hend : ((p.spawn true (a.check "tt")).1.runWithin (fun _ => false) none 20).map
      (fun q => (q.finished, q.shared.counters.skips name .badStatus,
        q.shared.counters.skips name .badLink)) =
        some ([(0, .ok [t])], 1, 1) := by
    decide +kernel
  obtain ⟨q', hrun, heq⟩ := Option.map_eq_some_iff.mp hend
  obtain rfl : q = q' := Pool.runUntil_of_runWithin hrun
  simp only [Prod.mk.injEq] at heq
  obtain ⟨hfinished, hstatus, hlink⟩ := heq
  obtain ⟨⟨acts, outcome, hbrings⟩, hall, -⟩ :=
    check_visits_each_link a hid (Pool.sound_idle _) hnew true (p := p)
  have hmem : (0, outcome) ∈ q.finished := hbrings.2
  rw [hfinished, List.mem_singleton] at hmem
  obtain rfl : outcome = .ok [t] := (Prod.mk.inj hmem).2
  have hmiss : (p.shared.lookup "tt" name a.maxAge).1.hit? = none := by decide +kernel
  obtain ⟨page, hfinds, hlinks⟩ :=
    finds_of_brings hid (Pool.sound_idle _) hnew rfl hmiss hbrings
  obtain ⟨visits, -, hscrapes, -, -, -, hcounts⟩ := hall acts _ q hbrings page hfinds hlinks
  have hcounts := hcounts rfl
  have hzero (reason : Page.SkipReason) : p.shared.counters.skips name reason = 0 := rfl
  refine ⟨hid, Pool.sound_idle _, hnew, hfinished, acts, page, visits, hbrings, hfinds, hlinks, hscrapes,
    ?_, ?_⟩
  · have hcount := hcounts .badStatus
    rw [hstatus, hzero, zero_add] at hcount
    exact Nat.cast_inj.mp hcount.symm
  · have hcount := hcounts .badLink
    rw [hlink, hzero, zero_add] at hcount
    exact Nat.cast_inj.mp hcount.symm

end Access

end Source.Ibit

end TorrentSearch
