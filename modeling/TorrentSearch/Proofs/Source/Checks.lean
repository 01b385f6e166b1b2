import TorrentSearch.Proofs.Cache.KeptEntries
import TorrentSearch.Proofs.Search.Safety
import TorrentSearch.Proofs.Source.WellFormed
import TorrentSearch.Source.Ibit

/-!
# Checks bring well-formed torrents

Whatever servers reply, the checks of the two sites bring well-formed torrents only and keep no others
in the cache. What they find there they may hand out, because all checks keep to this.

More generally a check is safe for each property of the cache that lookups and stores of what it
brings keep.
-/

namespace TorrentSearch.Source

open Search (Work Shared)

def AllWellFormed (results : List Torrent) : Prop := ∀ t ∈ results, t.WellFormed

/-- A check that does not fail brings well-formed torrents. -/
def BringsWellFormed (outcome : Outcome) : Prop :=
  ∀ results, outcome = .ok results → AllWellFormed results

/-- The torrents of all entries of the cache are well formed. -/
def KeepsWellFormed (cache : Cache.Store) : Prop :=
  cache.Kept fun _ e => AllWellFormed e.results

theorem bringsWellFormed_ok {results : List Torrent} (h : AllWellFormed results) :
    BringsWellFormed (.ok results) := by
  rintro _ ⟨⟩
  exact h

theorem bringsWellFormed_error (e : Error) : BringsWellFormed (.error e) := by
  rintro results ⟨⟩

variable {C : Cache.Store → Prop} {R : Outcome → Prop}

/-- A property of the cache that lookups keep, and stores of results that checks may bring. What is
found may be brought, and so may failures and well-formed torrents. -/
structure CacheInvariant (C : Cache.Store → Prop) (R : Outcome → Prop) : Prop where
  lookup {cache : Cache.Store} (h : C cache) (id name : String) (maxAge : Time.Span)
    (now : Time.Instant) : C (cache.lookupResults id name maxAge now).2
  hit {cache : Cache.Store} {id name : String} {maxAge : Time.Span} {now : Time.Instant}
    {results : List Torrent} (h : C cache)
    (hhit : (cache.lookupResults id name maxAge now).1 = .hit results) : R (.ok results)
  store {cache : Cache.Store} {results : List Torrent} (h : C cache) (hresults : R (.ok results))
    (id name : String) (now : Time.Instant) : C (cache.storeResults id name results now)
  brings {outcome : Outcome} (h : BringsWellFormed outcome) : R outcome

theorem cacheInvariant_keepsWellFormed : CacheInvariant KeepsWellFormed BringsWellFormed where
  lookup h id name maxAge now := Cache.Store.Kept.lookupResults h id name maxAge now
  hit h hhit := by
    obtain ⟨e, hwf, rfl⟩ := Cache.Store.Kept.of_hit h hhit
    exact bringsWellFormed_ok hwf
  store h hresults _ _ _ :=
    Cache.Store.Kept.storeResults h (hresults _ rfl) fun _ _ _ hwf => hwf
  brings := id

theorem CacheInvariant.error (h : CacheInvariant C R) (e : Error) : R (.error e) :=
  h.brings (bringsWellFormed_error e)

theorem safe_cached (h : CacheInvariant C R) (id name : String) (maxAge : Time.Span) :
    (cached id name maxAge).Safe C fun found => ∀ results, found = some results → R (.ok results) := by
  have hconsult : (Work.consult (Shared.lookup id name maxAge)).Safe C
      fun found => ∀ results, found = .hit results → R (.ok results) := by
    refine .consult (fun s hs => ?_) fun s hs results hhit => h.hit hs hhit
    rw [Shared.cache_lookup]
    exact h.lookup hs id name maxAge s.now
  refine hconsult.bind fun found hfound => .pure fun results hresults => ?_
  cases found with
  | hit kept =>
    rw [Cache.Lookup.hit?, Option.some.injEq] at hresults
    exact hresults ▸ hfound kept rfl
  | expired | corrupt | miss => cases hresults

theorem safe_keep (h : CacheInvariant C R) (id name : String) {results : List Torrent}
    (hresults : R (.ok results)) : (keep id name results).Safe C fun _ => True := by
  refine .update fun s hs => ?_
  rw [Shared.cache_store]
  exact h.store hs hresults id name s.now

theorem safe_count (f : Shared → Counters → Counters) :
    (Work.update fun s => s.count (f s)).Safe C fun _ => True := by
  refine .update fun s hs => ?_
  rwa [Shared.cache_count]

theorem safe_answeredBy {cache : Work (Option (List Torrent))} {live : Work Outcome}
    (hcache : cache.Safe C fun found => ∀ results, found = some results → R (.ok results))
    (hlive : live.Safe C R) : (answeredBy cache live).Safe C R := by
  refine hcache.bind fun found hfound => ?_
  cases found with
  | some results => exact .pure (hfound results rfl)
  | none => exact hlive

theorem safe_timed (name : String) {check : Work Outcome} (h : check.Safe C R) :
    (timed name check).Safe C R := by
  have hlook : (Work.look fun s => .done s.elapsed).Safe C fun _ : Nat => True :=
    .look fun _ _ => .done trivial
  refine hlook.bind fun start _ => h.bind fun outcome houtcome => ?_
  exact (safe_count _).bind fun _ _ => .pure houtcome

theorem safe_get (url : String) (timeout : Nat) : (get url timeout).Safe C fun _ => True := by
  unfold get
  split
  · exact .done trivial
  · dsimp only
    split
    · exact .request _ _ fun _ => .done trivial
    · exact .done trivial

namespace Yts

theorem allWellFormed_torrents (f : Film) : AllWellFormed f.torrents := by
  intro t ht
  obtain ⟨r, -, hr⟩ := List.mem_filterMap.mp ht
  exact r.wellFormed_torrent hr

theorem bringsWellFormed_outcome (a : Answer) : BringsWellFormed a.outcome := by
  unfold Answer.outcome
  split
  · exact bringsWellFormed_error _
  · split
    · exact bringsWellFormed_ok fun t ht => by cases ht
    · refine bringsWellFormed_ok fun t ht => ?_
      obtain ⟨f, -, hf⟩ := List.mem_flatMap.mp ht
      exact allWellFormed_torrents f t hf

theorem bringsWellFormed_outcomeOfBody (body : Option (List UInt8)) :
    BringsWellFormed (outcomeOfBody body) := by
  unfold outcomeOfBody
  split
  · split
    · exact bringsWellFormed_outcome _
    · exact bringsWellFormed_error _
  · exact bringsWellFormed_error _

namespace Access

theorem bringsWellFormed_outcomeOf (url : String) (reply : Except Error Http.Response) :
    BringsWellFormed (outcomeOf url reply) := by
  cases reply with
  | error e => exact bringsWellFormed_error e
  | ok r =>
    simp only [outcomeOf]
    split
    · exact bringsWellFormed_outcomeOfBody r.body.whole?
    · exact bringsWellFormed_error _

variable (a : Access) (id : String)

theorem safe_attempt : (a.attempt id).Safe C BringsWellFormed :=
  (safe_get _ _).bind fun reply _ => .pure (bringsWellFormed_outcomeOf _ reply)

theorem safe_attempts (more : Nat) : (a.attempts id more).Safe C BringsWellFormed := by
  induction more with
  | zero => exact a.safe_attempt id
  | succ more ih =>
    refine (a.safe_attempt id).bind fun outcome houtcome => ?_
    cases outcome with
    | ok results => exact .pure houtcome
    | error e => exact ih

theorem safe_checkLive (h : CacheInvariant C R) (count : Nat) :
    (a.checkLive count id).Safe C R := by
  refine (a.safe_attempts id _).bind fun outcome houtcome => ?_
  cases outcome with
  | ok results =>
    exact (safe_keep h id name (h.brings houtcome)).bind fun _ _ => .pure (h.brings houtcome)
  | error e => exact .pure (h.error e)

theorem safe_checkUpTo (h : CacheInvariant C R) (count : Nat) :
    (a.checkUpTo count id).Safe C R := by
  unfold checkUpTo
  split
  · exact .done (h.error _)
  · exact safe_timed name (safe_answeredBy (safe_cached h id name _) (a.safe_checkLive id h count))

end Access

end Yts

namespace Ibit.Access

theorem wellFormed_torrentOf {reply : Except Error Http.Response} {t : Torrent}
    (h : torrentOf reply = .ok t) : t.WellFormed := by
  unfold torrentOf at h
  split at h
  · cases h
  · split at h
    · cases h
    · split at h
      · exact Page.wellFormed_torrent h
      · cases h
      · cases h

variable (a : Access)

theorem safe_visit (href : String) :
    (a.visit href).Safe C fun found => ∀ t, found = .ok t → t.WellFormed := by
  unfold visit
  split
  · exact .done fun t ht => by cases ht
  · exact (safe_get _ _).bind fun reply _ => .pure fun t ht => wellFormed_torrentOf ht

theorem safe_visitAll (hrefs : List String) : (a.visitAll hrefs).Safe C AllWellFormed := by
  induction hrefs with
  | nil => exact .pure fun t ht => by cases ht
  | cons href hrefs ih =>
    refine (Work.Safe.wait _).bind fun _ _ => (a.safe_visit href).bind fun found hfound => ?_
    cases found with
    | ok torrent =>
      refine ih.bind fun torrents htorrents => .pure fun t ht => ?_
      rcases List.mem_cons.mp ht with rfl | ht
      · exact hfound t rfl
      · exact htorrents t ht
    | error reason => exact (safe_count fun _ => _).bind fun _ _ => ih

variable (id : String)

theorem safe_follow (h : CacheInvariant C R) (links : Page.Links) :
    (a.follow id links).Safe C R := by
  unfold follow
  split
  · refine (safe_count fun _ => _).bind fun _ _ => .pure (h.brings (bringsWellFormed_ok ?_))
    exact fun t ht => by cases ht
  · refine (a.safe_visitAll _).bind fun torrents htorrents => ?_
    have hbrings := h.brings (bringsWellFormed_ok htorrents)
    exact (safe_keep h id name hbrings).bind fun _ _ => .pure hbrings

theorem safe_checkLive (h : CacheInvariant C R) : (a.checkLive id).Safe C R := by
  refine (safe_get _ _).bind fun reply _ => ?_
  split
  · exact .pure (h.error _)
  · exact a.safe_follow id h _

theorem safe_check (h : CacheInvariant C R) : (a.check id).Safe C R := by
  unfold check
  split
  · exact .done (h.error _)
  · exact .locked name
      (safe_timed name (safe_answeredBy (safe_cached h id name _) (a.safe_checkLive id h)))

end Ibit.Access

end TorrentSearch.Source
