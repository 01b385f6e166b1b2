import TorrentSearch.Proofs.Cache.Residence
import TorrentSearch.Proofs.Cache.WrittenEntry
import TorrentSearch.Proofs.Search.Company
import TorrentSearch.Source.Ibit
import TorrentSearch.Source.Yts

/-!
# What the cache remembers of a check

Other checks at work on the same cache can evict the entry that a check of a site left, but they cannot
make it another one. So the cache remembers what the check brought, or nothing that is fresh.
-/

namespace TorrentSearch

theorem Search.Shared.find?_lookup {id name : String} {maxAge : Time.Span} {s : Shared}
    (key : Cbor.Bytes) : (s.lookup id name maxAge).2.cache.find? key = s.cache.find? key :=
  s.cache.find?_lookupResults id name maxAge s.now key

namespace Source

open Cache (Store)
open Cache.Store (resultsKey Thins)
open Search (Shared Terms Work)
open Search.Work (Leads)

section

variable {κ : Type} {T : Terms κ} {role : κ}

structure Permits (T : Terms κ) (role : κ) : Prop where
  request (s : Shared) (url : String) (timeout : Nat) :
    T.promise role s (s.request url timeout).2
  count (s : Shared) (f : Counters → Counters) : T.promise role s (s.count f)

/-- A property of what is shared stays while others go on, and so it does with requests and counting. -/
structure Lasts (T : Terms κ) (role : κ) (J : Shared → Prop) : Prop where
  rely {s t : Shared} : J s → T.rely role s t → J t
  request {s : Shared} (url : String) (timeout : Nat) : J s → J (s.request url timeout).2
  count {s : Shared} (f : Counters → Counters) : J s → J (s.count f)

variable {J : Shared → Prop} {post : Outcome → Shared → Prop} {s : Shared}

theorem leads_get (hT : Permits T role) (hJ : Lasts T role J) (url : String) (timeout : Nat) (hs : J s)
    {R : Except Error Http.Response → Prop} (hnone : ∀ e, R (.error e))
    (hreply : ∀ u shown, R (received url shown (s.request u timeout).1.2)) :
    Leads T role (fun reply t => R reply ∧ J t) (get url timeout) s := by
  unfold get
  split
  · exact .done ⟨hnone _, hs⟩
  · dsimp only
    split
    · exact .request (hT.request s _ timeout) fun t ht =>
        .done ⟨hreply _ _, hJ.rely (hJ.request _ timeout hs) ht⟩
    · exact .done ⟨hnone _, hs⟩

theorem leads_answeredBy {id name : String} {maxAge : Time.Span} {live : Work Outcome}
    (hlook : T.promise role s (s.lookup id name maxAge).2)
    (hhit : ∀ results, (s.cache.lookupResults id name maxAge s.now).1.hit? = some results →
      post (.ok results) (s.lookup id name maxAge).2)
    (hmiss : (s.cache.lookupResults id name maxAge s.now).1.hit? = none →
      Leads T role post live (s.lookup id name maxAge).2) :
    Leads T role post (answeredBy (cached id name maxAge) live) s := by
  have hfound : (s.lookup id name maxAge).1 = (s.cache.lookupResults id name maxAge s.now).1 := by
    rw [Shared.lookup]
  have hcached : Leads T role
      (fun found t => found = (s.cache.lookupResults id name maxAge s.now).1.hit? ∧
        t = (s.lookup id name maxAge).2) (cached id name maxAge) s := by
    have hconsult : Leads T role
        (fun found t => found = (s.cache.lookupResults id name maxAge s.now).1 ∧
          t = (s.lookup id name maxAge).2) (Work.consult (Shared.lookup id name maxAge)) s :=
      .consult hlook ⟨hfound, rfl⟩
    refine hconsult.bind fun found t hfound => .pure ?_
    obtain ⟨heq, ht⟩ := hfound
    exact ⟨by rw [heq], ht⟩
  refine hcached.bind fun found t hfound => ?_
  obtain ⟨heq, rfl⟩ := hfound
  cases found with
  | some results => exact .pure (hhit results heq.symm)
  | none => exact hmiss heq.symm

theorem leads_timed (hT : Permits T role) {name : String} {check : Work Outcome}
    (hpost : ∀ outcome t f, post outcome t → post outcome (t.count f))
    (h : Leads T role post check s) : Leads T role post (timed name check) s := by
  have hlook : Leads T role (fun (_ : Nat) t => t = s) (.look fun s => .done s.elapsed) s :=
    .look (.done rfl)
  refine hlook.bind fun start t ht => ?_
  subst ht
  refine h.bind fun outcome u hu => ?_
  have hcount : Leads T role (fun _ v => post outcome v)
      (Work.update fun s => s.count (·.observeCheck name outcome.isOk (s.elapsed - start))) u :=
    .update (hT.count u _) (hpost outcome u _ hu)
  exact hcount.bind fun _ v hv => .pure hv

theorem Yts.Access.leads_attempts (a : Yts.Access) (id : String) {R : Outcome → Prop}
    (hattempt : ∀ t, J t → Leads T role (fun outcome u => R outcome ∧ J u) (a.attempt id) t)
    (more : Nat) (hs : J s) :
    Leads T role (fun outcome t => R outcome ∧ J t) (a.attempts id more) s := by
  induction more generalizing s with
  | zero => exact hattempt s hs
  | succ more ih =>
    refine (hattempt s hs).bind fun outcome t ht => ?_
    cases outcome with
    | ok results => exact .pure ht
    | error e => exact ih ht.2

namespace Ibit.Access

variable (a : Ibit.Access)

theorem leads_visit (hT : Permits T role) (hJ : Lasts T role J) (href : String) (hs : J s) :
    Leads T role (fun _ t => J t) (a.visit href) s := by
  unfold visit
  split
  · exact .done hs
  · rename_i url _
    have hget := leads_get hT hJ (R := fun _ => True) url a.timeout hs (fun _ => trivial)
      fun _ _ => trivial
    exact hget.bind fun _ t ht => .pure ht.2

theorem leads_visitAll (hT : Permits T role) (hJ : Lasts T role J) (hrefs : List String) (hs : J s) :
    Leads T role (fun _ t => J t) (a.visitAll hrefs) s := by
  induction hrefs generalizing s with
  | nil => exact .pure hs
  | cons href hrefs ih =>
    have hwait : Leads T role (fun _ t => J t) (Work.wait a.pageDelay) s :=
      .wait fun t ht => hJ.rely hs ht
    refine hwait.bind fun _ t ht => (a.leads_visit hT hJ href ht).bind fun found u hu => ?_
    cases found with
    | ok torrent => exact (ih hu).bind fun _ v hv => .pure hv
    | error reason =>
      have hcount : Leads T role (fun _ v => J v)
          (Work.update (Shared.count (·.observeSkippedPage name reason))) u :=
        .update (hT.count u _) (hJ.count _ hu)
      exact hcount.bind fun _ v hv => ih hv

end Ibit.Access

end

/-- Neither the clock nor the network has changed, and the cache is as accurate as before. -/
structure Steady (s t : Shared) : Prop where
  now : t.now = s.now
  network : t.network = s.network
  accurate : s.cache.Accurate → t.cache.Accurate
  maxBytes : s.cache.Accurate → t.cache.maxBytes = s.cache.maxBytes

theorem Steady.refl (s : Shared) : Steady s s := ⟨rfl, rfl, id, fun _ => rfl⟩

theorem Steady.trans {s t u : Shared} (h : Steady s t) (h' : Steady t u) : Steady s u :=
  ⟨h'.now.trans h.now, h'.network.trans h.network, fun hs => h'.accurate (h.accurate hs),
    fun hs => (h'.maxBytes (h.accurate hs)).trans (h.maxBytes hs)⟩

theorem resultsKey_ne {id name other : String} (h : name ≠ other) :
    resultsKey id name ≠ resultsKey id other := by
  intro heq
  have hkey : Entry.key id name = Entry.key id other := Text.Utf8.encode_injective heq
  have hchars := congrArg String.toList hkey
  simp only [Entry.key, String.toList_append] at hchars
  exact h (String.toList_inj.mp (List.append_cancel_left hchars))

/-- Each source relies on its entry for an identifier to stay what it is until it is evicted, and
promises as much to the other sources. -/
def keeping (id : String) : Terms String where
  rely name s t := Steady s t ∧ Thins (resultsKey id name) s.cache t.cache
  promise name s t :=
    Steady s t ∧ ∀ other, name ≠ other → Thins (resultsKey id other) s.cache t.cache
  refl _ _ := ⟨.refl _, .refl _ _⟩
  trans h h' := ⟨h.1.trans h'.1, h.2.trans h'.2⟩
  elapse _ _ _ := ⟨⟨rfl, rfl, fun h => h, fun _ => rfl⟩, .refl _ _⟩
  enough hne h := ⟨h.1, h.2 _ hne⟩

/-- The cache has no fresh entry of a source for an identifier. -/
def Stale (id name : String) (maxAge : Time.Span) (now : Time.Instant) (cache : Store) : Prop :=
  (cache.lookupResults id name maxAge now).1.hit? = none

instance (id name : String) (maxAge : Time.Span) (now : Time.Instant) (cache : Store) :
    Decidable (Stale id name maxAge now cache) :=
  inferInstanceAs (Decidable (_ = none))

/-- If the cache has an entry of a source for an identifier, its results are the given ones. -/
def Holds (id name : String) (results : List Torrent) (cache : Store) : Prop :=
  ∀ value, cache.find? (resultsKey id name) = some value →
    ∃ e, Entry.decode? value = some e ∧ e.results = results

/-- The cache remembers an outcome: the results as far as there is an entry, or at least nothing fresh if
there are none. -/
def Remembers (id name : String) (maxAge : Time.Span) (now : Time.Instant) (cache : Store) :
    Outcome → Prop
  | .ok results => Holds id name results cache ∨ (results = [] ∧ Stale id name maxAge now cache)
  | .error _ => Stale id name maxAge now cache

section

variable {id name : String} {maxAge : Time.Span} {now : Time.Instant} {cache cache' : Store}
  {results : List Torrent} {outcome : Outcome}

theorem stale_iff : Stale id name maxAge now cache ↔
    ∀ value e, cache.find? (resultsKey id name) = some value → Entry.decode? value = some e →
      e.isFresh maxAge now = false := by
  rw [Stale, Store.fst_lookupResults, Option.eq_none_iff_forall_ne_some]
  constructor
  · intro h value e hfind hread
    by_contra hfresh
    rw [Bool.not_eq_false] at hfresh
    exact h e.results (Cache.Lookup.hit?_judge_eq_some_iff.mpr ⟨value, e, hfind, hread, hfresh, rfl⟩)
  · intro h results hhit
    obtain ⟨value, e, hfind, hread, hfresh, -⟩ := Cache.Lookup.hit?_judge_eq_some_iff.mp hhit
    rw [h value e hfind hread] at hfresh
    cases hfresh

theorem Stale.thins (h : Stale id name maxAge now cache)
    (hthins : Thins (resultsKey id name) cache cache') : Stale id name maxAge now cache' :=
  stale_iff.mpr fun value e hfind => stale_iff.mp h value e (hthins.find?_eq hfind)

theorem Holds.thins (h : Holds id name results cache)
    (hthins : Thins (resultsKey id name) cache cache') : Holds id name results cache' :=
  fun value hfind => h value (hthins.find?_eq hfind)

theorem Remembers.thins (h : Remembers id name maxAge now cache outcome)
    (hthins : Thins (resultsKey id name) cache cache') :
    Remembers id name maxAge now cache' outcome := by
  cases outcome with
  | ok results =>
    rcases h with h | ⟨hnil, h⟩
    · exact .inl (h.thins hthins)
    · exact .inr ⟨hnil, h.thins hthins⟩
  | error e => exact Stale.thins h hthins

theorem holds_of_hit (h : (cache.lookupResults id name maxAge now).1.hit? = some results) :
    Holds id name results cache := by
  rw [Store.fst_lookupResults, Cache.Lookup.hit?_judge_eq_some_iff] at h
  obtain ⟨value, e, hfind, hread, -, hresults⟩ := h
  intro value' hfind'
  rw [hfind, Option.some.injEq] at hfind'
  exact ⟨e, hfind' ▸ hread, hresults⟩

theorem holds_storeResults (haccurate : cache.Accurate) (hbudget : cache.maxBytes < 2 ^ 64) :
    Holds id name results (cache.storeResults id name results now) := by
  intro value hfind
  rw [Store.storeResults_eq_put] at hfind
  have hput := haccurate.put (resultsKey id name) (Entry.encode ⟨now, results⟩)
  have hlength := hput.entryLength_le hfind
  rcases Store.find?_put cache (resultsKey id name) (Entry.encode ⟨now, results⟩) with hnone | hsome
  · rw [hnone] at hfind
    cases hfind
  · rw [hsome, Option.some.injEq] at hfind
    subst hfind
    have hshort : (Entry.encode ⟨now, results⟩).length < 2 ^ 64 := by
      have hwithin := hput.within
      rw [haccurate.maxBytes_put] at hwithin
      unfold Store.entryLength at hlength
      dsimp only at hlength
      omega
    have hread := (Entry.Addressable.of_length_encode hshort).decode?_append []
    rw [List.append_nil] at hread
    exact ⟨_, hread, rfl⟩

end

/-- The clock shows an instant, and the cache is accurate and within addressable bounds. -/
structure Sturdy (now : Time.Instant) (s : Shared) : Prop where
  now : s.now = now
  accurate : s.cache.Accurate
  addressable : s.cache.maxBytes < 2 ^ 64

theorem Sturdy.steady {now : Time.Instant} {s t : Shared} (h : Sturdy now s) (hst : Steady s t) :
    Sturdy now t :=
  ⟨hst.now.trans h.now, hst.accurate h.accurate, by rw [hst.maxBytes h.accurate]; exact h.addressable⟩

theorem steady_lookup (id name : String) (maxAge : Time.Span) (s : Shared) :
    Steady s (s.lookup id name maxAge).2 := by
  refine ⟨by rw [Shared.lookup], by rw [Shared.lookup], fun h => ?_, fun _ => ?_⟩
  · rw [Shared.cache_lookup]
    exact h.get _
  · rw [Shared.cache_lookup]
    exact Store.maxBytes_get ..

theorem steady_store (id name : String) (results : List Torrent) (s : Shared) :
    Steady s (s.store id name results) := by
  refine ⟨by rw [Shared.store], by rw [Shared.store], fun h => ?_, fun h => ?_⟩
  · rw [Shared.cache_store, Store.storeResults_eq_put]
    exact h.put _ _
  · rw [Shared.cache_store, Store.storeResults_eq_put]
    exact h.maxBytes_put _ _

theorem steady_request (url : String) (timeout : Nat) (s : Shared) :
    Steady s (s.request url timeout).2 := by
  unfold Shared.request
  split <;> exact ⟨rfl, rfl, fun h => h, fun _ => rfl⟩

theorem permits_keeping (id name : String) : Permits (keeping id) name := by
  constructor
  · intro s url timeout
    refine ⟨steady_request url timeout s, fun other _ => ?_⟩
    rw [Shared.cache_request]
    exact .refl _ _
  · intro s f
    exact ⟨⟨rfl, rfl, fun h => h, fun _ => rfl⟩, fun other _ => .refl _ _⟩

theorem thins_lookup (key : Cbor.Bytes) (id name : String) (maxAge : Time.Span) (s : Shared) :
    Thins key s.cache (s.lookup id name maxAge).2.cache :=
  .of_eq (Shared.find?_lookup key)

theorem promise_lookup (id name : String) (maxAge : Time.Span) (s : Shared) :
    (keeping id).promise name s (s.lookup id name maxAge).2 :=
  ⟨steady_lookup id name maxAge s, fun _ _ => thins_lookup ..⟩

theorem promise_store (id name : String) (results : List Torrent) (s : Shared) :
    (keeping id).promise name s (s.store id name results) := by
  refine ⟨steady_store id name results s, fun other hne => ?_⟩
  rw [Shared.cache_store, Store.storeResults_eq_put]
  exact Store.thins_put (resultsKey_ne hne.symm) _ _

section

variable (id name : String) (maxAge : Time.Span) (now : Time.Instant)

/-- What a check comes to that meets servers: the cache remembers its outcome. -/
def Remembered (outcome : Outcome) (s : Shared) : Prop :=
  Sturdy now s ∧ Remembers id name maxAge now s.cache outcome

theorem lasts_stale :
    Lasts (keeping id) name fun s => Sturdy now s ∧ Stale id name maxAge now s.cache := by
  constructor
  · rintro s t ⟨hs, hstale⟩ ⟨hsteady, hthins⟩
    exact ⟨hs.steady hsteady, hstale.thins hthins⟩
  · rintro s url timeout ⟨hs, hstale⟩
    refine ⟨hs.steady (steady_request url timeout s), ?_⟩
    rwa [Shared.cache_request]
  · rintro s f ⟨hs, hstale⟩
    exact ⟨⟨hs.now, hs.accurate, hs.addressable⟩, hstale⟩

variable {id name maxAge now} {s : Shared}

theorem remembered_stable {outcome : Outcome} {t : Shared}
    (h : Remembered id name maxAge now outcome s) (hrely : (keeping id).rely name s t) :
    Remembered id name maxAge now outcome t :=
  ⟨h.1.steady hrely.1, h.2.thins hrely.2⟩

theorem leads_remembered {live : Work Outcome} (hs : Sturdy now s)
    (hlive : ∀ t, Sturdy now t → Stale id name maxAge now t.cache →
      Leads (keeping id) name (Remembered id name maxAge now) live t) :
    Leads (keeping id) name (Remembered id name maxAge now)
      (timed name (answeredBy (cached id name maxAge) live)) s := by
  have hlooked := hs.steady (steady_lookup id name maxAge s)
  have hthins : Thins (resultsKey id name) s.cache (s.lookup id name maxAge).2.cache :=
    thins_lookup ..
  refine leads_timed (permits_keeping id name) (fun outcome t f ht => ?_)
    (leads_answeredBy (promise_lookup id name maxAge s) (fun results hhit => ?_) fun hmiss => ?_)
  · exact ⟨⟨ht.1.now, ht.1.accurate, ht.1.addressable⟩, ht.2⟩
  · exact ⟨hlooked, .inl ((holds_of_hit hhit).thins hthins)⟩
  · rw [hs.now] at hmiss
    exact hlive _ hlooked (Stale.thins hmiss hthins)

theorem leads_keep (hs : Sturdy now s) (results : List Torrent) :
    Leads (keeping id) name (fun _ => Remembered id name maxAge now (.ok results))
      (keep id name results) s := by
  refine .update (promise_store id name results s) ⟨hs.steady (steady_store id name results s), ?_⟩
  rw [Shared.cache_store]
  exact .inl (holds_storeResults hs.accurate hs.addressable)

theorem Yts.Access.leads_checkUpTo (a : Yts.Access) (count : Nat)
    (hid : Text.isBlankText id = false) (hs : Sturdy now s) :
    Leads (keeping id) Yts.name (Remembered id Yts.name a.maxAge now) (a.checkUpTo count id) s := by
  unfold checkUpTo
  rw [validateIdentifier_eq_ok_iff.mpr hid]
  refine leads_remembered hs fun t ht hstale => ?_
  have hT := permits_keeping id Yts.name
  have hJ := lasts_stale id Yts.name a.maxAge now
  let J (s : Shared) : Prop := Sturdy now s ∧ Stale id Yts.name a.maxAge now s.cache
  have hattempt (u : Shared) (hu : J u) :
      Leads (keeping id) Yts.name (fun _ v => True ∧ J v) (a.attempt id) u := by
    have hget := leads_get hT hJ (R := fun _ => True) (a.searchUrl id) a.timeout hu
      (fun _ => trivial) fun _ _ => trivial
    exact hget.bind fun reply v hv => .pure hv
  have hattempts := a.leads_attempts id hattempt (count - 1) ⟨ht, hstale⟩
  refine hattempts.bind fun outcome u ⟨_, hu, hstale⟩ => ?_
  cases outcome with
  | ok results => exact (leads_keep hu results).bind fun _ v hv => .pure hv
  | error e =>
    have hnothing : Leads (keeping id) Yts.name
        (fun _ v => Remembered id Yts.name a.maxAge now (.error e) v) (Pure.pure ()) u :=
      .pure ⟨hu, hstale⟩
    exact hnothing.bind fun _ v hv => .pure hv

theorem Ibit.Access.leads_check (a : Ibit.Access) (hid : Text.isBlankText id = false)
    (hs : Sturdy now s) :
    Leads (keeping id) Ibit.name (Remembered id Ibit.name a.maxAge now) (a.check id) s := by
  unfold check
  rw [validateIdentifier_eq_ok_iff.mpr hid]
  refine .locked fun t ht => leads_remembered (hs.steady ht.1) fun u hu hstale => ?_
  have hT := permits_keeping id Ibit.name
  have hJ := lasts_stale id Ibit.name a.maxAge now
  have hget := leads_get hT hJ (R := fun _ => True) (a.searchUrl id) a.timeout ⟨hu, hstale⟩
    (fun _ => trivial) fun _ _ => trivial
  refine hget.bind fun reply v hv => ?_
  split
  · exact .pure hv.2
  · unfold follow
    split
    · have hcount : Leads (keeping id) Ibit.name
          (fun _ w => Sturdy now w ∧ Stale id Ibit.name a.maxAge now w.cache)
          (Work.update (Shared.count (·.observeZeroLinkPage Ibit.name))) v :=
        .update (hT.count v _) (hJ.count _ hv.2)
      exact hcount.bind fun _ w hw => .pure ⟨hw.1, .inr ⟨rfl, hw.2⟩⟩
    · refine (a.leads_visitAll hT hJ _ hv.2).bind fun torrents w hw => ?_
      exact (leads_keep hw.1 torrents).bind fun _ x hx => .pure hx

end

end Source

end TorrentSearch
