import TorrentSearch.Proofs.Cache.Persistence
import TorrentSearch.Proofs.Federation.Company
import TorrentSearch.Proofs.Federation.CompletionOrder
import TorrentSearch.Proofs.Source.Unanswered

/-!
# Searching again

What a search found is found again without any server, if its cache was saved and loaded and the entries
are still fresh. A source that brought nothing may fail the second time.
-/

namespace TorrentSearch.Federation

open Cache (Store)
open Cache.Store (resultsKey Thins)
open Search (Pool Shared)
open Search.Work (Leads)
open Source (Remembers Remembered Repeats Stale KnowsNothing Sturdy Untouched)

/-- A source brings the same list again, or it fails where it had none or an empty one. -/
def Restores (outcome again : Source.Outcome) : Prop :=
  (∃ results, outcome = .ok results ∧ again = .ok results) ∨
    ((∃ e, again = .error e) ∧ ∀ results, outcome = .ok results → results = [])

theorem lists_restored {arrived again : List Arrival}
    (hsources : arrived.map (·.source) = again.map (·.source))
    (hrestores : ∀ a ∈ arrived, ∀ b ∈ again, a.source = b.source →
      Restores a.outcome b.outcome) :
    (lists again).flatten = (lists arrived).flatten ∧
      (lists again).countP (!·.isEmpty) = (lists arrived).countP (!·.isEmpty) := by
  induction arrived generalizing again with
  | nil =>
    obtain rfl := List.map_eq_nil_iff.mp hsources.symm
    exact ⟨rfl, rfl⟩
  | cons a arrived ih =>
    cases again with
    | nil => cases hsources
    | cons b again =>
      obtain ⟨hsame, hrest⟩ := List.cons.inj hsources
      obtain ⟨hflatten, hcount⟩ := ih hrest fun c hc d hd =>
        hrestores c (List.mem_cons_of_mem _ hc) d (List.mem_cons_of_mem _ hd)
      have hfirst := hrestores a List.mem_cons_self b List.mem_cons_self hsame
      unfold lists at hflatten hcount ⊢
      rw [List.filterMap_cons, List.filterMap_cons]
      obtain ⟨results, hbrought, hagain⟩ | ⟨⟨e, hagain⟩, hnothing⟩ := hfirst
      · simp only [Arrival.results?, hbrought, hagain, List.flatten_cons, List.countP_cons]
        exact ⟨congrArg _ hflatten, congrArg (· + _) hcount⟩
      · cases hbrought : a.outcome with
        | error e' =>
          simp only [Arrival.results?, hbrought, hagain]
          exact ⟨hflatten, hcount⟩
        | ok results =>
          obtain rfl := hnothing results hbrought
          simp only [Arrival.results?, hbrought, hagain, List.flatten_cons, List.countP_cons]
          exact ⟨by simpa using hflatten, by simpa using hcount⟩

/-- What the cache remembers of a check is brought again, if there is a fresh entry for what it brought and
none that had expired. -/
theorem restores_of_remembers {id name : String} {maxAge : Time.Span} {now later : Time.Instant}
    {cache loaded : Store} {outcome again : Source.Outcome}
    (hremembers : Remembers id name maxAge now cache outcome)
    (hrepeats : Repeats id name maxAge later loaded again)
    (hthins : Thins (resultsKey id name) cache loaded)
    (hstale : Stale id name maxAge now cache → Stale id name maxAge later cache)
    (hfresh : ∀ results, outcome = .ok results → results ≠ [] →
      (loaded.lookupResults id name maxAge later).1.hit?.isSome) : Restores outcome again := by
  unfold Repeats at hrepeats
  split at hrepeats
  · rename_i results hhit
    rw [Store.fst_lookupResults, Cache.Lookup.hit?_judge_eq_some_iff] at hhit
    obtain ⟨value, e, hfind, hread, hyoung, rfl⟩ := hhit
    have hbefore := hthins.find?_eq hfind
    have hnotStale : ¬Stale id name maxAge now cache := by
      intro hold
      have hexpired := Source.stale_iff.mp (hstale hold) value e hbefore hread
      rw [hyoung] at hexpired
      cases hexpired
    cases outcome with
    | error e' => exact absurd hremembers hnotStale
    | ok results =>
      rcases hremembers with hholds | ⟨-, hold⟩
      · obtain ⟨e', hread', rfl⟩ := hholds value hbefore
        rw [hread, Option.some.injEq] at hread'
        exact .inl ⟨e'.results, rfl, hread' ▸ hrepeats⟩
      · exact absurd hold hnotStale
  · rename_i hmiss
    refine .inr ⟨hrepeats, fun results houtcome => ?_⟩
    by_contra hsome
    have hhit := hfresh results houtcome hsome
    rw [hmiss] at hhit
    cases hhit

section

variable (config : Config)

theorem names_ofConfig :
    (ofConfig config).sources.map (·.name) =
      (if config.sources.yts.enabled then [Source.Yts.name] else []) ++
        if config.sources.ibit.enabled then [Source.Ibit.name] else [] := by
  unfold sources ofConfig
  cases config.sources.yts.enabled <;> cases config.sources.ibit.enabled <;> rfl

theorem names_ofConfig_nodup : ((ofConfig config).sources.map (·.name)).Nodup := by
  rw [names_ofConfig]
  cases config.sources.yts.enabled <;> cases config.sources.ibit.enabled <;> decide

theorem length_fast_ofConfig : (ofConfig config).fast.length ≤ 1 := by
  unfold ofConfig
  dsimp only
  split <;> simp

variable {config}

theorem cases_of_mem_sources {source : Source} (h : source ∈ (ofConfig config).sources) :
    (∃ a : Source.Yts.Access, a.maxAge = config.cache.maxAge ∧ source = a.toSource) ∨
      ∃ a : Source.Ibit.Access, a.maxAge = config.cache.maxAge ∧ source = a.toSource := by
  rcases List.mem_append.mp h with h | h
  · simp only [ofConfig] at h
    split at h
    · exact .inl ⟨_, rfl, List.mem_singleton.mp h⟩
    · cases h
  · simp only [ofConfig] at h
    split at h
    · exact .inr ⟨_, rfl, List.mem_singleton.mp h⟩
    · cases h

variable {id : String} {now : Time.Instant} {cache : Store} {t : Shared}

theorem leads_run {source : Source} (h : source ∈ (ofConfig config).sources) (attempts : Nat)
    (hid : Text.isBlankText id = false) (ht : Sturdy now t) :
    Leads (Source.keeping id) source.name (Remembered id source.name config.cache.maxAge now)
      (source.run attempts id) t := by
  obtain ⟨a, hage, rfl⟩ | ⟨a, hage, rfl⟩ := cases_of_mem_sources h
  · rw [← hage]
    exact a.leads_checkUpTo attempts hid ht
  · rw [← hage]
    exact a.leads_check hid ht

theorem leads_run_again {source : Source} (h : source ∈ (ofConfig config).sources) (attempts : Nat)
    (hid : Text.isBlankText id = false) (ht : Untouched id source.name now cache t) :
    Leads (Source.leaving id) source.name
      (fun outcome _ => Repeats id source.name config.cache.maxAge now cache outcome)
      (source.run attempts id) t := by
  obtain ⟨a, hage, rfl⟩ | ⟨a, hage, rfl⟩ := cases_of_mem_sources h
  · rw [← hage]
    exact a.leads_checkUpTo_again attempts hid ht
  · rw [← hage]
    exact a.leads_check_again hid ht

end

/-- What arrives in a search on one fast source at most, whose slow source is not late. -/
def arrived (f : Federation) (id : String) (s : Session) : List Arrival :=
  f.fastArrivals id s ++ (f.slowArrival? id s).toList

theorem sources_arrived (f : Federation) (id : String) {s : Session} (hs : s.Ready)
    (hfast : f.fast.length ≤ 1)
    (hslow : f.slow.isSome → (f.slowArrival? id s).isSome) :
    (f.arrived id s).map (·.source) = f.sources.map (·.name) := by
  have hfirst : (f.fastArrivals id s).map (·.source) = f.fast.map (·.name) := by
    obtain ⟨inOrder, hperm, hforall⟩ := f.fastArrivals_broughtBy id hs
    generalize hsources : f.fast = fast at hforall
    rw [hsources] at hfast
    cases hforall with
    | nil =>
      rw [← hperm.nil_eq]
      rfl
    | @cons source a fast rest hbrought hrest =>
      have hnone : fast = [] := by simpa using hfast
      subst hnone
      cases hrest
      rw [← hperm.singleton_eq]
      exact congrArg (· :: []) hbrought.1
  have hlast : (f.slowArrival? id s).toList.map (·.source) = f.slow.toList.map (·.name) := by
    cases hsource : f.slow with
    | none => simp [slowArrival?, hsource]
    | some source =>
      obtain ⟨a, ha⟩ := Option.isSome_iff_exists.mp (hslow (by simp [hsource]))
      obtain ⟨source', hsource', harrival⟩ := Option.bind_eq_some_iff.mp ha
      rw [hsource, Option.some.injEq] at hsource'
      subst hsource'
      obtain ⟨outcome, -, rfl⟩ := Option.map_eq_some_iff.mp harrival
      rw [ha]
      rfl
  rw [arrived, sources, List.map_append, List.map_append, hfirst, hlast]

section

variable {config : Config} {id : String} {s : Session}

theorem remembered_of_arrival (hs : s.Ready) (hidle : s.pool.jobs = [])
    (hid : Text.isBlankText id = false) (hsturdy : Sturdy s.pool.shared.now s.pool.shared)
    {a : Arrival} (ha : a ∈ (ofConfig config).arrived id s) :
    Remembered id a.source config.cache.maxAge s.pool.shared.now a.outcome
      ((ofConfig config).afterGrace id s).shared := by
  let post (name : String) := Remembered id name config.cache.maxAge s.pool.shared.now
  have hlaunched := (ofConfig config).together_launched id (Source.keeping id) post hs hidle
    (names_ofConfig_nodup config) fun source hsource t ht =>
      leads_run hsource _ hid (hsturdy.steady ht.1)
  exact (ofConfig config).post_of_arrival id (Source.keeping id) post
    (fun _ _ _ _ => Source.remembered_stable) hlaunched ha

theorem repeats_of_arrival (hs : s.Ready) (hidle : s.pool.jobs = [])
    (hid : Text.isBlankText id = false) (hnetwork : KnowsNothing s.pool.shared.network)
    {a : Arrival} (ha : a ∈ (ofConfig config).arrived id s) :
    Repeats id a.source config.cache.maxAge s.pool.shared.now s.pool.shared.cache a.outcome := by
  let post (name : String) (outcome : Source.Outcome) (_ : Shared) : Prop :=
    Repeats id name config.cache.maxAge s.pool.shared.now s.pool.shared.cache outcome
  have hlaunched := (ofConfig config).together_launched id (Source.leaving id) post hs hidle
    (names_ofConfig_nodup config) fun source hsource t ht =>
      leads_run_again hsource _ hid ⟨ht.1, by rw [ht.2.1]; exact hnetwork, ht.2.2⟩
  exact (ofConfig config).post_of_arrival id (Source.leaving id) post (fun _ _ _ _ h _ => h)
    hlaunched ha

theorem asked_of_found {f : Federation} {found : List Torrent} (h : (f.find id s).1 = .ok found) :
    Text.isBlankText id = false ∧ f.sources ≠ [] := by
  unfold find at h
  split at h
  · cases h
  · rename_i hid
    split at h
    · cases h
    · rename_i hf
      exact ⟨by simpa using hid, by simpa using hf⟩

theorem cache_find {f : Federation} (hid : Text.isBlankText id = false) (hf : f.sources ≠ []) :
    (f.find id s).2.pool.shared.cache = (f.afterGrace id s).shared.cache := by
  obtain ⟨count, hask⟩ := f.snd_ask id s
  rw [find_of_asked f id s hid hf, hask]
  rfl

end

theorem find_of_restored {f : Federation} {id : String} {s : Session} {before : List Arrival}
    (hid : Text.isBlankText id = false) (hf : f.sources ≠ [])
    (hsources : before.map (·.source) = (f.arrived id s).map (·.source))
    (hrestores : ∀ a ∈ before, ∀ b ∈ f.arrived id s, a.source = b.source →
      Restores a.outcome b.outcome)
    (hany : ∃ b ∈ f.arrived id s, b.outcome.isOk = true) :
    (f.find id s).1 = .ok (mergeLists (lists before)) := by
  obtain ⟨hflatten, hcount⟩ := lists_restored hsources hrestores
  rw [find_of_asked _ id s hid hf, fst_ask]
  apply conclude_eq_ok_iff.mpr
  refine ⟨hany, ?_⟩
  change _ = mergeLists (lists (f.arrived id s))
  rw [mergeLists_eq, mergeLists_eq, hflatten, hcount]

/-- The cache has a fresh entry of a source for an identifier. -/
def Serves (cache : Store) (id name : String) (maxAge : Time.Span) (now : Time.Instant) : Prop :=
  (cache.lookupResults id name maxAge now).1.hit?.isSome

instance (cache : Store) (id name : String) (maxAge : Time.Span) (now : Time.Instant) :
    Decidable (Serves cache id name maxAge now) :=
  inferInstanceAs (Decidable (_ = true))

/-- If a search found something and the slow source was not late, the cache that it leaves can be saved
and loaded under any budget, and then every search of the same sources for the same identifier finds the
same, in the same order, although no server has anything to say: if the slow source is not late again, if
there are fresh entries of the sources that brought torrents, if there is a fresh entry of any source at
all, and if no source has a fresh entry for this identifier that had none for the first search. -/
theorem find_after_reload (config again : Config)
    (hyts : again.sources.yts.enabled = config.sources.yts.enabled)
    (hibit : again.sources.ibit.enabled = config.sources.ibit.enabled)
    (hage : again.cache.maxAge = config.cache.maxAge) {s : Session} {id : String} {budget : Nat}
    (hs : s.Reachable) (hidle : s.pool.jobs = []) (hbudget : budget < 2 ^ 64)
    (hcache : Store.Reachable budget s.pool.shared.cache) {found : List Torrent}
    (hfound : ((ofConfig config).find id s).1 = .ok found)
    (hslow : (ofConfig config).slow.isSome → ((ofConfig config).slowArrival? id s).isSome) (m : Nat) :
    let left := ((ofConfig config).find id s).2.pool.shared.cache
    ∃ loaded, Store.load m left.save = .ok loaded ∧
      ∀ s' : Session, s'.Reachable → s'.pool.jobs = [] → s'.pool.shared.cache = loaded →
        KnowsNothing s'.pool.shared.network →
        (∀ source ∈ (ofConfig config).sources,
          Stale id source.name config.cache.maxAge s.pool.shared.now left →
            Stale id source.name config.cache.maxAge s'.pool.shared.now left) →
        (∀ a ∈ (ofConfig config).arrived id s, ∀ results, a.outcome = .ok results → results ≠ [] →
          Serves loaded id a.source config.cache.maxAge s'.pool.shared.now) →
        (∃ source ∈ (ofConfig config).sources,
          Serves loaded id source.name config.cache.maxAge s'.pool.shared.now) →
        ((ofConfig again).slow.isSome → ((ofConfig again).slowArrival? id s').isSome) →
        ((ofConfig again).find id s').1 = .ok found := by
  intro left
  obtain ⟨hid, hf⟩ := asked_of_found hfound
  have hsturdy : Sturdy s.pool.shared.now s.pool.shared :=
    ⟨rfl, hcache.accurate, by rw [hcache.maxBytes_eq]; exact hbudget⟩
  have hleft : left = ((ofConfig config).afterGrace id s).shared.cache := cache_find hid hf
  have hremembered (a : Arrival) (ha : a ∈ (ofConfig config).arrived id s) :=
    remembered_of_arrival hs.ready hidle hid hsturdy ha
  rw [find_of_asked _ id s hid hf, fst_ask] at hfound
  obtain ⟨⟨a, ha, -⟩, hmerged⟩ := conclude_eq_ok_iff.mp hfound
  have hend := (hremembered a ha).1
  have haccurate : left.Accurate := hleft ▸ hend.accurate
  have haddressable : left.maxBytes < 2 ^ 64 := hleft ▸ hend.addressable
  refine ⟨_, haccurate.load_save haddressable m, ?_⟩
  intro s' hs' hidle' hloaded hnetwork hstale hfresh hany hslow'
  have hthins (name : String) : Thins (resultsKey id name) left (Store.ofEntries m left.entries) :=
    Store.thins_of_isPrefix (Store.longestWithin_isPrefix m left.entries) _
  have hrepeats (b : Arrival) (hb : b ∈ (ofConfig again).arrived id s') :
      Repeats id b.source config.cache.maxAge s'.pool.shared.now (Store.ofEntries m left.entries)
        b.outcome := by
    rw [← hage, ← hloaded]
    exact repeats_of_arrival hs'.ready hidle' hid hnetwork hb
  have hnames : (ofConfig again).sources.map (·.name) = (ofConfig config).sources.map (·.name) := by
    rw [names_ofConfig, names_ofConfig, hyts, hibit]
  have hbefore := sources_arrived _ id hs.ready (length_fast_ofConfig config) hslow
  have hagain := sources_arrived _ id hs'.ready (length_fast_ofConfig again) hslow'
  have hasked : (ofConfig again).sources ≠ [] := by
    intro hnil
    rw [hnil, List.map_nil] at hnames
    exact hf (List.map_eq_nil_iff.mp hnames.symm)
  rw [hmerged]
  refine find_of_restored hid hasked (hbefore.trans (hnames.symm.trans hagain.symm)) ?_ ?_
  · intro a ha b hb hsame
    have ha' := (hremembered a ha).2
    rw [← hleft] at ha'
    have hb' := hrepeats b hb
    rw [← hsame] at hb'
    have hname : a.source ∈ (ofConfig config).sources.map (·.name) :=
      hbefore ▸ List.mem_map_of_mem ha
    obtain ⟨source, hsource, hsourceName⟩ := List.mem_map.mp hname
    exact restores_of_remembers ha' hb' (hthins a.source) (hsourceName ▸ hstale source hsource)
      (hfresh a ha)
  · obtain ⟨source, hsource, hserves⟩ := hany
    have hname : source.name ∈ ((ofConfig again).arrived id s').map (·.source) := by
      rw [hagain, hnames]
      exact List.mem_map.mpr ⟨source, hsource, rfl⟩
    obtain ⟨b, hb, hbsource⟩ := List.mem_map.mp hname
    refine ⟨b, hb, ?_⟩
    obtain ⟨results, hresults⟩ := Option.isSome_iff_exists.mp hserves
    have hb' := hrepeats b hb
    unfold Repeats at hb'
    rw [hbsource, hresults] at hb'
    rw [hb']
    rfl

/-- A search whose fast checks and whose slow one end within so many steps: what arrived, and the cache
that it leaves. -/
theorem find_of_waitedWithin {f : Federation} {id : String} {s : Session} {source : Source}
    (hid : Text.isBlankText id = false) (hfast : f.fast ≠ []) (hslow : f.slow = some source) {steps : Nat}
    {p q : Pool} (h : f.waitedWithin id s steps = some (p, q)) {outcome : Source.Outcome}
    (houtcome : q.outcome? (f.slowCheck s) = some outcome) :
    f.arrived id s = arrivals ((f.fastChecks s).zip (f.fast.map (·.name))) p ++ [⟨source.name, outcome⟩] ∧
      (f.slowArrival? id s).isSome ∧ (f.find id s).1 = conclude (f.arrived id s) none ∧
      (f.find id s).2.pool.shared.cache = q.shared.cache := by
  obtain ⟨hafter, hgrace⟩ := waited_of_waitedWithin f id s steps hfast (by rw [hslow]; rfl) h
  have hlast : f.slowArrival? id s = some ⟨source.name, outcome⟩ := by
    rw [slowArrival?, hslow, hgrace, Option.bind_some, houtcome]
    rfl
  have harrived : f.arrived id s = f.fastArrivals id s ++ [⟨source.name, outcome⟩] := by
    rw [arrived, hlast]
    rfl
  refine ⟨?_, by rw [hlast]; rfl, ?_, ?_⟩
  · rw [harrived, fastArrivals, hafter]
  · rw [harrived, find_of_arrived f id s hid hlast]
  · rw [cache_find hid (by simp [sources, hslow]), hgrace]

theorem eq_ok_of_toOption {ε α : Type} {result : Except ε α} {a : α}
    (h : result.toOption = some a) : result = .ok a := by
  cases result with
  | ok b => exact congrArg Except.ok (Option.some.inj h)
  | error e => cases h

/-- One source sends something that cannot be read, and the other one has a film. A minute later there is
only the cache. -/
theorem find_after_reload_of_film :
    let config : Config := { sources.yts.baseUrl := "http://[::1]", sources.ibit.baseUrl := "http://[::1]" }
    let now : Time.Instant := ⟨0, 0, 0, by decide, by decide, by decide, by decide⟩
    let later : Time.Instant := ⟨0, 60, 0, by decide, by decide, by decide, by decide⟩
    let search := "<table class=torrents><tr><td><a href=/1>Film</a></table>"
    let detail := "<div id=extra-info><h2><a>Film</a></h2></div>" ++
      "<script>'magnet:?xt=urn:btih:AB&dn=720p'</script>"
    let network : Http.Network := ⟨fun _ url => some ⟨some 5, .response (.ofBody 200
      (Text.Utf8.encode (if url = "http://[::1]/torrent-search/tt" then search
        else if url = "http://[::1]/1" then detail else "")))⟩⟩
    let nothing : Http.Network := ⟨fun _ _ => some ⟨some 5, .response .notFound⟩⟩
    let f := ofConfig config
    let s := Session.start (.start now (.empty 1000) network [])
    ∃ found loaded, (f.find "tt" s).1 = .ok found ∧ found.map (·.infoHash) = ["AB"] ∧
      Store.load 1000 (f.find "tt" s).2.pool.shared.cache.save = .ok loaded ∧
      (f.find "tt" (.start (.start later loaded nothing []))).1 = .ok found := by
  intro config now later search detail network nothing f s
  let again (loaded : Store) := Session.start (.start later loaded nothing [])
  let brought (p : Pool) (outcome : Source.Outcome) : List Arrival :=
    arrivals ((f.fastChecks s).zip (f.fast.map (·.name))) p ++ [⟨Source.Ibit.name, outcome⟩]
  have hruns : ((f.waitedWithin "tt" s 20).any fun (p, q) =>
      (q.outcome? (f.slowCheck s)).any fun outcome =>
        (Store.load 1000 q.shared.cache.save).toOption.any fun loaded =>
          (f.waitedWithin "tt" (again loaded) 20).any fun (_, q') => decide <|
            (q'.outcome? (f.slowCheck (again loaded))).isSome ∧
            (∃ a ∈ brought p outcome, a.outcome.isOk = true) ∧
            (mergeLists (lists (brought p outcome))).map (·.infoHash) = ["AB"] ∧
            (∀ source ∈ f.sources, Stale "tt" source.name config.cache.maxAge now q.shared.cache →
              Stale "tt" source.name config.cache.maxAge later q.shared.cache) ∧
            (∀ a ∈ brought p outcome, a.results?.all (·.isEmpty) ∨
              Serves loaded "tt" a.source config.cache.maxAge later) ∧
            ∃ source ∈ f.sources, Serves loaded "tt" source.name config.cache.maxAge later) = true := by
    decide +kernel
  obtain ⟨⟨p, q⟩, hfirst, hruns⟩ := (Option.any_eq_true _ _).mp hruns
  obtain ⟨outcome, houtcome, hruns⟩ := (Option.any_eq_true _ _).mp hruns
  obtain ⟨loaded, hload, hruns⟩ := (Option.any_eq_true _ _).mp hruns
  obtain ⟨⟨p', q'⟩, hsecond, hruns⟩ := (Option.any_eq_true _ _).mp hruns
  obtain ⟨hslow', hok, hhashes, hstale, hserves, hany⟩ := of_decide_eq_true hruns
  obtain ⟨outcome', houtcome'⟩ := Option.isSome_iff_exists.mp hslow'
  obtain ⟨harrived, hinTime, hanswer, hleft⟩ :=
    find_of_waitedWithin rfl (List.cons_ne_nil _ _) rfl hfirst houtcome
  obtain ⟨-, hinTime', -, -⟩ :=
    find_of_waitedWithin rfl (List.cons_ne_nil _ _) rfl hsecond houtcome'
  replace harrived : f.arrived "tt" s = brought p outcome := harrived
  have hfound : (f.find "tt" s).1 = .ok (mergeLists (lists (brought p outcome))) := by
    rw [hanswer, harrived]
    exact conclude_eq_ok_iff.mpr ⟨hok, rfl⟩
  have hload : Store.load 1000 (f.find "tt" s).2.pool.shared.cache.save = .ok loaded := by
    rw [hleft]
    exact eq_ok_of_toOption hload
  obtain ⟨loaded', hload', hagain⟩ := find_after_reload config config rfl rfl rfl (.start _) rfl
    (show 1000 < 2 ^ 64 by decide) .new hfound (fun _ => hinTime) 1000
  obtain rfl : loaded = loaded' := Except.ok.inj (hload.symm.trans hload')
  refine ⟨_, loaded, hfound, hhashes, hload, ?_⟩
  refine hagain (again loaded) (.start _) rfl rfl ?_ (hleft ▸ hstale) ?_ hany fun _ => hinTime'
  · intro earlier url d hd
    exact ⟨.notFound, (Option.some.inj hd) ▸ rfl, rfl⟩
  · intro a ha results hresults hsome
    rcases hserves a (harrived ▸ ha) with hempty | hserved
    · simp [Arrival.results?, hresults, hsome] at hempty
    · exact hserved

/-- If the clock is set back before the second search, an entry that had expired for the first one is fresh
again, and the source that failed then brings its torrent now. -/
theorem not_find_after_reload_of_clock :
    let config : Config := { sources.yts.baseUrl := "http://[::1]", sources.ibit.baseUrl := "http://[::1]" }
    let early : Time.Instant := ⟨0, 0, 0, by decide, by decide, by decide, by decide⟩
    let late : Time.Instant := ⟨2, 0, 0, by decide, by decide, by decide, by decide⟩
    let film (title hash : String) : Torrent := ⟨title, "720p", hash, ""⟩
    let cache := ((Store.empty 1000).storeResults "tt" Source.Ibit.name [film "B" "2"] early).storeResults
      "tt" Source.Yts.name [film "A" "1"] late
    let nothing : Http.Network := ⟨fun _ _ => some ⟨some 5, .response .notFound⟩⟩
    let f := ofConfig config
    let s := Session.start (.start late cache nothing [])
    let again (loaded : Store) := Session.start (.start early loaded nothing [])
    (f.find "tt" s).1 = .ok [film "A" "1"] ∧ (f.slowArrival? "tt" s).isSome ∧
      ∃ loaded, Store.load 1000 (f.find "tt" s).2.pool.shared.cache.save = .ok loaded ∧
        Serves loaded "tt" Source.Yts.name config.cache.maxAge early ∧
        (f.slowArrival? "tt" (again loaded)).isSome ∧
        (f.find "tt" (again loaded)).1 = .ok [film "A" "1", film "B" "2"] := by
  intro config early late film cache nothing f s again
  let brought (s : Session) (p : Pool) (outcome : Source.Outcome) : List Arrival :=
    arrivals ((f.fastChecks s).zip (f.fast.map (·.name))) p ++ [⟨Source.Ibit.name, outcome⟩]
  have hruns : ((f.waitedWithin "tt" s 20).any fun (p, q) =>
      (q.outcome? (f.slowCheck s)).any fun outcome =>
        (Store.load 1000 q.shared.cache.save).toOption.any fun loaded =>
          (f.waitedWithin "tt" (again loaded) 20).any fun (p', q') =>
            (q'.outcome? (f.slowCheck (again loaded))).any fun outcome' => decide <|
              conclude (brought s p outcome) none = .ok [film "A" "1"] ∧
              Serves loaded "tt" Source.Yts.name config.cache.maxAge early ∧
              conclude (brought (again loaded) p' outcome') none =
                .ok [film "A" "1", film "B" "2"]) = true := by
    decide +kernel
  obtain ⟨⟨p, q⟩, hfirst, hruns⟩ := (Option.any_eq_true _ _).mp hruns
  obtain ⟨outcome, houtcome, hruns⟩ := (Option.any_eq_true _ _).mp hruns
  obtain ⟨loaded, hload, hruns⟩ := (Option.any_eq_true _ _).mp hruns
  obtain ⟨⟨p', q'⟩, hsecond, hruns⟩ := (Option.any_eq_true _ _).mp hruns
  obtain ⟨outcome', houtcome', hruns⟩ := (Option.any_eq_true _ _).mp hruns
  obtain ⟨hone, hserves, htwo⟩ := of_decide_eq_true hruns
  obtain ⟨harrived, hinTime, hanswer, hleft⟩ :=
    find_of_waitedWithin rfl (List.cons_ne_nil _ _) rfl hfirst houtcome
  obtain ⟨harrived', hinTime', hanswer', -⟩ :=
    find_of_waitedWithin rfl (List.cons_ne_nil _ _) rfl hsecond houtcome'
  refine ⟨?_, hinTime, loaded, ?_, hserves, hinTime', ?_⟩
  · rw [hanswer, harrived]
    exact hone
  · rw [hleft]
    exact eq_ok_of_toOption hload
  · rw [hanswer', harrived']
    exact htwo

end TorrentSearch.Federation
