import TorrentSearch.Command.Run
import TorrentSearch.Proofs.Command.WrittenFile
import TorrentSearch.Proofs.Config.CacheBudget
import TorrentSearch.Proofs.Federation.Lifetime
import TorrentSearch.Proofs.Federation.Settled
import TorrentSearch.Proofs.Json.OneLine

/-!
# The saved cache is complete

A run that asks all sources may print its last line while slow checks are under way, of several
identifiers and one behind the other. It waits for all of them before the cache is saved, so that the
file holds what all checks left.
-/

namespace TorrentSearch.Command

open Federation (Session)
open Search (Pool)
open Json (OneLine)

/-- The session after searches for some identifiers, one after another. -/
def askedFor (f : Federation) (s : Session) (ids : List String) : Session :=
  ids.foldl (fun s id => (f.find id s).2) s

/-- A check brings something while the identifiers are searched for, one after another, or when nothing
is left to do after that. -/
inductive Ends (f : Federation) (n : Nat) : Session → List String → Prop where
  | meanwhile {s : Session} {id : String} {ids : List String} {outcome : Source.Outcome}
      (hask : f.find id s = f.ask id s) (h : (f.afterGrace id s).outcome? n = some outcome) :
      Ends f n s (id :: ids)
  | later {s : Session} {id : String} {ids : List String} (h : Ends f n (f.find id s).2 ids) :
      Ends f n s (id :: ids)
  | afterAll {s : Session} {outcome : Source.Outcome} (h : s.pool.atEnd.outcome? n = some outcome) :
      Ends f n s []

section

variable {f : Federation} {s : Session}

theorem askedFor_take_succ {ids : List String} {i : Nat} {id : String} (h : ids[i]? = some id) :
    askedFor f s (ids.take (i + 1)) = (f.find id (askedFor f s (ids.take i))).2 := by
  rw [askedFor, List.take_add_one, h, Option.toList_some, List.foldl_append]
  rfl

theorem reachable_askedFor (h : s.Reachable) (ids : List String) : (askedFor f s ids).Reachable := by
  induction ids generalizing s with
  | nil => exact h
  | cons id ids ih => exact ih (h.find f id)

theorem snd_reportEach (ids : List String) : (reportEach (askAll f) s ids).2 = askedFor f s ids := by
  induction ids generalizing s with
  | nil => rfl
  | cons id ids ih => exact ih

/-- The line of an identifier tells what the search for it answers after the earlier ones. -/
theorem getElem?_reportEach (ids : List String) (i : Nat) :
    (reportEach (askAll f) s ids).1[i]? = ids[i]?.map fun id =>
      reportLine id ((f.find id (askedFor f s (ids.take i))).1.mapError (·.message)) := by
  induction ids generalizing s i with
  | nil => rfl
  | cons id ids ih =>
    cases i with
    | zero => rfl
    | succ i => exact ih i

theorem oneLine_of_mem_reportEach {ids : List String} {line : String}
    (h : line ∈ (reportEach (askAll f) s ids).1) : OneLine line.toList := by
  obtain ⟨i, hi⟩ := List.mem_iff_getElem?.mp h
  rw [getElem?_reportEach] at hi
  obtain ⟨id, -, rfl⟩ := Option.map_eq_some_iff.mp hi
  exact oneLine_reportLine _ _

/-- A check that is not under way any more after a search has brought something meanwhile. -/
theorem outcome?_of_ended (h : s.Ready) {id : String} {n : Nat} (hn : n ∈ s.pool.running)
    (hended : n ∉ (f.find id s).2.pool.running) :
    f.find id s = f.ask id s ∧ ∃ outcome, (f.afterGrace id s).outcome? n = some outcome := by
  rcases f.find_cases id (s := s) with hask | hsame
  · refine ⟨hask, Option.ne_none_iff_exists'.mp fun hnone => hended ?_⟩
    have hlaunched : n ∈ (f.launched id s).running := by
      rw [f.running_launched]
      exact List.mem_append_left _ hn
    rw [hask, f.running_ask]
    exact ((f.reaches_of_launched id s).continues.outcome?_eq_none_iff
      (f.finished_launched_eq_nil id h) (f.nodup_launched id h) hlaunched).mp hnone
  · rw [hsame] at hended
    exact absurd hn hended

/-- Each check that is under way comes to its end, while other identifiers are searched for or after
that. -/
theorem ends_of_running (h : s.Reachable) {n : Nat} (hn : n ∈ s.pool.running) (ids : List String) :
    Ends f n s ids := by
  induction ids generalizing s with
  | nil =>
    obtain ⟨outcome, houtcome⟩ := h.ready.sound.outcome?_atEnd h.ready.finished hn
    exact .afterAll houtcome
  | cons id ids ih =>
    by_cases hstill : n ∈ (f.find id s).2.pool.running
    · exact .later (ih (h.find f id) hstill)
    · obtain ⟨hask, outcome, houtcome⟩ := outcome?_of_ended h.ready hn hstill
      exact .meanwhile hask houtcome

/-- The books of the cache are right, and its budget is the one of the configuration. -/
def Keeps (budget : Nat) (cache : Cache.Store) : Prop := cache.Accurate ∧ cache.maxBytes = budget

theorem keeps_openCache (config : Config) (file : Option Cbor.Bytes) :
    Keeps config.cache.maxBytes (openCache config file) := by
  unfold openCache
  split
  · rename_i cache hload
    obtain ⟨data, -, hload⟩ := Option.map_eq_some_iff.mp hload
    obtain ⟨items, hput⟩ := Cache.Store.load_eq_ok hload
    exact (Cache.Store.Accurate.empty _).putPairs hput
  · exact ⟨.empty _, rfl⟩

theorem cacheInvariant_keeps (budget : Nat) :
    Source.CacheInvariant (Keeps budget) fun _ => True where
  lookup h id name _ _ := ⟨h.1.get _, by
    rw [← h.2]
    exact Cache.Store.maxBytes_get _ _⟩
  hit _ _ := trivial
  store h _ id name now := by
    rw [Cache.Store.storeResults_eq_put]
    exact ⟨h.1.put _ _, by rw [h.1.maxBytes_put, h.2]⟩
  brings _ := trivial

theorem safe_askedFor {C : Cache.Store → Prop} {R : Source.Outcome → Prop}
    (hinv : Source.CacheInvariant C R) (hsites : f.OfSites) (h : s.pool.Safe C R)
    (ids : List String) : (askedFor f s ids).pool.Safe C R := by
  induction ids generalizing s with
  | nil => exact h
  | cons id ids ih => exact ih (Federation.safe_find hinv hsites id h)

theorem Keeps.load_save {budget : Nat} {cache : Cache.Store} (h : Keeps budget cache)
    (hbudget : budget < 2 ^ 64) : Cache.Store.load budget cache.save = .ok cache := by
  obtain ⟨haccurate, rfl⟩ := h
  rw [haccurate.load_save hbudget, haccurate.ofEntries_eq]

end

variable {words : List String} {w : Surroundings} {a : Arguments} {config : Config} {path : String}

theorem maxBytes_lt_of_configure {file : Option Cbor.Bytes} {environment : List (String × String)}
    (h : configure a file environment = .ok config) : config.cache.maxBytes < 2 ^ 64 := by
  have hload : Config.load a.config file environment = .ok config := by
    unfold configure at h
    cases hload : Config.load a.config file environment with
    | error e =>
      rw [hload] at h
      cases h
    | ok loaded =>
      rw [hload] at h
      cases hvalid : loaded.validate with
      | error e => simp [bind, Except.bind, hvalid] at h
      | ok _ => simpa [bind, Except.bind, hvalid, pure, Except.pure] using h
  have hle := Config.maxBytes_le_of_load hload
  unfold Config.maxWord64 at hle
  omega

/-- What a run that asks all sources leaves: the lines of its searches, and the cache as it is once the
background was waited for. -/
theorem run_eq (hwords : Request.ofWords w.environment words = .search a) (hall : a.source = none)
    (hconfig : configure a (configFile? w.folder a.config) w.environment = .ok config) :
    let f := Federation.ofConfig config
    let s := askedFor f (w.start config) a.ids
    (run words w).code = 0 ∧
      (run words w).lines = (reportEach (askAll f) (w.start config) a.ids).1 ∧
      (run words w).folder = saveCache config s.settle.2.pool.shared.cache w.folder := by
  simp only [run, hwords, runSearch, hconfig, search?, hall, ← snd_reportEach, and_self]

/-- A run asks all sources with a sensible configuration, and its cache can be saved. Then it has one
line for each identifier in their order, which tells what the search for it answered, found or not. A
check that a search left under way comes to its end during a later search or after the last one. The
session whose cache is saved is the one in which nothing is left to do for any check, and what is
loaded from the file under the same budget is the cache of this session. -/
theorem run_saves_every_check
    (hwords : Request.ofWords w.environment words = .search a) (hall : a.source = none)
    (hconfig : configure a (configFile? w.folder a.config) w.environment = .ok config)
    (hpath : config.cache.persistPath = some path) (hwritable : w.folder.isWritable path = true) :
    let f := Federation.ofConfig config
    let asked (n : Nat) : Session := askedFor f (w.start config) (a.ids.take n)
    let ended : Pool := (askedFor f (w.start config) a.ids).pool.atEnd
    (run words w).code = 0 ∧
    (∀ i, (run words w).lines[i]? = a.ids[i]?.map fun id =>
      reportLine id ((f.find id (asked i)).1.mapError (·.message))) ∧
    (∀ line ∈ (run words w).lines, OneLine line.toList) ∧
    (∀ i id, a.ids[i]? = some id → ∀ b ∈ f.leftBehind id (asked i),
      Ends f b.2 (asked (i + 1)) (a.ids.drop (i + 1))) ∧
    search? a f (w.start config) = some ((run words w).lines, ⟨{ ended with finished := [] }, []⟩) ∧
    ended.running = [] ∧
    ∃ file, (run words w).folder.content? path = some file ∧
      Cache.Store.load config.cache.maxBytes file = .ok ended.shared.cache := by
  intro f asked ended
  obtain ⟨hcode, hlines, hfolder⟩ := run_eq hwords hall hconfig
  have hstart : (w.start config).Reachable := .start _
  have hlast : (askedFor f (w.start config) a.ids).Reachable := reachable_askedFor hstart _
  have hsettled := hlast.settle_eq
  have hkeeps : Keeps config.cache.maxBytes ended.shared.cache := by
    have hopened : (w.start config).pool.Safe (Keeps config.cache.maxBytes) fun _ => True :=
      Pool.safe_idle (keeps_openCache config _)
    have hsafe := safe_askedFor (cacheInvariant_keeps config.cache.maxBytes)
      (Federation.ofSites_ofConfig config) hopened a.ids
    exact (hsafe.reaches (Pool.reaches_atEnd _)).cache
  refine ⟨hcode, fun i => ?_, fun line hline => ?_, fun i id hid b hb => ?_, ?_, ?_, ?_⟩
  · rw [hlines]
    exact getElem?_reportEach a.ids i
  · exact oneLine_of_mem_reportEach (hlines ▸ hline)
  · have hnext := askedFor_take_succ (f := f) (s := w.start config) hid
    exact ends_of_running (reachable_askedFor hstart _)
      (hnext ▸ f.leftBehind_running id hb) _
  · simp only [search?, hall, hlines]
    rw [snd_reportEach, hsettled]
  · exact List.map_eq_nil_iff.mpr hlast.ready.sound.jobs_atEnd
  · refine ⟨ended.shared.cache.save, ?_, hkeeps.load_save (maxBytes_lt_of_configure hconfig)⟩
    rw [hfolder, hsettled, saveCache, hpath]
    exact Folder.content?_write hwritable _

/-- A scraped server that is slower than its grace period, so that the first search leaves a check under
way, which the second one has to wait for. What the first check finds in the end is in the saved cache. -/
theorem run_saves_every_check_of_late :
    let search := "<table class=torrents><tr><td><a href=/1>Film</a></table>"
    let detail := "<div id=extra-info><h2><a>Film</a></h2></div>" ++
      "<script>'magnet:?xt=urn:btih:AB&dn=720p'</script>"
    let network : Http.Network := ⟨fun _ url =>
      if url = "https://ibit.am/torrent-search/tt1" then
        some ⟨some 3000, .response (.ofBody 200 (Text.Utf8.encode search))⟩
      else if url = "https://ibit.am/1" then
        some ⟨some 3000, .response (.ofBody 200 (Text.Utf8.encode detail))⟩
      else some ⟨some 5, .dropped⟩⟩
    let file := Text.Utf8.encode "cache.persist_path='c'"
    let w : Surroundings := ⟨[], .ofFiles [("config.toml", file)], .epoch, network⟩
    let a : Arguments := ⟨none, false, "config.toml", ["tt1", "tt2"]⟩
    let config : Config := { cache := { persistPath := some "c" } }
    let f := Federation.ofConfig config
    let s := w.start config
    Request.ofWords w.environment ["tt1", "tt2"] = .search a ∧
      configure a (configFile? w.folder a.config) w.environment = .ok config ∧
      w.folder.isWritable "c" = true ∧
      f.leftBehind "tt1" s ≠ [] ∧
      (∀ b ∈ f.leftBehind "tt1" s, Ends f b.2 (f.find "tt1" s).2 ["tt2"]) ∧
      ((run ["tt1", "tt2"] w).lines[1]?).isSome ∧
      ∃ saved cache value e, (run ["tt1", "tt2"] w).folder.content? "c" = some saved ∧
        Cache.Store.load config.cache.maxBytes saved = .ok cache ∧
        cache.find? (Cache.Store.resultsKey "tt1" Source.Ibit.name) = some value ∧
        Entry.decode? value = some e ∧
        e.results = [⟨"Film", "720p", "AB", "magnet:?xt=urn:btih:AB&dn=720p"⟩] := by
  intro search detail network file w a config f s
  have hwords : Request.ofWords w.environment ["tt1", "tt2"] = .search a := by decide +kernel
  have hconfig : configure a (configFile? w.folder a.config) w.environment = .ok config := by
    decide +kernel
  have hwritable : w.folder.isWritable "c" = true := by decide +kernel
  let left (id : String) (s : Session) (p q : Pool) : Session :=
    ((Federation.detach id Source.Ibit.name (f.slowCheck s) { s with pool := q }).change
      (·.count (Federation.observe (Federation.conclude (Federation.arrivals
        ((f.fastChecks s).zip (f.fast.map (·.name))) p) (some Source.Ibit.name))))).forget
  have hruns : ((f.waitedWithin "tt1" s 20).any fun (p, q) =>
      (f.waitedWithin "tt2" (left "tt1" s p q) 20).any fun (p', q') =>
        ((left "tt2" (left "tt1" s p q) p' q').pool.runWithin (fun _ => false) none 40).any fun ended =>
          decide (q.outcome? (f.slowCheck s) = none ∧
            q'.outcome? (f.slowCheck (left "tt1" s p q)) = none) &&
          (ended.shared.cache.find? (Cache.Store.resultsKey "tt1" Source.Ibit.name)).any fun value =>
            (Entry.decode? value).any fun e => decide <| e.results =
              [⟨"Film", "720p", "AB", "magnet:?xt=urn:btih:AB&dn=720p"⟩]) = true := by
    decide +kernel
  obtain ⟨⟨p, q⟩, hfirst, hruns⟩ := (Option.any_eq_true _ _).mp hruns
  obtain ⟨⟨p', q'⟩, hsecond, hruns⟩ := (Option.any_eq_true _ _).mp hruns
  obtain ⟨ended, hended, hruns⟩ := (Option.any_eq_true _ _).mp hruns
  obtain ⟨hlate, hheld⟩ := (Bool.and_eq_true _ _).mp hruns
  obtain ⟨hlate, hlate'⟩ := of_decide_eq_true hlate
  obtain ⟨value, hvalue, hheld⟩ := (Option.any_eq_true _ _).mp hheld
  obtain ⟨e, he, hresults⟩ := (Option.any_eq_true _ _).mp hheld
  have hleft {id : String} {s : Session} {p q : Pool} (hs : s.Reachable)
      (hid : Text.isBlankText id = false) (hwaited : f.waitedWithin id s 20 = some (p, q))
      (hlate : q.outcome? (f.slowCheck s) = none) :
      (f.find id s).2 = left id s p q ∧ f.leftBehind id s ≠ [] := by
    obtain ⟨hfast, hgrace⟩ :=
      Federation.waited_of_waitedWithin f id s 20 (List.cons_ne_nil _ _) rfl hwaited
    exact Federation.find_of_late hs.ready hid rfl hfast hgrace hlate
  have hs : s.Reachable := .start _
  obtain ⟨hone, hbehind⟩ := hleft hs (by decide) hfirst hlate
  obtain ⟨htwo, -⟩ := hleft (hone ▸ hs.find f "tt1") (by decide) hsecond hlate'
  have hcache : (askedFor f s ["tt1", "tt2"]).pool.atEnd.shared.cache = ended.shared.cache := by
    have hasked : askedFor f s ["tt1", "tt2"] = left "tt2" (left "tt1" s p q) p' q' := by
      rw [← htwo, ← hone]
      rfl
    rw [hasked, Pool.atEnd, Pool.runUntil_of_runWithin hended]
  obtain ⟨-, hlines, -, hends, -, -, saved, hsaved, hload⟩ :=
    run_saves_every_check hwords rfl hconfig rfl hwritable
  refine ⟨hwords, hconfig, hwritable, hbehind, hends 0 "tt1" rfl, ?_, saved, _, value, e, hsaved,
    hload, (congrArg (Cache.Store.find? · _) hcache).trans hvalue, he, of_decide_eq_true hresults⟩
  rw [hlines]
  rfl

end TorrentSearch.Command
