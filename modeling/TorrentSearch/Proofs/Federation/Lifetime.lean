import TorrentSearch.Proofs.Federation.Arrivals
import TorrentSearch.Proofs.Source.Checks

/-!
# The life of a cache

Sites are searched and checked, in one session after another, and the cache that they fill is saved and
loaded in between. Whatever servers send meanwhile, no torrent is ever answered that is not well formed.
-/

namespace TorrentSearch.Federation

open Cbor (Bytes)
open Search (Pool)
open Source (AllWellFormed BringsWellFormed CacheInvariant KeepsWellFormed
  cacheInvariant_keepsWellFormed)

/-- A site that can be searched, with the way to it. -/
inductive Site where
  | yts (access : Source.Yts.Access)
  | ibit (access : Source.Ibit.Access)
deriving DecidableEq, Repr

def Site.toSource : Site → Source
  | .yts access => access.toSource
  | .ibit access => access.toSource

def OfSites (f : Federation) : Prop :=
  ∀ source ∈ f.sources, ∃ site : Site, source = site.toSource

theorem ofSites_ofConfig (config : Config) : (ofConfig config).OfSites := by
  intro source hsource
  rcases List.mem_append.mp hsource with hfast | hslow
  · simp only [ofConfig] at hfast
    split at hfast
    · exact ⟨.yts _, List.mem_singleton.mp hfast⟩
    · cases hfast
  · simp only [ofConfig] at hslow
    split at hslow
    · exact ⟨.ibit _, List.mem_singleton.mp hslow⟩
    · cases hslow

/-- A check of one site, with at most so many attempts if a number is given. -/
structure Question where
  site : Site
  id : String
  attempts : Option Nat
deriving DecidableEq, Repr

def Question.work (q : Question) : Search.Work Source.Outcome :=
  match q.attempts with
  | some attempts => q.site.toSource.checkUpTo attempts q.id
  | none => q.site.toSource.check q.id

/-- What may happen in the life of a cache. -/
inductive Event where
  | find (f : Federation) (hsites : f.OfSites) (id : String)
  /-- Some checks are waited for directly, all at once. -/
  | check (questions : List Question)
  | sleep (millis : Nat)
  | settle
  | setClock (now : Time.Instant)
  /-- From now on servers answer in another way. -/
  | setNetwork (network : Http.Network)
  | save
  /-- The file of an earlier save takes the place of the cache. -/
  | reload (index : Nat) (budget : UInt64)
  /-- The session is over, and another one begins with the file of an earlier save. -/
  | restart (index : Nat) (budget : UInt64)

/-- A session with the files that its cache was saved to, the latest first. -/
structure Life where
  session : Session
  files : List Bytes

namespace Life

def start (budget : UInt64) (now : Time.Instant) (network : Http.Network) : Life :=
  ⟨.start (.start now (.empty budget.toNat) network []), []⟩

def cache (l : Life) : Cache.Store := l.session.pool.shared.cache

/-- The file of an earlier save as a cache, if there is one. -/
def reopened (l : Life) (index : Nat) (budget : UInt64) : Cache.Store :=
  (Cache.Store.reopen? l.files index budget).getD l.cache

/-- The torrents that are answered when something happens, and what is left. -/
def next (l : Life) : Event → List Torrent × Life
  | .find f _ id =>
    let (answer, session) := f.find id l.session
    (answer.toOption.getD [], { l with session := session })
  | .check questions =>
    let (outcomes, session) := l.session.checkAll (questions.map Question.work)
    (outcomes.flatMap fun outcome => outcome.toOption.getD [], { l with session := session })
  | .sleep millis => ([], { l with session := l.session.sleep millis })
  | .settle => ([], { l with session := l.session.settle.2 })
  | .setClock now => ([], { l with session := l.session.change fun s => { s with now := now } })
  | .setNetwork network =>
    ([], { l with session := l.session.change fun s => { s with network := network } })
  | .save => ([], { l with files := l.cache.save :: l.files })
  | .reload index budget =>
    ([], { l with session := l.session.change fun s => { s with cache := l.reopened index budget } })
  | .restart index budget =>
    let shared := l.session.pool.shared
    ([], { l with
      session := .start (.start shared.now (l.reopened index budget) shared.network []) })

/-- The torrents that are answered while one thing happens after another. -/
def answered (l : Life) : List Event → List Torrent
  | [] => []
  | event :: events => (l.next event).1 ++ (l.next event).2.answered events

end Life

section

variable {C : Cache.Store → Prop} {R : Source.Outcome → Prop}

theorem safe_check (h : CacheInvariant C R) (site : Site) (id : String) :
    (site.toSource.check id).Safe C R := by
  cases site with
  | yts access => exact access.safe_checkUpTo id h 1
  | ibit access => exact access.safe_check id h

theorem safe_checkUpTo (h : CacheInvariant C R) (site : Site) (attempts : Nat) (id : String) :
    (site.toSource.checkUpTo attempts id).Safe C R := by
  cases site with
  | yts access => exact access.safe_checkUpTo id h attempts
  | ibit access => exact access.safe_check id h

theorem safe_run (h : CacheInvariant C R) (site : Site) (attempts : Nat) (id : String) :
    (site.toSource.run attempts id).Safe C R := by
  unfold Source.run
  split
  · exact safe_checkUpTo h site attempts id
  · exact safe_check h site id

theorem safe_work (h : CacheInvariant C R) (q : Question) : q.work.Safe C R := by
  unfold Question.work
  split
  · exact safe_checkUpTo h q.site _ q.id
  · exact safe_check h q.site q.id

theorem safe_forget {p : Pool} (h : p.Safe C R) : Pool.Safe C R { p with finished := [] } :=
  ⟨h.cache, h.tasks, fun _ he => by cases he⟩

namespace Session

variable {s : Session}

theorem safe_sleep (h : s.pool.Safe C R) (millis : Nat) : (s.sleep millis).pool.Safe C R :=
  safe_forget (h.reaches (Pool.reaches_runUntil ..))

theorem safe_settle (h : s.pool.Safe C R) : s.settle.2.pool.Safe C R :=
  safe_forget (h.reaches (Pool.reaches_runUntil ..))

end Session

variable {f : Federation} {s : Session}

theorem safe_launched (hinv : CacheInvariant C R) (hsites : f.OfSites) (id : String)
    (h : s.pool.Safe C R) : (f.launched id s).Safe C R := by
  refine h.spawnAll false fun work hwork => ?_
  obtain ⟨source, hsource, rfl⟩ := List.mem_map.mp hwork
  obtain ⟨site, rfl⟩ := hsites source hsource
  exact safe_run hinv site _ id

theorem safe_find (hinv : CacheInvariant C R) (hsites : f.OfSites) (id : String)
    (h : s.pool.Safe C R) : (f.find id s).2.pool.Safe C R := by
  unfold find
  split
  · exact h
  · split
    · exact h
    · have hended := (safe_launched hinv hsites id h).reaches (f.reaches_of_launched id s)
      obtain ⟨count, heq⟩ := f.snd_ask id s
      rw [heq]
      have hcounted : C ((f.afterGrace id s).shared.count count).cache := by
        rw [Search.Shared.cache_count]
        exact hended.cache
      exact safe_forget (hended.of_shared hcounted)

end

/-- All checks of a pool bring well-formed torrents and keep no others. -/
abbrev Sane (p : Pool) : Prop := p.Safe KeepsWellFormed BringsWellFormed

theorem outcome?_bringsWellFormed {p : Pool} (h : Sane p) {n : Nat} {outcome : Source.Outcome}
    (houtcome : p.outcome? n = some outcome) : BringsWellFormed outcome :=
  h.finished (n, outcome) (Pool.mem_finished_of_outcome? houtcome)

theorem Session.sane_checkAll {s : Session} (h : Sane s.pool) (questions : List Question) :
    Sane (s.checkAll (questions.map Question.work)).2.pool ∧
      ∀ outcome ∈ (s.checkAll (questions.map Question.work)).1, BringsWellFormed outcome := by
  have hworks : ∀ work ∈ questions.map Question.work,
      work.Safe KeepsWellFormed BringsWellFormed := by
    intro work hwork
    obtain ⟨q, -, rfl⟩ := List.mem_map.mp hwork
    exact safe_work cacheInvariant_keepsWellFormed q
  have hended := (h.spawnAll true hworks).reaches (Pool.reaches_runUntil
    (fun p => (s.pool.spawnAll true (questions.map Question.work)).2.all fun id =>
      !p.isRunning id) none _)
  refine ⟨safe_forget hended, fun outcome houtcome => ?_⟩
  obtain ⟨n, -, rfl⟩ := List.mem_map.mp houtcome
  cases hn : Pool.outcome? _ n with
  | some outcome => exact outcome?_bringsWellFormed hended hn
  | none => exact Source.bringsWellFormed_error _

variable {f : Federation} {s : Session}

theorem arrivals_bringWellFormed {p : Pool} (h : Sane p) {names : List (Nat × String)}
    {a : Arrival} (ha : a ∈ arrivals names p) : BringsWellFormed a.outcome := by
  obtain ⟨⟨n, outcome⟩, he, harrival⟩ := List.mem_filterMap.mp ha
  obtain ⟨name, -, rfl⟩ := Option.map_eq_some_iff.mp harrival
  exact h.finished _ he

theorem find_allWellFormed (hsites : f.OfSites) (id : String) (h : Sane s.pool)
    {found : List Torrent} (hfound : (f.find id s).1 = .ok found) : AllWellFormed found := by
  have hlaunched := safe_launched cacheInvariant_keepsWellFormed hsites id h
  have hfast := hlaunched.reaches (f.reaches_afterFast id s)
  have hslow := hlaunched.reaches (f.reaches_of_launched id s)
  have hask : (f.ask id s).1 = .ok found := by
    unfold find at hfound
    split at hfound
    · cases hfound
    · split at hfound
      · cases hfound
      · exact hfound
  rw [fst_ask] at hask
  intro t ht
  obtain ⟨a, ha, l, houtcome, htl⟩ := mem_of_conclude hask ht
  refine (?_ : BringsWellFormed a.outcome) l houtcome t htl
  rcases List.mem_append.mp ha with ha | ha
  · exact arrivals_bringWellFormed hfast ha
  · obtain ⟨source, -, harrival⟩ := Option.bind_eq_some_iff.mp (Option.mem_toList.mp ha)
    obtain ⟨outcome, hn, rfl⟩ := Option.map_eq_some_iff.mp harrival
    exact outcome?_bringsWellFormed hslow hn

namespace Life

/-- The pool is sane, and the files are saves of caches that keep well-formed torrents only. -/
structure Sane (l : Life) : Prop where
  pool : Federation.Sane l.session.pool
  files : ∀ file ∈ l.files, ∃ cache : Cache.Store, KeepsWellFormed cache ∧ file = cache.save

theorem sane_start (budget : UInt64) (now : Time.Instant) (network : Http.Network) :
    (start budget now network).Sane :=
  ⟨Pool.safe_idle (.empty _ budget.toNat_lt), fun _ hfile => by cases hfile⟩

variable {l : Life}

theorem Sane.reopened (h : l.Sane) (index : Nat) (budget : UInt64) :
    KeepsWellFormed (l.reopened index budget) := by
  unfold Life.reopened
  cases hfile : l.files[index]? with
  | none =>
    rw [Cache.Store.reopen?, hfile]
    exact h.pool.cache
  | some file =>
    obtain ⟨cache, hkept, rfl⟩ := h.files file (List.mem_of_getElem? hfile)
    obtain ⟨loaded, hreopen, hloaded⟩ := Cache.Store.Kept.reopen? hfile hkept budget
    rw [hreopen]
    exact hloaded

theorem Sane.next (h : l.Sane) (event : Event) :
    (l.next event).2.Sane ∧ AllWellFormed (l.next event).1 := by
  have hnothing : AllWellFormed [] := fun t ht => by cases ht
  cases event with
  | find f hsites id =>
    refine ⟨⟨safe_find cacheInvariant_keepsWellFormed hsites id h.pool, h.files⟩, fun t ht => ?_⟩
    cases hfound : (f.find id l.session).1 with
    | ok found =>
      simp only [Life.next, hfound] at ht
      exact find_allWellFormed hsites id h.pool hfound t ht
    | error e =>
      simp only [Life.next, hfound] at ht
      cases ht
  | check questions =>
    obtain ⟨hpool, houtcomes⟩ := Session.sane_checkAll h.pool questions
    refine ⟨⟨hpool, h.files⟩, fun t ht => ?_⟩
    obtain ⟨outcome, houtcome, ht⟩ := List.mem_flatMap.mp ht
    cases outcome with
    | ok results => exact houtcomes _ houtcome results rfl t ht
    | error e => cases ht
  | sleep millis => exact ⟨⟨Session.safe_sleep h.pool millis, h.files⟩, hnothing⟩
  | settle => exact ⟨⟨Session.safe_settle h.pool, h.files⟩, hnothing⟩
  | setClock now => exact ⟨⟨h.pool.of_shared h.pool.cache, h.files⟩, hnothing⟩
  | setNetwork network => exact ⟨⟨h.pool.of_shared h.pool.cache, h.files⟩, hnothing⟩
  | save =>
    refine ⟨⟨h.pool, fun file hfile => ?_⟩, hnothing⟩
    rcases List.mem_cons.mp hfile with rfl | hfile
    · exact ⟨l.cache, h.pool.cache, rfl⟩
    · exact h.files file hfile
  | reload index budget =>
    exact ⟨⟨h.pool.of_shared (h.reopened index budget), h.files⟩, hnothing⟩
  | restart index budget =>
    exact ⟨⟨Pool.safe_idle (h.reopened index budget), h.files⟩, hnothing⟩

theorem Sane.answered (h : l.Sane) (events : List Event) : AllWellFormed (l.answered events) := by
  induction events generalizing l with
  | nil => exact fun t ht => by cases ht
  | cons event events ih =>
    obtain ⟨hleft, hnow⟩ := h.next event
    intro t ht
    rcases List.mem_append.mp ht with ht | ht
    · exact hnow t ht
    · exact ih hleft t ht

end Life

/-- What a check that is asked for alone answers, if a few steps bring it to its end. -/
theorem Life.answered_check_of_runWithin (l : Life) (q : Question) (steps : Nat) {p : Pool}
    (hrun : (l.session.pool.spawn true q.work).1.runWithin
      (fun p => [l.session.pool.fresh].all fun n => !p.isRunning n) none steps = some p)
    {found : List Torrent} (hfound : p.outcome? l.session.pool.fresh = some (.ok found)) :
    l.answered [.check [q]] = found := by
  have hend := Pool.runUntil_of_runWithin hrun
  have houtcomes : (l.session.checkAll [q.work]).1 = [.ok found] := by
    change [((Pool.runUntil _ none (l.session.pool.spawn true q.work).1).outcome?
      l.session.pool.fresh).getD _] = _
    rw [hend, hfound]
    rfl
  simp only [answered, next, List.map_cons, List.map_nil, houtcomes]
  simp [Except.toOption]

/-- Whatever servers send and whatever happens from an empty cache on, every torrent that a search or
a check answers, found live or in the cache, is well formed. -/
theorem answered_wellFormed (budget : UInt64) (now : Time.Instant) (network : Http.Network)
    (events : List Event) : ∀ t ∈ (Life.start budget now network).answered events, t.WellFormed :=
  (Life.sane_start budget now network).answered events

/-- A server sends a film with one release, and a byte that no text has where nobody reads it. -/
theorem answered_wellFormed_of_film :
    let now : Time.Instant := ⟨0, 0, 0, by decide, by decide, by decide, by decide⟩
    let film := "\x7b\"title_long\":\"&\",\"torrents\":[\x7b\"hash\":\"a-b\",\"quality\":\"720P\"\x7d]\x7d"
    let body := Text.Utf8.encode "\x7b\"other\":\"" ++ 0xff :: Text.Utf8.encode
      ("\",\"status\":\"ok\",\"data\":\x7b\"movie_count\":1,\"movies\":[" ++ film ++ "]\x7d\x7d")
    let network : Http.Network := ⟨fun _ _ => some ⟨some 5, .response (.ofBody 200 body)⟩⟩
    let question : Question := ⟨.yts ⟨"http://[::1]".toList, 1000, .ofSeconds 60⟩, "tt", none⟩
    ∃ t : Torrent, t ∈ (Life.start 1000 now network).answered [.check [question]] ∧
      t.infoHash = "AB" ∧ t.WellFormed := by
  intro now film body network question
  let l := Life.start 1000 now network
  have hhashes : ((l.session.pool.spawn true question.work).1.runWithin
      (fun p => [l.session.pool.fresh].all fun n => !p.isRunning n) none 10).bind
        (fun p => (p.outcome? l.session.pool.fresh).map fun outcome =>
          outcome.toOption.map (List.map Torrent.infoHash)) = some (some ["AB"]) := by
    decide +kernel
  obtain ⟨p, hrun, houtcome⟩ := Option.bind_eq_some_iff.mp hhashes
  obtain ⟨outcome, hended, hok⟩ := Option.map_eq_some_iff.mp houtcome
  obtain ⟨found, hfound, hhash⟩ := Option.map_eq_some_iff.mp hok
  have hanswered : l.answered [.check [question]] = found := by
    refine l.answered_check_of_runWithin question 10 hrun ?_
    rw [hended]
    cases outcome with
    | ok results => exact congrArg (some ∘ Except.ok) (Option.some.inj hfound)
    | error e => cases hfound
  obtain ⟨t, ht, hhash⟩ := List.mem_map.mp (hhash ▸ List.mem_singleton_self "AB")
  have hmem : t ∈ l.answered [.check [question]] := hanswered ▸ ht
  exact ⟨t, hmem, hhash, answered_wellFormed 1000 now network [.check [question]] t hmem⟩

end TorrentSearch.Federation
