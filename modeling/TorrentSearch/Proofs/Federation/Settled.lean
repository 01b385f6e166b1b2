import TorrentSearch.Proofs.Federation.Background
import TorrentSearch.Proofs.Federation.CompletionOrder
import TorrentSearch.Proofs.Source.Filling

/-!
# Searches after a check in the background

The check that a search left in the background fills the cache when it comes to its end. As long as that
is there and fresh, another search answers as the first one would have with more patience, and the slow
source has nothing to look up again.
-/

namespace TorrentSearch.Federation

open Cache.Store (resultsKey)
open Search (Pool Work)
open Search.Work (AtOnce)
open Source (Caching Undisturbed answeredBy cached)

variable (f : Federation) (id : String) (s : Session)

/-- The pool of a search when its slow check is about to do its first step. -/
def slowTurn : Pool := (f.launched id s).runUntil (Pool.upNext (f.slowCheck s)) none

/-- The pool right when the slow check of a search ends that the search left under way. -/
def slowEnd : Pool := (f.find id s).2.pool.runUntil (fun q => !q.isRunning (f.slowCheck s)) none

variable {f id s} {source : Source}

theorem find_of_leftBehind (hleft : f.leftBehind id s ≠ []) :
    f.find id s = f.ask id s ∧ Text.isBlankText id = false := by
  have hchanged : (f.find id s).2 ≠ s := fun h => hleft (f.leftBehind_of_unchanged id h)
  refine ⟨(f.find_cases id).resolve_right hchanged, ?_⟩
  by_contra hid
  rw [Bool.not_eq_false] at hid
  exact hchanged (by rw [find, if_pos hid])

theorem late_of_leftBehind (h : s.Ready) (hleft : f.leftBehind id s ≠ []) :
    (f.late? id s).isSome = true := by
  rw [leftBehind_of_ask f id h (find_of_leftBehind hleft).1] at hleft
  cases hlate : f.late? id s with
  | none => simp [hlate] at hleft
  | some source => rfl

theorem slowTask_launched (hslow : f.slow = some source) :
    (f.slowCheck s, source.run f.settings.attempts id) ∈ (f.launched id s).tasks := by
  rw [← f.launched_of_some id s hslow, Pool.tasks_spawn, Pool.fresh_spawnAll, List.length_map]
  exact List.mem_append_right _ List.mem_cons_self

variable {post : Source.Outcome → Search.Shared → Prop}

theorem attaining_launched (h : s.Ready) (hslow : f.slow = some source)
    (hattains : ∀ t, (source.run f.settings.attempts id).Attains post t) :
    (f.launched id s).Attaining (f.slowCheck s) post := by
  have hnodup := f.nodup_launched id h
  refine ⟨hnodup, fun w hw => ?_⟩
  rw [Pool.running_eq_tasks] at hnodup
  have hsame := List.inj_on_of_nodup_map hnodup hw (slowTask_launched hslow) rfl
  obtain rfl : w = _ := congrArg Prod.snd hsame
  exact hattains

/-- A check that a search left under way comes to its end, and right then all is as it should be. -/
theorem attained_slowEnd (h : s.Ready) (hslow : f.slow = some source)
    (hleft : f.leftBehind id s ≠ [])
    (hattains : ∀ t, (source.run f.settings.attempts id).Attains post t) :
    ∃ outcome, (f.slowEnd id s).outcome? (f.slowCheck s) = some outcome ∧
      post outcome (f.slowEnd id s).shared := by
  obtain ⟨hask, -⟩ := find_of_leftBehind hleft
  have hrunning : f.slowCheck s ∈ (f.find id s).2.pool.running := by
    rw [hask, running_ask]
    exact f.slowCheck_running id h (late_of_leftBehind h hleft)
  have hready := h.find f id
  have hattaining : (f.find id s).2.pool.Attaining (f.slowCheck s) post := by
    have hafter := (attaining_launched h hslow hattains).reaches (f.reaches_of_launched id s)
    obtain ⟨count, heq⟩ := f.snd_ask id s
    rw [hask, heq]
    exact ⟨hafter.nodup, hafter.attains⟩
  obtain ⟨outcome, hend, hpost⟩ := hattaining.runUntil hready.sound hrunning
  have hcontinues := (Pool.reaches_runUntil (fun q => !q.isRunning (f.slowCheck s)) none
    (f.find id s).2.pool).continues
  have hnodup := hcontinues.nodup_finished hready.finished hready.sound.nodup
  exact ⟨outcome, Pool.outcome?_of_mem_finished hnodup hend, hpost⟩

/-- Waiting for the background passes through the end of the check that a search left there. -/
theorem settle_of_slowEnd (h : s.Ready) (hleft : f.leftBehind id s ≠ []) :
    ∃ q, (f.slowEnd id s).Reaches q ∧ f.slowCheck s ∉ q.running ∧
      (f.find id s).2.settle.2 = ⟨{ q with finished := [] }, []⟩ := by
  obtain ⟨hask, -⟩ := find_of_leftBehind hleft
  have hlate := late_of_leftBehind h hleft
  have hready := h.find f id
  let first (q : Pool) : Bool := !q.isRunning (f.slowCheck s)
  let stop (q : Pool) : Bool := (f.find id s).2.background.all fun b => !q.isRunning b.2
  have hmem : (id, f.slowCheck s) ∈ (f.find id s).2.background := by
    rw [hask, background_ask, backgroundAfter]
    obtain ⟨source, hsource⟩ := Option.isSome_iff_exists.mp hlate
    rw [hsource]
    exact List.mem_append_right _ List.mem_cons_self
  -- as long as the check has not ended, the list is not done with, and something goes on
  have hwait (q : Pool) (hq : q.Sound) (hfirst : first q = false) : stop q = false ∧
      ∃ i r, q.next? = some (i, r) ∧ (none : Option Nat).any (· ≤ r.moment) = false ∧
        (q.step i r.moment).Sound := by
    have hrunning : q.isRunning (f.slowCheck s) = true := by simpa [first] using hfirst
    refine ⟨List.all_eq_false.mpr ⟨_, hmem, by simp [hrunning]⟩, ?_⟩
    cases hnext : q.next? with
    | none => simp [Pool.isRunning, hq.jobs_eq_nil hnext] at hrunning
    | some first => exact ⟨_, _, rfl, rfl, (Pool.Step.goesOn hnext).sound hq⟩
  obtain ⟨-, -, hsettle⟩ := Pool.runUntil_through hwait hready.sound
  refine ⟨(f.slowEnd id s).runUntil stop none, Pool.reaches_runUntil .., ?_, ?_⟩
  · have hended := Session.ended_settle hready _ hmem
    unfold slowEnd
    rw [← hsettle]
    exact hended
  · unfold slowEnd
    rw [← hsettle]
    rfl

/-- No check sets the clock: not those of the fast sources, and not those that are still under way. -/
structure Timeless (f : Federation) (id : String) (s : Session) : Prop where
  fast : ∀ source ∈ f.fast, (source.run f.settings.attempts id).Timeless
  others : ∀ t ∈ s.pool.tasks, t.2.Timeless

theorem awaits_launched (h : s.Ready) (hslow : f.slow = some source) (htimeless : f.Timeless id s) :
    (f.launched id s).Awaits (f.slowCheck s) (source.run f.settings.attempts id)
      s.pool.shared.elapsed := by
  let works := f.fast.map fun source => source.run f.settings.attempts id
  have hnumber : (s.pool.spawnAll false works).1.fresh = f.slowCheck s := by
    rw [Pool.fresh_spawnAll, List.length_map, slowCheck]
  have hnodup := f.nodup_launched id h
  rw [← f.launched_of_some id s hslow] at hnodup ⊢
  rw [← hnumber, ← s.pool.shared_spawnAll false works]
  refine .spawn false hnodup fun t ht => ?_
  rw [Pool.tasks_spawnAll, List.mem_append] at ht
  rcases ht with ht | ht
  · exact htimeless.others t ht
  · obtain ⟨source, hsource, heq⟩ := List.mem_map.mp (List.of_mem_zip ht).2
    exact heq ▸ htimeless.fast source hsource

theorem not_isQuiet {n moment : Nat} {work : Work Source.Outcome} {p : Pool}
    (h : p.Awaits n work moment) : isQuiet p = false := by
  obtain ⟨i, r, hnext, hmoment⟩ := h.next?_eq
  simp [isQuiet, hnext, hmoment, h.now]

theorem isRunning_of_awaits {n moment : Nat} {work : Work Source.Outcome} {p : Pool}
    (h : p.Awaits n work moment) : p.isRunning n = true := by
  obtain ⟨j, hj, rfl, -⟩ := h.due
  exact Pool.isRunning_iff.mpr (List.mem_map.mpr ⟨j, hj, rfl⟩)

theorem turn_of_slowCheck (h : s.Ready) (hslow : f.slow = some source) (htimeless : f.Timeless id s) :
    (f.slowTurn id s).Awaits (f.slowCheck s) (source.run f.settings.attempts id)
        s.pool.shared.elapsed ∧
      Pool.upNext (f.slowCheck s) (f.slowTurn id s) = true := by
  obtain ⟨hturn, hnext, -⟩ := (awaits_launched h hslow htimeless).turn (fun _ => false) none
    (fun _ _ => rfl) (by simp)
  exact ⟨hturn, hnext⟩

/-- The fast phase, if there is one, goes through the first turn of the slow check. -/
theorem turn_of_fastPhase (h : s.Ready) (hslow : f.slow = some source) (htimeless : f.Timeless id s)
    (hfast : f.fast ≠ []) {i : Nat} {r : Search.Rank} (hnext : (f.slowTurn id s).next? = some (i, r)) :
    ((f.slowTurn id s).step i r.moment).Reaches (f.afterFast id s) := by
  let ended (q : Pool) : Bool := (f.fastChecks s).all (fun n => !q.isRunning n) && isQuiet q
  have hafter : f.afterFast id s = (f.launched id s).runUntil ended none := by
    simp [afterFast, awaitFast, fastChecks, hfast, ended]
  obtain ⟨-, -, hreach⟩ := (awaits_launched h hslow htimeless).turn ended none
    (fun q hq => by simp [ended, not_isQuiet hq]) (by simp)
  rw [hafter]
  exact hreach i r hnext

/-- A search comes to the turn of its slow check while time has not gone by, and goes on from there. -/
theorem turn_of_search (h : s.Ready) (hslow : f.slow = some source) (htimeless : f.Timeless id s)
    (hgrace : 0 < f.settings.gracePeriodMs) :
    (f.slowTurn id s).Awaits (f.slowCheck s) (source.run f.settings.attempts id)
        s.pool.shared.elapsed ∧
      Pool.upNext (f.slowCheck s) (f.slowTurn id s) = true ∧
      ∀ i r, (f.slowTurn id s).next? = some (i, r) →
        ((f.slowTurn id s).step i r.moment).Reaches (f.afterGrace id s) := by
  by_cases hfast : f.fast = []
  · -- nobody is waited for before the grace period begins
    have hawaits := awaits_launched h hslow htimeless
    let isOver (q : Pool) : Bool := !q.isRunning (f.slowCheck s)
    have hafter : f.afterFast id s = f.launched id s := by
      simp [afterFast, awaitFast, fastChecks, hfast]
    have hgraceful : f.afterGrace id s = (f.launched id s).runUntil isOver
        (some (s.pool.shared.elapsed + f.settings.gracePeriodMs)) := by
      rw [afterGrace, hslow, hafter, ← hawaits.now]
      rfl
    rw [hgraceful]
    exact hawaits.turn isOver _ (fun q hq => by simp [isOver, isRunning_of_awaits hq])
      (by simpa using hgrace)
  · obtain ⟨hturn, hnext⟩ := turn_of_slowCheck h hslow htimeless
    exact ⟨hturn, hnext, fun i r hfirst =>
      (turn_of_fastPhase h hslow htimeless hfast hfirst).trans (f.reaches_afterGrace id s)⟩

section

variable {maxAge : Time.Span} {results : List Torrent} {value : Cbor.Bytes}

/-- A search left the check of its slow source under way, the check brought the results in the background,
and right at its end the cache has an entry for it. The source leaves these results in the cache whenever
it brings them, or at least it did so in this check. -/
structure Leaves (f : Federation) (source : Source) (id : String) (s : Session) (results : List Torrent)
    (value : Cbor.Bytes) : Prop where
  reachable : s.Reachable
  slow : f.slow = some source
  leftBehind : f.leftBehind id s ≠ []
  brought : (f.slowEnd id s).outcome? (f.slowCheck s) = some (.ok results)
  entry : (f.slowEnd id s).shared.cache.find? (resultsKey id source.name) = some value
  length : value.length < 2 ^ 64
  filled : source.Fills id results ∨ ∃ e, Entry.decode? value = some e ∧ e.results = results

/-- A search has some patience with its slow source, and at the turn of the slow check the entry is there
and fresh, and nobody has the lock that the check needs. -/
structure Finds (f : Federation) (id : String) (s : Session) (caching : Caching source id maxAge results)
    (value : Cbor.Bytes) : Prop where
  reachable : s.Reachable
  slow : f.slow = some source
  grace : 0 < f.settings.gracePeriodMs
  timeless : f.Timeless id s
  free : ∀ lock ∈ caching.lock, lock ∉ (f.slowTurn id s).held
  resident : (f.slowTurn id s).shared.cache.find? (resultsKey id source.name) = some value
  fresh : ∃ e, Entry.decode? value = some e ∧ e.isFresh maxAge (f.slowTurn id s).shared.now = true

/-- The slow check of a search has all its work to do at its turn, and in this turn, without any wait, it
ends with the results. It disturbs no site, and does the same whatever a live check is. -/
structure AnsweredAtOnce (f : Federation) (id : String) (s : Session)
    (caching : Caching source id maxAge results) (q : Pool) : Prop where
  reached : (f.launched id s).Reaches (f.slowTurn id s)
  untouched : (f.slowCheck s, source.run f.settings.attempts id) ∈ (f.slowTurn id s).tasks
  step : (f.slowTurn id s).Step q
  ended : q.finished = (f.slowTurn id s).finished ++ [(f.slowCheck s, .ok results)]
  undisturbed : Undisturbed (f.slowTurn id s).shared q.shared
  whatever : ∀ live, AtOnce (f.slowTurn id s).held
    (caching.around f.settings.attempts (answeredBy (cached id source.name maxAge) live))
    (f.slowTurn id s).shared (.ok results) q.shared
  reaches : q.Reaches (f.afterGrace id s)

/-- If nothing is under way before a search and none of its fast checks has to do with locks, no lock is
taken at the turn of its slow check. -/
theorem held_slowTurn (h : s.Ready) (hslow : f.slow = some source) (htimeless : f.Timeless id s)
    (hgrace : 0 < f.settings.gracePeriodMs) (hidle : s.pool.running = [])
    (hfast : ∀ source ∈ f.fast, (source.run f.settings.attempts id).Plain) :
    (f.slowTurn id s).held = [] := by
  obtain ⟨hawaits, -, -⟩ := turn_of_search h hslow htimeless hgrace
  obtain ⟨j, hj, hid, hwork, -⟩ := hawaits.due
  have hnone : s.pool.tasks = [] := by rwa [Pool.running_eq_tasks, List.map_eq_nil_iff] at hidle
  have hreach : (f.launched id s).Reaches (f.slowTurn id s) := Pool.reaches_runUntil ..
  refine (hreach.sound (f.sound_launched id h.sound)).held_eq_nil fun t ht => ?_
  by_cases hslowCheck : t.1 = f.slowCheck s
  · have hmem : (j.id, j.work) ∈ (f.slowTurn id s).tasks := List.mem_map.mpr ⟨j, hj, rfl⟩
    have hnodup := hawaits.nodup
    rw [Pool.running_eq_tasks] at hnodup
    rw [List.inj_on_of_nodup_map hnodup ht hmem (hslowCheck.trans hid.symm), hwork]
    exact source.orderly_run _ _
  · obtain ⟨w, hw, hpart⟩ := hreach.part t ht
    rw [← f.launched_of_some id s hslow, Pool.tasks_spawn, Pool.tasks_spawnAll, hnone, List.nil_append,
      Pool.fresh_spawnAll, List.length_map, List.mem_append, List.mem_singleton] at hw
    rcases hw with hw | heq
    · obtain ⟨fast, hmem, rfl⟩ := List.mem_map.mp (List.of_mem_zip hw).2
      exact ((hfast fast hmem).of_part hpart).orderly
    · exact absurd (congrArg Prod.fst heq) hslowCheck

theorem finds_of_settled (caching : Caching source id maxAge results) (hs : s.Reachable)
    (hslow : f.slow = some source) (hgrace : 0 < f.settings.gracePeriodMs)
    (hfast : ∀ source ∈ f.fast, (source.run f.settings.attempts id).Plain ∧
      (source.run f.settings.attempts id).Timeless)
    (hresident : (f.slowTurn id s.settle.2).shared.cache.find? (resultsKey id source.name) = some value)
    (hfresh : ∃ e, Entry.decode? value = some e ∧
      e.isFresh maxAge (f.slowTurn id s.settle.2).shared.now = true) :
    f.Finds id s.settle.2 caching value := by
  have hidle := hs.running_settle
  have htimeless : f.Timeless id s.settle.2 := by
    refine ⟨fun source hsource => (hfast source hsource).2, fun t ht => ?_⟩
    rw [Pool.running_eq_tasks, List.map_eq_nil_iff] at hidle
    rw [hidle] at ht
    cases ht
  have hheld := held_slowTurn hs.settle.ready hslow htimeless hgrace hidle
    fun source hsource => (hfast source hsource).1
  exact ⟨hs.settle, hslow, hgrace, htimeless, by simp [hheld], hresident, hfresh⟩

theorem Leaves.results_eq (h : f.Leaves source id s results value) :
    ∃ e, Entry.decode? value = some e ∧ e.results = results := by
  refine h.filled.elim (fun hfills => ?_) fun hread => hread
  obtain ⟨outcome, hend, hfilled⟩ :=
    attained_slowEnd h.reachable.ready h.slow h.leftBehind (hfills f.settings.attempts)
  rw [h.brought, Option.some.injEq] at hend
  exact hfilled hend.symm value h.entry h.length

theorem Finds.answeredAtOnce {caching : Caching source id maxAge results}
    (h : f.Finds id s caching value) (hresults : ∃ e, Entry.decode? value = some e ∧ e.results = results) :
    ∃ q, f.AnsweredAtOnce id s caching q := by
  obtain ⟨hawaits, hturn, hreach⟩ := turn_of_search h.reachable.ready h.slow h.timeless h.grace
  have hhit : ((f.slowTurn id s).shared.cache.lookupResults id source.name maxAge
      (f.slowTurn id s).shared.now).1.hit? = some results := by
    obtain ⟨e, hread, rfl⟩ := hresults
    obtain ⟨e', hread', hfresh⟩ := h.fresh
    obtain rfl : e = e' := Option.some.inj (hread.symm.trans hread')
    rw [Cache.Store.fst_lookupResults, Cache.Lookup.hit?_judge_eq_some_iff]
    exact ⟨value, e, h.resident, hread, hfresh, rfl⟩
  obtain ⟨t, hundisturbed, hwhatever⟩ :=
    caching.serves f.settings.attempts (f.slowTurn id s).held (f.slowTurn id s).shared h.free hhit
  have hwork := hwhatever (caching.live f.settings.attempts)
  rw [← caching.run_eq] at hwork
  obtain ⟨i, r, hnext, hshared, hfinished⟩ := hawaits.ends_atOnce hturn hwork
  obtain ⟨j, hj, hid, hjwork, -⟩ := hawaits.due
  refine ⟨_, Pool.reaches_runUntil .., ?_, .goesOn hnext, hfinished, hshared ▸ hundisturbed,
    fun live => hshared ▸ hwhatever live, hreach i r hnext⟩
  exact List.mem_map.mpr ⟨j, hj, by rw [hid, hjwork]⟩

theorem AnsweredAtOnce.slowArrival?_eq {caching : Caching source id maxAge results} {q : Pool}
    (h : f.AnsweredAtOnce id s caching q) (hs : s.Ready) (hslow : f.slow = some source) :
    f.slowArrival? id s = some ⟨source.name, .ok results⟩ := by
  have hnodup := (Pool.Reaches.continues (f.reaches_of_launched id s)).nodup_finished
    (f.finished_launched_eq_nil id hs) (f.nodup_launched id hs)
  have hmem : (f.slowCheck s, .ok results) ∈ (f.afterGrace id s).finished := by
    obtain ⟨ended, hfinished, -⟩ := h.reaches.continues
    rw [hfinished, h.ended]
    simp
  rw [slowArrival?, hslow, Option.bind_some, Pool.outcome?_of_mem_finished hnodup hmem]
  rfl

/-- A search left the check of its slow source in the background, where it brought its results. Waiting for
the background passes through the end of this check and leaves nothing under way. Whatever
happens then, another search whose fast sources bring the same in the same order, and whose slow source
still finds the entry and finds it fresh, answers as if the results had arrived in time at first: like
every search with these arrivals. Its slow check ends in its first step without a second live lookup. -/
theorem find_after_settle {f' : Federation} {s' : Session} (caching : Caching source id maxAge results)
    (h : f.Leaves source id s results value) (h' : f'.Finds id s' caching value)
    (hfast : f'.fastArrivals id s' = f.fastArrivals id s) :
    (∃ q, (f.slowEnd id s).Reaches q ∧ f.slowCheck s ∉ q.running ∧
      (f.find id s).2.settle.2 = ⟨{ q with finished := [] }, []⟩) ∧
    (f.find id s).2.settle.2.pool.running = [] ∧
    (f'.find id s').1 = conclude (f.fastArrivals id s ++ [⟨source.name, .ok results⟩]) none ∧
    (∀ (g : Federation) (t : Session), g.fastArrivals id t = f.fastArrivals id s →
      g.slowArrival? id t = some ⟨source.name, .ok results⟩ → (g.find id t).1 = (f'.find id s').1) ∧
    ∃ q, f'.AnsweredAtOnce id s' caching q := by
  obtain ⟨-, hid⟩ := find_of_leftBehind h.leftBehind
  obtain ⟨q, hanswered⟩ := h'.answeredAtOnce h.results_eq
  have harrived := hanswered.slowArrival?_eq h'.reachable.ready h'.slow
  have hanswer : (f'.find id s').1 =
      conclude (f.fastArrivals id s ++ [⟨source.name, .ok results⟩]) none := by
    rw [find_of_arrived _ _ _ hid harrived, hfast]
  refine ⟨settle_of_slowEnd h.reachable.ready h.leftBehind, (h.reachable.find f id).running_settle,
    hanswer, fun g t hsame hslow => ?_, q, hanswered⟩
  rw [find_of_arrived _ _ _ hid hslow, hsame, hanswer]

end

/-- What a search leaves whose slow check is late, if the pools when its waiting was over are known. -/
theorem find_of_late (hs : s.Ready) (hid : Text.isBlankText id = false) (hslow : f.slow = some source)
    {p q : Pool} (hfast : f.afterFast id s = p) (hgrace : f.afterGrace id s = q)
    (hlate : q.outcome? (f.slowCheck s) = none) :
    (f.find id s).2 = ((detach id source.name (f.slowCheck s) { s with pool := q }).change
      (·.count (observe (conclude (arrivals ((f.fastChecks s).zip (f.fast.map (·.name))) p)
        (some source.name))))).forget ∧ f.leftBehind id s ≠ [] := by
  subst hfast hgrace
  have hf : f.sources ≠ [] := by simp [sources, hslow]
  have hask := find_of_asked f id s hid hf
  have hnone : f.slowArrival? id s = none := by
    rw [slowArrival?, hslow, Option.bind_some, hlate]
    rfl
  constructor
  · rw [hask, ask_of_late f id s hslow hlate]
    rfl
  · rw [leftBehind_of_ask f id hs hask, late?, if_pos hnone, hslow]
    exact List.cons_ne_nil _ _

/-- A slow source that takes longer than its grace period of 100 milliseconds, and is asked again with
hardly any patience after its check in the background. The sites are sources of the same kind, but for
pages without links. -/
theorem find_after_settle_of_stubs :
    let film (title hash : String) : Torrent := ⟨title, "720p", hash, ""⟩
    let fast : Source.Stub := { name := "fast", results := [film "F" "1"], delay := some 50 }
    let slow : Source.Stub :=
      { name := "slow", results := [film "S" "2"], delay := some 600, maxAge := some (.ofSeconds 60) }
    let f (grace : Nat) : Federation :=
      ⟨[fast.toSource 0], some (slow.toSource 1), { gracePeriodMs := grace }⟩
    let s := Session.start (.start .epoch (.empty 1000) .down [fast, slow])
    let s' := ((f 100).find "tt1" s).2.settle.2
    let value := Entry.encode ⟨.epoch, [film "S" "2"]⟩
    let caching : Caching (slow.toSource 1) "tt1" (.ofSeconds 60) [film "S" "2"] :=
      slow.caching 1 (by decide) rfl _
    (f 100).Leaves (slow.toSource 1) "tt1" s [film "S" "2"] value ∧
      (f 1).Finds "tt1" s' caching value ∧
      (f 1).fastArrivals "tt1" s' = (f 100).fastArrivals "tt1" s ∧
      ((f 1).find "tt1" s').1 = .ok [film "F" "1", film "S" "2"] ∧
      (∀ (a : Source.Yts.Access) (results : List Torrent), a.toSource.Fills "tt1" results ∧
        Nonempty (Caching a.toSource "tt1" a.maxAge results)) ∧
      ∀ (a : Source.Ibit.Access) (results : List Torrent),
        (results ≠ [] → a.toSource.Fills "tt1" results) ∧
          Nonempty (Caching a.toSource "tt1" a.maxAge results) := by
  intro film fast slow f s s' value caching
  let n := (f 100).slowCheck s
  let first (p : Pool) : List Arrival :=
    arrivals (((f 100).fastChecks s).zip ((f 100).fast.map (·.name))) p
  let left (p q : Pool) : Session :=
    ((detach "tt1" "slow" n { s with pool := q }).change
      (·.count (observe (conclude (first p) (some "slow"))))).forget
  let settled (pool : Pool) : Session := { pool := pool, background := [] : Session }.forget
  let second (pool p : Pool) : List Arrival :=
    arrivals (((f 1).fastChecks (settled pool)).zip ((f 1).fast.map (·.name))) p
  let key := resultsKey "tt1" "slow"
  have hruns : (((f 100).waitedWithin "tt1" s 20).any fun (p, q) =>
      ((left p q).pool.runWithin (fun r => !r.isRunning n) none 20).any fun ended =>
        ((left p q).pool.runWithin
          (fun r => (left p q).background.all fun b => !r.isRunning b.2) none 20).any fun pool =>
            (((f 1).launched "tt1" (settled pool)).runWithin
              (Pool.upNext ((f 1).slowCheck (settled pool))) none 20).any fun turn =>
                ((f 1).waitedWithin "tt1" (settled pool) 20).any fun (p', _) => decide <|
                  (q.outcome? n = none ∧ ended.outcome? n = some (.ok [film "S" "2"])) ∧
                  (ended.shared.cache.find? key = some value ∧
                    turn.shared.cache.find? key = some value) ∧
                  Entry.isFresh ⟨.epoch, [film "S" "2"]⟩ (.ofSeconds 60) turn.shared.now = true ∧
                  first p = [⟨"fast", .ok [film "F" "1"]⟩] ∧ second pool p' = first p) = true := by
    decide +kernel
  obtain ⟨⟨p, q⟩, hwaited, hruns⟩ := (Option.any_eq_true _ _).mp hruns
  obtain ⟨ended, hended, hruns⟩ := (Option.any_eq_true _ _).mp hruns
  obtain ⟨pool, hpool, hruns⟩ := (Option.any_eq_true _ _).mp hruns
  obtain ⟨turn, hturn, hruns⟩ := (Option.any_eq_true _ _).mp hruns
  obtain ⟨⟨p', q'⟩, hwaited', hruns⟩ := (Option.any_eq_true _ _).mp hruns
  obtain ⟨⟨hlate, hbrought⟩, ⟨hentry, hresident⟩, hfresh, hfirst, hsame⟩ := of_decide_eq_true hruns
  obtain ⟨hafter, hgrace⟩ := waited_of_waitedWithin _ _ s 20 (List.cons_ne_nil _ _) rfl hwaited
  obtain ⟨hafter', -⟩ :=
    waited_of_waitedWithin _ _ (settled pool) 20 (List.cons_ne_nil _ _) rfl hwaited'
  have hs : s.Reachable := .start _
  have hslow : (f 100).slow = some (slow.toSource 1) := rfl
  obtain ⟨hleft, hbehind⟩ := find_of_late hs.ready (by decide) hslow hafter hgrace hlate
  change _ = left p q at hleft
  have hend : (f 100).slowEnd "tt1" s = ended := by
    rw [slowEnd, hleft]
    exact Pool.runUntil_of_runWithin hended
  have hsettled : s' = settled pool := by
    change ((f 100).find "tt1" s).2.settle.2 = _
    rw [hleft, Session.snd_settle, Pool.runUntil_of_runWithin hpool]
  have hslowTurn : (f 1).slowTurn "tt1" s' = turn := by
    rw [hsettled]
    exact Pool.runUntil_of_runWithin hturn
  have harrivals : (f 1).fastArrivals "tt1" s' = (f 100).fastArrivals "tt1" s := by
    rw [hsettled, fastArrivals, fastArrivals, hafter, hafter']
    exact hsame
  have hlength : value.length < 2 ^ 64 := by decide +kernel
  have hread : Entry.decode? value = some ⟨.epoch, [film "S" "2"]⟩ := by
    have happend := (Entry.Addressable.of_length_encode hlength).decode?_append []
    rwa [List.append_nil] at happend
  have hleaves : (f 100).Leaves (slow.toSource 1) "tt1" s [film "S" "2"] value :=
    ⟨hs, rfl, hbehind, hend ▸ hbrought, hend ▸ hentry, hlength, .inl (slow.fills 1 (by decide) rfl _)⟩
  have hplain : ∀ source ∈ (f 1).fast, (source.run (f 1).settings.attempts "tt1").Plain ∧
      (source.run (f 1).settings.attempts "tt1").Timeless := by
    intro source hsource
    rw [List.mem_singleton.mp hsource]
    refine ⟨?_, fast.timeless_run 0 _ _⟩
    rw [fast.run_toSource]
    exact Source.Stub.plain_checkUpTo ..
  have hfinds : (f 1).Finds "tt1" s' caching value :=
    finds_of_settled caching (hs.find _ _) rfl (by decide) hplain
      (hslowTurn ▸ hresident) ⟨_, hread, hslowTurn ▸ hfresh⟩
  obtain ⟨-, -, hanswer, -⟩ := find_after_settle caching hleaves hfinds harrivals
  have hid : Text.isBlankText "tt1" = false := by decide
  refine ⟨hleaves, hfinds, harrivals, ?_,
    fun a results => ⟨a.fills hid results, ⟨a.caching hid results⟩⟩,
    fun a results => ⟨a.fills hid, ⟨a.caching hid results⟩⟩⟩
  rw [hanswer, fastArrivals, hafter]
  change conclude (first p ++ _) none = _
  rw [hfirst]
  rfl

end TorrentSearch.Federation
