import TorrentSearch.Federation.Basic
import TorrentSearch.Proofs.Search.Locks

/-!
# Asking all sources

The pools that a search goes through, one after another: when its checks have begun, when all fast
ones ended, and when the slow one ended or has used up its grace period. The fast checks always end.
-/

namespace TorrentSearch.Federation

open Search (Pool)

variable (f : Federation) (id : String) (s : Session)

/-- The pool once the checks of a search have begun, the slow one last. -/
def launched : Pool :=
  (s.pool.spawnAll false (f.sources.map fun source => source.run f.settings.attempts id)).1

/-- The numbers that the fast checks of a search get. -/
def fastChecks : List Nat := List.range' s.pool.fresh f.fast.length

/-- The number that the slow check of a search gets. -/
def slowCheck : Nat := s.pool.fresh + f.fast.length

/-- The pool once all fast checks of a search ended. -/
def afterFast : Pool := awaitFast (f.fastChecks s) (f.launched id s)

/-- The pool once the slow check of a search, if there is one, ended or has used up its grace
period. -/
def afterGrace : Pool :=
  match f.slow with
  | some _ => awaitSlow (f.slowCheck s) f.settings.gracePeriodMs (f.afterFast id s)
  | none => f.afterFast id s

/-- What the fast sources brought, in the order in which their checks ended. -/
def fastArrivals : List Arrival :=
  arrivals ((f.fastChecks s).zip (f.fast.map (·.name))) (f.afterFast id s)

def slowArrival? : Option Arrival :=
  f.slow.bind fun source =>
    ((f.afterGrace id s).outcome? (f.slowCheck s)).map fun outcome => ⟨source.name, outcome⟩

/-- The slow source, if it brought nothing in time. -/
def late? : Option Source := if f.slowArrival? id s = none then f.slow else none

theorem launched_of_none (h : f.slow = none) :
    (s.pool.spawnAll false (f.fast.map fun source => source.run f.settings.attempts id)).1 =
      f.launched id s := by
  simp [launched, sources, h]

theorem launched_of_some {source : Source} (h : f.slow = some source) :
    ((s.pool.spawnAll false (f.fast.map fun source => source.run f.settings.attempts id)).1.spawn
      false (source.run f.settings.attempts id)).1 = f.launched id s := by
  rw [launched, sources, h, List.map_append, Pool.spawnAll_append]
  rfl

private theorem ids_spawnAll :
    (s.pool.spawnAll false (f.fast.map fun source => source.run f.settings.attempts id)).2 =
      f.fastChecks s := by
  rw [Pool.snd_spawnAll, List.length_map, fastChecks]

private theorem number_spawn (work : Search.Work Source.Outcome) :
    ((s.pool.spawnAll false (f.fast.map fun source => source.run f.settings.attempts id)).1.spawn
      false work).2 = f.slowCheck s := by
  have hfresh := s.pool.fresh_spawnAll false
    (f.fast.map fun source => source.run f.settings.attempts id)
  rw [List.length_map] at hfresh
  exact hfresh

theorem ask_of_none (h : f.slow = none) :
    f.ask id s =
      let answer := conclude (f.fastArrivals id s) none
      (answer, ({ s with pool := f.afterGrace id s }.change (·.count (observe answer))).forget) := by
  simp only [ask, h, ids_spawnAll, launched_of_none f id s h, fastArrivals, afterGrace, afterFast]

variable {source : Source} (h : f.slow = some source)

include h

theorem ask_of_arrived {outcome : Source.Outcome}
    (houtcome : (f.afterGrace id s).outcome? (f.slowCheck s) = some outcome) :
    f.ask id s =
      let answer := conclude (f.fastArrivals id s ++ [⟨source.name, outcome⟩]) none
      (answer, ({ s with pool := f.afterGrace id s }.change (·.count (observe answer))).forget) := by
  simp only [afterGrace, h, afterFast] at houtcome
  simp only [ask, h, ids_spawnAll, number_spawn, launched_of_some f id s h, houtcome, fastArrivals,
    afterGrace, afterFast]

theorem ask_of_late (houtcome : (f.afterGrace id s).outcome? (f.slowCheck s) = none) :
    f.ask id s =
      let answer := conclude (f.fastArrivals id s) (some source.name)
      (answer, ((detach id source.name (f.slowCheck s) { s with pool := f.afterGrace id s }).change
        (·.count (observe answer))).forget) := by
  simp only [afterGrace, h, afterFast] at houtcome
  simp only [ask, h, ids_spawnAll, number_spawn, launched_of_some f id s h, houtcome, fastArrivals,
    afterGrace, afterFast]

omit h

/-- The answer of all sources is what those that arrived in time brought, the slow one last. -/
theorem fst_ask :
    (f.ask id s).1 =
      conclude (f.fastArrivals id s ++ (f.slowArrival? id s).toList)
        ((f.late? id s).map (·.name)) := by
  cases h : f.slow with
  | none =>
    rw [ask_of_none f id s h]
    simp [slowArrival?, late?, h]
  | some source =>
    cases houtcome : (f.afterGrace id s).outcome? (f.slowCheck s) with
    | some outcome =>
      rw [ask_of_arrived f id s h houtcome]
      simp [slowArrival?, late?, h, houtcome]
    | none =>
      rw [ask_of_late f id s h houtcome]
      simp [slowArrival?, late?, h, houtcome]

/-- The checks in the background after a search: if the slow one is late, it joins those that are
still under way. -/
def backgroundAfter : List (String × Nat) :=
  match f.late? id s with
  | some _ =>
    (s.background.filter fun b => (f.afterGrace id s).isRunning b.2) ++ [(id, f.slowCheck s)]
  | none => s.background

theorem snd_ask :
    ∃ count : Counters → Counters, (f.ask id s).2 =
      { pool := { f.afterGrace id s with
          shared := (f.afterGrace id s).shared.count count
          finished := [] }
        background := f.backgroundAfter id s } := by
  cases h : f.slow with
  | none =>
    have hlate : f.late? id s = none := by simp [late?, h]
    rw [ask_of_none f id s h, backgroundAfter, hlate]
    exact ⟨_, rfl⟩
  | some source =>
    cases houtcome : (f.afterGrace id s).outcome? (f.slowCheck s) with
    | some outcome =>
      have hlate : f.late? id s = none := by simp [late?, slowArrival?, h, houtcome]
      rw [ask_of_arrived f id s h houtcome, backgroundAfter, hlate]
      exact ⟨_, rfl⟩
    | none =>
      have hlate : f.late? id s = some source := by simp [late?, slowArrival?, h, houtcome]
      rw [ask_of_late f id s h houtcome, backgroundAfter, hlate]
      exact ⟨observe (conclude (f.fastArrivals id s) (some source.name)) ∘
        (·.observeDetached source.name), rfl⟩

theorem running_ask : (f.ask id s).2.pool.running = (f.afterGrace id s).running := by
  obtain ⟨count, heq⟩ := f.snd_ask id s
  rw [heq]
  rfl

theorem fresh_ask : (f.ask id s).2.pool.fresh = (f.afterGrace id s).fresh := by
  obtain ⟨count, heq⟩ := f.snd_ask id s
  rw [heq]

theorem background_ask : (f.ask id s).2.background = f.backgroundAfter id s := by
  obtain ⟨count, heq⟩ := f.snd_ask id s
  rw [heq]

theorem running_launched :
    (f.launched id s).running = s.pool.running ++ List.range' s.pool.fresh f.sources.length := by
  rw [launched, Pool.running_spawnAll, List.length_map]

theorem finished_launched : (f.launched id s).finished = s.pool.finished :=
  Pool.finished_spawnAll ..

theorem fresh_launched : (f.launched id s).fresh = s.pool.fresh + f.sources.length := by
  rw [launched, Pool.fresh_spawnAll, List.length_map]

theorem reaches_afterFast : (f.launched id s).Reaches (f.afterFast id s) := by
  unfold afterFast awaitFast
  split
  · exact .refl
  · exact Pool.reaches_runUntil ..

theorem reaches_afterGrace : (f.afterFast id s).Reaches (f.afterGrace id s) := by
  unfold afterGrace
  split
  · exact Pool.reaches_runUntil ..
  · exact .refl

theorem reaches_of_launched : (f.launched id s).Reaches (f.afterGrace id s) :=
  .trans (f.reaches_afterFast id s) (f.reaches_afterGrace id s)

variable {s}

theorem sound_launched (h : s.pool.Sound) : (f.launched id s).Sound := by
  refine Pool.sound_spawnAll false (fun work hwork => ?_) h
  obtain ⟨source, -, rfl⟩ := List.mem_map.mp hwork
  exact source.orderly_run _ _

theorem sound_afterGrace (h : s.pool.Sound) : (f.afterGrace id s).Sound :=
  Pool.Reaches.sound (f.reaches_of_launched id s) (f.sound_launched id h)

/-- The fast phase is over when all fast checks ended and nothing is left to do at that moment. -/
theorem stop_afterFast (h : s.pool.Sound) (hne : f.fastChecks s ≠ []) :
    (∀ n ∈ f.fastChecks s, n ∉ (f.afterFast id s).running) ∧ isQuiet (f.afterFast id s) = true := by
  have hstop := (f.sound_launched id h).stop_runUntil
    (fun p => ((f.fastChecks s).all fun id => !p.isRunning id) && isQuiet p) fun q hq => by
      simp [Pool.isRunning, hq, isQuiet, Pool.next?, Search.earliest?]
  unfold afterFast awaitFast
  rw [if_neg (by simpa using hne)]
  rw [Bool.and_eq_true, List.all_eq_true] at hstop
  exact ⟨fun n hn => Pool.not_isRunning_iff.mp (hstop.1 n hn), hstop.2⟩

theorem fast_ended (h : s.pool.Sound) : ∀ n ∈ f.fastChecks s, n ∉ (f.afterFast id s).running := by
  intro n hn
  exact (f.stop_afterFast id h (List.ne_nil_of_mem hn)).1 n hn

end TorrentSearch.Federation
