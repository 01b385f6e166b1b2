import Mathlib.Data.Finset.Lattice.Fold
import Mathlib.Data.Fintype.Basic
import Mathlib.Order.Lattice.Nat
import TorrentSearch.Proofs.Federation.Settled
import TorrentSearch.Proofs.Source.Delays
import TorrentSearch.Proofs.Source.Uncounted

/-!
# The grace period

The slow check of a search begins together with the fast ones, and the grace period begins when the last
of those ends. If the slow check ends within it, its outcome comes behind those of the fast sources, and
the search takes as long as the longest of its checks. Otherwise the search takes exactly the fast phase
and the grace period, and the slow check ends in the background as it would have ended anyway.
-/

namespace TorrentSearch.Federation

open Search (Pool Work)

variable (f : Federation) (id : String) (s : Session)

/-- No check sets the clock or takes notice of the counters: none of the search, and none that is still
under way. -/
structure Impartial : Prop where
  sources : ∀ source ∈ f.sources, (source.run f.settings.attempts id).Timeless ∧
    (source.run f.settings.attempts id).Uncounted
  others : ∀ t ∈ s.pool.tasks, t.2.Timeless ∧ t.2.Uncounted

/-- How long the checks of a search take, the fast ones and the slow one: in a pool that nobody stops
waiting for, each ends so many milliseconds after they all began. -/
structure Takes (d : Fin f.fast.length → Nat) (slow : Nat) : Prop where
  fast : ∀ k : Fin f.fast.length,
    (f.launched id s).endMoment (s.pool.fresh + k) = s.pool.shared.elapsed + d k
  slow : (f.launched id s).endMoment (f.slowCheck s) = s.pool.shared.elapsed + slow

/-- The pool right when the slow check of a search ends, if nobody stops waiting for it. -/
def slowFinish : Pool := (f.launched id s).endOf (f.slowCheck s)

/-- The pool right when the last fast check of a search ends. -/
def lastFast : Pool :=
  (f.launched id s).runUntil (fun q => (f.fastChecks s).all fun n => !q.isRunning n) none

variable {f id s} {source : Source}

theorem Impartial.launched (h : f.Impartial id s) :
    ∀ t ∈ (f.launched id s).tasks, t.2.Timeless ∧ t.2.Uncounted := by
  intro t ht
  rw [Federation.launched, Pool.tasks_spawnAll, List.mem_append] at ht
  rcases ht with ht | ht
  · exact h.others t ht
  · obtain ⟨source, hsource, heq⟩ := List.mem_map.mp (List.of_mem_zip ht).2
    exact heq ▸ h.sources source hsource

theorem Impartial.punctual (h : f.Impartial id s) : (f.launched id s).Punctual :=
  fun t ht => (h.launched t ht).1

/-- The federation of a configuration is impartial if those checks are that are still under way. -/
theorem impartial_ofConfig (config : Config) (id : String) {s : Session}
    (hothers : ∀ t ∈ s.pool.tasks, t.2.Timeless ∧ t.2.Uncounted) :
    (ofConfig config).Impartial id s := by
  refine ⟨fun source hsource => ?_, hothers⟩
  rcases List.mem_append.mp hsource with hfast | hslow
  · simp only [ofConfig] at hfast
    split at hfast
    · rw [List.mem_singleton.mp hfast]
      exact ⟨Source.Yts.Access.timeless_run _ _ _, Source.Yts.Access.uncounted_run _ _ _⟩
    · cases hfast
  · simp only [ofConfig] at hslow
    split at hslow
    · rw [List.mem_singleton.mp hslow]
      exact ⟨Source.Ibit.Access.timeless_run _ _ _, Source.Ibit.Access.uncounted_run _ _ _⟩
    · cases hslow

theorem elapsed_quiet {ids : List Nat} {p : Pool} (hp : p.Punctual)
    (hended : ∀ n ∈ ids, n ∉ p.running) :
    (p.runUntil (fun q => (ids.all fun n => !q.isRunning n) && isQuiet q) none).shared.elapsed =
      p.shared.elapsed := by
  fun_induction Pool.runUntil (fun q => (ids.all fun n => !q.isRunning n) && isQuiet q) none p with
  | case1 p hstop => rfl
  | case2 p hstop hnext => exact Nat.max_zero _
  | case3 p hstop i r hnext hlimit => exact Nat.max_zero _
  | case4 p hstop i r hnext hlimit ih =>
    have hstep : p.Reaches (p.step i r.moment) := .single (.goesOn hnext)
    have hquiet : isQuiet p = false := by
      rw [Bool.and_eq_true, List.all_eq_true, not_and] at hstop
      simpa using hstop fun n hn => Pool.not_isRunning_iff.mpr (hended n hn)
    simp only [isQuiet, hnext, decide_eq_false_iff_not, Nat.not_lt] at hquiet
    rw [ih (hp.of_reaches hstep) fun n hn hrunning => hended n hn (hstep.running_subset hrunning),
      hp.elapsed_step hnext]
    exact Nat.le_antisymm hquiet (Pool.elapsed_le_of_next? hnext)

theorem elapsed_launched (f : Federation) (id : String) :
    (f.launched id s).shared.elapsed = s.pool.shared.elapsed := by
  rw [launched, Pool.shared_spawnAll]

theorem mem_fastChecks_iff {n : Nat} :
    n ∈ f.fastChecks s ↔ ∃ k : Fin f.fast.length, s.pool.fresh + k = n := by
  rw [fastChecks, List.mem_range'_1]
  constructor
  · rintro ⟨hle, hlt⟩
    exact ⟨⟨n - s.pool.fresh, by omega⟩, Nat.add_sub_cancel' hle⟩
  · rintro ⟨k, rfl⟩
    have := k.isLt
    omega

/-- The fast phase is a wait for the last fast check, and then for what is due at that moment. -/
theorem afterFast_eq (f : Federation) (id : String) (hs : s.Ready) (hfast : f.fast ≠ []) :
    (∀ n ∈ f.fastChecks s, n ∉ (f.lastFast id s).running) ∧
      f.afterFast id s = (f.lastFast id s).runUntil
        (fun q => ((f.fastChecks s).all fun n => !q.isRunning n) && isQuiet q) none := by
  have hne : (f.fastChecks s).isEmpty = false := by
    simp [fastChecks, List.length_eq_zero_iff.not.mpr hfast]
  have hrun : f.afterFast id s = (f.launched id s).runUntil
      (fun q => ((f.fastChecks s).all fun n => !q.isRunning n) && isQuiet q) none := by
    unfold afterFast awaitFast
    rw [hne, if_neg Bool.false_ne_true]
  let first (q : Pool) : Bool := (f.fastChecks s).all fun n => !q.isRunning n
  let stop (q : Pool) : Bool := first q && isQuiet q
  have hwait (q : Pool) (hq : q.Sound) (hfirst : first q = false) : stop q = false ∧
      ∃ i r, q.next? = some (i, r) ∧ (none : Option Nat).any (· ≤ r.moment) = false ∧
        (q.step i r.moment).Sound := by
    obtain ⟨n, -, hrunning⟩ := List.all_eq_false.mp hfirst
    obtain ⟨i, r, hnext⟩ := hq.exists_next? (not_not.mp (mt Pool.not_isRunning_iff.mpr hrunning))
    exact ⟨by simp [stop, hfirst], i, r, hnext, rfl, (Pool.Step.goesOn hnext).sound hq⟩
  obtain ⟨-, hended, heq⟩ := Pool.runUntil_through hwait (f.sound_launched id hs.sound)
  exact ⟨fun n hn => Pool.not_isRunning_iff.mp (List.all_eq_true.mp hended n hn), hrun.trans heq⟩

theorem elapsed_afterFast (hs : s.Ready) (h : (f.launched id s).Punctual)
    {d : Fin f.fast.length → Nat} {slow : Nat} (htakes : f.Takes id s d slow) :
    (f.afterFast id s).shared.elapsed = s.pool.shared.elapsed + Finset.univ.sup d := by
  by_cases hfast : f.fast = []
  · have hafter : f.afterFast id s = f.launched id s := by
      simp [afterFast, awaitFast, fastChecks, hfast]
    have hzero : Finset.univ.sup d = 0 :=
      Nat.le_zero.mp (Finset.sup_le fun k _ => absurd k.isLt (by simp [hfast]))
    rw [hafter, elapsed_launched, hzero, Nat.add_zero]
  have hsound := f.sound_launched id hs.sound
  have hpasses (n : Nat) : Pool.Passes n ((f.launched id s).endOf n) (f.launched id s) := .refl _ n
  obtain ⟨hended, hafter⟩ := afterFast_eq f id hs hfast
  have hpunctual : (f.lastFast id s).Punctual := h.of_reaches (Pool.reaches_runUntil ..)
  rw [hafter, elapsed_quiet hpunctual hended]
  obtain ⟨n, hn⟩ := List.exists_mem_of_ne_nil (f.fastChecks s) (by simp [fastChecks, hfast])
  refine Nat.le_antisymm ?_ ?_
  · obtain ⟨n, hn, hlast⟩ := Pool.exists_last_end hsound (fun n _ => hpasses n)
      ⟨n, hn, f.fastChecks_subset_launched id hn⟩
    obtain ⟨k, rfl⟩ := mem_fastChecks_iff.mp hn
    have hend : (f.lastFast id s).shared.elapsed = s.pool.shared.elapsed + d k :=
      (congrArg (fun p : Pool => p.shared.elapsed) hlast).trans (htakes.fast k)
    rw [hend]
    exact Nat.add_le_add_left (Finset.le_sup (Finset.mem_univ k)) _
  · -- none of them ends later than the wait for all
    have hle (k : Fin f.fast.length) :
        s.pool.shared.elapsed + d k ≤ (f.lastFast id s).shared.elapsed := by
      rw [← htakes.fast k]
      exact ((hpasses _).runUntil hsound _ none).le_elapsed
        (h.of_reaches (Pool.reaches_endOf ..)) (hended _ (mem_fastChecks_iff.mpr ⟨k, rfl⟩))
    have hsup : Finset.univ.sup d ≤ (f.lastFast id s).shared.elapsed - s.pool.shared.elapsed :=
      Finset.sup_le fun k _ => Nat.le_sub_of_add_le' (hle k)
    obtain ⟨k, -⟩ := mem_fastChecks_iff.mp hn
    have := hle k
    omega

theorem exists_takes (h : (f.launched id s).Punctual) :
    ∃ (d : Fin f.fast.length → Nat) (slow : Nat), f.Takes id s d slow := by
  have hle (n : Nat) : s.pool.shared.elapsed ≤ (f.launched id s).endMoment n :=
    (elapsed_launched f id).symm.trans_le (h.le_endMoment n)
  exact ⟨fun k => (f.launched id s).endMoment (s.pool.fresh + k) - s.pool.shared.elapsed,
    (f.launched id s).endMoment (f.slowCheck s) - s.pool.shared.elapsed,
    fun k => (Nat.add_sub_cancel' (hle _)).symm, (Nat.add_sub_cancel' (hle _)).symm⟩

section

variable {d : Fin f.fast.length → Nat} {slow : Nat}

theorem sound_afterFast (hs : s.Ready) : (f.afterFast id s).Sound :=
  Pool.Reaches.sound (f.reaches_afterFast id s) (f.sound_launched id hs.sound)

/-- If the slow check takes less than the fast phase and the grace period, the search waits for the
longest of all checks. -/
theorem elapsed_afterGrace_of_lt (hs : s.Ready) (hslow : f.slow = some source)
    (h : (f.launched id s).Punctual) (htakes : f.Takes id s d slow)
    (hlt : slow < Finset.univ.sup d + f.settings.gracePeriodMs) :
    (f.slowFinish id s).Reaches (f.afterGrace id s) ∧
      (f.afterGrace id s).shared.elapsed = s.pool.shared.elapsed + max (Finset.univ.sup d) slow := by
  have hfast := elapsed_afterFast hs h htakes
  have hpasses : Pool.Passes (f.slowCheck s) (f.slowFinish id s) (f.afterFast id s) :=
    f.passes_afterFast id hs _
  have hpunctual : (f.afterFast id s).Punctual := h.of_reaches (f.reaches_afterFast id s)
  have hfinish : (f.slowFinish id s).shared.elapsed = s.pool.shared.elapsed + slow := htakes.slow
  simp only [afterGrace, hslow, awaitSlow]
  by_cases hrunning : f.slowCheck s ∈ (f.afterFast id s).running
  · have hend := hpasses.ahead hrunning
    have hle := hpasses.elapsed_le hpunctual hrunning
    have hmoment : (f.afterFast id s).endMoment (f.slowCheck s) < (f.afterFast id s).shared.elapsed +
        f.settings.gracePeriodMs := by
      rw [Pool.endMoment, hend]
      omega
    rw [Pool.runUntil_of_endMoment_lt hpunctual (sound_afterFast hs) hmoment, hend]
    exact ⟨.refl, by omega⟩
  · have hle := hpasses.le_elapsed (h.of_reaches (Pool.reaches_endOf ..)) hrunning
    rw [Pool.runUntil_of_stop (Pool.not_isRunning_iff.mpr hrunning)]
    exact ⟨hpasses.past hrunning, by omega⟩

/-- If the slow check takes longer than the fast phase and the grace period, the search waits for exactly
as long as these, and the check is still on its way to its end. -/
theorem elapsed_afterGrace_of_gt (hs : s.Ready) (hslow : f.slow = some source)
    (h : (f.launched id s).Punctual) (htakes : f.Takes id s d slow)
    (hgt : Finset.univ.sup d + f.settings.gracePeriodMs < slow) :
    (f.afterGrace id s).shared.elapsed =
        s.pool.shared.elapsed + (Finset.univ.sup d + f.settings.gracePeriodMs) ∧
      f.slowCheck s ∈ (f.afterGrace id s).running ∧
      (f.afterGrace id s).endOf (f.slowCheck s) = f.slowFinish id s := by
  have hfast := elapsed_afterFast hs h htakes
  have hpasses : Pool.Passes (f.slowCheck s) (f.slowFinish id s) (f.afterFast id s) :=
    f.passes_afterFast id hs _
  have hpunctual : (f.afterFast id s).Punctual := h.of_reaches (f.reaches_afterFast id s)
  have hfinish : (f.slowFinish id s).shared.elapsed = s.pool.shared.elapsed + slow := htakes.slow
  have hrunning : f.slowCheck s ∈ (f.afterFast id s).running := by
    by_contra hended
    have hle := hpasses.le_elapsed (h.of_reaches (Pool.reaches_endOf ..)) hended
    omega
  have hmoment : (f.afterFast id s).shared.elapsed + f.settings.gracePeriodMs ≤
      (f.afterFast id s).endMoment (f.slowCheck s) := by
    rw [Pool.endMoment, hpasses.ahead hrunning]
    omega
  simp only [afterGrace, hslow, awaitSlow]
  obtain ⟨hstill, hlimit⟩ := Pool.runUntil_of_le_endMoment hpunctual (sound_afterFast hs) hrunning
    (Nat.le_add_right _ _) hmoment
  exact ⟨by omega, hstill, (hpasses.runUntil (sound_afterFast hs) _ _).ahead hstill⟩

end

theorem exists_outcome_slowFinish (id : String) (hs : s.Ready) (hslow : f.slow = some source) :
    ∃ outcome, (f.slowFinish id s).outcome? (f.slowCheck s) = some outcome := by
  refine Option.ne_none_iff_exists'.mp fun hnone => ?_
  have hcontinues := Pool.Reaches.continues (Pool.reaches_endOf (f.launched id s) (f.slowCheck s))
  exact (f.sound_launched id hs.sound).not_running_endOf (f.slowCheck s)
    ((hcontinues.outcome?_eq_none_iff (f.finished_launched_eq_nil id hs) (f.nodup_launched id hs)
      (f.slowCheck_mem_launched id hslow)).mp hnone)

/-- A check that a search leaves under way ends as it would have without the search's answer. -/
theorem alike_slowEnd (h : f.Impartial id s) (hask : f.find id s = f.ask id s)
    (hend : (f.afterGrace id s).endOf (f.slowCheck s) = f.slowFinish id s) :
    Pool.Alike (f.afterGrace id s).finished [] (f.slowFinish id s) (f.slowEnd id s) := by
  have halike : Pool.Alike (f.afterGrace id s).finished [] (f.afterGrace id s)
      (f.find id s).2.pool := by
    obtain ⟨count, heq⟩ := f.snd_ask id s
    rw [hask, heq]
    exact ⟨rfl, rfl, rfl, ⟨_, rfl⟩, [], (List.append_nil _).symm, rfl⟩
  have huncounted : ∀ t ∈ (f.afterGrace id s).tasks, t.2.Uncounted := by
    intro t ht
    obtain ⟨w, hw, hpart⟩ := (f.reaches_of_launched id s).part t ht
    exact (h.launched _ hw).2.of_part hpart
  exact hend ▸ halike.endOf huncounted (f.slowCheck s)

section

variable {stub : Source.Stub} {place n : Nat}

theorem awaits_of_mem (hs : s.Ready) (h : f.Impartial id s)
    (hmem : (n, source) ∈ (List.range' s.pool.fresh f.sources.length).zip f.sources) :
    (f.launched id s).Awaits n (source.run f.settings.attempts id) s.pool.shared.elapsed := by
  refine ⟨f.nodup_launched id hs, Pool.due_spawnAll false _ ?_, elapsed_launched f id,
    fun t ht _ => h.punctual t ht⟩
  rw [List.length_map, List.zip_map_right]
  exact List.mem_map.mpr ⟨(n, source), hmem, rfl⟩

/-- The check of a stub in a search takes the delay of the stub, unless in its turn the cache answers in
its place. -/
theorem arrived_of_stub (hs : s.Ready) (hid : Text.isBlankText id = false) (h : f.Impartial id s)
    (hmem : (n, stub.toSource place) ∈ (List.range' s.pool.fresh f.sources.length).zip f.sources) :
    let turn := ((f.launched id s).runUntil (Pool.upNext n) none).shared
    ((f.launched id s).endOf n).Arrived n (stub.Kept id turn)
      (s.pool.shared.elapsed + stub.millis id turn) :=
  (awaits_of_mem hs h hmem).endOf h.punctual (f.sound_launched id hs.sound)
    (stub.takes_run id place f.settings.attempts hid _)

theorem slowCheck_mem_zip (hslow : f.slow = some source) :
    (f.slowCheck s, source) ∈ (List.range' s.pool.fresh f.sources.length).zip f.sources := by
  rw [sources, hslow, Option.toList_some, List.length_append, List.length_singleton,
    List.range'_concat, Nat.one_mul, List.zip_append (by simp)]
  exact List.mem_append_right _ List.mem_cons_self

/-- A slow stub that took some time has a cache entry of that very moment, if it has a cache and found
something out. -/
theorem stored_slowFinish (hs : s.Ready) (hid : Text.isBlankText id = false) (h : f.Impartial id s)
    (hslow : f.slow = some (stub.toSource place)) (hcache : stub.maxAge.isSome)
    (hlate : s.pool.shared.elapsed < (f.slowFinish id s).shared.elapsed) {results : List Torrent}
    (hfound : (f.slowFinish id s).outcome? (f.slowCheck s) = some (.ok results)) :
    Source.Stored id stub.name results (f.slowFinish id s).shared := by
  have harrived := arrived_of_stub hs hid h (slowCheck_mem_zip hslow)
  obtain ⟨outcome, hend, hkept⟩ := harrived.brought
  have hnodup := (Pool.Reaches.continues
    (Pool.reaches_endOf (f.launched id s) (f.slowCheck s))).nodup_finished
    (f.finished_launched_eq_nil id hs) (f.nodup_launched id hs)
  obtain rfl : .ok results = outcome :=
    Option.some.inj (hfound.symm.trans (Pool.outcome?_of_mem_finished hnodup hend))
  refine hkept results rfl hcache ?_
  by_contra hhit
  have hnow := harrived.now
  rw [Source.Stub.millis, if_pos (Option.isSome_iff_ne_none.mpr hhit), Nat.add_zero] at hnow
  exact absurd hnow (Nat.ne_of_gt hlate)

/-- In a search on stubs each check takes the delay of its stub, unless in its turn the cache answers in
its place. -/
theorem takes_of_stubs (hs : s.Ready) (hid : Text.isBlankText id = false) (h : f.Impartial id s)
    (stubs : Fin f.fast.length → Source.Stub) (places : Fin f.fast.length → Nat)
    (hfast : ∀ k : Fin f.fast.length, f.fast[k] = (stubs k).toSource (places k))
    (hslow : f.slow = some (stub.toSource place)) :
    f.Takes id s (fun k => (stubs k).millis id
        ((f.launched id s).runUntil (Pool.upNext (s.pool.fresh + k)) none).shared)
      (stub.millis id (f.slowTurn id s).shared) := by
  refine ⟨fun k => ?_, (arrived_of_stub hs hid h (slowCheck_mem_zip hslow)).now⟩
  have hmem : (s.pool.fresh + k, (stubs k).toSource (places k)) ∈
      (List.range' s.pool.fresh f.sources.length).zip f.sources := by
    refine List.mem_iff_getElem?.mpr ⟨k, ?_⟩
    have hk : (k : Nat) < f.sources.length := by
      rw [sources, List.length_append]
      exact Nat.lt_add_right _ k.isLt
    have hsource : f.sources[(k : Nat)]? = some ((stubs k).toSource (places k)) := by
      rw [sources, List.getElem?_append_left k.isLt, List.getElem?_eq_getElem k.isLt]
      exact congrArg some (hfast k)
    rw [List.getElem?_zip_eq_some]
    exact ⟨by rw [List.getElem?_range' hk, Nat.one_mul], hsource⟩
  exact (arrived_of_stub hs hid h hmem).now

end

/-- The slow check begins with the search: it has all its work to do when time has not gone by and its
first turn comes, and the fast phase, if there is one, is over only after that turn. -/
structure BeginsAtOnce (f : Federation) (id : String) (s : Session) (source : Source) : Prop where
  due : (f.slowTurn id s).Awaits (f.slowCheck s) (source.run f.settings.attempts id)
    s.pool.shared.elapsed
  next : Pool.upNext (f.slowCheck s) (f.slowTurn id s) = true
  before : f.fast ≠ [] → ∀ i r, (f.slowTurn id s).next? = some (i, r) →
    ((f.slowTurn id s).step i r.moment).Reaches (f.afterFast id s)

theorem beginsAtOnce (hs : s.Ready) (hslow : f.slow = some source) (h : f.Impartial id s) :
    f.BeginsAtOnce id s source := by
  have htimeless : f.Timeless id s :=
    ⟨fun source hsource => (h.sources source (List.mem_append_left _ hsource)).1,
      fun t ht => (h.others t ht).1⟩
  obtain ⟨hdue, hnext⟩ := turn_of_slowCheck hs hslow htimeless
  exact ⟨hdue, hnext, fun hfast i r hfirst => turn_of_fastPhase hs hslow htimeless hfast hfirst⟩

/-- The slow check of a search begins with it. Its fast checks take what they take, all of them together
as long as the longest one. If the slow check takes less than that and the grace period, its outcome
comes behind all the fast ones, and the search takes as long as the longest of all checks. If it takes
longer, the search does without its outcome and takes exactly the fast phase and the grace period; the
check ends as late as it would have ended anyway, with the same outcome, and a stub with a cache stores
right then what it found. -/
theorem slow_in_time_or_detached (hs : s.Reachable) (hid : Text.isBlankText id = false)
    (hslow : f.slow = some source) (h : f.Impartial id s) {d : Fin f.fast.length → Nat} {slow : Nat}
    (htakes : f.Takes id s d slow) :
    f.BeginsAtOnce id s source ∧
    BroughtBy f.fast f.settings.attempts id (f.fastArrivals id s) ∧
    ∃ outcome, (f.slowFinish id s).outcome? (f.slowCheck s) = some outcome ∧
      (slow < Finset.univ.sup d + f.settings.gracePeriodMs →
        (f.find id s).1 = conclude (f.fastArrivals id s ++ [⟨source.name, outcome⟩]) none ∧
        (f.find id s).2.pool.shared.elapsed =
          s.pool.shared.elapsed + max (Finset.univ.sup d) slow) ∧
      (Finset.univ.sup d + f.settings.gracePeriodMs < slow →
        (f.find id s).1 = conclude (f.fastArrivals id s) (some source.name) ∧
        (f.find id s).2.pool.shared.elapsed =
          s.pool.shared.elapsed + (Finset.univ.sup d + f.settings.gracePeriodMs) ∧
        (id, f.slowCheck s) ∈ (f.find id s).2.background ∧
        (f.slowEnd id s).shared.elapsed = s.pool.shared.elapsed + slow ∧
        (f.slowEnd id s).outcome? (f.slowCheck s) = some outcome ∧
        ∀ (stub : Source.Stub) (place : Nat) (results : List Torrent),
          source = stub.toSource place → stub.maxAge.isSome → outcome = .ok results →
            Source.Stored id stub.name results (f.slowEnd id s).shared) := by
  have hready := hs.ready
  have hask : f.find id s = f.ask id s := find_of_asked f id s hid (by simp [sources, hslow])
  have helapsed : (f.find id s).2.pool.shared.elapsed = (f.afterGrace id s).shared.elapsed := by
    obtain ⟨count, heq⟩ := f.snd_ask id s
    rw [hask, heq]
    rfl
  have hfinish : (f.slowFinish id s).shared.elapsed = s.pool.shared.elapsed + slow := htakes.slow
  obtain ⟨outcome, houtcome⟩ := exists_outcome_slowFinish id hready hslow
  refine ⟨beginsAtOnce hready hslow h, f.fastArrivals_broughtBy id hready, outcome, houtcome,
    fun hlt => ?_, fun hgt => ?_⟩
  · obtain ⟨hreaches, hmax⟩ := elapsed_afterGrace_of_lt hready hslow h.punctual htakes hlt
    have harrived : f.slowArrival? id s = some ⟨source.name, outcome⟩ := by
      rw [slowArrival?, hslow, Option.bind_some, hreaches.outcome?_eq houtcome]
      rfl
    exact ⟨find_of_arrived f id s hid harrived, helapsed.trans hmax⟩
  · obtain ⟨hlimit, hrunning, hend⟩ := elapsed_afterGrace_of_gt hready hslow h.punctual htakes hgt
    have hcontinues := Pool.Reaches.continues (f.reaches_of_launched id s)
    have hnone : (f.afterGrace id s).outcome? (f.slowCheck s) = none :=
      (hcontinues.outcome?_eq_none_iff (f.finished_launched_eq_nil id hready)
        (f.nodup_launched id hready) (f.slowCheck_mem_launched id hslow)).mpr hrunning
    have hlate : f.late? id s = some source := by simp [late?, slowArrival?, hslow, hnone]
    have halike := alike_slowEnd h hask hend
    obtain ⟨c, hshared⟩ := halike.shared
    refine ⟨?_, helapsed.trans hlimit, ?_, halike.elapsed.trans hfinish,
      (halike.outcome?_eq hnone).trans houtcome, fun stub place results hstub hcache hfound => ?_⟩
    · rw [hask, ask_of_late f id s hslow hnone]
    · rw [hask, background_ask, backgroundAfter, hlate]
      exact List.mem_append_right _ List.mem_cons_self
    · subst hstub hfound
      rw [hshared]
      exact stored_slowFinish hready hid h hslow hcache (by omega) houtcome

/-- A slow stub that is faster than the fast one, and one that needs more than its grace period; and the
check of the slow site, which begins at once as well. -/
theorem slow_in_time_or_detached_of_stubs :
    let film (title hash : String) : Torrent := ⟨title, "720p", hash, ""⟩
    let fast : Source.Stub := { name := "fast", results := [film "F" "1"], delay := some 50 }
    let slow (millis : Nat) : Source.Stub :=
      { name := "slow", results := [film "S" "2"], delay := some millis, maxAge := some (.ofSeconds 60) }
    let f (millis : Nat) : Federation :=
      ⟨[fast.toSource 0], some ((slow millis).toSource 1), { gracePeriodMs := 100 }⟩
    let s (millis : Nat) := Session.start (.start .epoch (.empty 1000) .down [fast, slow millis])
    (f 20).Takes "tt1" (s 20) (fun _ => 50) 20 ∧
      ((f 20).find "tt1" (s 20)).1 = conclude
        ((f 20).fastArrivals "tt1" (s 20) ++ [⟨"slow", .ok [film "S" "2"]⟩]) none ∧
      ((f 20).find "tt1" (s 20)).2.pool.shared.elapsed = 50 ∧
    (f 600).Takes "tt1" (s 600) (fun _ => 50) 600 ∧
      ((f 600).find "tt1" (s 600)).1 =
        conclude ((f 600).fastArrivals "tt1" (s 600)) (some "slow") ∧
      ((f 600).find "tt1" (s 600)).2.pool.shared.elapsed = 150 ∧
      ((f 600).slowEnd "tt1" (s 600)).shared.elapsed = 600 ∧
      Source.Stored "tt1" "slow" [film "S" "2"] ((f 600).slowEnd "tt1" (s 600)).shared ∧
    ∃ site, (ofConfig {}).slow = some site ∧ (ofConfig {}).BeginsAtOnce "tt1" (s 600) site := by
  intro film fast slow f s
  let n (millis : Nat) : Nat := (f millis).slowCheck (s millis)
  have himpartial (millis : Nat) : (f millis).Impartial "tt1" (s millis) := by
    refine ⟨fun source hsource => ?_, fun t ht => by cases ht⟩
    rcases List.mem_cons.mp hsource with rfl | hslow
    · exact ⟨fast.timeless_run 0 _ _, fast.uncounted_run 0 _ _⟩
    · rw [List.mem_singleton.mp hslow]
      exact ⟨(slow millis).timeless_run 1 _ _, (slow millis).uncounted_run 1 _ _⟩
  have htakes (millis : Nat) (hturn : (((f millis).launched "tt1" (s millis)).runWithin
      (Pool.upNext (n millis)) none 20).any
        (fun q => ((slow millis).hit? "tt1" q.shared).isNone) = true) :
      (f millis).Takes "tt1" (s millis) (fun _ => 50) millis := by
    obtain ⟨q, hq, hnone⟩ := (Option.any_eq_true _ _).mp hturn
    have hslowTurn : (f millis).slowTurn "tt1" (s millis) = q := Pool.runUntil_of_runWithin hq
    have hmillis : (slow millis).millis "tt1" q.shared = millis := by
      rw [Source.Stub.millis, Option.isNone_iff_eq_none.mp hnone]
      rfl
    have htakes := takes_of_stubs (Session.ready_start _) (by decide) (himpartial millis)
      (fun _ => fast) (fun _ => 0) (fun k => by
        obtain rfl : k = ⟨0, Nat.zero_lt_one⟩ := Fin.ext (Nat.lt_one_iff.mp k.isLt)
        rfl) rfl
    rw [hslowTurn, hmillis] at htakes
    exact htakes
  have hfound (millis : Nat) (hend : (((f millis).launched "tt1" (s millis)).runWithin
      (fun q => !q.isRunning (n millis)) none 20).any (fun q =>
        decide (q.outcome? (n millis) = some (.ok [film "S" "2"]))) = true) :
      ((f millis).slowFinish "tt1" (s millis)).outcome? (n millis) =
        some (.ok [film "S" "2"]) := by
    exact of_decide_eq_true (Pool.endOf_of_runWithin hend)
  have hsup (millis : Nat) : Finset.univ.sup (fun _ : Fin (f millis).fast.length => 50) = 50 := rfl
  have htakes20 := htakes 20 (by decide +kernel)
  have htakes600 := htakes 600 (by decide +kernel)
  obtain ⟨-, -, outcome, houtcome, hin, -⟩ := slow_in_time_or_detached (Session.Reachable.start _)
    (by decide) rfl (himpartial 20) htakes20
  obtain rfl : outcome = .ok [film "S" "2"] :=
    Option.some.inj (houtcome.symm.trans (hfound 20 (by decide +kernel)))
  obtain ⟨hanswer20, helapsed20⟩ := hin (by rw [hsup]; decide)
  obtain ⟨-, -, outcome, houtcome, -, hout⟩ := slow_in_time_or_detached (Session.Reachable.start _)
    (by decide) rfl (himpartial 600) htakes600
  obtain rfl : outcome = .ok [film "S" "2"] :=
    Option.some.inj (houtcome.symm.trans (hfound 600 (by decide +kernel)))
  obtain ⟨hanswer600, helapsed600, -, hend, -, hstored⟩ := hout (by rw [hsup]; decide)
  rw [hsup] at helapsed20 helapsed600
  have hsites : (ofConfig {}).Impartial "tt1" (s 600) := impartial_ofConfig _ _ fun t ht => by cases ht
  obtain ⟨d, millis, hmillis⟩ := exists_takes hsites.punctual
  have hsite := slow_in_time_or_detached (.start _) (by decide) rfl hsites hmillis
  exact ⟨htakes20, hanswer20, helapsed20, htakes600, hanswer600, helapsed600, hend,
    hstored (slow 600) 1 _ rfl rfl rfl, _, rfl, hsite.1⟩

end TorrentSearch.Federation
