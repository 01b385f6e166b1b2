import TorrentSearch.Proofs.Search.Turn

/-!
# The moments at which checks end

Left to itself, a check comes to its end at one moment, and it does so whoever waits for it and for how
long: to wait is to go along with the pool, and to have waited long enough is to have passed through the
end. So a wait for several checks is over when the last of them ends, and a wait with a limit is over at
the end of the check or at the limit, whichever comes first.
-/

namespace TorrentSearch.Search

/-- Clocks for which all checks go on at the same moments see the same check first. -/
theorem earliest?_congr {a b : Nat} {jobs : List Job} (h : ∀ j ∈ jobs, j.rank? a = j.rank? b) :
    earliest? a jobs = earliest? b jobs := by
  induction jobs with
  | nil => rfl
  | cons j rest ih =>
    unfold earliest?
    rw [h j List.mem_cons_self, ih fun k hk => h k (List.mem_cons_of_mem _ hk)]

/-- A clock that moves on, but not beyond the moment at which a check goes on, changes nothing for it. -/
theorem Job.rank?_of_le {j : Job} {a b : Nat} (hle : a ≤ b)
    (hrank : ∀ r, j.rank? a = some r → b ≤ r.moment) : j.rank? b = j.rank? a := by
  cases hphase : j.phase with
  | due moment turn =>
    have hlate : b ≤ max a moment := by
      by_cases hforeground : j.foreground
      · exact hrank ⟨_, 0, j.id, turn⟩ (by simp [rank?, hphase, hforeground])
      · exact hrank ⟨_, 1, moment, turn⟩ (by simp [rank?, hphase, hforeground])
    have hsame : max b moment = max a moment := by omega
    simp only [rank?, hphase, hsame]
  | locked lock turn => simp only [rank?, hphase]

namespace Pool

/-- No check that is under way sets the clock. -/
def Punctual (p : Pool) : Prop := ∀ t ∈ p.tasks, t.2.Timeless

section

variable {p q : Pool} {i : Nat} {r : Rank}

theorem Punctual.of_reaches (hp : p.Punctual) (h : p.Reaches q) : q.Punctual := by
  intro t ht
  obtain ⟨w, hw, hpart⟩ := h.part t ht
  exact (hp _ hw).of_part hpart

theorem elapsed_le_of_next? (hnext : p.next? = some (i, r)) : p.shared.elapsed ≤ r.moment := by
  obtain ⟨j, -, hrank⟩ := rank_of_earliest? hnext
  exact j.le_of_rank? hrank

theorem Punctual.elapsed_step (hp : p.Punctual) (hnext : p.next? = some (i, r)) :
    (p.step i r.moment).shared.elapsed = r.moment := by
  obtain ⟨j, hj, -⟩ := rank_of_earliest? hnext
  have htimeless := hp (j.id, j.work) (List.mem_map.mpr ⟨j, List.mem_of_getElem? hj, rfl⟩)
  have hstep : p.step i r.moment = (p.advance r.moment).run i j.work := by rw [step, hj]
  rw [hstep, elapsed_run htimeless]
  exact Nat.max_eq_right (elapsed_le_of_next? hnext)

theorem Punctual.elapsed_le (hp : p.Punctual) (h : p.Reaches q) :
    p.shared.elapsed ≤ q.shared.elapsed := by
  induction h with
  | refl => exact Nat.le_refl _
  | tail hreach hstep ih =>
    refine Nat.le_trans ih ?_
    cases hstep with
    | goesOn hnext =>
      rw [(hp.of_reaches hreach).elapsed_step hnext]
      exact elapsed_le_of_next? hnext
    | waits moment => exact Nat.le_max_left _ _

/-- A clock that moves on, but not beyond the moment at which the next check goes on, keeps what comes
next. -/
theorem next?_advance {moment : Nat} (hlate : ∀ i r, p.next? = some (i, r) → moment ≤ r.moment) :
    (p.advance moment).next? = p.next? := by
  refine earliest?_congr fun j hj => Job.rank?_of_le (Nat.le_max_left _ _) fun r hr => ?_
  obtain ⟨⟨i, q⟩, hnext, hle⟩ := le_of_earliest? hj hr
  exact Nat.max_le.mpr ⟨j.le_of_rank? hr, Nat.le_trans (hlate i q hnext) hle⟩

theorem step_advance {moment : Nat} (hnext : p.next? = some (i, r)) (h : moment ≤ r.moment) :
    (p.advance moment).step i r.moment = p.step i r.moment := by
  obtain ⟨j, hj, -⟩ := rank_of_earliest? hnext
  have hj' : (p.advance moment).jobs[i]? = some j := hj
  have hclock : (p.advance moment).advance r.moment = p.advance r.moment := by
    simp only [advance]
    rw [Nat.max_assoc, Nat.max_eq_right h]
  rw [step, step, hj, hj', hclock]

end

/-- The pool right when the check of a number ends, if it is under way. -/
def endOf (p : Pool) (n : Nat) : Pool := p.runUntil (fun q => !q.isRunning n) none

/-- The moment at which the check of a number ends, if it is under way. -/
def endMoment (p : Pool) (n : Nat) : Nat := (p.endOf n).shared.elapsed

variable {p q : Pool} {n i : Nat} {r : Rank}

theorem reaches_endOf (p : Pool) (n : Nat) : p.Reaches (p.endOf n) := reaches_runUntil ..

theorem endOf_of_not_running (hn : n ∉ p.running) : p.endOf n = p :=
  runUntil_of_stop (not_isRunning_iff.mpr hn) none

theorem endOf_of_next? (hn : n ∈ p.running) (hnext : p.next? = some (i, r)) :
    p.endOf n = (p.step i r.moment).endOf n :=
  runUntil_of_next (not_isRunning_iff.not.mpr (not_not.mpr hn)) hnext (by simp)

theorem endOf_of_runWithin {fuel : Nat} {P : Pool → Bool}
    (h : (p.runWithin (fun q => !q.isRunning n) none fuel).any P = true) : P (p.endOf n) = true := by
  obtain ⟨q, hq, hall⟩ := (Option.any_eq_true _ _).mp h
  rwa [endOf, runUntil_of_runWithin hq]

theorem Sound.not_running_endOf (hp : p.Sound) (n : Nat) : n ∉ (p.endOf n).running := by
  have hstop := hp.stop_runUntil (fun q => !q.isRunning n) fun q hq => by simp [isRunning, hq]
  exact not_isRunning_iff.mp hstop

theorem Sound.exists_next? (hp : p.Sound) (hn : n ∈ p.running) : ∃ i r, p.next? = some (i, r) := by
  cases hnext : p.next? with
  | none => simp [running, hp.jobs_eq_nil hnext] at hn
  | some first => exact ⟨_, _, rfl⟩

theorem Punctual.le_endMoment (hp : p.Punctual) (n : Nat) : p.shared.elapsed ≤ p.endMoment n :=
  hp.elapsed_le (p.reaches_endOf n)

theorem Punctual.moment_le_endMoment (hp : p.Punctual) (hn : n ∈ p.running)
    (hnext : p.next? = some (i, r)) : r.moment ≤ p.endMoment n := by
  have hle := (hp.of_reaches (.single (.goesOn hnext))).le_endMoment n
  rwa [hp.elapsed_step hnext, endMoment, ← endOf_of_next? hn hnext] at hle

/-- On its way to the end of a check, or past it: as long as the check is under way, it will come to its
end in that very pool, and otherwise it has. -/
structure Passes (n : Nat) (e q : Pool) : Prop where
  ahead : n ∈ q.running → q.endOf n = e
  past : n ∉ q.running → e.Reaches q

namespace Passes

variable {e : Pool}

theorem refl (p : Pool) (n : Nat) : Passes n (p.endOf n) p where
  ahead _ := rfl
  past hn := by rw [endOf_of_not_running hn]

theorem step (h : Passes n e p) (hnext : p.next? = some (i, r)) : Passes n e (p.step i r.moment) := by
  by_cases hn : n ∈ p.running
  · have hend := h.ahead hn
    rw [endOf_of_next? hn hnext] at hend
    refine ⟨fun _ => hend, fun hended => ?_⟩
    rw [← hend, endOf_of_not_running hended]
  · have hstep : p.Step (p.step i r.moment) := .goesOn hnext
    exact ⟨fun hrunning => absurd (Reaches.running_subset (.single hstep) hrunning) hn,
      fun _ => (h.past hn).tail hstep⟩

/-- A clock that moves on without a check going on changes nothing about the end. -/
theorem advance (h : Passes n e p) (hp : p.Sound) {moment : Nat}
    (hlate : ∀ i r, p.next? = some (i, r) → moment ≤ r.moment) : Passes n e (p.advance moment) where
  ahead hadvanced := by
    have hn : n ∈ p.running := hadvanced
    obtain ⟨i, r, hnext⟩ := hp.exists_next? hn
    have hnext' : (p.advance moment).next? = some (i, r) := (next?_advance hlate).trans hnext
    rw [endOf_of_next? hadvanced hnext', step_advance hnext (hlate i r hnext),
      ← endOf_of_next? hn hnext]
    exact h.ahead hn
  past hn := (h.past hn).tail (.waits moment)

theorem runUntil (h : Passes n e p) (hp : p.Sound) (stop : Pool → Bool) (limit : Option Nat) :
    Passes n e (p.runUntil stop limit) := by
  fun_induction Pool.runUntil stop limit p with
  | case1 p hstop => exact h
  | case2 p hstop hnext => exact h.advance hp (by simp [hnext])
  | case3 p hstop i r hnext hlimit =>
    refine h.advance hp fun i' r' hnext' => ?_
    cases hnext.symm.trans hnext'
    obtain ⟨l, rfl, hle⟩ := (Option.any_eq_true ..).mp hlimit
    simpa using hle
  | case4 p hstop i r hnext hlimit ih => exact ih (h.step hnext) ((Step.goesOn hnext).sound hp)

theorem elapsed_le (h : Passes n e q) (hq : q.Punctual) (hn : n ∈ q.running) :
    q.shared.elapsed ≤ e.shared.elapsed :=
  h.ahead hn ▸ hq.le_endMoment n

theorem le_elapsed (h : Passes n e q) (he : e.Punctual) (hn : n ∉ q.running) :
    e.shared.elapsed ≤ q.shared.elapsed :=
  he.elapsed_le (h.past hn)

end Passes

/-- Of two checks not both are under way when the other one ends. -/
theorem Sound.not_running_endOf_of_running (hp : p.Sound) {m n : Nat} (hn : n ∈ (p.endOf m).running) :
    m ∉ (p.endOf n).running := by
  have hpasses : Passes n (p.endOf n) (p.endOf m) := (Passes.refl p n).runUntil hp _ none
  have hreach : (p.endOf m).Reaches (p.endOf n) := hpasses.ahead hn ▸ reaches_endOf ..
  exact fun hm => hp.not_running_endOf m (hreach.running_subset hm)

/-- In the pool right when a check ends, it is the last one that ended. -/
theorem Sound.finished_endOf (hp : p.Sound) (hn : n ∈ p.running) :
    ∃ front outcome, (p.endOf n).finished = front ++ [(n, outcome)] := by
  unfold endOf
  fun_induction Pool.runUntil (fun q => !q.isRunning n) none p with
  | case1 p hstop => exact absurd hn (not_isRunning_iff.mp hstop)
  | case2 p hstop hnext =>
    obtain ⟨i, r, hsome⟩ := hp.exists_next? hn
    cases hnext.symm.trans hsome
  | case3 p hstop i r hnext hlimit => simp at hlimit
  | case4 p hstop i r hnext hlimit ih =>
    by_cases hstill : n ∈ (p.step i r.moment).running
    · exact ih ((Step.goesOn hnext).sound hp) hstill
    · rw [runUntil_of_stop (not_isRunning_iff.mpr hstill)]
      obtain ⟨j, hj, -⟩ := rank_of_earliest? hnext
      obtain ⟨ended, hfinished, hperm, -⟩ := (Step.goesOn hnext).continues
      have hended : n ∈ ended.map Prod.fst :=
        (List.mem_append.mp (hperm.mem_iff.mpr hn)).resolve_left hstill
      cases outlook_step hj r.moment with
      | ends outcome _ _ hone _ =>
        obtain rfl := List.append_cancel_left (hfinished.symm.trans hone)
        obtain rfl : n = j.id := by simpa using hended
        exact ⟨p.finished, outcome, hone⟩
      | waits rest _ _ hnone _ =>
        rw [hnone, List.self_eq_append_right] at hfinished
        simp [hfinished] at hended

theorem Reaches.outcome?_eq {outcome : Source.Outcome} (h : p.Reaches q)
    (houtcome : p.outcome? n = some outcome) : q.outcome? n = some outcome := by
  obtain ⟨ended, hfinished, -⟩ := h.continues
  unfold outcome? at houtcome ⊢
  rw [hfinished, List.lookup_append, houtcome, Option.some_or]

theorem pairwise_of_splits {α : Type} {R : α → α → Prop} {l : List α}
    (h : ∀ front c back, l = front ++ c :: back → ∀ d ∈ back, R c d) : l.Pairwise R := by
  induction l with
  | nil => exact .nil
  | cons c l ih =>
    exact .cons (h [] c l rfl) (ih fun front d back hl => h (c :: front) d back (by rw [hl]; rfl))

/-- Whoever is past the ends of some checks has seen them in this order, each with what it brought at its
end. -/
theorem Sound.endings_in_order (hp : p.Sound) (hnone : p.finished = []) (hreach : p.Reaches q)
    (hpast : ∀ n ∉ q.running, (p.endOf n).Reaches q) :
    (q.finished.Pairwise fun c d => d.1 ∈ (p.endOf c.1).running) ∧
      ∀ c ∈ q.finished, (p.endOf c.1).outcome? c.1 = some c.2 := by
  have hnodup := hreach.continues.nodup_finished hnone hp.nodup
  have hend {front back : List (Nat × Source.Outcome)} {c : Nat × Source.Outcome}
      (hsplit : q.finished = front ++ c :: back) :
      (p.endOf c.1).outcome? c.1 = some c.2 ∧ ∀ d ∈ back, d.1 ∈ (p.endOf c.1).running := by
    obtain ⟨n, outcome⟩ := c
    have hc : (n, outcome) ∈ q.finished := by simp [hsplit]
    have hq := outcome?_of_mem_finished hnodup hc
    have hn : n ∈ p.running := by
      obtain ⟨ended, hfinished, hperm, -⟩ := hreach.continues
      rw [hfinished, hnone, List.nil_append] at hc
      exact hperm.mem_iff.mp (List.mem_append_right _ (List.mem_map.mpr ⟨_, hc, rfl⟩))
    have hstopped : n ∉ q.running := fun hrunning => by
      have hnothing := (hreach.continues.outcome?_eq_none_iff hnone hp.nodup hn).mpr hrunning
      cases hq.symm.trans hnothing
    obtain ⟨first, outcome', hfirst⟩ := hp.finished_endOf hn
    have houtcome : (p.endOf n).outcome? n = some outcome' :=
      outcome?_of_mem_finished ((p.reaches_endOf n).continues.nodup_finished hnone hp.nodup)
        (hfirst ▸ List.mem_concat_self)
    obtain rfl := Option.some.inj (hq.symm.trans ((hpast n hstopped).outcome?_eq houtcome))
    obtain ⟨ended, hfinished, hperm, -⟩ := (hpast n hstopped).continues
    rw [hfirst, List.append_assoc, List.singleton_append, hsplit] at hfinished
    -- the check ended only once
    rw [hsplit] at hnodup
    have hnew := List.nodup_middle.mp (List.Nodup.of_map _ hnodup)
    obtain ⟨hfront, hback⟩ : (n, outcome) ∉ front ∧ (n, outcome) ∉ back := by
      simpa using (List.nodup_cons.mp hnew).1
    obtain ⟨-, -, rfl⟩ := (List.append_cons_inj_of_notMem hfront hback).mp hfinished
    exact ⟨houtcome, fun d hd =>
      hperm.mem_iff.mp (List.mem_append_right _ (List.mem_map.mpr ⟨d, hd, rfl⟩))⟩
  refine ⟨pairwise_of_splits fun front c back hsplit => (hend hsplit).2, fun c hc => ?_⟩
  obtain ⟨front, back, hsplit⟩ := List.append_of_mem hc
  exact (hend hsplit).1

theorem exists_last_end {ids : List Nat} {e : Nat → Pool} (hp : p.Sound)
    (h : ∀ n ∈ ids, Passes n (e n) p) (hrunning : ∃ n ∈ ids, n ∈ p.running) :
    ∃ n ∈ ids, p.runUntil (fun q => ids.all fun n => !q.isRunning n) none = e n := by
  fun_induction runUntil (fun q => ids.all fun n => !q.isRunning n) none p with
  | case1 p hstop =>
    obtain ⟨n, hn, hmem⟩ := hrunning
    exact absurd hmem (not_isRunning_iff.mp (List.all_eq_true.mp hstop n hn))
  | case2 p hstop hnext =>
    obtain ⟨n, -, hmem⟩ := hrunning
    simp [running, hp.jobs_eq_nil hnext] at hmem
  | case3 p hstop i r hnext hlimit => simp at hlimit
  | case4 p hstop i r hnext hlimit ih =>
    have hafter (n : Nat) (hn : n ∈ ids) := (h n hn).step hnext
    by_cases hsome : ∃ n ∈ ids, n ∈ (p.step i r.moment).running
    · exact ih ((Step.goesOn hnext).sound hp) hafter hsome
    · -- the step was the end of the last one
      push Not at hsome
      obtain ⟨n, hn, hmem⟩ := hrunning
      refine ⟨n, hn, ?_⟩
      rw [runUntil_of_stop (List.all_eq_true.mpr fun k hk => not_isRunning_iff.mpr (hsome k hk)),
        ← (h n hn).ahead hmem, endOf_of_next? hmem hnext, endOf_of_not_running (hsome n hn)]

theorem runUntil_of_endMoment_lt (hp : p.Punctual) (hsound : p.Sound) {l : Nat}
    (h : p.endMoment n < l) : p.runUntil (fun q => !q.isRunning n) (some l) = p.endOf n := by
  fun_induction runUntil (fun q => !q.isRunning n) (some l) p with
  | case1 p hstop => exact (endOf_of_not_running (not_isRunning_iff.mp hstop)).symm
  | case2 p hstop hnext =>
    obtain ⟨i, r, hsome⟩ := hsound.exists_next? (not_not.mp (mt not_isRunning_iff.mpr hstop))
    cases hnext.symm.trans hsome
  | case3 p hstop i r hnext hlimit =>
    have hle := hp.moment_le_endMoment (not_not.mp (mt not_isRunning_iff.mpr hstop)) hnext
    simp only [Option.any_some, decide_eq_true_eq] at hlimit
    omega
  | case4 p hstop i r hnext hlimit ih =>
    have hstep : p.Step (p.step i r.moment) := .goesOn hnext
    have hsame := endOf_of_next? (not_not.mp (mt not_isRunning_iff.mpr hstop)) hnext
    rw [endMoment, hsame] at h
    rw [hsame]
    exact ih (hp.of_reaches (.single hstep)) (hstep.sound hsound) h

/-- Who does not wait long enough has waited to the limit when the check is still under way. -/
theorem runUntil_of_le_endMoment (hp : p.Punctual) (hsound : p.Sound) (hn : n ∈ p.running) {l : Nat}
    (hl : p.shared.elapsed ≤ l) (h : l ≤ p.endMoment n) :
    n ∈ (p.runUntil (fun q => !q.isRunning n) (some l)).running ∧
      (p.runUntil (fun q => !q.isRunning n) (some l)).shared.elapsed = l := by
  fun_induction runUntil (fun q => !q.isRunning n) (some l) p with
  | case1 p hstop => exact absurd hn (not_isRunning_iff.mp hstop)
  | case2 p hstop hnext => exact ⟨hn, Nat.max_eq_right hl⟩
  | case3 p hstop i r hnext hlimit => exact ⟨hn, Nat.max_eq_right hl⟩
  | case4 p hstop i r hnext hlimit ih =>
    have hstep : p.Step (p.step i r.moment) := .goesOn hnext
    have hmoment : (p.step i r.moment).shared.elapsed = r.moment := hp.elapsed_step hnext
    have hlt : r.moment < l := by simpa using hlimit
    have hend : (p.step i r.moment).endMoment n = p.endMoment n := by
      rw [endMoment, endMoment, endOf_of_next? hn hnext]
    refine ih (hp.of_reaches (.single hstep)) (hstep.sound hsound) ?_ (by omega) (by omega)
    by_contra hended
    rw [← hend, endMoment, endOf_of_not_running hended] at h
    omega

end Pool

end TorrentSearch.Search
