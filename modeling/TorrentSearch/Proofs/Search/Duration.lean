import TorrentSearch.Proofs.Search.Moments

/-!
# How long work takes

Work that waits for nothing but the clock takes so many milliseconds as its pauses do, and what other
checks do meanwhile changes nothing about that.
-/

namespace TorrentSearch.Search

/-- From a state on, the work takes so long, and when it comes to its answer, this and the state are as
they should be. What the work does in its first turn may depend on the state; whatever happens while it
pauses, it goes on for as long as it would have otherwise. -/
inductive Work.Takes {α : Type} (post : α → Shared → Prop) : Work α → Shared → Nat → Prop where
  | done {a : α} {s : Shared} (h : post a s) : Takes post (.done a) s 0
  | look {next : Shared → Work α} {s : Shared} {d : Nat} (h : Takes post (next s) s d) :
      Takes post (.look next) s d
  | change {f : Shared → Shared} {next : Work α} {s : Shared} {d : Nat} (h : Takes post next (f s) d) :
      Takes post (.change f next) s d
  | pause {next : Work α} {d : Nat} (millis : Nat) (s : Shared) (h : ∀ t, Takes post next t d) :
      Takes post (.pause millis next) s (millis + d)

namespace Work.Takes

variable {α β : Type} {post : α → Shared → Prop} {post' : β → Shared → Prop}

theorem pure {a : α} {s : Shared} (h : post a s) : Takes post (Pure.pure a) s 0 := .done h

theorem bind {w : Work α} {f : α → Work β} {s : Shared} {d d' : Nat} (hw : Takes post w s d)
    (hf : ∀ a t, post a t → Takes post' (f a) t d') : Takes post' (w >>= f) s (d + d') := by
  change Takes post' (Work.bind w f) s (d + d')
  induction hw with
  | done h => exact (Nat.zero_add d').symm ▸ hf _ _ h
  | look _ ih => exact .look ih
  | change _ ih => exact .change ih
  | @pause next d millis s _ ih => exact (Nat.add_assoc millis d d').symm ▸ .pause millis s ih

theorem update {f : Shared → Shared} {s : Shared} {post : Unit → Shared → Prop} (h : post () (f s)) :
    Takes post (Work.update f) s 0 :=
  .change (.done h)

end Work.Takes

namespace Pool

/-- A check waits for a moment, and from then on takes so long that it ends at another one. -/
structure Heads (n : Nat) (post : Source.Outcome → Shared → Prop) (ending : Nat) (p : Pool) :
    Prop where
  nodup : p.running.Nodup
  due : ∃ j ∈ p.jobs, j.id = n ∧ ∃ moment turn d, j.phase = .due moment turn ∧
    p.shared.elapsed ≤ moment ∧ (∀ t, j.work.Takes post t d) ∧ moment + d = ending

/-- A check ended at a moment, and at that moment all was as it should be. -/
structure Arrived (n : Nat) (post : Source.Outcome → Shared → Prop) (ending : Nat) (p : Pool) :
    Prop where
  ended : n ∉ p.running
  now : p.shared.elapsed = ending
  brought : ∃ outcome, (n, outcome) ∈ p.finished ∧ post outcome p.shared

variable {n ending : Nat} {post : Source.Outcome → Shared → Prop} {p : Pool}

/-- A turn of a check is its end, or the check waits for a later moment. -/
theorem takes_run {work : Work Source.Outcome} (htimeless : work.Timeless) {s : Shared} {d : Nat}
    (h : work.Takes post s d) {p : Pool} (hs : p.shared = s) (hnodup : p.running.Nodup) {i : Nat}
    (hid : p.running[i]? = some n) :
    Arrived n post (p.shared.elapsed + d) (p.run i work) ∨
      Heads n post (p.shared.elapsed + d) (p.run i work) := by
  induction h generalizing p with
  | @done outcome s hpost =>
    subst hs
    refine .inl ?_
    unfold run
    rw [finish_eq hid]
    refine ⟨fun hrunning => ?_, rfl, outcome, by simp, hpost⟩
    obtain ⟨k, hk, hkid⟩ := List.mem_map.mp hrunning
    obtain ⟨j, hj, rfl⟩ := Option.map_eq_some_iff.mp ((List.getElem?_map ..).symm.trans hid)
    exact ((mem_eraseIdx_iff hnodup hj).mp hk).2 hkid
  | look _ ih =>
    subst hs
    cases htimeless with | look htimeless => exact ih (htimeless _) rfl hnodup hid
  | @change f next s d _ ih =>
    subst hs
    cases htimeless with
    | change hf htimeless =>
      rw [← hf p.shared]
      exact ih htimeless (p := { p with shared := f p.shared }) rfl hnodup hid
  | @pause next d millis s hnext ih =>
    subst hs
    cases htimeless with
    | pause _ htimeless =>
      unfold run
      split
      · rename_i hzero
        rw [hzero, Nat.zero_add]
        exact ih p.shared htimeless rfl hnodup hid
      · refine .inr ⟨?_, ?_⟩
        · have hrunning : (p.park i (.due (p.shared.elapsed + millis)) next).running = p.running :=
            map_modify_eq_self (by intro; rfl) _ _
          rwa [hrunning]
        · obtain ⟨j, hj, hjid⟩ := Option.map_eq_some_iff.mp ((List.getElem?_map ..).symm.trans hid)
          exact ⟨_, (mem_modify_iff hnodup hj _).mpr (.inl rfl), hjid, _, _, d, rfl,
            Nat.le_add_right _ _, hnext, Nat.add_assoc ..⟩

theorem Heads.step (h : Heads n post ending p) (hp : p.Punctual) :
    ∃ i r, p.next? = some (i, r) ∧
      (Arrived n post ending (p.step i r.moment) ∨ Heads n post ending (p.step i r.moment)) := by
  obtain ⟨j, hj, rfl, moment, turn, d, hdue, hle, htakes, rfl⟩ := h.due
  obtain ⟨rank, hrank, hmoment⟩ : ∃ rank, j.rank? p.shared.elapsed = some rank ∧
      rank.moment = moment := by
    rw [Job.rank?, hdue]
    dsimp only
    split <;> exact ⟨_, rfl, Nat.max_eq_right hle⟩
  obtain ⟨⟨i, r⟩, hnext, hfirst⟩ := le_of_earliest? hj hrank
  refine ⟨i, r, hnext, ?_⟩
  obtain ⟨k, hk, hkrank⟩ := rank_of_earliest? hnext
  have hid : (p.advance r.moment).running[i]? = some k.id := by simp [running, advance, hk]
  have htimeless := hp (k.id, k.work) (List.mem_map.mpr ⟨k, List.mem_of_getElem? hk, rfl⟩)
  have hstep : p.step i r.moment = (p.advance r.moment).run i k.work := by rw [Pool.step, hk]
  have helapsed := hp.elapsed_step hnext
  by_cases hkj : k.id = j.id
  · -- it is the check's own turn, at its moment
    obtain rfl : k = j := eq_of_id_eq h.nodup hj (List.mem_of_getElem? hk) hkj
    have hnow : (p.advance r.moment).shared.elapsed = moment := by
      rw [hrank, Option.some.injEq] at hkrank
      rw [← hkrank, hmoment]
      exact Nat.max_eq_right hle
    rw [hstep, ← hnow]
    exact takes_run (p := p.advance r.moment) htimeless (htakes _) rfl h.nodup hid
  · refine .inr ⟨?_, j, ?_, rfl, moment, turn, d, hdue, ?_, htakes, rfl⟩
    · obtain ⟨ended, -, hperm, -⟩ := Step.continues (.goesOn hnext)
      exact (List.nodup_append.mp (hperm.nodup_iff.mpr h.nodup)).1
    · rw [hstep]
      exact mem_jobs_run hdue (Ne.symm hkj) k.work h.nodup hj hid
    · rw [helapsed, ← hmoment]
      exact hfirst

theorem Arrived.endOf (h : Arrived n post ending p) : Arrived n post ending (p.endOf n) := by
  rwa [endOf_of_not_running h.ended]

theorem Heads.endOf (h : Heads n post ending p) (hp : p.Punctual) :
    Arrived n post ending (p.endOf n) := by
  unfold Pool.endOf
  fun_induction runUntil (fun q => !q.isRunning n) none p with
  | case1 p hstop =>
    obtain ⟨j, hj, rfl, -⟩ := h.due
    exact absurd (List.mem_map.mpr ⟨j, hj, rfl⟩) (not_isRunning_iff.mp hstop)
  | case2 p hstop hnext =>
    obtain ⟨i, r, hsome, -⟩ := h.step hp
    cases hnext.symm.trans hsome
  | case3 p hstop i r hnext hlimit => simp at hlimit
  | case4 p hstop i r hnext hlimit ih =>
    obtain ⟨i', r', hnext', hafter⟩ := h.step hp
    cases hnext.symm.trans hnext'
    rcases hafter with harrived | hheads
    · exact harrived.endOf
    · exact ih hheads (hp.of_reaches (.single (.goesOn hnext)))

/-- A check that is due takes as long as its work does from the state on that its turn finds. -/
theorem Awaits.endOf {work : Work Source.Outcome} {moment d : Nat} (h : Awaits n work moment p)
    (hp : p.Punctual) (hsound : p.Sound)
    (htakes : work.Takes post (p.runUntil (upNext n) none).shared d) :
    Arrived n post (moment + d) (p.endOf n) := by
  obtain ⟨hawaits, hturn, -⟩ := h.turn (fun _ => false) none (fun _ _ => rfl) (by simp)
  let q := p.runUntil (upNext n) none
  have hq : q.Punctual := hp.of_reaches (reaches_runUntil ..)
  obtain ⟨i, r, hnext, hid, hstep⟩ := hawaits.own_turn hturn
  have hrunning : n ∈ q.running := List.mem_of_getElem? hid
  have hend : q.endOf n = p.endOf n :=
    ((Passes.refl p n).runUntil hsound (upNext n) none).ahead hrunning
  have htimeless : work.Timeless := by
    obtain ⟨j, hj, -, rfl, -⟩ := hawaits.due
    exact hq (j.id, j.work) (List.mem_map.mpr ⟨j, hj, rfl⟩)
  have hafter := takes_run htimeless htakes rfl hawaits.nodup hid
  rw [hawaits.now, ← hstep] at hafter
  rw [← hend, endOf_of_next? hrunning hnext]
  rcases hafter with harrived | hheads
  · exact harrived.endOf
  · exact hheads.endOf (hq.of_reaches (.single (.goesOn hnext)))

end Pool

end TorrentSearch.Search
