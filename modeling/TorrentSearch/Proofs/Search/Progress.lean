import Mathlib.Data.List.InsertIdx
import Mathlib.Data.List.Nodup
import Mathlib.Data.List.Perm.Basic
import Mathlib.Logic.Relation
import TorrentSearch.Search.Pool

/-!
# Progress

What one step of a pool can do: a check ends with an outcome that its work may bring, or it waits with
a part of its work, and all other checks keep theirs. Over any number of steps no check is lost, none
is doubled and none begins.
-/

namespace TorrentSearch.Search

open Relation (ReflTransGen)

namespace Work

/-- The outcome at an end of some work, if it is one. -/
def ending? : Work Source.Outcome → Option Source.Outcome
  | .done outcome => some outcome
  | .crash text => some (.error (Pool.crashed text))
  | _ => none

/-- Some steps of the work lead to an end with this outcome. -/
def MayBring (w : Work Source.Outcome) (outcome : Source.Outcome) : Prop :=
  ∃ v, ReflTransGen After v w ∧ v.ending? = some outcome

theorem MayBring.of_part {v w : Work Source.Outcome} {outcome : Source.Outcome}
    (h : ReflTransGen After v w) (hv : v.MayBring outcome) : w.MayBring outcome := by
  obtain ⟨u, hu, hend⟩ := hv
  exact ⟨u, hu.trans h, hend⟩

theorem MayBring.eq_of_ending? {w : Work Source.Outcome} {outcome outcome' : Source.Outcome}
    (h : w.MayBring outcome') (hend : w.ending? = some outcome) : outcome' = outcome := by
  obtain ⟨v, hpart, hv⟩ := h
  rcases hpart.cases_tail with rfl | ⟨u, -, hafter⟩
  · rw [hend, Option.some.injEq] at hv
    exact hv.symm
  · cases hafter <;> simp [ending?] at hend

end Work

namespace Pool

/-- The numbers of the checks that are under way. -/
def running (p : Pool) : List Nat := p.jobs.map (·.id)

/-- The checks that are under way, each with the work that it has still to do. -/
def tasks (p : Pool) : List (Nat × Work Source.Outcome) := p.jobs.map fun j => (j.id, j.work)

theorem isRunning_iff {p : Pool} {id : Nat} : p.isRunning id = true ↔ id ∈ p.running := by
  simp [isRunning, running]

theorem not_isRunning_iff {p : Pool} {id : Nat} :
    (!p.isRunning id) = true ↔ id ∉ p.running := by
  rw [Bool.not_eq_true', ← Bool.not_eq_true, isRunning_iff]

theorem running_eq_tasks (p : Pool) : p.running = p.tasks.map Prod.fst := by
  simp [running, tasks]

@[simp] theorem tasks_giveBack (p : Pool) (lock : String) : (p.giveBack lock).tasks = p.tasks := by
  unfold giveBack tasks
  split
  · exact map_modify_eq_self (by intro; rfl) _ _
  · rfl

@[simp] theorem shared_giveBack (p : Pool) (lock : String) : (p.giveBack lock).shared = p.shared := by
  unfold giveBack
  split <;> rfl

@[simp] theorem finished_giveBack (p : Pool) (lock : String) :
    (p.giveBack lock).finished = p.finished := by
  unfold giveBack
  split <;> rfl

theorem fresh_le_giveBack (p : Pool) (lock : String) : p.fresh ≤ (p.giveBack lock).fresh := by
  unfold giveBack
  split
  · exact Nat.le_succ _
  · exact Nat.le_refl _

/-- What becomes of a pool when the check in place `i` goes on with some work: it ends, or it waits
with a part of that work. -/
inductive Outlook (p q : Pool) (i id : Nat) (work : Work Source.Outcome) : Prop where
  | ends (outcome : Source.Outcome) (hbring : work.MayBring outcome)
      (htasks : q.tasks = p.tasks.eraseIdx i)
      (hfinished : q.finished = p.finished ++ [(id, outcome)]) (hfresh : p.fresh ≤ q.fresh)
  | waits (rest : Work Source.Outcome) (hrest : ReflTransGen Work.After rest work)
      (htasks : q.tasks = p.tasks.set i (id, rest)) (hfinished : q.finished = p.finished)
      (hfresh : p.fresh ≤ q.fresh)

theorem Outlook.of_part {p p' q : Pool} {i id : Nat} {v w : Work Source.Outcome}
    (h : Outlook p' q i id v) (hpart : ReflTransGen Work.After v w) (htasks : p'.tasks = p.tasks)
    (hfinished : p'.finished = p.finished) (hfresh : p.fresh ≤ p'.fresh) : Outlook p q i id w := by
  cases h with
  | ends outcome hbring ht hf hn =>
    exact .ends outcome (.of_part hpart hbring) (htasks ▸ ht) (hfinished ▸ hf)
      (Nat.le_trans hfresh hn)
  | waits rest hrest ht hf hn =>
    exact .waits rest (hrest.trans hpart) (htasks ▸ ht) (hfinished ▸ hf) (Nat.le_trans hfresh hn)

theorem finish_eq {p : Pool} {i id : Nat} (h : p.running[i]? = some id) (outcome : Source.Outcome) :
    p.finish i outcome =
      { p with jobs := p.jobs.eraseIdx i, finished := p.finished ++ [(id, outcome)] } := by
  unfold running at h
  rw [List.getElem?_map, Option.map_eq_some_iff] at h
  obtain ⟨j, hj, rfl⟩ := h
  unfold finish
  rw [hj]

theorem finish_of_job {p : Pool} {i : Nat} {j : Job} (h : p.jobs[i]? = some j)
    (outcome : Source.Outcome) :
    p.finish i outcome =
      { p with jobs := p.jobs.eraseIdx i, finished := p.finished ++ [(j.id, outcome)] } :=
  finish_eq (by simp [running, h]) outcome

theorem outlook_finish {p : Pool} {i id : Nat} (h : p.running[i]? = some id)
    {work : Work Source.Outcome} {outcome : Source.Outcome} (hend : work.ending? = some outcome) :
    Outlook p (p.finish i outcome) i id work := by
  rw [finish_eq h]
  exact .ends outcome ⟨work, .refl, hend⟩ (List.eraseIdx_map _ _ _).symm rfl (Nat.le_refl _)

theorem tasks_park {p : Pool} {i id : Nat} (h : p.running[i]? = some id) (phase : Nat → Phase)
    (rest : Work Source.Outcome) : (p.park i phase rest).tasks = p.tasks.set i (id, rest) := by
  unfold running at h
  rw [List.getElem?_map, Option.map_eq_some_iff] at h
  obtain ⟨j, hj, rfl⟩ := h
  unfold tasks park
  apply List.ext_getElem?
  intro n
  rw [List.getElem?_map, List.getElem?_modify, List.getElem?_set, List.getElem?_map]
  by_cases hn : i = n
  · subst hn
    obtain ⟨hlt, rfl⟩ := List.getElem?_eq_some_iff.mp hj
    simp [hlt]
  · simp [hn]

/-- A check that goes on ends or waits, and all other checks keep their work. -/
theorem outlook_run {i id : Nat} (work : Work Source.Outcome) {p : Pool}
    (h : p.running[i]? = some id) : Outlook p (p.run i work) i id work := by
  induction work generalizing p with
  | done outcome => exact outlook_finish h rfl
  | crash text => exact outlook_finish h rfl
  | look next ih =>
    exact (ih p.shared h).of_part (.single (.look next p.shared)) rfl rfl (Nat.le_refl _)
  | change f next ih =>
    exact (ih (p := { p with shared := f p.shared }) h).of_part (.single (.change f next)) rfl rfl
      (Nat.le_refl _)
  | pause millis next ih =>
    have hpart := ReflTransGen.single (Work.After.pause millis next)
    unfold run
    split
    · exact (ih h).of_part hpart rfl rfl (Nat.le_refl _)
    · exact .waits next hpart (tasks_park h _ next) rfl (Nat.le_succ _)
  | request url timeout next ih =>
    exact .waits _ (.single (.request url timeout next _))
      (tasks_park (p := { p with shared := _ }) h _ _) rfl (Nat.le_succ _)
  | acquire lock next ih =>
    have hpart := ReflTransGen.single (Work.After.acquire lock next)
    unfold run
    split
    · exact .waits next hpart (tasks_park h _ next) rfl (Nat.le_succ _)
    · exact (ih (p := { p with held := lock :: p.held }) h).of_part hpart rfl rfl (Nat.le_refl _)
  | release lock next ih =>
    have hback : (p.giveBack lock).running[i]? = some id := by
      rwa [running_eq_tasks, tasks_giveBack, ← running_eq_tasks]
    exact (ih hback).of_part (.single (.release lock next)) (tasks_giveBack p lock)
      (finished_giveBack p lock) (fresh_le_giveBack p lock)

theorem outlook_step {p : Pool} {i : Nat} {j : Job} (hj : p.jobs[i]? = some j) (moment : Nat) :
    Outlook p (p.step i moment) i j.id j.work := by
  have hrunning : (p.advance moment).running[i]? = some j.id := by
    simp [running, advance, hj]
  have hstep : p.step i moment = (p.advance moment).run i j.work := by
    unfold step
    rw [hj]
  rw [hstep]
  exact (outlook_run j.work hrunning).of_part .refl rfl rfl (Nat.le_refl _)

@[simp] theorem tasks_spawn (p : Pool) (foreground : Bool) (work : Work Source.Outcome) :
    (p.spawn foreground work).1.tasks = p.tasks ++ [(p.fresh, work)] := by
  simp [spawn, tasks]

@[simp] theorem running_spawn (p : Pool) (foreground : Bool) (work : Work Source.Outcome) :
    (p.spawn foreground work).1.running = p.running ++ [p.fresh] := by
  simp [spawn, running]

theorem spawnAll_append (p : Pool) (foreground : Bool) (first second : List (Work Source.Outcome)) :
    (p.spawnAll foreground (first ++ second)).1 =
      ((p.spawnAll foreground first).1.spawnAll foreground second).1 := by
  induction first generalizing p with
  | nil => rfl
  | cons work first ih => exact ih (p.spawn foreground work).1

theorem snd_spawnAll (p : Pool) (foreground : Bool) (works : List (Work Source.Outcome)) :
    (p.spawnAll foreground works).2 = List.range' p.fresh works.length := by
  induction works generalizing p with
  | nil => rfl
  | cons work works ih =>
    simp only [spawnAll, List.length_cons, List.range'_succ]
    exact congrArg (p.fresh :: ·) (ih (p.spawn foreground work).1)

theorem fresh_spawnAll (p : Pool) (foreground : Bool) (works : List (Work Source.Outcome)) :
    (p.spawnAll foreground works).1.fresh = p.fresh + works.length := by
  induction works generalizing p with
  | nil => rfl
  | cons work works ih =>
    have h := ih (p.spawn foreground work).1
    simp only [spawn] at h
    simp only [spawnAll, List.length_cons, spawn, h]
    omega

theorem finished_spawnAll (p : Pool) (foreground : Bool) (works : List (Work Source.Outcome)) :
    (p.spawnAll foreground works).1.finished = p.finished := by
  induction works generalizing p with
  | nil => rfl
  | cons work works ih => exact ih (p.spawn foreground work).1

theorem shared_spawnAll (p : Pool) (foreground : Bool) (works : List (Work Source.Outcome)) :
    (p.spawnAll foreground works).1.shared = p.shared := by
  induction works generalizing p with
  | nil => rfl
  | cons work works ih => exact ih (p.spawn foreground work).1

theorem tasks_spawnAll (p : Pool) (foreground : Bool) (works : List (Work Source.Outcome)) :
    (p.spawnAll foreground works).1.tasks =
      p.tasks ++ (List.range' p.fresh works.length).zip works := by
  induction works generalizing p with
  | nil => simp [spawnAll]
  | cons work works ih =>
    have h := ih (p.spawn foreground work).1
    rw [tasks_spawn, List.append_assoc] at h
    rw [List.length_cons, List.range'_succ, List.zip_cons_cons]
    exact h

theorem running_spawnAll (p : Pool) (foreground : Bool) (works : List (Work Source.Outcome)) :
    (p.spawnAll foreground works).1.running =
      p.running ++ List.range' p.fresh works.length := by
  rw [running_eq_tasks, tasks_spawnAll, List.map_append, ← running_eq_tasks,
    List.map_fst_zip (by simp)]

/-- What a pool becomes when the check that is first goes on, or when only time goes by. -/
inductive Step (p : Pool) : Pool → Prop where
  | goesOn {i : Nat} {r : Rank} (h : p.next? = some (i, r)) : Step p (p.step i r.moment)
  | waits (moment : Nat) : Step p (p.advance moment)

/-- What a pool becomes after any number of steps. -/
abbrev Reaches : Pool → Pool → Prop := ReflTransGen Step

theorem reaches_runUntil (stop : Pool → Bool) (limit : Option Nat) (p : Pool) :
    p.Reaches (p.runUntil stop limit) := by
  fun_induction runUntil stop limit p with
  | case1 p hstop => exact .refl
  | case2 p hstop hnext => exact .single (.waits _)
  | case3 p hstop i r hnext hlimit => exact .single (.waits _)
  | case4 p hstop i r hnext hlimit ih => exact .head (.goesOn hnext) ih

/-- What `runUntil` leads to, if so many steps are enough. -/
def runWithin (stop : Pool → Bool) (limit : Option Nat) : Nat → Pool → Option Pool
  | 0, _ => none
  | steps + 1, p =>
    if stop p then some p
    else
      match p.next? with
      | none => some (p.advance (limit.getD 0))
      | some (i, r) =>
        if limit.any (· ≤ r.moment) then some (p.advance (limit.getD 0))
        else runWithin stop limit steps (p.step i r.moment)

theorem runUntil_of_stop {stop : Pool → Bool} {p : Pool} (h : stop p = true) (limit : Option Nat) :
    p.runUntil stop limit = p := by
  unfold runUntil
  rw [if_pos h]

theorem runUntil_of_next {stop : Pool → Bool} {limit : Option Nat} {p : Pool} {i : Nat} {r : Rank}
    (hstop : ¬stop p = true) (hnext : p.next? = some (i, r))
    (hlimit : ¬limit.any (· ≤ r.moment) = true) :
    p.runUntil stop limit = (p.step i r.moment).runUntil stop limit := by
  rw [runUntil, if_neg hstop]
  split
  · rename_i hnone
    rw [hnext] at hnone
    cases hnone
  · rename_i hsome
    rw [hnext, Option.some.injEq, Prod.mk.injEq] at hsome
    obtain ⟨rfl, rfl⟩ := hsome
    rw [if_neg hlimit]

theorem runUntil_of_limit {stop : Pool → Bool} {limit : Option Nat} {p : Pool}
    (hstop : ¬stop p = true) (hnext : ∀ i r, p.next? = some (i, r) → limit.any (· ≤ r.moment) = true) :
    p.runUntil stop limit = p.advance (limit.getD 0) := by
  rw [runUntil, if_neg hstop]
  split
  · rfl
  · rw [if_pos (hnext _ _ ‹_›)]

/-- As long as an invariant holds and not the first condition, the second one does not hold either, and
something goes on before the limit that keeps the invariant. So who waits for the second condition passes
through where the first one begins to hold. -/
theorem runUntil_through {inv : Pool → Prop} {first stop : Pool → Bool} {limit : Option Nat}
    (hgoes : ∀ q, inv q → first q = false → stop q = false ∧
      ∃ i r, q.next? = some (i, r) ∧ limit.any (· ≤ r.moment) = false ∧ inv (q.step i r.moment))
    {p : Pool} (hp : inv p) :
    inv (p.runUntil first none) ∧ first (p.runUntil first none) = true ∧
      p.runUntil stop limit = (p.runUntil first none).runUntil stop limit := by
  fun_induction runUntil first none p with
  | case1 p hfirst => exact ⟨hp, hfirst, rfl⟩
  | case2 p hfirst hnext =>
    obtain ⟨-, i, r, hsome, -⟩ := hgoes p hp (by simpa using hfirst)
    cases hnext.symm.trans hsome
  | case3 p hfirst i r hnext hnone => simp at hnone
  | case4 p hfirst i r hnext _ ih =>
    obtain ⟨hstop, i', r', hnext', hlimit, hstep⟩ := hgoes p hp (by simpa using hfirst)
    cases hnext.symm.trans hnext'
    rw [runUntil_of_next (by simp [hstop]) hnext (by simp [hlimit])]
    exact ih hstep

theorem runUntil_of_runWithin {stop : Pool → Bool} {limit : Option Nat} {steps : Nat} {p q : Pool}
    (h : runWithin stop limit steps p = some q) : p.runUntil stop limit = q := by
  induction steps generalizing p with
  | zero => cases h
  | succ steps ih =>
    unfold runWithin at h
    split at h
    · rw [runUntil_of_stop ‹_›]
      exact Option.some.inj h
    · rename_i hstop
      split at h
      · rename_i hnone
        rw [runUntil_of_limit hstop (by simp [hnone])]
        exact Option.some.inj h
      · rename_i i r hsome
        split at h
        · rename_i hlimit
          rw [runUntil_of_limit hstop (by simp [hsome, hlimit])]
          exact Option.some.inj h
        · rename_i hlimit
          rw [runUntil_of_next hstop hsome hlimit]
          exact ih h

theorem Step.cases_job {p q : Pool} (h : p.Step q) :
    (∃ i j moment, p.jobs[i]? = some j ∧ q = p.step i moment) ∨ ∃ moment, q = p.advance moment := by
  cases h with
  | goesOn h =>
    have hlt := lt_length_of_earliest? h
    exact .inl ⟨_, _, _, List.getElem?_eq_getElem hlt, rfl⟩
  | waits moment => exact .inr ⟨moment, rfl⟩

/-- No check begins between the pools: those under way before are those under way after and those
that ended meanwhile. -/
def Continues (p q : Pool) : Prop :=
  ∃ ended, q.finished = p.finished ++ ended ∧
    (q.running ++ ended.map Prod.fst).Perm p.running ∧ p.fresh ≤ q.fresh

theorem Continues.refl (p : Pool) : p.Continues p :=
  ⟨[], by simp, by simp, Nat.le_refl _⟩

theorem Continues.trans {p q r : Pool} (h : p.Continues q) (h' : q.Continues r) : p.Continues r := by
  obtain ⟨first, hf, hp, hn⟩ := h
  obtain ⟨second, hf', hp', hn'⟩ := h'
  refine ⟨first ++ second, by rw [hf', hf, List.append_assoc], ?_, Nat.le_trans hn hn'⟩
  have hboth := hp'.append_right (first.map Prod.fst)
  rw [List.append_assoc] at hboth
  rw [List.map_append]
  exact ((List.perm_append_comm.append_left _).trans hboth).trans hp

theorem Outlook.continues {p q : Pool} {i id : Nat} {work : Work Source.Outcome}
    (hid : p.running[i]? = some id) (h : Outlook p q i id work) : p.Continues q := by
  obtain ⟨hlt, hget⟩ := List.getElem?_eq_some_iff.mp hid
  cases h with
  | ends outcome _ htasks hfinished hfresh =>
    refine ⟨[(id, outcome)], hfinished, ?_, hfresh⟩
    have hrunning : q.running = p.running.eraseIdx i := by
      rw [running_eq_tasks, htasks, running_eq_tasks, List.eraseIdx_map]
    rw [hrunning]
    have hperm := List.getElem_cons_eraseIdx_perm hlt
    rw [hget] at hperm
    exact List.perm_append_comm.trans hperm
  | waits rest _ htasks hfinished hfresh =>
    refine ⟨[], by rw [hfinished, List.append_nil], ?_, hfresh⟩
    have hrunning : q.running = p.running := by
      rw [running_eq_tasks, htasks, List.map_set, ← running_eq_tasks, ← hget,
        List.set_getElem_self]
    simp [hrunning]

theorem continues_finish {p : Pool} {i id : Nat} (h : p.running[i]? = some id)
    (outcome : Source.Outcome) : p.Continues (p.finish i outcome) := by
  have hend : (Work.done outcome).ending? = some outcome := rfl
  exact (outlook_finish h hend).continues h

theorem Continues.all_perm {p q : Pool} (h : p.Continues q) :
    (q.running ++ q.finished.map Prod.fst).Perm (p.running ++ p.finished.map Prod.fst) := by
  obtain ⟨ended, hfinished, hperm, -⟩ := h
  have hswap : (p.finished.map Prod.fst ++ ended.map Prod.fst).Perm
      (ended.map Prod.fst ++ p.finished.map Prod.fst) := List.perm_append_comm
  rw [hfinished, List.map_append]
  refine (hswap.append_left _).trans ?_
  rw [← List.append_assoc]
  exact hperm.append_right _

theorem Step.continues {p q : Pool} (h : p.Step q) : p.Continues q := by
  obtain ⟨i, j, moment, hj, rfl⟩ | ⟨moment, rfl⟩ := h.cases_job
  · exact (outlook_step hj moment).continues (by simp [running, hj])
  · exact .refl p

theorem Reaches.continues {p q : Pool} (h : p.Reaches q) : p.Continues q := by
  induction h with
  | refl => exact .refl p
  | tail _ hstep ih => exact ih.trans hstep.continues

theorem Reaches.running_subset {p q : Pool} (h : p.Reaches q) : q.running ⊆ p.running := by
  obtain ⟨ended, -, hperm, -⟩ := h.continues
  exact fun id hid => hperm.mem_iff.mp (List.mem_append_left _ hid)

/-- What a check has still to do is a part of what it had to do before. -/
theorem Reaches.part {p q : Pool} (h : p.Reaches q) :
    ∀ t ∈ q.tasks, ∃ w, (t.1, w) ∈ p.tasks ∧ ReflTransGen Work.After t.2 w := by
  induction h with
  | refl => exact fun t ht => ⟨t.2, ht, .refl⟩
  | tail _ hstep ih =>
    intro t ht
    obtain ⟨i, j, moment, hj, rfl⟩ | ⟨moment, rfl⟩ := hstep.cases_job
    · cases outlook_step hj moment with
      | ends outcome _ htasks _ _ =>
        rw [htasks] at ht
        exact ih t (List.mem_of_mem_eraseIdx ht)
      | waits rest hrest htasks _ _ =>
        rw [htasks] at ht
        rcases List.mem_or_eq_of_mem_set ht with ht | rfl
        · exact ih t ht
        · obtain ⟨w, hw, hpart⟩ := ih _ (List.mem_map.mpr ⟨j, List.mem_of_getElem? hj, rfl⟩)
          exact ⟨w, hw, hrest.trans hpart⟩
    · exact ih t ht

/-- Every outcome that a check brought, or may bring with the work it has still to do, is one that is
expected of it. -/
def Keeps (expected : Nat → Source.Outcome → Prop) (p : Pool) : Prop :=
  (∀ t ∈ p.tasks, ∀ outcome, t.2.MayBring outcome → expected t.1 outcome) ∧
    ∀ e ∈ p.finished, expected e.1 e.2

theorem Step.keeps {expected : Nat → Source.Outcome → Prop} {p q : Pool} (h : p.Step q)
    (hp : p.Keeps expected) : q.Keeps expected := by
  obtain ⟨i, j, moment, hj, rfl⟩ | ⟨moment, rfl⟩ := h.cases_job
  · have hmem : (j.id, j.work) ∈ p.tasks :=
      List.mem_map.mpr ⟨j, List.mem_of_getElem? hj, rfl⟩
    cases outlook_step hj moment with
    | ends outcome hbring htasks hfinished _ =>
      refine ⟨fun t ht => hp.1 t ?_, fun e he => ?_⟩
      · rw [htasks] at ht
        exact List.mem_of_mem_eraseIdx ht
      · rw [hfinished, List.mem_append, List.mem_singleton] at he
        rcases he with he | rfl
        · exact hp.2 e he
        · exact hp.1 _ hmem outcome hbring
    | waits rest hrest htasks hfinished _ =>
      refine ⟨fun t ht => ?_, by rw [hfinished]; exact hp.2⟩
      rw [htasks] at ht
      rcases List.mem_or_eq_of_mem_set ht with ht | rfl
      · exact hp.1 t ht
      · exact fun outcome hbring => hp.1 _ hmem outcome (.of_part hrest hbring)
  · exact hp

theorem Reaches.keeps {expected : Nat → Source.Outcome → Prop} {p q : Pool} (h : p.Reaches q)
    (hp : p.Keeps expected) : q.Keeps expected := by
  induction h with
  | refl => exact hp
  | tail _ hstep ih => exact hstep.keeps ih

theorem lookup_of_mem {β : Type} {l : List (Nat × β)} (hnodup : (l.map Prod.fst).Nodup) {n : Nat} {b : β}
    (h : (n, b) ∈ l) : l.lookup n = some b := by
  obtain ⟨front, back, rfl⟩ := List.append_of_mem h
  refine List.lookup_eq_some_iff.mpr ⟨front, back, rfl, fun e he => ?_⟩
  rw [List.map_append, List.nodup_append] at hnodup
  exact bne_iff_ne.mpr
    (hnodup.2.2 e.1 (List.mem_map.mpr ⟨e, he, rfl⟩) n List.mem_cons_self).symm

theorem mem_finished_of_outcome? {p : Pool} {n : Nat} {outcome : Source.Outcome}
    (h : p.outcome? n = some outcome) : (n, outcome) ∈ p.finished := by
  obtain ⟨front, back, hfinished, -⟩ := List.lookup_eq_some_iff.mp h
  simp [hfinished]

/-- If no check ended twice, a check is said to have brought what it did. -/
theorem outcome?_of_mem_finished {p : Pool} (hnodup : (p.finished.map Prod.fst).Nodup) {n : Nat}
    {outcome : Source.Outcome} (h : (n, outcome) ∈ p.finished) : p.outcome? n = some outcome :=
  lookup_of_mem hnodup h

theorem Continues.nodup_finished {p q : Pool} (h : p.Continues q) (hp : p.finished = [])
    (hnodup : p.running.Nodup) : (q.finished.map Prod.fst).Nodup := by
  obtain ⟨ended, hfinished, hperm, -⟩ := h
  rw [hfinished, hp, List.nil_append]
  exact (List.nodup_append.mp (hperm.nodup_iff.mpr hnodup)).2.1

/-- A check that was under way has brought nothing as long as it still is. -/
theorem Continues.outcome?_eq_none_iff {p q : Pool} (h : p.Continues q) (hp : p.finished = [])
    (hnodup : p.running.Nodup) {id : Nat} (hid : id ∈ p.running) :
    q.outcome? id = none ↔ id ∈ q.running := by
  obtain ⟨ended, hfinished, hperm, -⟩ := h
  rw [hp, List.nil_append] at hfinished
  have hmem : id ∈ q.running ∨ id ∈ ended.map Prod.fst :=
    List.mem_append.mp (hperm.mem_iff.mpr hid)
  have hdisjoint := List.disjoint_of_nodup_append (hperm.nodup_iff.mpr hnodup)
  rw [outcome?, hfinished, List.lookup_eq_none_iff]
  have hended : (∀ e ∈ ended, (id != e.1) = true) ↔ id ∉ ended.map Prod.fst := by
    simp only [List.mem_map, not_exists, not_and, bne_iff_ne, ne_comm, ne_eq]
  rw [hended]
  exact ⟨hmem.resolve_right, fun h h' => hdisjoint h h'⟩

theorem Reaches.brings {p q : Pool} (h : p.Reaches q) (hp : p.finished = [])
    (hnodup : p.running.Nodup) {id : Nat} {work : Work Source.Outcome} {outcome : Source.Outcome}
    (htask : (id, work) ∈ p.tasks) (hend : (id, outcome) ∈ q.finished) : work.MayBring outcome := by
  have hunique {v w : Work Source.Outcome} (hv : (id, v) ∈ p.tasks) (hw : (id, w) ∈ p.tasks) :
      v = w := by
    rw [running_eq_tasks] at hnodup
    exact congrArg Prod.snd (List.inj_on_of_nodup_map hnodup hv hw rfl)
  have hkeeps : p.Keeps fun n o => n = id → work.MayBring o := by
    refine ⟨?_, by simp [hp]⟩
    rintro ⟨n, w⟩ ht o hbring rfl
    exact hunique htask ht ▸ hbring
  exact (h.keeps hkeeps).2 _ hend rfl

end Pool

end TorrentSearch.Search
