import TorrentSearch.Proofs.Search.Company
import TorrentSearch.Proofs.Search.Locks

/-!
# Work that spares a part of what is shared

Some work never touches a part of what is shared, whatever others do to that part meanwhile. In a pool it
goes on to its end or to its next wait, and that part is as it was.
-/

namespace TorrentSearch.Search

variable {α γ : Type}

/-- Nobody can be relied on, and a view of what is shared is promised to stay as it is. -/
def Terms.sparing (view : Shared → γ) : Terms Unit where
  rely _ _ _ := True
  promise _ s t := view t = view s
  refl _ _ := trivial
  trans _ _ := trivial
  elapse _ _ _ := trivial
  enough h _ := absurd rfl h

/-- From a state on, the work spares a view of what is shared, whatever happens while it waits. -/
abbrev Work.Spares (view : Shared → γ) (post : α → Shared → Prop) : Work α → Shared → Prop :=
  Work.Leads (Terms.sparing view) () post

/-- From a state on, the work comes to an answer, and at that moment the answer and the state are as they
should be, whatever happens while it waits. -/
abbrev Work.Attains (post : α → Shared → Prop) : Work α → Shared → Prop :=
  Work.Spares (fun _ => ()) post

theorem Work.bind_done (w : Work α) : Work.bind w .done = w := by
  induction w with
  | done a => rfl
  | crash text => rfl
  | look next ih => exact congrArg Work.look (funext ih)
  | change f next ih => exact congrArg (Work.change f) ih
  | pause millis next ih => exact congrArg (Work.pause millis) ih
  | request url timeout next ih => exact congrArg (Work.request url timeout) (funext ih)
  | acquire lock next ih => exact congrArg (Work.acquire lock) ih
  | release lock next ih => exact congrArg (Work.release lock) ih

namespace Pool

/-- What becomes of a pool when a check goes on with some work that has more work behind it. -/
inductive Spared (view : Shared → γ) (post : α → Shared → Prop) (p q : Pool) (i id : Nat)
    (next : α → Work Source.Outcome) : Prop where
  | ends {r : Pool} (a : α) (hpost : post a r.shared) (htasks : r.tasks = p.tasks)
      (hview : view r.shared = view p.shared) (hq : q = r.run i (next a))
  | waits (rest : Work α) (hrest : ∀ s, rest.Spares view post s)
      (htasks : q.tasks = p.tasks.set i (id, rest.bind next)) (hview : view q.shared = view p.shared)

theorem Spared.of_same {view : Shared → γ} {post : α → Shared → Prop} {p p' q : Pool} {i id : Nat}
    {next : α → Work Source.Outcome} (h : Spared view post p' q i id next)
    (htasks : p'.tasks = p.tasks) (hview : view p'.shared = view p.shared) :
    Spared view post p q i id next := by
  cases h with
  | ends a hpost ht hv hq => exact .ends a hpost (ht.trans htasks) (hv.trans hview) hq
  | waits rest hrest ht hv => exact .waits rest hrest (htasks ▸ ht) (hv.trans hview)

theorem spared_run {view : Shared → γ} {post : α → Shared → Prop} {w : Work α} {s : Shared}
    (hw : w.Spares view post s) (next : α → Work Source.Outcome) {p : Pool} (hs : p.shared = s)
    {i id : Nat} (hid : p.running[i]? = some id) :
    Spared view post p (p.run i (w.bind next)) i id next := by
  -- the state of the pool and the one that the work is at go along with each other
  induction hw generalizing p with
  | @done a s h =>
    subst hs
    exact .ends a h rfl rfl rfl
  | look _ ih =>
    subst hs
    exact ih rfl hid
  | @change f next' s hf _ ih =>
    subst hs
    exact (ih (p := { p with shared := f p.shared }) rfl hid).of_same rfl hf
  | @pause millis rest s h ih =>
    subst hs
    simp only [Work.bind, run]
    split
    · exact ih p.shared trivial rfl hid
    · exact .waits rest (fun t => h t trivial) (tasks_park hid _ _) rfl
  | @request url timeout rest s hrequest h ih =>
    subst hs
    exact .waits _ (fun t => h t trivial)
      (tasks_park (p := { p with shared := (p.shared.request url timeout).2 }) hid _ _) hrequest
  | @acquire lock rest s h ih =>
    subst hs
    simp only [Work.bind, run]
    split
    · exact .waits rest (fun t => h t trivial) (tasks_park hid _ _) rfl
    · exact (ih p.shared trivial (p := { p with held := lock :: p.held }) rfl hid).of_same rfl rfl
  | @release lock rest s _ ih =>
    have hback : (p.giveBack lock).running[i]? = some id := by
      rwa [running_eq_tasks, tasks_giveBack, ← running_eq_tasks]
    exact (ih (p := p.giveBack lock) ((shared_giveBack p lock).trans hs) hback).of_same
      (tasks_giveBack p lock) (congrArg view (shared_giveBack p lock))

/-- The check of a number, as long as it is under way, comes to an end at which all is as it should be. -/
structure Attaining (n : Nat) (post : Source.Outcome → Shared → Prop) (p : Pool) : Prop where
  nodup : p.running.Nodup
  attains : ∀ w, (n, w) ∈ p.tasks → ∀ s, w.Attains post s

theorem mem_running_step {p : Pool} {i n : Nat} {j : Job} (hj : p.jobs[i]? = some j) (hne : j.id ≠ n)
    (hn : n ∈ p.running) (moment : Nat) : n ∈ (p.step i moment).running := by
  obtain ⟨ended, hfinished, hperm, -⟩ := (outlook_step hj moment).continues (by simp [running, hj])
  refine (List.mem_append.mp (hperm.mem_iff.mpr hn)).resolve_right fun hend => ?_
  cases outlook_step hj moment with
  | ends outcome _ _ hone _ =>
    rw [hone] at hfinished
    rw [← List.append_cancel_left hfinished] at hend
    simp only [List.map_cons, List.map_nil, List.mem_singleton] at hend
    exact hne hend.symm
  | waits rest _ _ hnone _ =>
    rw [hnone] at hfinished
    rw [List.self_eq_append_right.mp hfinished] at hend
    cases hend

namespace Attaining

variable {n : Nat} {post : Source.Outcome → Shared → Prop} {p q : Pool}

theorem run (h : Attaining n post p) {i : Nat} {w : Work Source.Outcome}
    (htask : p.tasks[i]? = some (n, w)) :
    (∀ v, (n, v) ∈ (p.run i w).tasks → ∀ s, v.Attains post s) ∧
      (n ∉ (p.run i w).running →
        ∃ outcome, (n, outcome) ∈ (p.run i w).finished ∧ post outcome (p.run i w).shared) := by
  have hid : p.running[i]? = some n := by
    rw [running_eq_tasks, List.getElem?_map, htask]
    rfl
  have hattains := h.attains w (List.mem_of_getElem? htask)
  cases w.bind_done ▸ spared_run (hattains p.shared) .done rfl hid with
  | @ends r outcome hpost htasks _ hq =>
    have hid' : r.running[i]? = some n := by rwa [running_eq_tasks, htasks, ← running_eq_tasks]
    have hfinish : p.run i w = r.finish i outcome := hq
    rw [hfinish, finish_eq hid']
    refine ⟨fun v hv s => h.attains v ?_ s, fun _ => ⟨outcome, by simp, hpost⟩⟩
    rw [← htasks]
    obtain ⟨j, hj, heq⟩ := List.mem_map.mp hv
    exact List.mem_map.mpr ⟨j, List.mem_of_mem_eraseIdx hj, heq⟩
  | waits rest hrest htasks _ =>
    rw [rest.bind_done] at htasks
    obtain ⟨hlt, -⟩ := List.getElem?_eq_some_iff.mp htask
    refine ⟨fun v hv => ?_, fun hend => ?_⟩
    · rw [htasks] at hv
      rcases List.mem_or_eq_of_mem_set hv with hv | heq
      · exact h.attains v hv
      · cases heq
        exact hrest
    · refine absurd (List.mem_map.mpr ⟨(n, rest), ?_, rfl⟩) (running_eq_tasks _ ▸ hend)
      rw [htasks]
      exact List.mem_set hlt _

theorem step (h : Attaining n post p) (hstep : p.Step q) :
    Attaining n post q ∧ (n ∈ p.running → n ∉ q.running →
      ∃ outcome, (n, outcome) ∈ q.finished ∧ post outcome q.shared) := by
  have hcontinues := hstep.continues
  have hnodup : q.running.Nodup := by
    obtain ⟨ended, -, hperm, -⟩ := hcontinues
    exact (List.nodup_append.mp (hperm.nodup_iff.mpr h.nodup)).1
  obtain ⟨i, j, moment, hj, rfl⟩ | ⟨moment, rfl⟩ := hstep.cases_job
  · by_cases hjn : j.id = n
    · have htask : (p.advance moment).tasks[i]? = some (n, j.work) := by
        simp [tasks, advance, hj, hjn]
      have hadvanced : Attaining n post (p.advance moment) := ⟨h.nodup, h.attains⟩
      have hstep' : p.step i moment = (p.advance moment).run i j.work := by rw [Pool.step, hj]
      rw [hstep'] at hnodup ⊢
      obtain ⟨htasks, hends⟩ := hadvanced.run htask
      exact ⟨⟨hnodup, htasks⟩, fun _ => hends⟩
    · -- another check goes on, and this one keeps its work
      refine ⟨⟨hnodup, fun w hw => ?_⟩, fun hn hend => absurd (mem_running_step hj hjn hn moment) hend⟩
      cases outlook_step hj moment with
      | ends outcome _ htasks _ _ =>
        rw [htasks] at hw
        exact h.attains w (List.mem_of_mem_eraseIdx hw)
      | waits rest _ htasks _ _ =>
        rw [htasks] at hw
        rcases List.mem_or_eq_of_mem_set hw with hw | heq
        · exact h.attains w hw
        · exact absurd (congrArg Prod.fst heq).symm hjn
  · exact ⟨⟨h.nodup, h.attains⟩, fun hn hend => absurd hn hend⟩

theorem reaches (h : Attaining n post p) (hreaches : p.Reaches q) : Attaining n post q := by
  induction hreaches with
  | refl => exact h
  | tail _ hstep ih => exact (ih.step hstep).1

theorem runUntil (h : Attaining n post p) (hsound : p.Sound) (hn : n ∈ p.running) :
    ∃ outcome, (n, outcome) ∈ (p.runUntil (fun q => !q.isRunning n) none).finished ∧
      post outcome (p.runUntil (fun q => !q.isRunning n) none).shared := by
  fun_induction Pool.runUntil (fun q => !q.isRunning n) none p with
  | case1 p hstop => exact absurd hn (not_isRunning_iff.mp hstop)
  | case2 p hstop hnext => simp [running, hsound.jobs_eq_nil hnext] at hn
  | case3 p hstop i r hnext hlimit => simp at hlimit
  | case4 p hstop i r hnext hlimit ih =>
    have hstep : p.Step (p.step i r.moment) := .goesOn hnext
    obtain ⟨hafter, hends⟩ := h.step hstep
    by_cases hrunning : n ∈ (p.step i r.moment).running
    · exact ih hafter (hstep.sound hsound) hrunning
    · rw [runUntil_of_stop (not_isRunning_iff.mpr hrunning)]
      exact hends hn hrunning

end Attaining

end Pool

end TorrentSearch.Search
