import TorrentSearch.Proofs.Search.Progress

/-!
# Safe work

Checks that run side by side change one cache. If each change keeps a property of the cache, the
property holds whenever a check goes on, and what a check reads may rely on it. Then what all the
checks bring has the property that is asked of their answers.
-/

namespace TorrentSearch.Search

namespace Work

variable {α β : Type} {C : Cache.Store → Prop} {R : α → Prop} {Q : β → Prop}

/-- Work that does not break down, that keeps a property of the cache with every change, and whose
answer has a property whatever servers reply. The cache has its property when it is read. -/
inductive Safe (C : Cache.Store → Prop) (R : α → Prop) : Work α → Prop where
  | done {answer : α} (h : R answer) : Safe C R (.done answer)
  | look {next : Shared → Work α} (h : ∀ s, C s.cache → Safe C R (next s)) : Safe C R (.look next)
  | change {f : Shared → Shared} {next : Work α} (hf : ∀ s, C s.cache → C (f s).cache)
      (h : Safe C R next) : Safe C R (.change f next)
  | pause {next : Work α} (millis : Nat) (h : Safe C R next) : Safe C R (.pause millis next)
  | request {next : Http.Reply → Work α} (url : String) (timeout : Nat)
      (h : ∀ reply, Safe C R (next reply)) : Safe C R (.request url timeout next)
  | acquire {next : Work α} (lock : String) (h : Safe C R next) : Safe C R (.acquire lock next)
  | release {next : Work α} (lock : String) (h : Safe C R next) : Safe C R (.release lock next)

namespace Safe

theorem pure {a : α} (h : R a) : Safe C R (Pure.pure a : Work α) := .done h

theorem bind {w : Work α} {f : α → Work β} (hw : Safe C R w) (hf : ∀ a, R a → Safe C Q (f a)) :
    Safe C Q (w >>= f) := by
  change Safe C Q (Work.bind w f)
  induction hw with
  | done h => exact hf _ h
  | look _ ih => exact .look ih
  | change hkeep _ ih => exact .change hkeep ih
  | pause millis _ ih => exact .pause millis ih
  | request url timeout _ ih => exact .request url timeout ih
  | acquire lock _ ih => exact .acquire lock ih
  | release lock _ ih => exact .release lock ih

theorem consult {f : Shared → α × Shared} (hcache : ∀ s, C s.cache → C (f s).2.cache)
    (hanswer : ∀ s, C s.cache → R (f s).1) : Safe C R (consult f) :=
  .look fun s hs => .change hcache (.done (hanswer s hs))

theorem update {f : Shared → Shared} (hcache : ∀ s, C s.cache → C (f s).cache) :
    Safe C (fun _ => True) (update f) :=
  .change hcache (.done trivial)

theorem wait (millis : Nat) : Safe C (fun _ => True) (wait millis) := .pause millis (.done trivial)

theorem locked {w : Work α} (lock : String) (h : Safe C R w) : Safe C R (locked lock w) :=
  .acquire lock (h.bind fun _ ha => .release lock (.done ha))

end Safe

end Work

namespace Pool

variable {C : Cache.Store → Prop} {R : Source.Outcome → Prop} {p : Pool}

/-- The cache has its property, the checks that are under way are safe, and what the others brought
has the property of answers. -/
structure Safe (C : Cache.Store → Prop) (R : Source.Outcome → Prop) (p : Pool) : Prop where
  cache : C p.shared.cache
  tasks : ∀ task ∈ p.tasks, task.2.Safe C R
  finished : ∀ e ∈ p.finished, R e.2

theorem safe_idle {shared : Shared} (h : C shared.cache) : (idle shared).Safe C R :=
  ⟨h, fun _ ht => by simp [tasks, idle] at ht, fun _ he => by simp [idle] at he⟩

namespace Safe

theorem of_shared (h : p.Safe C R) {shared : Shared} (hcache : C shared.cache) :
    Safe C R { p with shared := shared } :=
  ⟨hcache, h.tasks, h.finished⟩

theorem finish (h : p.Safe C R) {i id : Nat} (hid : p.running[i]? = some id)
    {outcome : Source.Outcome} (houtcome : R outcome) : (p.finish i outcome).Safe C R := by
  rw [finish_eq hid]
  refine ⟨h.cache, fun task htask => h.tasks task ?_, fun e he => ?_⟩
  · have herased : task ∈ p.tasks.eraseIdx i := by
      unfold Pool.tasks
      rwa [List.eraseIdx_map]
    exact List.mem_of_mem_eraseIdx herased
  · rcases List.mem_append.mp he with he | he
    · exact h.finished e he
    · rw [List.mem_singleton.mp he]
      exact houtcome

theorem park (h : p.Safe C R) {i id : Nat} (hid : p.running[i]? = some id) (phase : Nat → Phase)
    {rest : Work Source.Outcome} (hrest : rest.Safe C R) : (p.park i phase rest).Safe C R := by
  refine ⟨h.cache, fun task htask => ?_, h.finished⟩
  rw [tasks_park hid] at htask
  rcases List.mem_or_eq_of_mem_set htask with htask | rfl
  · exact h.tasks task htask
  · exact hrest

theorem giveBack (h : p.Safe C R) (lock : String) : (p.giveBack lock).Safe C R := by
  refine ⟨by rw [shared_giveBack]; exact h.cache, ?_, ?_⟩
  · rw [tasks_giveBack]
    exact h.tasks
  · rw [finished_giveBack]
    exact h.finished

theorem advance (h : p.Safe C R) (moment : Nat) : (p.advance moment).Safe C R :=
  h.of_shared h.cache

theorem run {work : Work Source.Outcome} (hwork : work.Safe C R) {i id : Nat} {p : Pool}
    (hid : p.running[i]? = some id) (h : p.Safe C R) : (p.run i work).Safe C R := by
  -- what comes next depends on what is read, so the induction is on why the work is safe
  induction hwork generalizing p with
  | done houtcome => exact h.finish hid houtcome
  | look _ ih => exact ih p.shared h.cache hid h
  | @change f _ hkeep _ ih =>
    exact ih (p := { p with shared := f p.shared }) hid (h.of_shared (hkeep _ h.cache))
  | pause millis hnext ih =>
    unfold Pool.run
    split
    · exact ih hid h
    · exact h.park hid _ hnext
  | request url timeout hnext ih =>
    have hcache : C (p.shared.request url timeout).2.cache := by
      rw [Shared.cache_request]
      exact h.cache
    exact (h.of_shared hcache).park hid _ (hnext _)
  | acquire lock hnext ih =>
    unfold Pool.run
    split
    · exact h.park hid _ hnext
    · exact ih (p := { p with held := lock :: p.held }) hid ⟨h.cache, h.tasks, h.finished⟩
  | release lock _ ih =>
    have hback : (p.giveBack lock).running[i]? = some id := by
      rwa [running_eq_tasks, tasks_giveBack, ← running_eq_tasks]
    exact ih hback (h.giveBack lock)

theorem step (h : p.Safe C R) {q : Pool} (hstep : p.Step q) : q.Safe C R := by
  obtain ⟨i, j, moment, hj, rfl⟩ | ⟨moment, rfl⟩ := hstep.cases_job
  · have hwork : j.work.Safe C R :=
      h.tasks (j.id, j.work) (List.mem_map.mpr ⟨j, List.mem_of_getElem? hj, rfl⟩)
    have hid : (p.advance moment).running[i]? = some j.id := by
      simp [running, Pool.advance, hj]
    unfold Pool.step
    rw [hj]
    exact run hwork hid (h.advance moment)
  · exact h.advance moment

theorem reaches (h : p.Safe C R) {q : Pool} (hreaches : p.Reaches q) : q.Safe C R := by
  induction hreaches with
  | refl => exact h
  | tail _ hstep ih => exact ih.step hstep

theorem spawnAll (h : p.Safe C R) (foreground : Bool) {works : List (Work Source.Outcome)}
    (hworks : ∀ work ∈ works, work.Safe C R) : (p.spawnAll foreground works).1.Safe C R := by
  refine ⟨?_, fun task htask => ?_, ?_⟩
  · rw [shared_spawnAll]
    exact h.cache
  · rw [tasks_spawnAll] at htask
    rcases List.mem_append.mp htask with htask | htask
    · exact h.tasks task htask
    · exact hworks _ (List.of_mem_zip htask).2
  · rw [finished_spawnAll]
    exact h.finished

end Safe

end Pool

end TorrentSearch.Search
