import TorrentSearch.Proofs.Search.Progress

/-!
# Work in company

While a check waits, others change what is shared. Each check relies on the others for some things and
promises some to them. If every check keeps its promises as long as it can rely on the others, then all of
them do, and each comes to what it leads to by this.
-/

namespace TorrentSearch.Search

/-- What the checks of each role rely on while others go on, and what they promise when they do
themselves. What one promises is enough for all other roles. -/
structure Terms (κ : Type) where
  rely : κ → Shared → Shared → Prop
  promise : κ → Shared → Shared → Prop
  refl (role : κ) (s : Shared) : rely role s s
  trans {role : κ} {s t u : Shared} : rely role s t → rely role t u → rely role s u
  elapse (role : κ) (s : Shared) (elapsed : Nat) : rely role s { s with elapsed := elapsed }
  enough {role other : κ} {s t : Shared} : role ≠ other → promise role s t → rely other s t

variable {κ : Type}

namespace Work

variable {α β : Type}

/-- From a state on, the work keeps its promises and does not break down, and its answer and the state
at its end are as they should be, if others can be relied on during each wait. -/
inductive Leads (T : Terms κ) (role : κ) (post : α → Shared → Prop) : Work α → Shared → Prop where
  | done {a : α} {s : Shared} (h : post a s) : Leads T role post (.done a) s
  | look {next : Shared → Work α} {s : Shared} (h : Leads T role post (next s) s) :
      Leads T role post (.look next) s
  | change {f : Shared → Shared} {next : Work α} {s : Shared} (hf : T.promise role s (f s))
      (h : Leads T role post next (f s)) : Leads T role post (.change f next) s
  | pause {millis : Nat} {next : Work α} {s : Shared}
      (h : ∀ t, T.rely role s t → Leads T role post next t) :
      Leads T role post (.pause millis next) s
  | request {url : String} {timeout : Nat} {next : Http.Reply → Work α} {s : Shared}
      (hs : T.promise role s (s.request url timeout).2)
      (h : ∀ t, T.rely role (s.request url timeout).2 t →
        Leads T role post (next (s.request url timeout).1.2) t) :
      Leads T role post (.request url timeout next) s
  | acquire {lock : String} {next : Work α} {s : Shared}
      (h : ∀ t, T.rely role s t → Leads T role post next t) :
      Leads T role post (.acquire lock next) s
  | release {lock : String} {next : Work α} {s : Shared} (h : Leads T role post next s) :
      Leads T role post (.release lock next) s

namespace Leads

variable {T : Terms κ} {role : κ} {post : α → Shared → Prop} {post' : β → Shared → Prop}

theorem pure {a : α} {s : Shared} (h : post a s) : Leads T role post (Pure.pure a : Work α) s :=
  .done h

theorem bind {w : Work α} {f : α → Work β} {s : Shared} (hw : Leads T role post w s)
    (hf : ∀ a t, post a t → Leads T role post' (f a) t) : Leads T role post' (w >>= f) s := by
  change Leads T role post' (Work.bind w f) s
  induction hw with
  | done h => exact hf _ _ h
  | look _ ih => exact .look ih
  | change hpromise _ ih => exact .change hpromise ih
  | pause _ ih => exact .pause ih
  | request hs _ ih => exact .request hs ih
  | acquire _ ih => exact .acquire ih
  | release _ ih => exact .release ih

theorem imp {post' : α → Shared → Prop} {w : Work α} {s : Shared} (hw : Leads T role post w s)
    (h : ∀ a t, post a t → post' a t) : Leads T role post' w s := by
  induction hw with
  | done ha => exact .done (h _ _ ha)
  | look _ ih => exact .look ih
  | change hpromise _ ih => exact .change hpromise ih
  | pause _ ih => exact .pause ih
  | request hs _ ih => exact .request hs ih
  | acquire _ ih => exact .acquire ih
  | release _ ih => exact .release ih

theorem consult {f : Shared → α × Shared} {s : Shared} (hf : T.promise role s (f s).2)
    (h : post (f s).1 (f s).2) : Leads T role post (consult f) s :=
  .look (.change hf (.done h))

theorem update {f : Shared → Shared} {post : Unit → Shared → Prop} {s : Shared}
    (hf : T.promise role s (f s)) (h : post () (f s)) : Leads T role post (update f) s :=
  .change hf (.done h)

theorem wait {millis : Nat} {post : Unit → Shared → Prop} {s : Shared}
    (h : ∀ t, T.rely role s t → post () t) : Leads T role post (wait millis) s :=
  .pause fun t ht => .done (h t ht)

theorem locked {lock : String} {w : Work α} {s : Shared}
    (h : ∀ t, T.rely role s t → Leads T role post w t) : Leads T role post (locked lock w) s :=
  .acquire fun t ht => (h t ht).bind fun _ _ ha => .release (.done ha)

end Leads

end Work

namespace Pool

open Work (Leads)

variable (T : Terms κ) (post : κ → Source.Outcome → Shared → Prop) (role : Nat → κ)

/-- What others hold to while the check of one role goes on: they lead to what they should, and what they
brought stays as it should be. -/
structure Bystanders (p : Pool) (own : κ) : Prop where
  tasks : ∀ t ∈ p.tasks, role t.1 ≠ own → ∀ s, T.rely (role t.1) p.shared s →
    Leads T (role t.1) (post (role t.1)) t.2 s
  finished : ∀ e ∈ p.finished, role e.1 ≠ own → ∀ s, T.rely (role e.1) p.shared s →
    post (role e.1) e.2 s

/-- No two checks have one role, those under way lead to what they should, and what the others brought
stays as it should be. -/
structure Together (p : Pool) : Prop where
  distinct : ((p.running ++ p.finished.map Prod.fst).map role).Nodup
  tasks : ∀ t ∈ p.tasks, ∀ s, T.rely (role t.1) p.shared s →
    Leads T (role t.1) (post (role t.1)) t.2 s
  finished : ∀ e ∈ p.finished, ∀ s, T.rely (role e.1) p.shared s → post (role e.1) e.2 s

variable {T post role} {p : Pool}

theorem Bystanders.change {own : κ} (h : p.Bystanders T post role own) {shared : Shared}
    (hpromise : T.promise own p.shared shared) :
    Bystanders T post role { p with shared := shared } own := by
  constructor
  · intro t ht hne s hs
    exact h.tasks t ht hne s (T.trans (T.enough hne.symm hpromise) hs)
  · intro e he hne s hs
    exact h.finished e he hne s (T.trans (T.enough hne.symm hpromise) hs)

theorem role_ne_of_getElem? {i n own : Nat} {t : Nat × Work Source.Outcome}
    (hnodup : (p.running.map role).Nodup) (hown : p.running[i]? = some own)
    (ht : p.tasks[n]? = some t) (hn : n ≠ i) : role t.1 ≠ role own := by
  intro heq
  have hother : (p.running.map role)[n]? = some (role own) := by
    rw [running_eq_tasks, List.getElem?_map, List.getElem?_map, ht]
    exact congrArg some heq
  have hmine : (p.running.map role)[i]? = some (role own) := by
    rw [List.getElem?_map, hown]
    rfl
  refine hn ((List.getElem?_inj ?_ hnodup).mp (hother.trans hmine.symm))
  exact (List.getElem?_eq_some_iff.mp hother).1

theorem role_ne_of_mem_finished {own : Nat} {e : Nat × Source.Outcome}
    (hdistinct : ((p.running ++ p.finished.map Prod.fst).map role).Nodup) (hown : own ∈ p.running)
    (he : e ∈ p.finished) : role e.1 ≠ role own := by
  intro heq
  rw [List.map_append, List.nodup_append] at hdistinct
  refine hdistinct.2.2 (role own) ?_ (role e.1) ?_ heq.symm
  · exact List.mem_map.mpr ⟨own, hown, rfl⟩
  · exact List.mem_map.mpr ⟨e.1, List.mem_map.mpr ⟨e, he, rfl⟩, rfl⟩

theorem Continues.roles_nodup {q : Pool} (h : p.Continues q)
    (hp : ((p.running ++ p.finished.map Prod.fst).map role).Nodup) :
    ((q.running ++ q.finished.map Prod.fst).map role).Nodup :=
  (h.all_perm.map role).nodup_iff.mpr hp

namespace Together

theorem bystanders (h : p.Together T post role) (own : κ) : p.Bystanders T post role own :=
  ⟨fun t ht _ => h.tasks t ht, fun e he _ => h.finished e he⟩

theorem advance (h : p.Together T post role) (moment : Nat) :
    (p.advance moment).Together T post role := by
  refine ⟨h.distinct, fun t ht s hs => ?_, fun e he s hs => ?_⟩
  · exact h.tasks t ht s (T.trans (T.elapse _ _ _) hs)
  · exact h.finished e he s (T.trans (T.elapse _ _ _) hs)

theorem of_finish {i own : Nat} {outcome : Source.Outcome}
    (hdistinct : ((p.running ++ p.finished.map Prod.fst).map role).Nodup)
    (hown : p.running[i]? = some own) (h : p.Bystanders T post role (role own))
    (houtcome : ∀ s, T.rely (role own) p.shared s → post (role own) outcome s) :
    (p.finish i outcome).Together T post role := by
  refine ⟨(continues_finish hown outcome).roles_nodup hdistinct, ?_, ?_⟩
  · rw [finish_eq hown]
    intro t ht
    have herased : t ∈ p.tasks.eraseIdx i := by
      unfold Pool.tasks
      rwa [List.eraseIdx_map]
    obtain ⟨n, hn, hget⟩ := List.mem_eraseIdx_iff_getElem?.mp herased
    rw [List.map_append] at hdistinct
    exact h.tasks t (List.mem_of_getElem? hget)
      (role_ne_of_getElem? (List.nodup_append.mp hdistinct).1 hown hget hn)
  · rw [finish_eq hown]
    intro e he
    rcases List.mem_append.mp he with he | he
    · have hmem := List.mem_of_getElem? hown
      exact h.finished e he (role_ne_of_mem_finished hdistinct hmem he)
    · rw [List.mem_singleton.mp he]
      exact houtcome

theorem of_park {i own : Nat} {phase : Nat → Phase} {rest : Work Source.Outcome}
    (hdistinct : ((p.running ++ p.finished.map Prod.fst).map role).Nodup)
    (hown : p.running[i]? = some own) (h : p.Bystanders T post role (role own))
    (hrest : ∀ s, T.rely (role own) p.shared s →
      Leads T (role own) (post (role own)) rest s) :
    (p.park i phase rest).Together T post role := by
  have hrunning : (p.park i phase rest).running = p.running :=
    map_modify_eq_self (by intro; rfl) _ _
  have hnodup := hdistinct
  rw [List.map_append] at hnodup
  refine ⟨by rw [hrunning]; exact hdistinct, fun t ht => ?_, fun e he => ?_⟩
  · rw [tasks_park hown] at ht
    obtain ⟨n, hn⟩ := List.getElem?_of_mem ht
    by_cases hin : i = n
    · subst hin
      have hlt : i < p.tasks.length := by
        have hlength := (List.getElem?_eq_some_iff.mp hn).1
        rwa [List.length_set] at hlength
      rw [List.getElem?_set_self hlt, Option.some.injEq] at hn
      subst hn
      exact hrest
    · rw [List.getElem?_set_ne hin] at hn
      exact h.tasks t (List.mem_of_getElem? hn)
        (role_ne_of_getElem? (List.nodup_append.mp hnodup).1 hown hn (Ne.symm hin))
  · have hmem := List.mem_of_getElem? hown
    exact h.finished e he (role_ne_of_mem_finished hdistinct hmem he)

section

variable (hstable : ∀ role outcome s t, post role outcome s → T.rely role s t → post role outcome t)

include hstable

theorem run {own : Nat} {s : Shared} {work : Work Source.Outcome}
    (hwork : Leads T (role own) (post (role own)) work s) {i : Nat} {p : Pool} (hs : p.shared = s)
    (hdistinct : ((p.running ++ p.finished.map Prod.fst).map role).Nodup)
    (hown : p.running[i]? = some own) (h : p.Bystanders T post role (role own)) :
    (p.run i work).Together T post role := by
  -- along the reasons for which the work leads to what it should, which tell what is shared at each step
  induction hwork generalizing p with
  | @done outcome s houtcome =>
    subst hs
    exact of_finish hdistinct hown h fun t ht => hstable _ _ _ _ houtcome ht
  | look _ ih =>
    subst hs
    exact ih rfl hdistinct hown h
  | @change f next s hpromise _ ih =>
    subst hs
    exact ih (p := { p with shared := f p.shared }) rfl hdistinct hown (h.change hpromise)
  | pause hnext ih =>
    subst hs
    unfold Pool.run
    split
    · exact ih p.shared (T.refl _ _) rfl hdistinct hown h
    · exact of_park hdistinct hown h hnext
  | @request url timeout next s hpromise hnext ih =>
    subst hs
    exact of_park (p := { p with shared := (p.shared.request url timeout).2 }) hdistinct hown
      (h.change hpromise) hnext
  | @acquire lock next s hnext ih =>
    subst hs
    unfold Pool.run
    split
    · exact of_park hdistinct hown h hnext
    · exact ih p.shared (T.refl _ _) (p := { p with held := lock :: p.held }) rfl hdistinct hown
        ⟨h.tasks, h.finished⟩
  | @release lock next s _ ih =>
    have hrunning : (p.giveBack lock).running = p.running := by
      rw [running_eq_tasks, tasks_giveBack, ← running_eq_tasks]
    refine ih (p := p.giveBack lock) ((shared_giveBack p lock).trans hs) ?_ ?_ ⟨?_, ?_⟩
    · rw [hrunning, finished_giveBack]
      exact hdistinct
    · rw [hrunning]
      exact hown
    · rw [tasks_giveBack, shared_giveBack]
      exact h.tasks
    · rw [finished_giveBack, shared_giveBack]
      exact h.finished

theorem step (h : p.Together T post role) {q : Pool} (hstep : p.Step q) :
    q.Together T post role := by
  obtain ⟨i, j, moment, hj, rfl⟩ | ⟨moment, rfl⟩ := hstep.cases_job
  · have hadvanced := h.advance moment
    have hown : (p.advance moment).running[i]? = some j.id := by
      simp [running, Pool.advance, hj]
    have hwork := hadvanced.tasks (j.id, j.work)
      (List.mem_map.mpr ⟨j, List.mem_of_getElem? hj, rfl⟩) _ (T.refl _ _)
    unfold Pool.step
    rw [hj]
    exact run hstable hwork rfl hadvanced.distinct hown (hadvanced.bystanders _)
  · exact h.advance moment

theorem reaches (h : p.Together T post role) {q : Pool} (hreaches : p.Reaches q) :
    q.Together T post role := by
  induction hreaches with
  | refl => exact h
  | tail _ hstep ih => exact ih.step hstable hstep

end

/-- Checks that begin when nobody else is there are together if each leads to what it should. -/
theorem spawnAll {works : List (Work Source.Outcome)} (hjobs : p.jobs = []) (hfinished : p.finished = [])
    (foreground : Bool) (hroles : ((List.range' p.fresh works.length).map role).Nodup)
    (hworks : ∀ t ∈ (List.range' p.fresh works.length).zip works, ∀ s,
      T.rely (role t.1) p.shared s → Leads T (role t.1) (post (role t.1)) t.2 s) :
    (p.spawnAll foreground works).1.Together T post role := by
  have htasks : p.tasks = [] := by rw [Pool.tasks, hjobs, List.map_nil]
  constructor
  · rw [running_spawnAll, finished_spawnAll, hfinished, running_eq_tasks, htasks]
    simpa using hroles
  · rw [tasks_spawnAll, shared_spawnAll, htasks, List.nil_append]
    exact hworks
  · rw [finished_spawnAll, hfinished]
    intro e he
    cases he

end Together

end Pool

end TorrentSearch.Search
