import TorrentSearch.Proofs.Search.Moments

/-!
# Work that takes no notice of the counters

The counters are there to be read from outside. Work that takes no notice of them goes on as it would
have if something else had been counted, and so do pools of such work: they come to the same ends, at the
same moments and with the same outcomes.
-/

namespace TorrentSearch.Search

namespace Work

variable {α β : Type}

/-- Whatever the counters are, the work goes on in the same way and makes the same of all the rest. -/
inductive Uncounted : Work α → Prop where
  | done (a : α) : Uncounted (.done a)
  | crash (text : String) : Uncounted (.crash text)
  | look {next : Shared → Work α} (hsame : ∀ s c, next { s with counters := c } = next s)
      (h : ∀ s, Uncounted (next s)) : Uncounted (.look next)
  | change {f : Shared → Shared} {next : Work α}
      (hsame : ∀ s c, ∃ c', f { s with counters := c } = { f s with counters := c' })
      (h : Uncounted next) : Uncounted (.change f next)
  | pause {next : Work α} (millis : Nat) (h : Uncounted next) : Uncounted (.pause millis next)
  | request {next : Http.Reply → Work α} (url : String) (timeout : Nat) (h : ∀ r, Uncounted (next r)) :
      Uncounted (.request url timeout next)
  | acquire {next : Work α} (lock : String) (h : Uncounted next) : Uncounted (.acquire lock next)
  | release {next : Work α} (lock : String) (h : Uncounted next) : Uncounted (.release lock next)

namespace Uncounted

theorem pure (a : α) : Uncounted (Pure.pure a : Work α) := .done a

theorem bind {w : Work α} {f : α → Work β} (hw : Uncounted w) (hf : ∀ a, Uncounted (f a)) :
    Uncounted (w >>= f) := by
  change Uncounted (Work.bind w f)
  induction hw with
  | done a => exact hf a
  | crash text => exact .crash text
  | look hsame _ ih => exact .look (fun s c => congrArg (Work.bind · f) (hsame s c)) ih
  | change hsame _ ih => exact .change hsame ih
  | pause millis _ ih => exact .pause millis ih
  | request url timeout _ ih => exact .request url timeout ih
  | acquire lock _ ih => exact .acquire lock ih
  | release lock _ ih => exact .release lock ih

theorem update {f : Shared → Shared}
    (hf : ∀ s c, ∃ c', f { s with counters := c } = { f s with counters := c' }) :
    Uncounted (update f) :=
  .change hf (.done ())

theorem consult {f : Shared → α × Shared} (hanswer : ∀ s c, (f { s with counters := c }).1 = (f s).1)
    (hf : ∀ s c, ∃ c', (f { s with counters := c }).2 = { (f s).2 with counters := c' }) :
    Uncounted (consult f) :=
  .look (fun s c => by rw [hanswer s c]) fun _ => .change hf (.done _)

theorem of_part {v w : Work α} (hw : Uncounted w) (h : Relation.ReflTransGen After v w) :
    Uncounted v := by
  induction h using Relation.ReflTransGen.head_induction_on with
  | refl => exact hw
  | head hafter _ ih =>
    cases hafter with
    | look next s => cases ih with | look _ ih => exact ih s
    | change f next => cases ih with | change _ ih => exact ih
    | pause millis next => cases ih with | pause _ ih => exact ih
    | request url timeout next r => cases ih with | request _ _ ih => exact ih r
    | acquire lock next => cases ih with | acquire _ ih => exact ih
    | release lock next => cases ih with | release _ ih => exact ih

end Uncounted

end Work

theorem Shared.request_recounted (s : Shared) (c : Counters) (url : String) (timeout : Nat) :
    ({ s with counters := c } : Shared).request url timeout =
      ((s.request url timeout).1, { (s.request url timeout).2 with counters := c }) := by
  unfold request
  dsimp only
  split <;> rfl

namespace Pool

/-- The same checks wait in the same way in both pools, which differ at most in what was counted and in
what ended checks had brought before. -/
structure Alike (before before' : List (Nat × Source.Outcome)) (p q : Pool) : Prop where
  jobs : q.jobs = p.jobs
  held : q.held = p.held
  fresh : q.fresh = p.fresh
  shared : ∃ c, q.shared = { p.shared with counters := c }
  finished : ∃ since, p.finished = before ++ since ∧ q.finished = before' ++ since

namespace Alike

variable {before before' : List (Nat × Source.Outcome)} {p q : Pool}

theorem finish (h : Alike before before' p q) (i : Nat) (outcome : Source.Outcome) :
    Alike before before' (p.finish i outcome) (q.finish i outcome) := by
  unfold Pool.finish
  rw [h.jobs]
  cases p.jobs[i]? with
  | some j =>
    obtain ⟨since, hp, hq⟩ := h.finished
    refine ⟨rfl, h.held, h.fresh, h.shared, since ++ [(j.id, outcome)], ?_, ?_⟩
    · rw [← List.append_assoc, ← hp]
    · rw [← List.append_assoc, ← hq]
  | none => exact h

theorem park (h : Alike before before' p q) (i : Nat) {phase phase' : Nat → Phase}
    (hphase : phase' = phase) (rest : Work Source.Outcome) :
    Alike before before' (p.park i phase rest) (q.park i phase' rest) := by
  subst hphase
  refine ⟨?_, h.held, congrArg (· + 1) h.fresh, h.shared, h.finished⟩
  simp only [Pool.park, h.jobs, h.fresh]

theorem elapsed (h : Alike before before' p q) : q.shared.elapsed = p.shared.elapsed := by
  obtain ⟨c, hc⟩ := h.shared
  rw [hc]

theorem giveBack (h : Alike before before' p q) (lock : String) :
    Alike before before' (p.giveBack lock) (q.giveBack lock) := by
  unfold Pool.giveBack
  rw [h.jobs]
  split
  · refine ⟨?_, h.held, congrArg (· + 1) h.fresh, h.shared, h.finished⟩
    simp only [h.fresh, h.elapsed]
  · exact ⟨rfl, congrArg (·.erase lock) h.held, h.fresh, h.shared, h.finished⟩

theorem run {work : Work Source.Outcome} (hwork : work.Uncounted) (i : Nat) {p q : Pool}
    (h : Alike before before' p q) : Alike before before' (p.run i work) (q.run i work) := by
  induction hwork generalizing p q with
  | done outcome => exact h.finish i outcome
  | crash text => exact h.finish i _
  | @look next hsame _ ih =>
    obtain ⟨c, hc⟩ := h.shared
    have hnext : next q.shared = next p.shared := hc ▸ hsame p.shared c
    change Alike before before' (Pool.run i (next p.shared) p) (Pool.run i (next q.shared) q)
    rw [hnext]
    exact ih p.shared h
  | @change f next hsame _ ih =>
    obtain ⟨c, hc⟩ := h.shared
    refine ih (p := { p with shared := f p.shared }) (q := { q with shared := f q.shared })
      ⟨h.jobs, h.held, h.fresh, ?_, h.finished⟩
    rw [hc]
    exact hsame p.shared c
  | pause millis _ ih =>
    unfold Pool.run
    split
    · exact ih h
    · exact h.park i (by rw [h.elapsed]) _
  | request url timeout _ _ =>
    obtain ⟨c, hc⟩ := h.shared
    have hrequest : q.shared.request url timeout = ((p.shared.request url timeout).1,
        { (p.shared.request url timeout).2 with counters := c }) :=
      hc ▸ p.shared.request_recounted c url timeout
    have hasked : Alike before before' { p with shared := (p.shared.request url timeout).2 }
        { q with shared := { (p.shared.request url timeout).2 with counters := c } } :=
      ⟨h.jobs, h.held, h.fresh, ⟨c, rfl⟩, h.finished⟩
    unfold Pool.run
    rw [hrequest]
    exact hasked.park i rfl _
  | acquire lock _ ih =>
    unfold Pool.run
    rw [h.held]
    split
    · exact h.park i rfl _
    · exact ih (p := { p with held := lock :: p.held }) (q := { q with held := lock :: p.held })
        ⟨h.jobs, rfl, h.fresh, h.shared, h.finished⟩
  | release lock _ ih => exact ih (h.giveBack lock)

theorem advance (h : Alike before before' p q) (moment : Nat) :
    Alike before before' (p.advance moment) (q.advance moment) := by
  obtain ⟨c, hc⟩ := h.shared
  refine ⟨h.jobs, h.held, h.fresh, ⟨c, ?_⟩, h.finished⟩
  simp only [Pool.advance, hc]

theorem outcome?_eq (h : Alike before [] p q) {n : Nat} (hnone : before.lookup n = none) :
    q.outcome? n = p.outcome? n := by
  obtain ⟨since, hp, hq⟩ := h.finished
  rw [outcome?, outcome?, hp, hq, List.nil_append, List.lookup_append, hnone, Option.none_or]

theorem next? (h : Alike before before' p q) : q.next? = p.next? := by
  rw [Pool.next?, Pool.next?, h.elapsed, h.jobs]

theorem step (h : Alike before before' p q) (hp : ∀ t ∈ p.tasks, t.2.Uncounted) (i moment : Nat) :
    Alike before before' (p.step i moment) (q.step i moment) := by
  unfold Pool.step
  rw [h.jobs]
  split
  · rename_i j hj
    have hmem : (j.id, j.work) ∈ p.tasks := List.mem_map.mpr ⟨j, List.mem_of_getElem? hj, rfl⟩
    exact (h.advance moment).run (hp _ hmem) i
  · exact h

theorem endOf (h : Alike before before' p q) (hp : ∀ t ∈ p.tasks, t.2.Uncounted) (n : Nat) :
    Alike before before' (p.endOf n) (q.endOf n) := by
  unfold Pool.endOf
  fun_induction runUntil (fun q => !q.isRunning n) none p generalizing q with
  | case1 p hstop =>
    rwa [runUntil_of_stop]
    rwa [isRunning, h.jobs]
  | case2 p hstop hnext =>
    rw [runUntil_of_limit]
    · exact h.advance 0
    · rwa [isRunning, h.jobs]
    · simp [h.next?, hnext]
  | case3 p hstop i r hnext hlimit => simp at hlimit
  | case4 p hstop i r hnext hlimit ih =>
    rw [runUntil_of_next (i := i) (r := r) (by rwa [isRunning, h.jobs]) (h.next?.trans hnext) hlimit]
    refine ih (h.step hp i r.moment) fun t ht => ?_
    obtain ⟨w, hw, hpart⟩ := Reaches.part (.single (.goesOn hnext)) t ht
    exact (hp _ hw).of_part hpart

end Alike

end Pool

end TorrentSearch.Search
