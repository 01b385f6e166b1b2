import TorrentSearch.Proofs.Search.Course

/-!
# The turn of a check

A check that has just begun gets its first turn before time goes by, whatever other checks do before it,
as long as none of them sets the clock. If it does not have to wait then, this turn is also its end.
-/

namespace TorrentSearch.Search

theorem Shared.elapsed_request (s : Shared) (url : String) (timeout : Nat) :
    (s.request url timeout).2.elapsed = s.elapsed := by
  unfold request
  split <;> rfl

namespace Work

variable {α β : Type}

/-- No change that the work makes sets the clock. -/
inductive Timeless : Work α → Prop where
  | done (a : α) : Timeless (.done a)
  | crash (text : String) : Timeless (.crash text)
  | look {next : Shared → Work α} (h : ∀ s, Timeless (next s)) : Timeless (.look next)
  | change {f : Shared → Shared} {next : Work α} (hf : ∀ s, (f s).elapsed = s.elapsed)
      (h : Timeless next) : Timeless (.change f next)
  | pause {next : Work α} (millis : Nat) (h : Timeless next) : Timeless (.pause millis next)
  | request {next : Http.Reply → Work α} (url : String) (timeout : Nat) (h : ∀ r, Timeless (next r)) :
      Timeless (.request url timeout next)
  | acquire {next : Work α} (lock : String) (h : Timeless next) : Timeless (.acquire lock next)
  | release {next : Work α} (lock : String) (h : Timeless next) : Timeless (.release lock next)

namespace Timeless

theorem pure (a : α) : Timeless (Pure.pure a : Work α) := .done a

theorem bind {w : Work α} {f : α → Work β} (hw : Timeless w) (hf : ∀ a, Timeless (f a)) :
    Timeless (w >>= f) := by
  change Timeless (Work.bind w f)
  induction hw with
  | done a => exact hf a
  | crash text => exact .crash text
  | look _ ih => exact .look ih
  | change hkeep _ ih => exact .change hkeep ih
  | pause millis _ ih => exact .pause millis ih
  | request url timeout _ ih => exact .request url timeout ih
  | acquire lock _ ih => exact .acquire lock ih
  | release lock _ ih => exact .release lock ih

theorem update {f : Shared → Shared} (hf : ∀ s, (f s).elapsed = s.elapsed) : Timeless (update f) :=
  .change hf (.done ())

theorem consult {f : Shared → α × Shared} (hf : ∀ s, (f s).2.elapsed = s.elapsed) :
    Timeless (consult f) :=
  .look fun _ => .change hf (.done _)

theorem of_part {v w : Work α} (hw : Timeless w)
    (h : Relation.ReflTransGen After v w) : Timeless v := by
  induction h using Relation.ReflTransGen.head_induction_on with
  | refl => exact hw
  | head hafter _ ih =>
    cases hafter with
    | look next s => cases ih with | look ih => exact ih s
    | change f next => cases ih with | change _ ih => exact ih
    | pause millis next => cases ih with | pause _ ih => exact ih
    | request url timeout next r => cases ih with | request _ _ ih => exact ih r
    | acquire lock next => cases ih with | acquire _ ih => exact ih
    | release lock next => cases ih with | release _ ih => exact ih

end Timeless

/-- Work of a check that leads at once, without any wait, from the first state to an answer and the second
state, if none but the given locks are taken. -/
inductive AtOnce : List String → Work α → Shared → α → Shared → Prop where
  | done (taken : List String) (a : α) (s : Shared) : AtOnce taken (.done a) s a s
  | look {taken : List String} {next : Shared → Work α} {s t : Shared} {a : α}
      (h : AtOnce taken (next s) s a t) : AtOnce taken (.look next) s a t
  | change {taken : List String} {f : Shared → Shared} {next : Work α} {s t : Shared} {a : α}
      (h : AtOnce taken next (f s) a t) : AtOnce taken (.change f next) s a t
  | acquire {taken : List String} {lock : String} {next : Work α} {s t : Shared} {a : α}
      (hfree : lock ∉ taken) (h : AtOnce (lock :: taken) next s a t) :
      AtOnce taken (.acquire lock next) s a t
  | release {taken : List String} (lock : String) {next : Work α} {s t : Shared} {a : α}
      (h : AtOnce taken next s a t) : AtOnce taken (.release lock next) s a t

namespace AtOnce

theorem bind {taken : List String} {w : Work α} {f : α → Work β} {s t u : Shared} {a : α} {b : β}
    (hw : AtOnce taken w s a t) (hf : ∀ taken, AtOnce taken (f a) t b u) :
    AtOnce taken (w >>= f) s b u := by
  change AtOnce taken (Work.bind w f) s b u
  induction hw with
  | done taken a s => exact hf taken
  | look _ ih => exact .look (ih hf)
  | change _ ih => exact .change (ih hf)
  | acquire hfree _ ih => exact .acquire hfree (ih hf)
  | release lock _ ih => exact .release lock (ih hf)

theorem locked {taken : List String} {lock : String} {w : Work α} {s t : Shared} {a : α}
    (hfree : lock ∉ taken) (h : AtOnce (lock :: taken) w s a t) :
    AtOnce taken (Work.locked lock w) s a t :=
  .acquire hfree (h.bind fun taken => .release lock (.done taken a t))

end AtOnce

end Work

theorem Job.le_of_rank? {j : Job} {elapsed : Nat} {r : Rank} (h : j.rank? elapsed = some r) :
    elapsed ≤ r.moment := by
  unfold rank? at h
  split at h
  · split at h <;> cases h <;> exact Nat.le_max_left ..
  · cases h

theorem le_of_earliest? {elapsed : Nat} {jobs : List Job} {j : Job} {r : Rank} (hj : j ∈ jobs)
    (hr : j.rank? elapsed = some r) :
    ∃ first, earliest? elapsed jobs = some first ∧ first.2.moment ≤ r.moment := by
  have hbefore {a b : Rank} (h : a.before b = true) : a.moment ≤ b.moment := by
    simp only [Rank.before, Bool.or_eq_true, Bool.and_eq_true, decide_eq_true_eq] at h
    omega
  have hnot {a b : Rank} (h : ¬a.before b = true) : b.moment ≤ a.moment := by
    simp only [Rank.before, Bool.or_eq_true, Bool.and_eq_true, decide_eq_true_eq] at h
    omega
  induction jobs with
  | nil => cases hj
  | cons k rest ih =>
    -- the job in front competes with the first one of the rest, and who loses is no earlier
    unfold earliest?
    rcases List.mem_cons.mp hj with rfl | hj
    · rw [hr]
      split
      · exact absurd ‹some r = none› (by simp)
      · exact absurd ‹some r = none› (by simp)
      · cases ‹some r = some _›
        exact ⟨_, rfl, Nat.le_refl _⟩
      · cases ‹some r = some _›
        split
        · exact ⟨_, rfl, hbefore ‹_›⟩
        · exact ⟨_, rfl, Nat.le_refl _⟩
    · obtain ⟨⟨i, q⟩, hfirst, hle⟩ := ih hj
      rw [hfirst]
      split
      · exact absurd ‹some (i, q) = none› (by simp)
      · cases ‹some (i, q) = some _›
        exact ⟨_, rfl, hle⟩
      · exact absurd ‹some (i, q) = none› (by simp)
      · cases ‹some (i, q) = some _›
        split
        · exact ⟨_, rfl, hle⟩
        · exact ⟨_, rfl, Nat.le_trans (hnot ‹_›) hle⟩

namespace Pool

variable {p q : Pool}

theorem mem_held_giveBack {p : Pool} {lock l : String} (h : l ∈ (p.giveBack lock).held) :
    l ∈ p.held := by
  unfold giveBack at h
  split at h
  · exact h
  · exact List.mem_of_mem_erase h

/-- A check whose work leads to an end at once comes to this end in its turn. -/
theorem run_atOnce {taken : List String} {work : Work Source.Outcome} {s t : Shared}
    {outcome : Source.Outcome} (h : work.AtOnce taken s outcome t) {p : Pool} (hs : p.shared = s)
    (htaken : ∀ lock ∈ p.held, lock ∈ taken) {i n : Nat} (hn : p.running[i]? = some n) :
    (p.run i work).shared = t ∧ (p.run i work).running = p.running.eraseIdx i ∧
      (p.run i work).finished = p.finished ++ [(n, outcome)] := by
  induction h generalizing p with
  | done taken outcome s =>
    subst hs
    unfold run
    rw [finish_eq hn]
    exact ⟨rfl, (List.eraseIdx_map ..).symm, rfl⟩
  | look _ ih =>
    subst hs
    exact ih rfl htaken hn
  | @change taken f next s t a _ ih =>
    subst hs
    exact ih (p := { p with shared := f p.shared }) rfl htaken hn
  | @acquire taken lock next s t a hfree _ ih =>
    have hnot : p.held.contains lock = false := by
      simpa using fun hmem => hfree (htaken lock hmem)
    unfold run
    rw [hnot, if_neg Bool.false_ne_true]
    refine ih (p := { p with held := lock :: p.held }) hs (fun l hl => ?_) hn
    rcases List.mem_cons.mp hl with rfl | hl
    · exact List.mem_cons_self
    · exact List.mem_cons_of_mem _ (htaken l hl)
  | @release taken lock next s t a _ ih =>
    have hback := ih (p := p.giveBack lock) ((shared_giveBack p lock).trans hs)
      (fun l hl => htaken l (mem_held_giveBack hl)) (by rwa [running_giveBack])
    rw [running_giveBack, finished_giveBack] at hback
    exact hback

theorem shared_finish (p : Pool) (i : Nat) (outcome : Source.Outcome) :
    (p.finish i outcome).shared = p.shared := by
  unfold finish
  split <;> rfl

theorem elapsed_run {work : Work Source.Outcome} (hwork : work.Timeless) (p : Pool) (i : Nat) :
    (p.run i work).shared.elapsed = p.shared.elapsed := by
  induction hwork generalizing p with
  | done outcome => exact congrArg Shared.elapsed (p.shared_finish i outcome)
  | crash text => exact congrArg Shared.elapsed (p.shared_finish i _)
  | look _ ih => exact ih p.shared p
  | @change f _ hf _ ih => exact (ih { p with shared := f p.shared }).trans (hf p.shared)
  | pause millis _ ih =>
    unfold run
    split
    · exact ih p
    · rfl
  | request url timeout _ _ => exact p.shared.elapsed_request url timeout
  | acquire lock _ ih =>
    unfold run
    split
    · rfl
    · exact ih { p with held := lock :: p.held }
  | release lock _ ih =>
    exact (ih (p.giveBack lock)).trans (congrArg Shared.elapsed (p.shared_giveBack lock))

theorem mem_jobs_giveBack (hnodup : p.running.Nodup) {j : Job} (hj : j ∈ p.jobs) {moment turn : Nat}
    (hdue : j.phase = .due moment turn) (lock : String) : j ∈ (p.giveBack lock).jobs := by
  cases hfirst : firstWaiting? lock p.jobs with
  | none =>
    rw [giveBack_of_not_waiting hfirst]
    exact hj
  | some first =>
    obtain ⟨k, hk, hlocked⟩ := locked_of_firstWaiting? hfirst
    rw [giveBack_of_waiting hfirst]
    refine (mem_modify_iff hnodup hk _).mpr (.inr ⟨hj, fun heq => ?_⟩)
    rw [eq_of_id_eq hnodup (List.mem_of_getElem? hk) hj heq, hlocked] at hdue
    cases hdue

/-- A check that waits for its moment goes on waiting for it, whatever another one does. -/
theorem mem_jobs_run {j : Job} {moment turn : Nat} (hdue : j.phase = .due moment turn) {i id : Nat}
    (hne : j.id ≠ id) (work : Work Source.Outcome) {p : Pool} (hnodup : p.running.Nodup)
    (hj : j ∈ p.jobs) (hid : p.running[i]? = some id) : j ∈ (p.run i work).jobs := by
  have hfinish {p : Pool} (hnodup : p.running.Nodup) (hj : j ∈ p.jobs) (hid : p.running[i]? = some id)
      (outcome : Source.Outcome) : j ∈ (p.finish i outcome).jobs := by
    obtain ⟨k, hk, rfl⟩ := Option.map_eq_some_iff.mp ((List.getElem?_map ..).symm.trans hid)
    rw [finish_eq hid]
    exact (mem_eraseIdx_iff hnodup hk).mpr ⟨hj, hne⟩
  have hpark {p : Pool} (hnodup : p.running.Nodup) (hj : j ∈ p.jobs) (hid : p.running[i]? = some id)
      (phase : Nat → Phase) (rest : Work Source.Outcome) : j ∈ (p.park i phase rest).jobs := by
    obtain ⟨k, hk, rfl⟩ := Option.map_eq_some_iff.mp ((List.getElem?_map ..).symm.trans hid)
    exact (mem_modify_iff hnodup hk _).mpr (.inr ⟨hj, hne⟩)
  induction work generalizing p with
  | done outcome => exact hfinish hnodup hj hid outcome
  | crash text => exact hfinish hnodup hj hid _
  | look next ih => exact ih p.shared hnodup hj hid
  | change f next ih => exact ih (p := { p with shared := f p.shared }) hnodup hj hid
  | pause millis next ih =>
    unfold run
    split
    · exact ih hnodup hj hid
    · exact hpark hnodup hj hid _ next
  | request url timeout next ih => exact hpark (p := { p with shared := _ }) hnodup hj hid _ _
  | acquire lock next ih =>
    unfold run
    split
    · exact hpark hnodup hj hid _ next
    · exact ih (p := { p with held := lock :: p.held }) hnodup hj hid
  | release lock next ih =>
    exact ih (by rwa [running_giveBack]) (mem_jobs_giveBack hnodup hj hdue lock)
      (by rwa [running_giveBack])

/-- A check that begins with others is due from then on, with all of its work. -/
theorem due_spawnAll {n : Nat} {work : Work Source.Outcome} (foreground : Bool)
    (works : List (Work Source.Outcome)) {p : Pool}
    (h : (n, work) ∈ (List.range' p.fresh works.length).zip works) :
    ∃ j ∈ (p.spawnAll foreground works).1.jobs, j.id = n ∧ j.work = work ∧
      ∃ turn, j.phase = .due p.shared.elapsed turn := by
  have hkeep (works : List (Work Source.Outcome)) (p : Pool) :
      p.jobs ⊆ (p.spawnAll foreground works).1.jobs := by
    induction works generalizing p with
    | nil => exact List.Subset.refl _
    | cons work works ih => exact List.Subset.trans (List.subset_append_left _ _) (ih (p.spawn foreground work).1)
  induction works generalizing p with
  | nil => cases h
  | cons first works ih =>
    rw [List.length_cons, List.range'_succ, List.zip_cons_cons, List.mem_cons] at h
    rcases h with heq | hmem
    · obtain ⟨rfl, rfl⟩ := Prod.mk.inj heq
      exact ⟨⟨p.fresh, foreground, .due p.shared.elapsed p.fresh, work⟩,
        hkeep works (p.spawn foreground work).1 (List.mem_append_right _ List.mem_cons_self),
        rfl, rfl, p.fresh, rfl⟩
    · exact ih (p := (p.spawn foreground first).1) hmem

/-- A check is due now, with all of its work, and no other check sets the clock. -/
structure Awaits (n : Nat) (work : Work Source.Outcome) (moment : Nat) (p : Pool) : Prop where
  nodup : p.running.Nodup
  due : ∃ j ∈ p.jobs, j.id = n ∧ j.work = work ∧ ∃ turn, j.phase = .due moment turn
  now : p.shared.elapsed = moment
  timeless : ∀ t ∈ p.tasks, t.1 ≠ n → t.2.Timeless

def upNext (n : Nat) (p : Pool) : Bool := p.next?.any fun first => p.running[first.1]? = some n

variable {n : Nat} {work : Work Source.Outcome} {moment : Nat}

namespace Awaits

theorem spawn (foreground : Bool) (hnodup : (p.spawn foreground work).1.running.Nodup)
    (htasks : ∀ t ∈ p.tasks, t.2.Timeless) :
    Awaits p.fresh work p.shared.elapsed (p.spawn foreground work).1 := by
  refine ⟨hnodup, ⟨_, List.mem_append_right _ List.mem_cons_self, rfl, rfl, p.fresh, rfl⟩, rfl,
    fun t ht hne => ?_⟩
  rw [tasks_spawn, List.mem_append, List.mem_singleton] at ht
  refine htasks t (ht.resolve_right ?_)
  rintro rfl
  exact hne rfl

theorem of_shared (h : Awaits n work moment p) {shared : Shared}
    (hshared : shared.elapsed = p.shared.elapsed) :
    Awaits n work moment { p with shared := shared } :=
  ⟨h.nodup, h.due, hshared.trans h.now, h.timeless⟩

theorem run {rest : Work Source.Outcome} (hrest : rest.Timeless) (h : Awaits n work moment p) {i id : Nat}
    (hid : p.running[i]? = some id) (hne : id ≠ n) : Awaits n work moment (p.run i rest) := by
  obtain ⟨j, hj, rfl, hwork, turn, hdue⟩ := h.due
  have houtlook := outlook_run rest hid
  obtain ⟨ended, -, hperm, -⟩ := houtlook.continues hid
  refine ⟨(List.nodup_append.mp (hperm.nodup_iff.mpr h.nodup)).1,
    ⟨j, mem_jobs_run hdue hne.symm rest h.nodup hj hid, rfl, hwork, turn, hdue⟩,
    (elapsed_run hrest p i).trans h.now, fun t ht htn => ?_⟩
  cases houtlook with
  | ends outcome _ htasks _ _ =>
    rw [htasks] at ht
    exact h.timeless t (List.mem_of_mem_eraseIdx ht) htn
  | waits left hpart htasks _ _ =>
    rw [htasks] at ht
    rcases List.mem_or_eq_of_mem_set ht with ht | rfl
    · exact h.timeless t ht htn
    · exact hrest.of_part hpart

theorem next?_eq (h : Awaits n work moment p) : ∃ i r, p.next? = some (i, r) ∧ r.moment = moment := by
  obtain ⟨j, hj, -, -, turn, hdue⟩ := h.due
  obtain ⟨rank, hrank, hmoment⟩ : ∃ rank, j.rank? p.shared.elapsed = some rank ∧
      rank.moment = moment := by
    rw [Job.rank?, hdue, h.now]
    dsimp only
    split
    · exact ⟨_, rfl, Nat.max_self _⟩
    · exact ⟨_, rfl, Nat.max_self _⟩
  obtain ⟨⟨i, r⟩, hfirst, hle⟩ := le_of_earliest? hj hrank
  obtain ⟨k, -, hk⟩ := rank_of_earliest? hfirst
  have hge : p.shared.elapsed ≤ r.moment := k.le_of_rank? hk
  rw [h.now] at hge
  exact ⟨i, r, hfirst, Nat.le_antisymm (hmoment ▸ hle) hge⟩

theorem step (h : Awaits n work moment p) {i : Nat} {r : Rank} (hnext : p.next? = some (i, r))
    (hturn : upNext n p = false) : Awaits n work moment (p.step i r.moment) := by
  obtain ⟨i', r', hnext', hmoment⟩ := h.next?_eq
  cases hnext.symm.trans hnext'
  obtain ⟨k, hk, -⟩ := rank_of_earliest? hnext
  have hid : p.running[i]? = some k.id := by simp [running, hk]
  have hne : k.id ≠ n := by
    rintro rfl
    simp [upNext, hnext, hid] at hturn
  have htimeless := h.timeless (k.id, k.work) (List.mem_map.mpr ⟨k, List.mem_of_getElem? hk, rfl⟩) hne
  have hadvanced : Awaits n work moment (p.advance r.moment) :=
    h.of_shared (by simp [hmoment, h.now])
  unfold Pool.step
  rw [hk]
  exact hadvanced.run htimeless hid hne

theorem own_turn (h : Awaits n work moment p) (hturn : upNext n p = true) :
    ∃ i r, p.next? = some (i, r) ∧ p.running[i]? = some n ∧ p.step i r.moment = p.run i work := by
  obtain ⟨i, r, hnext, hmoment⟩ := h.next?_eq
  obtain ⟨k, hk, -⟩ := rank_of_earliest? hnext
  have hid : p.running[i]? = some n := by simpa [upNext, hnext] using hturn
  obtain ⟨j, hj, hjid, hjwork, -⟩ := h.due
  have hkid : k.id = n := by simpa [running, hk] using hid
  obtain rfl : k = j := eq_of_id_eq h.nodup hj (List.mem_of_getElem? hk) (hkid.trans hjid.symm)
  have hadvance : p.advance r.moment = p := by
    rw [hmoment, ← h.now, advance, Nat.max_self]
  refine ⟨i, r, hnext, hid, ?_⟩
  rw [Pool.step, hk, hadvance, ← hjwork]

theorem ends_atOnce (h : Awaits n work moment p) (hturn : upNext n p = true) {outcome : Source.Outcome}
    {t : Shared} (hwork : work.AtOnce p.held p.shared outcome t) :
    ∃ i r, p.next? = some (i, r) ∧ (p.step i r.moment).shared = t ∧
      (p.step i r.moment).finished = p.finished ++ [(n, outcome)] := by
  obtain ⟨i, r, hnext, hid, hstep⟩ := h.own_turn hturn
  obtain ⟨hshared, -, hfinished⟩ := run_atOnce hwork rfl (fun _ hl => hl) hid
  exact ⟨i, r, hnext, hstep ▸ hshared, hstep ▸ hfinished⟩

/-- The turn of the check comes, and who waits for something that does not happen before, and longer than
to this moment, sees what comes after this turn. -/
theorem turn (h : Awaits n work moment p) (stop : Pool → Bool) (limit : Option Nat)
    (hstop : ∀ q, Awaits n work moment q → stop q = false) (hlimit : ∀ l ∈ limit, moment < l) :
    let q := p.runUntil (upNext n) none
    Awaits n work moment q ∧ upNext n q = true ∧
      ∀ i r, q.next? = some (i, r) → (q.step i r.moment).Reaches (p.runUntil stop limit) := by
  intro q
  have hlimit (r : Rank) (hmoment : r.moment = moment) : limit.any (· ≤ r.moment) = false := by
    cases limit with
    | none => rfl
    | some l => simpa [hmoment] using hlimit l rfl
  -- nothing ends the wait before the turn of the check, so that the wait passes through it
  obtain ⟨hq, hturn, heq⟩ : Awaits n work moment q ∧ upNext n q = true ∧
      p.runUntil stop limit = q.runUntil stop limit := by
    refine runUntil_through (fun q hq hturn => ⟨hstop q hq, ?_⟩) h
    obtain ⟨i, r, hnext, hmoment⟩ := hq.next?_eq
    exact ⟨i, r, hnext, hlimit r hmoment, hq.step hnext hturn⟩
  refine ⟨hq, hturn, fun i r hnext => ?_⟩
  obtain ⟨i', r', hnext', hmoment⟩ := hq.next?_eq
  cases hnext.symm.trans hnext'
  rw [heq, runUntil_of_next (by simp [hstop q hq]) hnext (by simp [hlimit r hmoment])]
  exact reaches_runUntil ..

end Awaits

end Pool

end TorrentSearch.Search
