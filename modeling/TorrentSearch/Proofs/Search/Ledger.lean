import TorrentSearch.Proofs.Search.Course

/-!
# The books of a course

Which checks have begun, which have ended with what, and which wait for a lock in which order, is kept up
to date with everything that a check can do.
-/

namespace TorrentSearch.Search.Pool

section

variable {ι : Type} (check : ι → Work Source.Outcome) (lock : String)

/-- Every check that has begun is under way or has brought an outcome, and those in line, the first of
them in front, wait for the lock in the order of their turns. -/
structure Ledger (p : Pool) (begun : List (Nat × ι)) (asked : List Nat) (visits : List (Visit ι))
    (line : List (Nat × Nat)) : Prop where
  all : (p.running ++ p.finished.map Prod.fst).Perm (begun.map Prod.fst)
  nodup : (begun.map Prod.fst).Nodup
  old : ∀ n ∈ begun.map Prod.fst, n < p.fresh
  once : asked.Nodup
  asked_begun : ∀ n ∈ asked, n ∈ begun.map Prod.fst
  turns : line.Pairwise fun a b => a.2 < b.2
  turns_old : ∀ e ∈ line, e.2 < p.fresh
  present : ∀ e ∈ line, ∃ j ∈ p.jobs, j.id = e.1 ∧ j.phase = .locked lock e.2
  brought : ∀ v ∈ visits, (v.number, v.index) ∈ begun ∧ (v.number, v.outcome) ∈ p.finished
  others : ∀ e ∈ begun, e.1 ∈ p.finished.map Prod.fst → e.1 ∉ asked →
    ∃ outcome, check e.2 = .done outcome ∧ (e.1, outcome) ∈ p.finished

/-- A check that does not have the lock has not gone on yet, or it stands in line. -/
inductive Stands (begun : List (Nat × ι)) (asked : List Nat) (line : List (Nat × Nat)) (j : Job) :
    Prop where
  | fresh {index : ι} (hbegun : (j.id, index) ∈ begun) (hwork : j.work = check index)
      (hdue : ∀ lock turn, j.phase ≠ .locked lock turn) (hasked : j.id ∉ asked)
  | inLine {index : ι} {w : Work Source.Outcome} {turn : Nat} (hbegun : (j.id, index) ∈ begun)
      (hcheck : check index = .locked lock w) (hplain : w.Plain)
      (hwork : j.work = w.releasing lock) (hphase : j.phase = .locked lock turn)
      (hline : (j.id, turn) ∈ line)

end

section

variable {ι : Type} {check : ι → Work Source.Outcome} {lock : String} {p : Pool}
  {begun : List (Nat × ι)} {asked : List Nat} {visits : List (Visit ι)} {line : List (Nat × Nat)}
  {i : Nat} {j : Job} {index : ι}

namespace Ledger

theorem nodup_running (h : Ledger check lock p begun asked visits line) : p.running.Nodup :=
  (List.nodup_append.mp (h.all.nodup_iff.mpr h.nodup)).1

theorem nodup_finished (h : Ledger check lock p begun asked visits line) :
    (p.finished.map Prod.fst).Nodup :=
  (List.nodup_append.mp (h.all.nodup_iff.mpr h.nodup)).2.1

theorem index_eq (h : Ledger check lock p begun asked visits line) {n : Nat} {a b : ι}
    (ha : (n, a) ∈ begun) (hb : (n, b) ∈ begun) : a = b :=
  congrArg Prod.snd (List.inj_on_of_nodup_map h.nodup ha hb rfl)

theorem exists_other (h : Ledger check lock p begun asked visits line) (hj : p.jobs[i]? = some j)
    (hline : ∀ turn, j.phase ≠ .locked lock turn) {e : Nat × Nat} (he : e ∈ line) :
    ∃ k ∈ p.jobs, k.id ≠ j.id ∧ k.id = e.1 ∧ k.phase = .locked lock e.2 := by
  obtain ⟨k, hk, hid, hphase⟩ := h.present e he
  refine ⟨k, hk, fun heq => ?_, hid, hphase⟩
  rw [eq_of_id_eq h.nodup_running (List.mem_of_getElem? hj) hk heq] at hphase
  exact hline e.2 hphase

/-- A check that waits again leaves the books as they are, unless it stands in line. -/
theorem park (h : Ledger check lock p begun asked visits line) (hj : p.jobs[i]? = some j)
    (hline : ∀ turn, j.phase ≠ .locked lock turn) (phase : Nat → Phase)
    (rest : Work Source.Outcome) : Ledger check lock (p.park i phase rest) begun asked visits line := by
  have hrunning : (p.park i phase rest).running = p.running :=
    map_modify_eq_self (by intro; rfl) _ _
  refine { h with
    all := by rw [hrunning]; exact h.all
    old := fun n hn => Nat.lt_succ_of_lt (h.old n hn)
    turns_old := fun e he => Nat.lt_succ_of_lt (h.turns_old e he)
    present := fun e he => ?_ }
  obtain ⟨k, hk, hne, hid, hphase⟩ := h.exists_other hj hline he
  exact ⟨k, (mem_modify_iff h.nodup_running hj _).mpr (.inr ⟨hk, hne⟩), hid, hphase⟩

theorem finish (h : Ledger check lock p begun asked visits line) (hj : p.jobs[i]? = some j)
    (hline : ∀ turn, j.phase ≠ .locked lock turn) (outcome : Source.Outcome)
    (visits' : List (Visit ι))
    (hbrought : ∀ v ∈ visits', v ∈ visits ∨
      (v.number, v.index) ∈ begun ∧ (v.number, v.outcome) = (j.id, outcome))
    (hothers : j.id ∈ asked ∨ ∃ index, (j.id, index) ∈ begun ∧ check index = .done outcome) :
    Ledger check lock (p.finish i outcome) begun asked visits' line := by
  have hplace : p.running[i]? = some j.id := by simp [running, hj]
  have hall := (continues_finish hplace outcome).all_perm.trans h.all
  rw [finish_of_job hj] at hall ⊢
  refine { h with
    all := hall
    present := fun e he => ?_
    brought := fun v hv => ?_
    others := fun e he hend hasked => ?_ }
  · obtain ⟨k, hk, hne, hid, hphase⟩ := h.exists_other hj hline he
    exact ⟨k, (mem_eraseIdx_iff h.nodup_running hj).mpr ⟨hk, hne⟩, hid, hphase⟩
  · rcases hbrought v hv with hv | ⟨hbegun, heq⟩
    · exact ⟨(h.brought v hv).1, List.mem_append_left _ (h.brought v hv).2⟩
    · exact ⟨hbegun, List.mem_append_right _ (List.mem_singleton.mpr heq)⟩
  · rw [List.map_append, List.mem_append] at hend
    rcases hend with hend | hend
    · obtain ⟨o, hcheck, hmem⟩ := h.others e he hend hasked
      exact ⟨o, hcheck, List.mem_append_left _ hmem⟩
    · have hid : e.1 = j.id := by simpa using hend
      obtain ⟨index, hbegun, hcheck⟩ := hothers.resolve_left (hid ▸ hasked)
      have hindex : e.2 = index := h.index_eq he (hid ▸ hbegun)
      refine ⟨outcome, hindex ▸ hcheck, List.mem_append_right _ ?_⟩
      rw [hid]
      exact List.mem_singleton_self _

theorem giveBack {k : Job} {m turn : Nat}
    (h : Ledger check lock p begun asked visits ((k.id, turn) :: line)) (hk : p.jobs[m]? = some k)
    (hphase : k.phase = .locked lock turn) (hfirst : firstWaiting? lock p.jobs = some (m, turn)) :
    Ledger check lock (p.giveBack lock) begun asked visits line := by
  obtain ⟨hless, hturns⟩ := List.pairwise_cons.mp h.turns
  have hrunning := running_giveBack p lock
  rw [giveBack_of_waiting hfirst] at hrunning ⊢
  refine { h with
    all := by rw [hrunning]; exact h.all
    old := fun n hn => Nat.lt_succ_of_lt (h.old n hn)
    turns := hturns
    turns_old := fun e he => Nat.lt_succ_of_lt (h.turns_old e (List.mem_cons_of_mem _ he))
    present := fun e he => ?_ }
  obtain ⟨l, hl, hid, hlocked⟩ := h.present e (List.mem_cons_of_mem _ he)
  have hne : l.id ≠ k.id := by
    intro heq
    rw [eq_of_id_eq h.nodup_running (List.mem_of_getElem? hk) hl heq, hphase,
      Phase.locked.injEq] at hlocked
    exact Nat.ne_of_lt (hless e he) hlocked.2
  exact ⟨l, (mem_modify_iff h.nodup_running hk _).mpr (.inr ⟨hl, hne⟩), hid, hlocked⟩

theorem ask (h : Ledger check lock p begun asked visits line) (hbegun : (j.id, index) ∈ begun)
    (hasked : j.id ∉ asked) : Ledger check lock p begun (asked ++ [j.id]) visits line := by
  refine { h with
    once := ?_
    asked_begun := fun n hn => ?_
    others := fun e he hend hnew => h.others e he hend ?_ }
  · rw [List.nodup_append]
    refine ⟨h.once, List.nodup_singleton _, fun a ha b hb heq => hasked ?_⟩
    rwa [← List.mem_singleton.mp hb, ← heq]
  · rcases List.mem_append.mp hn with hn | hn
    · exact h.asked_begun n hn
    · rw [List.mem_singleton.mp hn]
      exact List.mem_map.mpr ⟨_, hbegun, rfl⟩
  · exact fun hin => hnew (List.mem_append_left _ hin)

theorem join (h : Ledger check lock p begun asked visits line) (hj : p.jobs[i]? = some j)
    (hdue : ∀ turn, j.phase ≠ .locked lock turn) (rest : Work Source.Outcome) :
    Ledger check lock (p.park i (.locked lock) rest) begun asked visits
      (line ++ [(j.id, p.fresh)]) := by
  have hparked := h.park hj hdue (.locked lock) rest
  refine { hparked with
    turns := ?_
    turns_old := fun e he => ?_
    present := fun e he => ?_ }
  · rw [List.pairwise_append]
    refine ⟨h.turns, List.pairwise_singleton _ _, fun a ha b hb => ?_⟩
    rw [List.mem_singleton.mp hb]
    exact h.turns_old a ha
  · rcases List.mem_append.mp he with he | he
    · exact hparked.turns_old e he
    · rw [List.mem_singleton.mp he]
      exact Nat.lt_succ_self _
  · rcases List.mem_append.mp he with he | he
    · exact hparked.present e he
    · rw [List.mem_singleton.mp he]
      exact ⟨_, (mem_modify_iff h.nodup_running hj _).mpr (.inl rfl), rfl, rfl⟩

theorem begins (h : Ledger check lock p begun asked visits line) (foreground : Bool)
    (work : Work Source.Outcome) (index : ι) :
    Ledger check lock (p.spawn foreground work).1 (begun ++ [(p.fresh, index)]) asked visits line := by
  have hnew : p.fresh ∉ begun.map Prod.fst := fun hin => Nat.lt_irrefl _ (h.old _ hin)
  have hmem {e : Nat × ι} (he : e ∈ begun) : e ∈ begun ++ [(p.fresh, index)] :=
    List.mem_append_left _ he
  refine { h with
    all := ?_
    nodup := ?_
    old := fun n hn => ?_
    asked_begun := fun n hn => ?_
    turns_old := fun e he => Nat.lt_succ_of_lt (h.turns_old e he)
    present := fun e he => ?_
    brought := fun v hv => ⟨hmem (h.brought v hv).1, (h.brought v hv).2⟩
    others := fun e he hend hasked => ?_ }
  · rw [running_spawn, List.append_assoc, List.map_append]
    have hswap : ([p.fresh] ++ p.finished.map Prod.fst).Perm (p.finished.map Prod.fst ++ [p.fresh]) :=
      List.perm_append_comm
    refine (hswap.append_left _).trans ?_
    rw [← List.append_assoc]
    exact h.all.append_right _
  · rw [List.map_append, List.nodup_append]
    refine ⟨h.nodup, List.nodup_singleton _, fun a ha b hb heq => hnew ?_⟩
    have hb : b = p.fresh := by simpa using hb
    rwa [← hb, ← heq]
  · rw [List.map_append, List.mem_append] at hn
    rcases hn with hn | hn
    · exact Nat.lt_succ_of_lt (h.old n hn)
    · have heq : n = p.fresh := by simpa using hn
      rw [heq]
      exact Nat.lt_succ_self _
  · rw [List.map_append]
    exact List.mem_append_left _ (h.asked_begun n hn)
  · obtain ⟨k, hk, hphase⟩ := h.present e he
    exact ⟨k, List.mem_append_left _ hk, hphase⟩
  · rcases List.mem_append.mp he with he | he
    · exact h.others e he hend hasked
    · rw [List.mem_singleton.mp he] at hend
      exact absurd (h.all.mem_iff.mp (List.mem_append_right _ hend)) hnew

end Ledger

/-- Who else waits does not matter for a check that has not gone on yet, and a check in line keeps its
turn when others come or go. -/
theorem Stands.imp {k : Job} (h : Stands check lock begun asked line k) {asked' : List Nat}
    {line' : List (Nat × Nat)} (hasked : k.id ∉ asked → k.id ∉ asked')
    (hline : ∀ turn, k.phase = .locked lock turn → (k.id, turn) ∈ line → (k.id, turn) ∈ line') :
    Stands check lock begun asked' line' k := by
  cases h with
  | fresh hbegun hwork hdue hnew => exact .fresh hbegun hwork hdue (hasked hnew)
  | inLine hbegun hcheck hplain hwork hphase hin =>
    exact .inLine hbegun hcheck hplain hwork hphase (hline _ hphase hin)

theorem Stands.begins {k : Job} (h : Stands check lock begun asked line k) (e : Nat × ι) :
    Stands check lock (begun ++ [e]) asked line k := by
  cases h with
  | fresh hbegun hwork hdue hasked =>
    exact .fresh (List.mem_append_left _ hbegun) hwork hdue hasked
  | inLine hbegun hcheck hplain hwork hphase hline =>
    exact .inLine (List.mem_append_left _ hbegun) hcheck hplain hwork hphase hline

theorem Ledger.stands_spawn (h : Ledger check lock p begun asked visits line) (foreground : Bool)
    (index : ι) {k : Job} (hk : k ∈ (p.spawn foreground (check index)).1.jobs) :
    k ∈ p.jobs ∨ k.id = p.fresh ∧
      Stands check lock (begun ++ [(p.fresh, index)]) asked line k := by
  rcases List.mem_append.mp hk with hk | hk
  · exact .inl hk
  · rw [List.mem_singleton.mp hk]
    refine .inr ⟨rfl, .fresh ?_ rfl (fun lock turn hlocked => by cases hlocked) ?_⟩
    · exact List.mem_append_right _ (List.mem_singleton_self _)
    · exact fun hin => Nat.lt_irrefl _ (h.old _ (h.asked_begun _ hin))

end

end TorrentSearch.Search.Pool
