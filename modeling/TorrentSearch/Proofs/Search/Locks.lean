import Mathlib.Logic.Function.Basic
import TorrentSearch.Proofs.Search.Progress
import TorrentSearch.Search.Orderly

/-!
# Locks

Every lock that is taken is in the hands of a check that is under way, and that check waits for a
moment and not for another lock. So as long as checks are under way, one of them can go on, and a
pool of orderly checks comes to its end. Who has which lock is not part of a pool: it is told by a
function from the numbers of the checks.
-/

namespace TorrentSearch.Search

theorem rank_of_earliest? {elapsed : Nat} {jobs : List Job} {i : Nat} {r : Rank}
    (h : earliest? elapsed jobs = some (i, r)) :
    ∃ j, jobs[i]? = some j ∧ j.rank? elapsed = some r := by
  induction jobs generalizing i r with
  | nil => simp [earliest?] at h
  | cons j rest ih =>
    unfold earliest? at h
    split at h
    · simp at h
    · rename_i hlater
      simp only [Option.some.injEq, Prod.mk.injEq] at h
      obtain ⟨rfl, rfl⟩ := h
      simpa using ih hlater
    · rename_i hnow _
      simp only [Option.some.injEq, Prod.mk.injEq] at h
      obtain ⟨rfl, rfl⟩ := h
      exact ⟨j, rfl, hnow⟩
    · rename_i hnow hlater
      split at h <;> simp only [Option.some.injEq, Prod.mk.injEq] at h <;> obtain ⟨rfl, rfl⟩ := h
      · simpa using ih hlater
      · exact ⟨j, rfl, hnow⟩

theorem rank_of_earliest?_none {elapsed : Nat} {jobs : List Job}
    (h : earliest? elapsed jobs = none) : ∀ j ∈ jobs, j.rank? elapsed = none := by
  induction jobs with
  | nil => simp
  | cons j rest ih =>
    unfold earliest? at h
    split at h
    · rename_i hnow hlater
      simpa [hnow] using ih hlater
    · simp at h
    · simp at h
    · split at h <;> simp at h

theorem Job.due_of_rank? {j : Job} {elapsed : Nat} {r : Rank} (h : j.rank? elapsed = some r)
    (lock : String) (turn : Nat) : j.phase ≠ .locked lock turn := by
  intro hphase
  simp [Job.rank?, hphase] at h

theorem Job.locked_of_rank? {j : Job} {elapsed : Nat} (h : j.rank? elapsed = none) :
    ∃ lock turn, j.phase = .locked lock turn := by
  cases hphase : j.phase with
  | due moment turn =>
    simp only [Job.rank?, hphase] at h
    split at h <;> simp at h
  | locked lock turn => exact ⟨lock, turn, rfl⟩

namespace Pool

theorem locked_of_firstWaiting? {lock : String} {jobs : List Job} {i turn : Nat}
    (h : firstWaiting? lock jobs = some (i, turn)) :
    ∃ j, jobs[i]? = some j ∧ j.phase = .locked lock turn := by
  induction jobs generalizing i turn with
  | nil => simp [firstWaiting?] at h
  | cons j rest ih =>
    have hlater {i turn : Nat} (h : ∃ a, firstWaiting? lock rest = some a ∧
        (a.1 + 1, a.2) = (i, turn)) : ∃ k, (j :: rest)[i]? = some k ∧ k.phase = .locked lock turn := by
      obtain ⟨⟨n, t⟩, hfirst, heq⟩ := h
      simp only [Prod.mk.injEq] at heq
      obtain ⟨rfl, rfl⟩ := heq
      simpa using ih hfirst
    simp only [firstWaiting?] at h
    split at h
    · rename_i l t hphase
      split at h
      · rename_i heq
        subst heq
        split at h
        · rename_i hsome
          split at h
          · exact hlater (Option.map_eq_some_iff.mp (hsome.trans h))
          · simp only [Option.some.injEq, Prod.mk.injEq] at h
            obtain ⟨rfl, rfl⟩ := h
            exact ⟨j, rfl, hphase⟩
        · simp only [Option.some.injEq, Prod.mk.injEq] at h
          obtain ⟨rfl, rfl⟩ := h
          exact ⟨j, rfl, hphase⟩
      · exact hlater (Option.map_eq_some_iff.mp h)
    · exact hlater (Option.map_eq_some_iff.mp h)

theorem not_locked_of_firstWaiting? {lock : String} {jobs : List Job}
    (h : firstWaiting? lock jobs = none) :
    ∀ j ∈ jobs, ∀ turn, j.phase ≠ .locked lock turn := by
  induction jobs with
  | nil => simp
  | cons j rest ih =>
    simp only [firstWaiting?] at h
    split at h
    · rename_i l t hphase
      split at h
      · split at h
        · split at h <;> simp at h
        · simp at h
      · rename_i hne
        intro k hk turn hlocked
        rcases List.mem_cons.mp hk with rfl | hk
        · rw [hphase] at hlocked
          simp only [Phase.locked.injEq] at hlocked
          exact hne hlocked.1
        · exact ih (Option.map_eq_none_iff.mp h) k hk turn hlocked
    · rename_i hphase
      intro k hk turn hlocked
      rcases List.mem_cons.mp hk with rfl | hk
      · simp [hphase] at hlocked
      · exact ih (Option.map_eq_none_iff.mp h) k hk turn hlocked

theorem le_of_firstWaiting? {lock : String} {jobs : List Job} {i turn : Nat}
    (h : firstWaiting? lock jobs = some (i, turn)) :
    ∀ j ∈ jobs, ∀ turn', j.phase = .locked lock turn' → turn ≤ turn' := by
  induction jobs generalizing i turn with
  | nil => simp
  | cons j rest ih =>
    intro k hk turn' hlocked
    simp only [firstWaiting?] at h
    cases hlater : firstWaiting? lock rest with
    | none =>
      have hfirst : k = j := by
        rcases List.mem_cons.mp hk with rfl | hk
        · rfl
        · exact absurd hlocked (not_locked_of_firstWaiting? hlater k hk turn')
      subst hfirst
      simp only [hlater, hlocked, Option.map_none, if_true, Option.some.injEq, Prod.mk.injEq] at h
      omega
    | some first =>
      obtain ⟨n, t⟩ := first
      have hrest (hk : k ∈ rest) : t ≤ turn' := ih hlater k hk turn' hlocked
      simp only [hlater, Option.map_some] at h
      rcases List.mem_cons.mp hk with rfl | hk
      · simp only [hlocked, if_true] at h
        split at h <;> simp only [Option.some.injEq, Prod.mk.injEq] at h <;> omega
      · have hle := hrest hk
        split at h
        · split at h
          · split at h <;> simp only [Option.some.injEq, Prod.mk.injEq] at h <;> omega
          · simp only [Option.some.injEq, Prod.mk.injEq] at h
            omega
        · simp only [Option.some.injEq, Prod.mk.injEq] at h
          omega

end Pool

namespace Work

variable {α : Type}

theorem Plain.of_part {v w : Work α} (hw : Plain w) (h : Relation.ReflTransGen After v w) :
    Plain v := by
  induction h using Relation.ReflTransGen.head_induction_on with
  | refl => exact hw
  | head hafter _ ih =>
    cases hafter with
    | look next s => cases ih with | look ih => exact ih s
    | change f next => cases ih with | change _ ih => exact ih
    | pause millis next => cases ih with | pause _ ih => exact ih
    | request url timeout next r => cases ih with | request _ _ ih => exact ih r
    | acquire lock next => cases ih
    | release lock next => cases ih

theorem Orderly.eq {a b : Option String} {w : Work α} (ha : Orderly a w) (hb : Orderly b w) :
    a = b := by
  induction ha generalizing b with
  | done | crash =>
    cases hb
    rfl
  | look _ ih =>
    let s : Shared := .start .epoch (.empty 0) .down []
    cases hb with | look hb => exact ih s (hb s)
  | change _ _ ih => cases hb with | change _ hb => exact ih hb
  | pause _ _ ih => cases hb with | pause _ hb => exact ih hb
  | request _ _ _ ih => cases hb with | request _ _ hb => exact ih .dropped (hb .dropped)
  | acquire | release =>
    cases hb
    rfl

end Work

/-- A check that waits is in order: its work is, with the lock that it has or is about to get, and
a check that waits for a lock has none, and somebody else has that one. -/
def Job.Abides (j : Job) (held : List String) (own : Option String) : Prop :=
  match j.phase with
  | .due .. => j.work.Orderly own
  | .locked lock _ => own = none ∧ lock ∈ held ∧ j.work.Orderly (some lock)

theorem Job.Abides.of_held {j : Job} {held held' : List String} {own : Option String}
    (h : j.Abides held own)
    (hheld : ∀ lock turn, j.phase = .locked lock turn → lock ∈ held → lock ∈ held') :
    j.Abides held' own := by
  unfold Job.Abides at h ⊢
  split
  · rename_i hphase
    simpa [hphase] using h
  · rename_i lock turn hphase
    rw [hphase] at h
    exact ⟨h.1, hheld lock turn hphase h.2.1, h.2.2⟩

namespace Pool

/-- No number is given twice, no lock is taken twice, and whoever has a lock is under way. -/
structure Books (grip : Nat → Option String) (p : Pool) : Prop where
  nodup : p.running.Nodup
  old : ∀ id ∈ p.running, id < p.fresh
  held_nodup : p.held.Nodup
  owned : ∀ lock ∈ p.held, ∃ id ∈ p.running, grip id = some lock

structure AtRest (grip : Nat → Option String) (p : Pool) : Prop extends Books grip p where
  abides : ∀ j ∈ p.jobs, j.Abides p.held (grip j.id)

/-- The check in place `i` goes on, and all others wait in order. -/
structure AtWork (grip : Nat → Option String) (p : Pool) (i : Nat) (j : Job) : Prop
    extends Books grip p where
  place : p.jobs[i]? = some j
  due : ∀ lock turn, j.phase ≠ .locked lock turn
  abides : ∀ n k, n ≠ i → p.jobs[n]? = some k → k.Abides p.held (grip k.id)

/-- The checks of the pool wait in order, whoever has the locks. -/
def Sound (p : Pool) : Prop := ∃ grip, AtRest grip p

variable {grip : Nat → Option String} {p : Pool} {i : Nat} {j : Job}

theorem Sound.nodup (hp : p.Sound) : p.running.Nodup := by
  obtain ⟨grip, h⟩ := hp
  exact h.nodup

theorem Sound.lt_fresh (hp : p.Sound) {id : Nat} (hid : id ∈ p.running) : id < p.fresh := by
  obtain ⟨grip, h⟩ := hp
  exact h.old id hid

theorem mem_running_of_getElem? (h : p.jobs[i]? = some j) : j.id ∈ p.running :=
  List.mem_map.mpr ⟨j, List.mem_of_getElem? h, rfl⟩

theorem Books.id_ne {n : Nat} {k : Job} (h : Books grip p) (hk : p.jobs[n]? = some k)
    (hj : p.jobs[i]? = some j) (hne : n ≠ i) : k.id ≠ j.id := by
  intro heq
  obtain ⟨hn, hkn⟩ := List.getElem?_eq_some_iff.mp hk
  obtain ⟨hi, hji⟩ := List.getElem?_eq_some_iff.mp hj
  have hn' : n < p.running.length := by simpa [running] using hn
  have hi' : i < p.running.length := by simpa [running] using hi
  have hsame : p.running[n] = p.running[i] := by simp [running, hkn, hji, heq]
  exact hne ((List.Nodup.getElem_inj_iff h.nodup).mp hsame)

theorem running_giveBack (p : Pool) (lock : String) : (p.giveBack lock).running = p.running := by
  rw [running_eq_tasks, tasks_giveBack, ← running_eq_tasks]

theorem giveBack_of_waiting {lock : String} {m turn : Nat}
    (h : firstWaiting? lock p.jobs = some (m, turn)) :
    p.giveBack lock =
      { p with
        jobs := p.jobs.modify m fun k => { k with phase := .due p.shared.elapsed p.fresh }
        fresh := p.fresh + 1 } := by
  unfold giveBack
  rw [h]

theorem giveBack_of_not_waiting {lock : String} (h : firstWaiting? lock p.jobs = none) :
    p.giveBack lock = { p with held := p.held.erase lock } := by
  unfold giveBack
  rw [h]

theorem AtWork.drop {lock : String} (h : AtWork grip p i j) (hown : grip j.id = some lock)
    (hfirst : firstWaiting? lock p.jobs = none) :
    AtWork (Function.update grip j.id none) { p with held := p.held.erase lock } i j := by
  refine ⟨⟨h.nodup, h.old, h.held_nodup.erase lock, fun l hl => ?_⟩, h.place, h.due,
    fun n k hn hk => ?_⟩
  · obtain ⟨hne, hmem⟩ := h.held_nodup.mem_erase_iff.mp hl
    obtain ⟨id, hid, hgrip⟩ := h.owned l hmem
    have hother : id ≠ j.id := by
      rintro rfl
      rw [hown] at hgrip
      exact hne (Option.some.inj hgrip).symm
    exact ⟨id, hid, by rw [Function.update_of_ne hother, hgrip]⟩
  · rw [Function.update_of_ne (h.id_ne hk h.place hn)]
    refine (h.abides n k hn hk).of_held fun l turn hlocked hmem => ?_
    refine (List.mem_erase_of_ne ?_).mpr hmem
    rintro rfl
    exact not_locked_of_firstWaiting? hfirst k (List.mem_of_getElem? hk) turn hlocked

/-- Who has which lock once the check `a` has handed a lock on to the check `b`. -/
private def passOn (grip : Nat → Option String) (a b : Nat) (lock : String) : Nat → Option String :=
  Function.update (Function.update grip a none) b (some lock)

private theorem passOn_to (a b : Nat) (lock : String) : passOn grip a b lock b = some lock :=
  Function.update_self ..

private theorem passOn_other {a b n : Nat} (ha : n ≠ a) (hb : n ≠ b) (lock : String) :
    passOn grip a b lock n = grip n := by
  rw [passOn, Function.update_of_ne hb, Function.update_of_ne ha]

private theorem passOn_from {a b : Nat} (h : a ≠ b) (lock : String) :
    passOn grip a b lock a = none := by
  rw [passOn, Function.update_of_ne h, Function.update_self]

/-- No lock loses its owner on the way from one check to another that had none. -/
private theorem owned_passOn {a b : Nat} {lock : String} {ids : List Nat} (ha : grip a = some lock)
    (hb : grip b = none) (hmem : b ∈ ids) {l : String} (h : ∃ id ∈ ids, grip id = some l) :
    ∃ id ∈ ids, passOn grip a b lock id = some l := by
  obtain ⟨id, hid, hgrip⟩ := h
  by_cases hl : l = lock
  · subst hl
    exact ⟨b, hmem, passOn_to a b l⟩
  · refine ⟨id, hid, ?_⟩
    rw [passOn_other ?_ ?_, hgrip]
    · rintro rfl
      rw [ha] at hgrip
      exact hl (Option.some.inj hgrip).symm
    · rintro rfl
      rw [hb] at hgrip
      cases hgrip

/-- The first check that waits for a lock is another one than the check at work, and in order. -/
private theorem AtWork.first_waiting {lock : String} {m turn : Nat} (h : AtWork grip p i j)
    (hfirst : firstWaiting? lock p.jobs = some (m, turn)) :
    ∃ k, p.jobs[m]? = some k ∧ m ≠ i ∧ grip k.id = none ∧ k.work.Orderly (some lock) := by
  obtain ⟨k, hk, hlocked⟩ := locked_of_firstWaiting? hfirst
  have hm : m ≠ i := by
    rintro rfl
    rw [h.place, Option.some.injEq] at hk
    subst hk
    exact h.due lock turn hlocked
  have habides := h.abides m k hm hk
  simp only [Job.Abides, hlocked] at habides
  exact ⟨k, hk, hm, habides.1, habides.2.2⟩

/-- A lock that others wait for goes to the first of them, which can go on then. -/
theorem AtWork.handOver {lock : String} {m turn : Nat} (h : AtWork grip p i j)
    (hown : grip j.id = some lock) (hfirst : firstWaiting? lock p.jobs = some (m, turn)) :
    ∃ grip', AtWork grip' (p.giveBack lock) i j ∧ grip' j.id = none := by
  obtain ⟨k, hk, hm, hnone, horder⟩ := h.first_waiting hfirst
  have hkj : k.id ≠ j.id := h.id_ne hk h.place hm
  have hrunning := running_giveBack p lock
  rw [giveBack_of_waiting hfirst] at hrunning ⊢
  refine ⟨passOn grip j.id k.id lock, ⟨⟨hrunning ▸ h.nodup, fun id hid => ?_, h.held_nodup,
    fun l hl => ?_⟩, ?_, h.due, fun n q hn hq => ?_⟩, passOn_from hkj.symm lock⟩
  · rw [hrunning] at hid
    exact Nat.lt_succ_of_lt (h.old id hid)
  · rw [hrunning]
    exact owned_passOn hown hnone (mem_running_of_getElem? hk) (h.owned l hl)
  · rw [List.getElem?_modify_ne _ _ hm]
    exact h.place
  · by_cases hmn : m = n
    · subst hmn
      rw [List.getElem?_modify_eq, hk, Option.map_eq_map, Option.map_some, Option.some.injEq] at hq
      subst hq
      rw [passOn_to]
      exact horder
    · rw [List.getElem?_modify_ne _ _ hmn] at hq
      rw [passOn_other (h.id_ne hq h.place hn) (h.id_ne hq hk (Ne.symm hmn))]
      exact h.abides n q hn hq

theorem AtWork.giveBack {lock : String} (h : AtWork grip p i j) (hown : grip j.id = some lock) :
    ∃ grip', AtWork grip' (p.giveBack lock) i j ∧ grip' j.id = none := by
  cases hfirst : firstWaiting? lock p.jobs with
  | some first => exact h.handOver hown hfirst
  | none =>
    rw [giveBack_of_not_waiting hfirst]
    exact ⟨_, h.drop hown hfirst, Function.update_self ..⟩

theorem AtWork.take {lock : String} (h : AtWork grip p i j) (hown : grip j.id = none)
    (hfree : lock ∉ p.held) :
    AtWork (Function.update grip j.id (some lock)) { p with held := lock :: p.held } i j := by
  refine ⟨⟨h.nodup, h.old, List.nodup_cons.mpr ⟨hfree, h.held_nodup⟩, fun l hl => ?_⟩, h.place,
    h.due, fun n k hn hk => ?_⟩
  · rcases List.mem_cons.mp hl with rfl | hl
    · exact ⟨j.id, mem_running_of_getElem? h.place, by rw [Function.update_self]⟩
    · obtain ⟨id, hid, hgrip⟩ := h.owned l hl
      have hother : id ≠ j.id := by
        rintro rfl
        simp [hown] at hgrip
      exact ⟨id, hid, by rw [Function.update_of_ne hother, hgrip]⟩
  · rw [Function.update_of_ne (h.id_ne hk h.place hn)]
    exact (h.abides n k hn hk).of_held fun _ _ _ hmem => List.mem_cons_of_mem _ hmem

theorem AtWork.finish (h : AtWork grip p i j) (hown : grip j.id = none)
    (outcome : Source.Outcome) : AtRest grip (p.finish i outcome) := by
  have hplace : p.running[i]? = some j.id := by simp [running, h.place]
  rw [finish_eq hplace]
  have hrunning : (p.jobs.eraseIdx i).map (·.id) = p.running.eraseIdx i :=
    (List.eraseIdx_map _ _ _).symm
  refine ⟨⟨?_, fun id hid => ?_, h.held_nodup, fun lock hl => ?_⟩, fun k hk => ?_⟩
  · simpa [running, hrunning] using h.nodup.eraseIdx i
  · simp only [running, hrunning] at hid
    exact h.old id (List.mem_of_mem_eraseIdx hid)
  · obtain ⟨id, hid, hgrip⟩ := h.owned lock hl
    refine ⟨id, ?_, hgrip⟩
    have hother : id ≠ j.id := by
      rintro rfl
      simp [hown] at hgrip
    obtain ⟨n, hn⟩ := List.getElem?_of_mem hid
    simp only [running, hrunning]
    refine List.mem_eraseIdx_iff_getElem?.mpr ⟨n, ?_, hn⟩
    rintro rfl
    rw [hn, Option.some.injEq] at hplace
    exact hother hplace
  · obtain ⟨n, hn, hk⟩ := List.mem_eraseIdx_iff_getElem?.mp hk
    exact h.abides n k hn hk

theorem AtWork.park (h : AtWork grip p i j) {phase : Nat → Phase} {rest : Work Source.Outcome}
    (hj : ({ j with phase := phase p.fresh, work := rest } : Job).Abides p.held (grip j.id)) :
    AtRest grip (p.park i phase rest) := by
  have hrunning : (p.park i phase rest).running = p.running :=
    map_modify_eq_self (by intro; rfl) _ _
  refine ⟨⟨hrunning ▸ h.nodup, fun id hid => ?_, h.held_nodup, fun lock hl => ?_⟩, fun k hk => ?_⟩
  · rw [hrunning] at hid
    exact Nat.lt_succ_of_lt (h.old id hid)
  · rw [hrunning]
    exact h.owned lock hl
  · obtain ⟨n, hn⟩ := List.getElem?_of_mem hk
    rw [Pool.park] at hn
    by_cases hin : i = n
    · subst hin
      rw [List.getElem?_modify_eq, h.place, Option.map_eq_map, Option.map_some,
        Option.some.injEq] at hn
      subst hn
      exact hj
    · rw [List.getElem?_modify_ne _ _ hin] at hn
      exact h.abides n k (Ne.symm hin) hn

theorem sound_run {work : Work Source.Outcome} {own : Option String} (hwork : work.Orderly own)
    (h : AtWork grip p i j) (hown : grip j.id = own) : (p.run i work).Sound := by
  -- along the derivation that the work is orderly, which tells the lock in hand at each step
  induction hwork generalizing grip p with
  | done outcome => exact ⟨grip, h.finish hown outcome⟩
  | crash text => exact ⟨grip, h.finish hown _⟩
  | look _ ih => exact ih p.shared h hown
  | change f _ ih => exact ih (p := { p with shared := f p.shared }) { h with } hown
  | pause millis hnext ih =>
    unfold run
    split
    · exact ih h hown
    · exact ⟨grip, h.park (hown ▸ hnext)⟩
  | request url timeout hnext _ =>
    have h' : AtWork grip { p with shared := (p.shared.request url timeout).2 } i j := { h with }
    exact ⟨grip, h'.park (hown ▸ hnext _)⟩
  | acquire lock hnext ih =>
    unfold run
    split
    · rename_i htaken
      exact ⟨grip, h.park ⟨hown, List.contains_iff_mem.mp htaken, hnext⟩⟩
    · rename_i hfree
      exact ih (h.take hown (by simpa using hfree)) (Function.update_self ..)
  | release lock _ ih =>
    obtain ⟨grip', h', hown'⟩ := h.giveBack hown
    exact ih h' hown'

theorem sound_advance (hp : p.Sound) (moment : Nat) : (p.advance moment).Sound := by
  obtain ⟨grip, h⟩ := hp
  exact ⟨grip, { h with }⟩

/-- Whichever check goes on that does not wait for a lock, and whenever it does. -/
theorem Sound.step (hp : p.Sound) (hj : p.jobs[i]? = some j)
    (hdue : ∀ lock turn, j.phase ≠ .locked lock turn) (moment : Nat) : (p.step i moment).Sound := by
  obtain ⟨grip, hrest⟩ := sound_advance hp moment
  have hmem : j ∈ (p.advance moment).jobs := List.mem_of_getElem? hj
  have hwork : j.work.Orderly (grip j.id) := by
    have habides := hrest.abides j hmem
    cases hphase : j.phase with
    | due => simpa [Job.Abides, hphase] using habides
    | locked lock turn => exact absurd hphase (hdue lock turn)
  unfold Pool.step
  rw [hj]
  exact sound_run hwork ⟨hrest.toBooks, hj, hdue,
    fun n k _ hk => hrest.abides k (List.mem_of_getElem? hk)⟩ rfl

theorem Step.sound {q : Pool} (h : p.Step q) (hp : p.Sound) : q.Sound := by
  cases h with
  | waits moment => exact sound_advance hp moment
  | @goesOn i r hnext =>
    obtain ⟨j, hj, hrank⟩ := rank_of_earliest? hnext
    exact hp.step hj (Job.due_of_rank? hrank) r.moment

theorem Reaches.sound {q : Pool} (h : p.Reaches q) (hp : p.Sound) : q.Sound := by
  induction h with
  | refl => exact hp
  | tail _ hstep ih => exact hstep.sound ih

/-- No lock is taken if all work that is left is in order without any. -/
theorem Sound.held_eq_nil (hp : p.Sound) (htasks : ∀ t ∈ p.tasks, t.2.Orderly none) : p.held = [] := by
  obtain ⟨grip, h⟩ := hp
  refine List.eq_nil_iff_forall_not_mem.mpr fun lock hl => ?_
  obtain ⟨id, hid, hgrip⟩ := h.owned lock hl
  obtain ⟨j, hj, rfl⟩ := List.mem_map.mp hid
  have hnone : j.work.Orderly none := htasks (j.id, j.work) (List.mem_map.mpr ⟨j, hj, rfl⟩)
  have habides := h.abides j hj
  unfold Job.Abides at habides
  split at habides
  · rw [hgrip] at habides
    cases hnone.eq habides
  · rw [hgrip] at habides
    cases habides.1

theorem Sound.jobs_eq_nil (hp : p.Sound) (hnext : p.next? = none) : p.jobs = [] := by
  obtain ⟨grip, h⟩ := hp
  have hlocked (j : Job) (hj : j ∈ p.jobs) : ∃ lock ∈ p.held, grip j.id = none := by
    obtain ⟨lock, turn, hphase⟩ := Job.locked_of_rank? (rank_of_earliest?_none hnext j hj)
    have habides := h.abides j hj
    simp only [Job.Abides, hphase] at habides
    exact ⟨lock, habides.2.1, habides.1⟩
  refine List.eq_nil_iff_forall_not_mem.mpr fun j hj => ?_
  obtain ⟨lock, htaken, -⟩ := hlocked j hj
  obtain ⟨id, hid, hgrip⟩ := h.owned lock htaken
  obtain ⟨k, hk, rfl⟩ := List.mem_map.mp hid
  obtain ⟨-, -, hnone⟩ := hlocked k hk
  rw [hnone] at hgrip
  cases hgrip

/-- Waiting comes to its end if it ends at the latest when nothing is under way. -/
theorem Sound.stop_runUntil (hp : p.Sound) (stop : Pool → Bool)
    (hstop : ∀ q : Pool, q.jobs = [] → stop q = true) : stop (p.runUntil stop none) = true := by
  fun_induction runUntil stop none p with
  | case1 p h => exact h
  | case2 p h hnext => exact hstop _ (hp.jobs_eq_nil hnext)
  | case3 p h i r hnext hlimit => simp at hlimit
  | case4 p h i r hnext hlimit ih => exact ih ((Step.goesOn hnext).sound hp)

/-- Time goes by until nothing is left to do. -/
def atEnd (p : Pool) : Pool := p.runUntil (fun _ => false) none

theorem reaches_atEnd (p : Pool) : p.Reaches p.atEnd := reaches_runUntil ..

theorem atEnd_of_jobs_eq_nil (h : p.jobs = []) : p.atEnd = p := by
  have hnext : p.next? = none := by simp [next?, h, earliest?]
  unfold atEnd runUntil
  rw [if_neg Bool.false_ne_true]
  split
  · simp [advance]
  · rename_i hsome
    cases hnext.symm.trans hsome

theorem Sound.jobs_atEnd (hp : p.Sound) : p.atEnd.jobs = [] := by
  unfold atEnd
  fun_induction runUntil (fun _ => false) none p with
  | case1 p h => cases h
  | case2 p h hnext => exact hp.jobs_eq_nil hnext
  | case3 p h i r hnext hlimit => simp at hlimit
  | case4 p h i r hnext hlimit ih => exact ih ((Step.goesOn hnext).sound hp)

theorem Sound.runUntil_eq_atEnd (hp : p.Sound) {stop : Pool → Bool}
    (hstop : ∀ q, p.Reaches q → (stop q = true ↔ q.jobs = [])) : p.runUntil stop none = p.atEnd := by
  fun_induction runUntil stop none p with
  | case1 p h => exact (atEnd_of_jobs_eq_nil ((hstop p .refl).mp h)).symm
  | case2 p h hnext => exact absurd ((hstop p .refl).mpr (hp.jobs_eq_nil hnext)) h
  | case3 p h i r hnext hlimit => simp at hlimit
  | case4 p h i r hnext hlimit ih =>
    have hstep : p.Step (p.step i r.moment) := .goesOn hnext
    rw [ih (hstep.sound hp) fun q hq => hstop q (.head hstep hq)]
    exact (runUntil_of_next (by simp) hnext (by simp)).symm

theorem Sound.outcome?_atEnd (hp : p.Sound) (hfinished : p.finished = []) {n : Nat}
    (hn : n ∈ p.running) : ∃ outcome, p.atEnd.outcome? n = some outcome := by
  have hended : n ∉ p.atEnd.running := by simp [running, hp.jobs_atEnd]
  have hsome := mt ((p.reaches_atEnd.continues).outcome?_eq_none_iff hfinished hp.nodup hn).mp hended
  exact Option.ne_none_iff_exists'.mp hsome

theorem sound_idle (shared : Shared) : (idle shared).Sound :=
  ⟨fun _ => none, by constructor <;> simp [idle, running], by simp [idle]⟩

theorem sound_spawn (hp : p.Sound) (foreground : Bool) {work : Work Source.Outcome}
    (hwork : work.Orderly none) : (p.spawn foreground work).1.Sound := by
  obtain ⟨grip, h⟩ := hp
  have hother {id : Nat} (hid : id ∈ p.running) : id ≠ p.fresh := Nat.ne_of_lt (h.old id hid)
  refine ⟨Function.update grip p.fresh none, ⟨?_, fun id hid => ?_, h.held_nodup, fun lock hl => ?_⟩,
    fun k hk => ?_⟩
  · rw [running_spawn, List.nodup_append]
    refine ⟨h.nodup, List.nodup_singleton _, fun a ha b hb => ?_⟩
    rw [List.mem_singleton.mp hb]
    exact hother ha
  · rw [running_spawn, List.mem_append, List.mem_singleton] at hid
    rcases hid with hid | rfl
    · exact Nat.lt_succ_of_lt (h.old id hid)
    · exact Nat.lt_succ_self _
  · obtain ⟨id, hid, hgrip⟩ := h.owned lock hl
    refine ⟨id, ?_, by rw [Function.update_of_ne (hother hid), hgrip]⟩
    rw [running_spawn]
    exact List.mem_append_left _ hid
  · rcases List.mem_append.mp hk with hk | hk
    · rw [Function.update_of_ne (hother (List.mem_map.mpr ⟨k, hk, rfl⟩))]
      exact h.abides k hk
    · rw [List.mem_singleton.mp hk]
      simpa [Job.Abides] using hwork

theorem sound_spawnAll (foreground : Bool) {works : List (Work Source.Outcome)}
    (hworks : ∀ work ∈ works, work.Orderly none) (hp : p.Sound) :
    (p.spawnAll foreground works).1.Sound := by
  induction works generalizing p with
  | nil => exact hp
  | cons work works ih =>
    exact ih (fun w hw => hworks w (List.mem_cons_of_mem _ hw))
      (sound_spawn hp foreground (hworks work List.mem_cons_self))

end Pool

end TorrentSearch.Search
