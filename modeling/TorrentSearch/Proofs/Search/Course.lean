import TorrentSearch.Proofs.Search.Alone
import TorrentSearch.Proofs.Search.Locks

/-!
# Courses of checks

Checks begin at any time and go on at any moments. They are one after another if what they do is what
each of them does by itself.
-/

namespace TorrentSearch.Search

open Work (Alone)

/-- Some work, and then a lock is given back. -/
def Work.releasing {α : Type} (lock : String) (w : Work α) : Work α :=
  Work.bind w fun a => .release lock (.done a)

/-- A check by itself, with its number and with what it was asked for. -/
structure Visit (ι : Type) where
  number : Nat
  index : ι
  before : Shared
  outcome : Source.Outcome
  after : Shared

/-- The number of a check whose next step is to ask for a lock. -/
def Job.asks (j : Job) : List Nat :=
  match j.work with
  | .acquire .. => [j.id]
  | _ => []

theorem asks_releasing {lock : String} {w : Work Source.Outcome} (hw : w.Plain) {j : Job}
    (hj : j.work = w.releasing lock) : j.asks = [] := by
  unfold Job.asks
  rw [hj]
  cases hw <;> rfl

section

variable {ι : Type} (check : ι → Work Source.Outcome) (start : Shared)

/-- Visits one after another lead to a state, with time between them. -/
inductive Chain : List (Visit ι) → Shared → Prop where
  | start : Chain [] start
  | waits {visits : List (Visit ι)} {s t : Shared} (h : Chain visits s) (hs : s.Meanwhile t) :
      Chain visits t
  | visit {visits : List (Visit ι)} {v : Visit ι} (h : Chain visits v.before)
      (hv : Alone (check v.index) v.before v.outcome v.after) : Chain (visits ++ [v]) v.after

/-- The pools in which checks have begun, each at its time, and have gone on, each of them at any
moments at which it does not wait for a lock. The first list holds the numbers of the checks with what
they were asked for, the second one the numbers in the order in which the checks asked for a lock. -/
inductive Course : Pool → List (Nat × ι) → List Nat → Prop where
  | idle : Course (.idle start) [] []
  | begins {p : Pool} {begun : List (Nat × ι)} {asked : List Nat} (h : Course p begun asked)
      (foreground : Bool) (index : ι) :
      Course (p.spawn foreground (check index)).1 (begun ++ [(p.fresh, index)]) asked
  | goesOn {p : Pool} {begun : List (Nat × ι)} {asked : List Nat} (h : Course p begun asked)
      {i : Nat} {j : Job} (hj : p.jobs[i]? = some j)
      (hdue : ∀ lock turn, j.phase ≠ .locked lock turn) (moment : Nat) :
      Course (p.step i moment) begun (asked ++ j.asks)
  | waits {p : Pool} {begun : List (Nat × ι)} {asked : List Nat} (h : Course p begun asked)
      {s : Shared} (hs : p.shared.Meanwhile s) : Course { p with shared := s } begun asked

/-- Each check is plain work under the same lock, or it ends at once. -/
def UnderLock (lock : String) : Prop :=
  ∀ index, (∃ w, Work.Plain w ∧ check index = .locked lock w) ∨ ∃ outcome, check index = .done outcome

/-- The checks were one after another: the visits lead to what is shared now, they are those of the
checks that asked for the lock, in that order, and each check brought the outcome of its visit. -/
structure OneByOne (p : Pool) (begun : List (Nat × ι)) (asked : List Nat)
    (visits : List (Visit ι)) : Prop where
  chain : Chain check start visits p.shared
  order : visits.map Visit.number = asked
  once : asked.Nodup
  brought : ∀ v ∈ visits, (v.number, v.index) ∈ begun ∧ p.outcome? v.number = some v.outcome
  others : ∀ e ∈ begun, e.1 ∉ asked →
    ∃ outcome, check e.2 = .done outcome ∧ p.outcome? e.1 = some outcome

end

section

variable {jobs : List Job} {i : Nat} {j k : Job}

theorem eq_of_id_eq (hnodup : (jobs.map (·.id)).Nodup) (hj : j ∈ jobs) (hk : k ∈ jobs)
    (h : k.id = j.id) : k = j :=
  List.inj_on_of_nodup_map hnodup hk hj h

private theorem mem_others_iff (hnodup : (jobs.map (·.id)).Nodup) (hj : jobs[i]? = some j) :
    (∃ n, n ≠ i ∧ jobs[n]? = some k) ↔ k ∈ jobs ∧ k.id ≠ j.id := by
  constructor
  · rintro ⟨n, hn, hk⟩
    refine ⟨List.mem_of_getElem? hk, fun heq => hn ?_⟩
    have hsame : (jobs.map (·.id))[n]? = (jobs.map (·.id))[i]? := by simp [hk, hj, heq]
    refine (List.getElem?_inj ?_ hnodup).mp hsame
    rw [List.length_map]
    exact (List.getElem?_eq_some_iff.mp hk).1
  · rintro ⟨hk, hne⟩
    obtain ⟨n, hn⟩ := List.getElem?_of_mem hk
    refine ⟨n, ?_, hn⟩
    rintro rfl
    rw [hn, Option.some.injEq] at hj
    exact hne (congrArg Job.id hj)

theorem mem_eraseIdx_iff (hnodup : (jobs.map (·.id)).Nodup) (hj : jobs[i]? = some j) :
    k ∈ jobs.eraseIdx i ↔ k ∈ jobs ∧ k.id ≠ j.id := by
  rw [List.mem_eraseIdx_iff_getElem?, mem_others_iff hnodup hj]

theorem mem_modify_iff (hnodup : (jobs.map (·.id)).Nodup) (hj : jobs[i]? = some j) (f : Job → Job) :
    k ∈ jobs.modify i f ↔ k = f j ∨ k ∈ jobs ∧ k.id ≠ j.id := by
  rw [← mem_others_iff hnodup hj, List.mem_iff_getElem?]
  constructor
  · rintro ⟨n, hn⟩
    by_cases hin : i = n
    · subst hin
      rw [List.getElem?_modify_eq, hj, Option.map_eq_map, Option.map_some, Option.some.injEq] at hn
      exact .inl hn.symm
    · rw [List.getElem?_modify_ne _ _ hin] at hn
      exact .inr ⟨n, Ne.symm hin, hn⟩
  · rintro (rfl | ⟨n, hn, hk⟩)
    · refine ⟨i, ?_⟩
      rw [List.getElem?_modify_eq, hj]
      rfl
    · refine ⟨n, ?_⟩
      rw [List.getElem?_modify_ne _ _ (Ne.symm hn)]
      exact hk

end

end TorrentSearch.Search
