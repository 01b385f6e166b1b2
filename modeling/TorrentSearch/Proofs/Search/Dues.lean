import Mathlib.Algebra.BigOperators.Group.List.Basic
import Mathlib.Algebra.Order.Ring.Int
import TorrentSearch.Proofs.Search.Paths

/-!
# Dues of checks

A number that the counters give grows while checks go on. What a check adds to it from now on, whatever
others do meanwhile, is its due. The number together with the dues of all checks under way never becomes
less, so once nothing is under way, the number alone comes to as much.
-/

namespace TorrentSearch.Search

open Relation (ReflTransGen)

namespace Shared

@[simp] theorem counters_lookup (id source : String) (maxAge : Time.Span) (s : Shared) :
    (s.lookup id source maxAge).2.counters =
      s.counters.observeLookup source (s.lookup id source maxAge).1.outcome := by
  rw [lookup]

@[simp] theorem counters_store (id source : String) (results : List Torrent) (s : Shared) :
    (s.store id source results).counters = s.counters := by
  rw [store]

@[simp] theorem counters_changeStub (i : Nat) (f : Source.Stub → Source.Stub) (s : Shared) :
    (s.changeStub i f).counters = s.counters := by
  rw [changeStub]

@[simp] theorem counters_request (url : String) (timeout : Nat) (s : Shared) :
    (s.request url timeout).2.counters = s.counters := by
  unfold request
  split <;> rfl

end Shared

/-- What an act adds to a number that the counters give. -/
def Act.gain (m : Counters → ℤ) : Act → ℤ
  | changed before after => m after.counters - m before.counters
  | requested .. => 0

namespace Work

variable {α β : Type} {m : Counters → ℤ}

/-- From a state on, the work adds at least so much to a number that the counters give, whatever others
do while it waits. -/
inductive Yields (m : Counters → ℤ) : Work α → Shared → ℤ → Prop where
  | done (a : α) (s : Shared) {d : ℤ} (hd : d ≤ 0) : Yields m (.done a) s d
  | crash (text : String) (s : Shared) {d : ℤ} (hd : d ≤ 0) : Yields m (.crash text) s d
  | look {next : Shared → Work α} {s : Shared} {d : ℤ} (h : Yields m (next s) s d) :
      Yields m (.look next) s d
  | change {f : Shared → Shared} {next : Work α} {s : Shared} {d : ℤ}
      (h : Yields m next (f s) (d - (m (f s).counters - m s.counters))) :
      Yields m (.change f next) s d
  | pause (millis : Nat) {next : Work α} {s : Shared} {d : ℤ} (h : ∀ t, Yields m next t d) :
      Yields m (.pause millis next) s d
  | request {url : String} {timeout : Nat} {next : Http.Reply → Work α} {s : Shared} {d : ℤ}
      (h : ∀ t, Yields m (next (s.request url timeout).1.2) t d) :
      Yields m (.request url timeout next) s d
  | acquire (lock : String) {next : Work α} {s : Shared} {d : ℤ} (h : ∀ t, Yields m next t d) :
      Yields m (.acquire lock next) s d
  | release (lock : String) {next : Work α} {s : Shared} {d : ℤ} (h : Yields m next s d) :
      Yields m (.release lock next) s d

theorem Sturdy.yields {w : Work α} (hw : w.Sturdy) {s : Shared} {d : ℤ}
    (h : ∀ acts a t, Path (fun _ _ => True) w s acts a t → d ≤ (acts.map (Act.gain m)).sum) :
    w.Yields m s d := by
  induction w generalizing s d with
  | done a => exact .done a s (h [] a s (.done a s))
  | crash text => exact absurd .refl (hw text)
  | look next ih =>
    have hnext := hw.of_part (.single (.look next s))
    exact .look (ih s hnext fun acts a t hpath => h acts a t (.look hpath))
  | change f next ih =>
    have hnext := hw.of_part (.single (.change f next))
    refine .change (ih hnext fun acts a t hpath => ?_)
    have hgain := h _ a t (.change hpath)
    rw [List.map_cons, List.sum_cons, Act.gain] at hgain
    omega
  | pause millis next ih =>
    have hnext := hw.of_part (.single (.pause millis next))
    exact .pause millis fun t => ih hnext fun acts a u hpath =>
      h acts a u (.pause millis trivial hpath)
  | request url timeout next ih =>
    have hnext := hw.of_part (.single (.request url timeout next (s.request url timeout).1.2))
    refine .request fun t => ih _ hnext fun acts a u hpath => ?_
    have hgain := h _ a u (.request trivial hpath)
    rwa [List.map_cons, List.sum_cons, Act.gain, zero_add] at hgain
  | acquire lock next ih =>
    have hnext := hw.of_part (.single (.acquire lock next))
    exact .acquire lock fun t => ih hnext fun acts a u hpath =>
      h acts a u (.acquire lock trivial hpath)
  | release lock next ih =>
    have hnext := hw.of_part (.single (.release lock next))
    exact .release lock (ih hnext fun acts a t hpath => h acts a t (.release lock hpath))

/-- Whatever the work does, it changes the counters only in ways that a relation allows. -/
inductive Counts (R : Counters → Counters → Prop) : Work α → Prop where
  | done (a : α) : Counts R (.done a)
  | crash (text : String) : Counts R (.crash text)
  | look {next : Shared → Work α} (h : ∀ s, Counts R (next s)) : Counts R (.look next)
  | change {f : Shared → Shared} {next : Work α} (hf : ∀ s, R s.counters (f s).counters)
      (h : Counts R next) : Counts R (.change f next)
  | pause (millis : Nat) {next : Work α} (h : Counts R next) : Counts R (.pause millis next)
  | request (url : String) (timeout : Nat) {next : Http.Reply → Work α}
      (h : ∀ r, Counts R (next r)) : Counts R (.request url timeout next)
  | acquire (lock : String) {next : Work α} (h : Counts R next) : Counts R (.acquire lock next)
  | release (lock : String) {next : Work α} (h : Counts R next) : Counts R (.release lock next)

namespace Counts

variable {R : Counters → Counters → Prop}

theorem pure (a : α) : Counts R (Pure.pure a : Work α) := .done a

theorem bind {w : Work α} {f : α → Work β} (hw : Counts R w) (hf : ∀ a, Counts R (f a)) :
    Counts R (w >>= f) := by
  change Counts R (Work.bind w f)
  induction hw with
  | done a => exact hf a
  | crash text => exact .crash text
  | look _ ih => exact .look ih
  | change hchange _ ih => exact .change hchange ih
  | pause millis _ ih => exact .pause millis ih
  | request url timeout _ ih => exact .request url timeout ih
  | acquire lock _ ih => exact .acquire lock ih
  | release lock _ ih => exact .release lock ih

theorem consult {f : Shared → α × Shared} (hf : ∀ s, R s.counters (f s).2.counters) :
    Counts R (consult f) :=
  .look fun _ => .change hf (.done _)

theorem update {f : Shared → Shared} (hf : ∀ s, R s.counters (f s).counters) :
    Counts R (update f) :=
  .change hf (.done ())

theorem wait (millis : Nat) : Counts R (wait millis) := .pause millis (.done ())

theorem yields {w : Work α} (hw : Counts R w) (hR : ∀ c c', R c c' → m c' = m c) (s : Shared) :
    w.Yields m s 0 := by
  induction hw generalizing s with
  | done a => exact .done a s le_rfl
  | crash text => exact .crash text s le_rfl
  | look _ ih => exact .look (ih s s)
  | change hchange _ ih =>
    refine .change ?_
    rw [hR _ _ (hchange s), sub_self, sub_self]
    exact ih _
  | pause millis _ ih => exact .pause millis ih
  | request url timeout _ ih => exact .request (ih _)
  | acquire lock _ ih => exact .acquire lock ih
  | release lock _ ih => exact .release lock (ih s)

end Counts

end Work

namespace Pool

open Work (Yields)

variable {m : Counters → ℤ} {p q : Pool} {total : ℤ}

/-- What becomes of a pool when the check in place `i` goes on with work that has some due: it has paid
all of it, or it waits, and the rest of its work has the rest of the due. -/
inductive Pays (m : Counters → ℤ) (p q : Pool) (i id : Nat) (due : ℤ) : Prop where
  | ends (htasks : q.tasks = p.tasks.eraseIdx i)
      (hpaid : m p.shared.counters + due ≤ m q.shared.counters)
  | waits (rest : Work Source.Outcome) (left : ℤ) (hrest : ∀ s, rest.Yields m s left)
      (htasks : q.tasks = p.tasks.set i (id, rest))
      (hpaid : m p.shared.counters + due ≤ m q.shared.counters + left)

theorem Pays.of_part {p' : Pool} {i id : Nat} {due left : ℤ} (h : Pays m p' q i id left)
    (htasks : p'.tasks = p.tasks)
    (hpaid : m p.shared.counters + due ≤ m p'.shared.counters + left) : Pays m p q i id due := by
  cases h with
  | ends ht hp => exact .ends (htasks ▸ ht) (hpaid.trans hp)
  | waits rest later hrest ht hp => exact .waits rest later hrest (htasks ▸ ht) (hpaid.trans hp)

theorem pays_run {work : Work Source.Outcome} {s : Shared} {due : ℤ} (hwork : work.Yields m s due)
    (hs : p.shared = s) {i id : Nat} (hid : p.running[i]? = some id) :
    Pays m p (p.run i work) i id due := by
  have hfinish {p : Pool} (hid : p.running[i]? = some id) (outcome : Source.Outcome) {due : ℤ}
      (hdue : due ≤ 0) : Pays m p (p.finish i outcome) i id due := by
    rw [finish_eq hid]
    exact .ends (List.eraseIdx_map _ _ _).symm (add_le_of_nonpos_right hdue)
  -- the state of the pool and the one that the work is at go along with each other
  induction hwork generalizing p with
  | done outcome s hdue => exact hfinish hid outcome hdue
  | crash text s hdue => exact hfinish hid _ hdue
  | look _ ih =>
    subst hs
    exact ih rfl hid
  | @change f next s due _ ih =>
    subst hs
    refine (ih (p := { p with shared := f p.shared }) rfl hid).of_part rfl ?_
    change _ ≤ m (f p.shared).counters + _
    omega
  | @pause millis next s due hnext ih =>
    unfold run
    split
    · exact ih p.shared rfl hid
    · exact .waits next due hnext (tasks_park hid _ next) le_rfl
  | @request url timeout next s due hnext ih =>
    subst hs
    refine .waits _ due hnext (tasks_park (p := { p with shared := _ }) hid _ _) ?_
    exact le_of_eq (congrArg (m · + due) (Shared.counters_request url timeout p.shared).symm)
  | @acquire lock next s due hnext ih =>
    unfold run
    split
    · exact .waits next due hnext (tasks_park hid _ next) le_rfl
    · exact (ih p.shared (p := { p with held := lock :: p.held }) rfl hid).of_part rfl le_rfl
  | @release lock next s due _ ih =>
    have hback : (p.giveBack lock).running[i]? = some id := by rwa [running_giveBack]
    refine (ih (p := p.giveBack lock) ((shared_giveBack p lock).trans hs) hback).of_part
      (tasks_giveBack p lock) ?_
    rw [shared_giveBack]

/-- A number that the counters give comes to at least so much together with the dues of all checks. -/
def Covers (m : Counters → ℤ) (total : ℤ) (p : Pool) : Prop :=
  ∃ ledger : List ((Nat × Work Source.Outcome) × ℤ), ledger.map Prod.fst = p.tasks ∧
    (∀ line ∈ ledger, ∀ s, line.1.2.Yields m s line.2) ∧
    total ≤ m p.shared.counters + (ledger.map Prod.snd).sum

theorem covers_idle (shared : Shared) : (idle shared).Covers m (m shared.counters) :=
  ⟨[], rfl, by simp, by simp [idle]⟩

theorem Covers.le (h : p.Covers m total) (hjobs : p.jobs = []) : total ≤ m p.shared.counters := by
  obtain ⟨ledger, htasks, -, htotal⟩ := h
  rw [tasks, hjobs, List.map_nil, List.map_eq_nil_iff] at htasks
  simpa [htasks] using htotal

theorem Covers.of_same (h : p.Covers m total) (htasks : q.tasks = p.tasks) {gain : ℤ}
    (hgain : m p.shared.counters + gain ≤ m q.shared.counters) : q.Covers m (total + gain) := by
  obtain ⟨ledger, hledger, hyields, htotal⟩ := h
  exact ⟨ledger, hledger.trans htasks.symm, hyields, by omega⟩

theorem Covers.of_counters (h : p.Covers m total) (htasks : q.tasks = p.tasks)
    (hcounters : q.shared.counters = p.shared.counters) : q.Covers m total := by
  rw [← add_zero total]
  exact h.of_same htasks (by rw [hcounters, add_zero])

theorem sum_dues {ledger : List ((Nat × Work Source.Outcome) × ℤ)} {i : Nat}
    {line : (Nat × Work Source.Outcome) × ℤ} (hget : ledger[i]? = some line) :
    (ledger.map Prod.snd).sum = line.2 + ((ledger.eraseIdx i).map Prod.snd).sum := by
  obtain ⟨hlt, rfl⟩ := List.getElem?_eq_some_iff.mp hget
  have hperm := (List.getElem_cons_eraseIdx_perm hlt).map Prod.snd
  rw [← hperm.sum_eq, List.map_cons, List.sum_cons]

theorem Covers.step (h : p.Covers m total) (hstep : p.Step q) : q.Covers m total := by
  obtain ⟨ledger, hledger, hyields, htotal⟩ := h
  obtain ⟨i, j, moment, hj, rfl⟩ | ⟨moment, rfl⟩ := hstep.cases_job
  · have htask : p.tasks[i]? = some (j.id, j.work) := by simp [tasks, hj]
    rw [← hledger, List.getElem?_map] at htask
    obtain ⟨⟨task, due⟩, hget, rfl⟩ := Option.map_eq_some_iff.mp htask
    obtain ⟨hlt, -⟩ := List.getElem?_eq_some_iff.mp hget
    have hwork : ∀ s, j.work.Yields m s due := hyields _ (List.mem_of_getElem? hget)
    have hid : (p.advance moment).running[i]? = some j.id := by simp [running, advance, hj]
    have hothers : ∀ line ∈ ledger.eraseIdx i, ∀ s, line.1.2.Yields m s line.2 :=
      fun line hline => hyields line (List.mem_of_mem_eraseIdx hline)
    have hstep : p.step i moment = (p.advance moment).run i j.work := by
      unfold Pool.step
      rw [hj]
    rw [sum_dues hget] at htotal
    rw [hstep]
    cases pays_run (hwork (p.advance moment).shared) rfl hid with
    | ends htasks hpaid =>
      refine ⟨ledger.eraseIdx i, ?_, hothers, ?_⟩
      · rw [htasks, ← List.eraseIdx_map, hledger]
        rfl
      · have hpaid : m p.shared.counters + due ≤ _ := hpaid
        dsimp only at htotal
        omega
    | waits rest left hrest htasks hpaid =>
      have hset := List.set_perm_cons_eraseIdx hlt ((j.id, rest), left)
      refine ⟨ledger.set i ((j.id, rest), left), ?_, fun line hline => ?_, ?_⟩
      · rw [htasks, List.map_set, hledger]
        rfl
      · rcases List.mem_cons.mp (hset.mem_iff.mp hline) with rfl | hline
        · exact hrest
        · exact hothers line hline
      · have hpaid : m p.shared.counters + due ≤ _ := hpaid
        rw [(hset.map Prod.snd).sum_eq, List.map_cons, List.sum_cons]
        dsimp only at htotal ⊢
        omega
  · exact ⟨ledger, hledger, hyields, htotal⟩

theorem Covers.reaches (h : p.Covers m total) (hreaches : p.Reaches q) : q.Covers m total := by
  induction hreaches with
  | refl => exact h
  | tail _ hstep ih => exact ih.step hstep

theorem Covers.spawn (h : p.Covers m total) (foreground : Bool) {work : Work Source.Outcome} {due : ℤ}
    (hwork : ∀ s, work.Yields m s due) : (p.spawn foreground work).1.Covers m (total + due) := by
  obtain ⟨ledger, hledger, hyields, htotal⟩ := h
  refine ⟨ledger ++ [((p.fresh, work), due)], ?_, fun line hline => ?_, ?_⟩
  · rw [List.map_append, hledger, tasks_spawn]
    rfl
  · rcases List.mem_append.mp hline with hline | hline
    · exact hyields line hline
    · rw [List.mem_singleton.mp hline]
      exact hwork
  · rw [List.map_append, List.sum_append]
    change _ ≤ m p.shared.counters + _
    simp only [List.map_cons, List.map_nil, List.sum_singleton]
    omega

theorem Covers.spawnAll {ι : Type} {work : ι → Work Source.Outcome} {due : ι → ℤ} (foreground : Bool)
    {l : List ι} (hwork : ∀ a ∈ l, ∀ s, (work a).Yields m s (due a)) (h : p.Covers m total) :
    (p.spawnAll foreground (l.map work)).1.Covers m (total + (l.map due).sum) := by
  induction l generalizing p total with
  | nil => simpa [Pool.spawnAll] using h
  | cons a l ih =>
    obtain ⟨ha, hl⟩ := List.forall_mem_cons.mp hwork
    rw [List.map_cons, List.sum_cons, ← add_assoc]
    exact ih hl (h.spawn foreground ha)

end Pool

end TorrentSearch.Search
