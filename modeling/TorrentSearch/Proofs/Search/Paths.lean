import TorrentSearch.Proofs.Search.Alone
import TorrentSearch.Proofs.Search.Locks

/-!
# What a check does

A check reads and changes what is shared, and learns what becomes of its requests. A path lists what
some work does on the way to its answer, whatever others do meanwhile; a trail lists what a check does
that goes on in a pool among others. What a check does in a pool is a path of its work.
-/

namespace TorrentSearch.Search

open Relation (ReflTransGen)

/-- What a check does: a change of what is shared, with the states before and after it, or a request
with its reply. -/
inductive Act where
  | changed (before after : Shared)
  | requested (url : String) (reply : Http.Reply)

namespace Act

variable {γ : Type} (view : Shared → γ)

/-- The act leaves a view of what is shared as it is. -/
def Keeps : Act → Prop
  | changed before after => view after = view before
  | requested .. => True

/-- The acts lead from one view of what is shared to another one: each change begins with the view with
which the change before it ended. -/
def Linked (v : γ) : List Act → γ → Prop
  | [], w => w = v
  | changed before after :: acts, w => view before = v ∧ Linked (view after) acts w
  | requested .. :: acts, w => Linked v acts w

variable {view}

theorem Linked.append {v w : γ} {first second : List Act} (h : Linked view v (first ++ second) w) :
    ∃ u, Linked view v first u ∧ Linked view u second w := by
  induction first generalizing v with
  | nil => exact ⟨v, rfl, h⟩
  | cons act first ih =>
    cases act with
    | changed before after =>
      obtain ⟨u, hfirst, hsecond⟩ := ih h.2
      exact ⟨u, ⟨h.1, hfirst⟩, hsecond⟩
    | requested url reply => exact ih h

theorem Linked.eq_of_keeps {v w : γ} {acts : List Act} (h : Linked view v acts w)
    (hkeeps : ∀ act ∈ acts, act.Keeps view) : w = v := by
  induction acts generalizing v with
  | nil => exact h
  | cons act acts ih =>
    obtain ⟨hact, hrest⟩ := List.forall_mem_cons.mp hkeeps
    cases act with
    | changed before after =>
      have hact : view after = view before := hact
      exact (ih h.2 hrest).trans (hact.trans h.1)
    | requested url reply => exact ih h hrest

end Act

namespace Work

variable {α β : Type} {E : Shared → Shared → Prop}

/-- Over the acts, the work leads from the first state to an answer and the second state. While it
waits, others take what is shared from one state to another that is related to it. -/
inductive Path (E : Shared → Shared → Prop) : Work α → Shared → List Act → α → Shared → Prop where
  | done (a : α) (s : Shared) : Path E (.done a) s [] a s
  | look {next : Shared → Work α} {s t : Shared} {acts : List Act} {a : α}
      (h : Path E (next s) s acts a t) : Path E (.look next) s acts a t
  | change {f : Shared → Shared} {next : Work α} {s t : Shared} {acts : List Act} {a : α}
      (h : Path E next (f s) acts a t) : Path E (.change f next) s (.changed s (f s) :: acts) a t
  | pause (millis : Nat) {next : Work α} {s s' t : Shared} {acts : List Act} {a : α} (hs : E s s')
      (h : Path E next s' acts a t) : Path E (.pause millis next) s acts a t
  | request {url : String} {timeout : Nat} {next : Http.Reply → Work α} {s s' t : Shared}
      {acts : List Act} {a : α} (hs : E (s.request url timeout).2 s')
      (h : Path E (next (s.request url timeout).1.2) s' acts a t) :
      Path E (.request url timeout next) s (.requested url (s.request url timeout).1.2 :: acts) a t
  | acquire (lock : String) {next : Work α} {s s' t : Shared} {acts : List Act} {a : α} (hs : E s s')
      (h : Path E next s' acts a t) : Path E (.acquire lock next) s acts a t
  | release (lock : String) {next : Work α} {s t : Shared} {acts : List Act} {a : α}
      (h : Path E next s acts a t) : Path E (.release lock next) s acts a t

namespace Path

theorem of_bind {w : Work α} {f : α → Work β} {s u : Shared} {acts : List Act} {b : β}
    (h : Path E (w >>= f) s acts b u) : ∃ first second a t, acts = first ++ second ∧
      Path E w s first a t ∧ Path E (f a) t second b u := by
  change Path E (Work.bind w f) s acts b u at h
  induction w generalizing s acts with
  | done a => exact ⟨[], acts, a, s, rfl, .done a s, h⟩
  | crash text => cases h
  | look next ih =>
    cases h with
    | look h =>
      obtain ⟨first, second, a, t, rfl, hw, hf⟩ := ih s h
      exact ⟨first, second, a, t, rfl, .look hw, hf⟩
  | change f next ih =>
    cases h with
    | change h =>
      obtain ⟨first, second, a, t, rfl, hw, hf⟩ := ih h
      exact ⟨_, second, a, t, rfl, .change hw, hf⟩
  | pause millis next ih =>
    cases h with
    | pause _ hs h =>
      obtain ⟨first, second, a, t, rfl, hw, hf⟩ := ih h
      exact ⟨first, second, a, t, rfl, .pause millis hs hw, hf⟩
  | request url timeout next ih =>
    cases h with
    | request hs h =>
      obtain ⟨first, second, a, t, rfl, hw, hf⟩ := ih _ h
      exact ⟨_, second, a, t, rfl, .request hs hw, hf⟩
  | acquire lock next ih =>
    cases h with
    | acquire _ hs h =>
      obtain ⟨first, second, a, t, rfl, hw, hf⟩ := ih h
      exact ⟨first, second, a, t, rfl, .acquire lock hs hw, hf⟩
  | release lock next ih =>
    cases h with
    | release _ h =>
      obtain ⟨first, second, a, t, rfl, hw, hf⟩ := ih h
      exact ⟨first, second, a, t, rfl, .release lock hw, hf⟩

theorem of_pure {a b : α} {s t : Shared} {acts : List Act} (h : Path E (pure a) s acts b t) :
    acts = [] ∧ b = a ∧ t = s := by
  cases h with
  | done a s => exact ⟨rfl, rfl, rfl⟩

theorem of_update {f : Shared → Shared} {s t : Shared} {acts : List Act} {a : Unit}
    (h : Path E (update f) s acts a t) : acts = [.changed s (f s)] ∧ t = f s := by
  cases h with
  | change h =>
    cases h with
    | done a s => exact ⟨rfl, rfl⟩

theorem of_consult {f : Shared → α × Shared} {s t : Shared} {acts : List Act} {a : α}
    (h : Path E (consult f) s acts a t) : acts = [.changed s (f s).2] ∧ a = (f s).1 ∧ t = (f s).2 := by
  cases h with
  | look h =>
    cases h with
    | change h =>
      cases h with
      | done a s => exact ⟨rfl, rfl, rfl⟩

theorem of_wait {millis : Nat} {s t : Shared} {acts : List Act} {a : Unit}
    (h : Path E (wait millis) s acts a t) : acts = [] ∧ E s t := by
  cases h with
  | pause _ hs h =>
    cases h with
    | done a s => exact ⟨rfl, hs⟩

theorem of_locked {lock : String} {w : Work α} {s t : Shared} {acts : List Act} {a : α}
    (h : Path E (locked lock w) s acts a t) : ∃ s', E s s' ∧ Path E w s' acts a t := by
  cases h with
  | acquire _ hs h =>
    obtain ⟨first, second, b, u, rfl, hw, hback⟩ := of_bind h
    cases hback with
    | release _ hdone =>
      cases hdone with
      | done a s =>
        rw [List.append_nil]
        exact ⟨_, hs, hw⟩

/-- If others keep a view meanwhile, and requests do, then it changes by the acts only. -/
theorem linked {γ : Type} (view : Shared → γ) (hE : ∀ s t, E s t → view t = view s)
    (hrequest : ∀ url timeout s, view (s.request url timeout).2 = view s) {w : Work α} {s t : Shared}
    {acts : List Act} {a : α} (h : Path E w s acts a t) : Act.Linked view (view s) acts (view t) := by
  induction h with
  | done a s => rfl
  | look _ ih => exact ih
  | change _ ih => exact ⟨rfl, ih⟩
  | pause millis hs _ ih => exact hE _ _ hs ▸ ih
  | @request url timeout next s s' t acts a hs _ ih =>
    have hview : view s' = view s := (hE _ _ hs).trans (hrequest url timeout s)
    exact hview ▸ ih
  | acquire lock hs _ ih => exact hE _ _ hs ▸ ih
  | release lock _ ih => exact ih

theorem imp {E' : Shared → Shared → Prop} (hE : ∀ s t, E s t → E' s t) {w : Work α} {s t : Shared}
    {acts : List Act} {a : α} (h : Path E w s acts a t) : Path E' w s acts a t := by
  induction h with
  | done a s => exact .done a s
  | look _ ih => exact .look ih
  | change _ ih => exact .change ih
  | pause millis hs _ ih => exact .pause millis (hE _ _ hs) ih
  | request hs _ ih => exact .request (hE _ _ hs) ih
  | acquire lock hs _ ih => exact .acquire lock (hE _ _ hs) ih
  | release lock _ ih => exact .release lock ih

end Path

/-- No steps of the work lead to a breakdown. -/
def Sturdy (w : Work α) : Prop := ∀ text, ¬ ReflTransGen After (.crash text) w

theorem Sturdy.of_part {v w : Work α} (hw : w.Sturdy) (h : ReflTransGen After v w) : v.Sturdy :=
  fun text hcrash => hw text (hcrash.trans h)

theorem Plain.sturdy {w : Work α} (hw : w.Plain) : w.Sturdy := by
  intro text hcrash
  cases hw.of_part hcrash

theorem Plain.sturdy_locked {w : Work α} (lock : String) (hw : w.Plain) : (locked lock w).Sturdy := by
  -- what is left of it is plain work with the release behind it, or less than that
  have hparts (v : Work α) (h : ReflTransGen After v (locked lock w)) : v = locked lock w ∨
      (∃ w' : Work α, w'.Plain ∧ v = Work.bind w' fun a => .release lock (.done a)) ∨
      ∃ a, v = .done a := by
    induction h using ReflTransGen.head_induction_on with
    | refl => exact .inl rfl
    | @head u v hafter _ ih =>
      rcases ih with rfl | ⟨w', hplain, rfl⟩ | ⟨a, rfl⟩
      · cases hafter with
        | acquire => exact .inr (.inl ⟨w, hw, rfl⟩)
      · cases hplain with
        | done a => cases hafter with | release => exact .inr (.inr ⟨a, rfl⟩)
        | look hnext => cases hafter with | look _ s => exact .inr (.inl ⟨_, hnext s, rfl⟩)
        | change f hnext => cases hafter with | change => exact .inr (.inl ⟨_, hnext, rfl⟩)
        | pause millis hnext => cases hafter with | pause => exact .inr (.inl ⟨_, hnext, rfl⟩)
        | request url timeout hnext =>
          cases hafter with | request _ _ _ r => exact .inr (.inl ⟨_, hnext r, rfl⟩)
      · cases hafter
  intro text hcrash
  rcases hparts _ hcrash with h | ⟨w', hplain, h⟩ | ⟨a, h⟩
  · cases h
  · cases hplain <;> cases h
  · cases h

end Work

namespace Pool

open Work (Path Sturdy)

variable {E : Shared → Shared → Prop} {p q : Pool} {n : Nat} {acts : List Act}

/-- What a check does when it goes on with some work until it has to wait or ends. -/
def actsOf (work : Work Source.Outcome) (p : Pool) : List Act :=
  match work with
  | .done _ => []
  | .crash _ => []
  | .look next => actsOf (next p.shared) p
  | .change f next => .changed p.shared (f p.shared) :: actsOf next { p with shared := f p.shared }
  | .pause millis next => if millis = 0 then actsOf next p else []
  | .request url timeout _ => [.requested url (p.shared.request url timeout).1.2]
  | .acquire lock next =>
    if p.held.contains lock then [] else actsOf next { p with held := lock :: p.held }
  | .release lock next => actsOf next (p.giveBack lock)

/-- What becomes of a pool when the check in place `i` goes on with some work: it has taken a path to
its end, or it waits, and the way on from there completes a path. -/
inductive Goes (E : Shared → Shared → Prop) (p q : Pool) (i id : Nat) (work : Work Source.Outcome)
    (acts : List Act) : Prop where
  | ends (outcome : Source.Outcome) (hpath : Path E work p.shared acts outcome q.shared)
      (htasks : q.tasks = p.tasks.eraseIdx i) (hfinished : q.finished = p.finished ++ [(id, outcome)])
  | waits (rest : Work Source.Outcome) (hrest : rest.Sturdy)
      (hpath : ∀ s more outcome t, E q.shared s → Path E rest s more outcome t →
        Path E work p.shared (acts ++ more) outcome t)
      (htasks : q.tasks = p.tasks.set i (id, rest)) (hfinished : q.finished = p.finished)

theorem Goes.of_part {p' : Pool} {i id : Nat} {v w : Work Source.Outcome}
    (h : Goes E p' q i id v acts) (front : List Act) (htasks : p'.tasks = p.tasks) (hfinished : p'.finished = p.finished)
    (hpath : ∀ more outcome t, Path E v p'.shared more outcome t →
      Path E w p.shared (front ++ more) outcome t) :
    Goes E p q i id w (front ++ acts) := by
  cases h with
  | ends outcome hv ht hf => exact .ends outcome (hpath _ _ _ hv) (htasks ▸ ht) (hfinished ▸ hf)
  | waits rest hrest hv ht hf =>
    refine .waits rest hrest (fun s more outcome t hs h => ?_) (htasks ▸ ht) (hfinished ▸ hf)
    rw [List.append_assoc]
    exact hpath _ _ _ (hv s more outcome t hs h)

theorem goes_run (hE : ∀ s, E s s) {i id : Nat} (work : Work Source.Outcome) {p : Pool}
    (hwork : work.Sturdy) (h : p.running[i]? = some id) :
    Goes E p (p.run i work) i id work (actsOf work p) := by
  induction work generalizing p with
  | done outcome =>
    unfold run
    rw [finish_eq h]
    exact .ends outcome (.done outcome p.shared) (List.eraseIdx_map _ _ _).symm rfl
  | crash text => exact absurd .refl (hwork text)
  | look next ih =>
    have hnext : (next p.shared).Sturdy := hwork.of_part (.single (.look next _))
    exact (ih p.shared hnext h).of_part [] rfl rfl fun _ _ _ h => .look h
  | change f next ih =>
    have hnext : next.Sturdy := hwork.of_part (.single (.change f next))
    exact (ih (p := { p with shared := f p.shared }) hnext h).of_part
      [.changed p.shared (f p.shared)] rfl rfl fun _ _ _ h => .change h
  | pause millis next ih =>
    have hnext : next.Sturdy := hwork.of_part (.single (.pause millis next))
    unfold run actsOf
    split
    · exact (ih hnext h).of_part [] rfl rfl fun _ _ _ h => .pause millis (hE _) h
    · exact .waits next hnext (fun s _ _ _ hs h => .pause millis hs h) (tasks_park h _ next) rfl
  | request url timeout next ih =>
    have hnext := hwork.of_part (.single (.request url timeout next (p.shared.request url timeout).1.2))
    exact .waits _ hnext (fun s _ _ _ hs h => .request hs h)
      (tasks_park (p := { p with shared := _ }) h _ _) rfl
  | acquire lock next ih =>
    have hnext : next.Sturdy := hwork.of_part (.single (.acquire lock next))
    unfold run actsOf
    split
    · exact .waits next hnext (fun s _ _ _ hs h => .acquire lock hs h) (tasks_park h _ next) rfl
    · exact (ih (p := { p with held := lock :: p.held }) hnext h).of_part [] rfl rfl
        fun _ _ _ h => .acquire lock (hE _) h
  | release lock next ih =>
    have hnext : next.Sturdy := hwork.of_part (.single (.release lock next))
    have hback : (p.giveBack lock).running[i]? = some id := by rwa [running_giveBack]
    refine (ih hnext hback).of_part [] (tasks_giveBack p lock) (finished_giveBack p lock)
      fun _ _ _ h => .release lock ?_
    rwa [shared_giveBack] at h

/-- On the way from the first pool to the second one, the check of a number does the acts. -/
inductive Trail (n : Nat) (p : Pool) : List Act → Pool → Prop where
  | start : Trail n p [] p
  | waits {acts : List Act} {q : Pool} (h : Trail n p acts q) (moment : Nat) :
      Trail n p acts (q.advance moment)
  | goesOn {acts : List Act} {q : Pool} (h : Trail n p acts q) {i : Nat} {r : Rank} {j : Job}
      (hnext : q.next? = some (i, r)) (hj : q.jobs[i]? = some j) (hid : j.id = n) :
      Trail n p (acts ++ actsOf j.work (q.advance r.moment)) (q.step i r.moment)
  | others {acts : List Act} {q : Pool} (h : Trail n p acts q) {i : Nat} {r : Rank} {j : Job}
      (hnext : q.next? = some (i, r)) (hj : q.jobs[i]? = some j) (hid : j.id ≠ n) :
      Trail n p acts (q.step i r.moment)

theorem Trail.reaches (h : Trail n p acts q) : p.Reaches q := by
  induction h with
  | start => exact .refl
  | waits _ moment ih => exact ih.tail (.waits moment)
  | goesOn _ hnext _ _ ih => exact ih.tail (.goesOn hnext)
  | others _ hnext _ _ ih => exact ih.tail (.goesOn hnext)

theorem Reaches.trail (h : p.Reaches q) (n : Nat) : ∃ acts, Trail n p acts q := by
  induction h with
  | refl => exact ⟨[], .start⟩
  | tail _ hstep ih =>
    obtain ⟨acts, htrail⟩ := ih
    cases hstep with
    | waits moment => exact ⟨acts, htrail.waits moment⟩
    | @goesOn i r hnext =>
      obtain ⟨j, hj, -⟩ := rank_of_earliest? hnext
      by_cases hid : j.id = n
      · exact ⟨_, htrail.goesOn hnext hj hid⟩
      · exact ⟨_, htrail.others hnext hj hid⟩

theorem Outlook.mem_tasks {i id : Nat} {work : Work Source.Outcome} (h : Outlook p q i id work)
    (hid : p.running[i]? = some id) (hne : id ≠ n) {rest : Work Source.Outcome}
    (hmem : (n, rest) ∈ p.tasks) : (n, rest) ∈ q.tasks := by
  obtain ⟨k, hk⟩ := List.getElem?_of_mem hmem
  have hki : k ≠ i := by
    rintro rfl
    rw [running_eq_tasks, List.getElem?_map, hk] at hid
    exact hne (Option.some.inj hid).symm
  cases h with
  | ends outcome _ htasks _ _ =>
    rw [htasks]
    exact List.mem_eraseIdx_iff_getElem?.mpr ⟨k, hki, hk⟩
  | waits rest' _ htasks _ _ =>
    apply List.mem_of_getElem? (i := k)
    rw [htasks, List.getElem?_set_ne (Ne.symm hki), hk]

theorem Outlook.mem_finished_iff {i id : Nat} {work : Work Source.Outcome} (h : Outlook p q i id work)
    (hne : id ≠ n) (outcome : Source.Outcome) : (n, outcome) ∈ q.finished ↔ (n, outcome) ∈ p.finished := by
  cases h with
  | ends _ _ _ hfinished _ => simp [hfinished, hne.symm]
  | waits _ _ _ hfinished _ => rw [hfinished]

/-- What happens around a check, and only that: time goes by, and other checks go on. -/
structure Around (E : Shared → Shared → Prop) (n : Nat) (p : Pool) : Prop where
  refl : ∀ s, E s s
  trans : ∀ {s t u}, E s t → E t u → E s u
  elapse : ∀ s elapsed, E s { s with elapsed := elapsed }
  others : ∀ {q i r j}, p.Reaches q → q.next? = some (i, r) → q.jobs[i]? = some j → j.id ≠ n →
    E q.shared (q.step i r.moment).shared

theorem around_any (n : Nat) (p : Pool) : Around (fun _ _ => True) n p :=
  ⟨fun _ => trivial, fun _ _ => trivial, fun _ _ => trivial, fun _ _ _ _ => trivial⟩

theorem around_alone (hp : p.running = [n]) :
    Around (fun s t => t = { s with elapsed := t.elapsed }) n p := by
  refine ⟨fun _ => rfl, fun h h' => ?_, fun _ _ => rfl, fun hq _ hj hid => absurd ?_ hid⟩
  · rw [h', h]
  · have hmem := hq.running_subset (mem_running_of_getElem? hj)
    rw [hp] at hmem
    exact List.mem_singleton.mp hmem

/-- Where a check is that had some work to do and did the acts. -/
inductive Stage (E : Shared → Shared → Prop) (s : Shared) (n : Nat) (work : Work Source.Outcome)
    (acts : List Act) (q : Pool) : Prop where
  | underWay (rest : Work Source.Outcome) (hrest : rest.Sturdy) (hmem : (n, rest) ∈ q.tasks)
      (hopen : n ∉ q.finished.map Prod.fst)
      (hpath : ∀ s' more outcome t, E q.shared s' → Path E rest s' more outcome t →
        ∃ s₀, E s s₀ ∧ Path E work s₀ (acts ++ more) outcome t)
  | ended (outcome : Source.Outcome) (hended : n ∉ q.running)
      (honly : ∀ outcome', (n, outcome') ∈ q.finished ↔ outcome' = outcome)
      (hpath : ∃ s₀ t, E s s₀ ∧ Path E work s₀ acts outcome t ∧ E t q.shared)

theorem Stage.of_others {s : Shared} {work : Work Source.Outcome} {q r : Pool}
    (h : Stage E s n work acts q) (htrans : ∀ {s t u}, E s t → E t u → E s u)
    (hshared : E q.shared r.shared) (htasks : ∀ rest, (n, rest) ∈ q.tasks → (n, rest) ∈ r.tasks)
    (hrunning : n ∉ q.running → n ∉ r.running)
    (hfinished : ∀ outcome, (n, outcome) ∈ r.finished ↔ (n, outcome) ∈ q.finished) :
    Stage E s n work acts r := by
  cases h with
  | underWay rest hrest hmem hopen hpath =>
    refine .underWay rest hrest (htasks rest hmem) ?_ fun s' more outcome t hs h =>
      hpath s' more outcome t (htrans hshared hs) h
    simpa [hfinished] using hopen
  | ended outcome hended honly hpath =>
    obtain ⟨s₀, t, hs, hwork, ht⟩ := hpath
    exact .ended outcome (hrunning hended) (fun o => (hfinished o).trans (honly o))
      ⟨s₀, t, hs, hwork, htrans ht hshared⟩

theorem Stage.goesOn {s : Shared} {work : Work Source.Outcome} (h : Stage E s n work acts q)
    (hE : Around E n p) {i : Nat} {j : Job} (hj : q.jobs[i]? = some j) (hid : j.id = n)
    (hnodup : q.running.Nodup) (moment : Nat) :
    Stage E s n work (acts ++ actsOf j.work (q.advance moment)) (q.step i moment) := by
  have hrunning : q.running[i]? = some n := by simp [running, hj, hid]
  have hstep : q.step i moment = (q.advance moment).run i j.work := by
    unfold step
    rw [hj]
  cases h with
  | ended outcome hended _ _ => exact absurd (hid ▸ mem_running_of_getElem? hj) hended
  | underWay rest hrest hmem hopen hpath =>
    have htask : (n, j.work) ∈ q.tasks :=
      hid ▸ List.mem_map.mpr ⟨j, List.mem_of_getElem? hj, rfl⟩
    rw [running_eq_tasks] at hrunning hnodup
    obtain ⟨hlt, hget⟩ := List.getElem?_eq_some_iff.mp hrunning
    obtain rfl : rest = j.work :=
      congrArg Prod.snd (List.inj_on_of_nodup_map hnodup hmem htask rfl)
    have helapse : E q.shared (q.advance moment).shared := hE.elapse q.shared _
    rw [hstep]
    cases goes_run hE.refl j.work hrest (p := q.advance moment)
        (running_eq_tasks _ ▸ hrunning) with
    | ends outcome hrun htasks hfinished =>
      obtain ⟨s₀, hs, hwork⟩ := hpath _ _ _ _ helapse hrun
      refine .ended outcome ?_ (fun o => ?_) ⟨s₀, _, hs, hwork, hE.refl _⟩
      · have hperm := List.getElem_cons_eraseIdx_perm hlt
        rw [hget] at hperm
        rw [running_eq_tasks, htasks, ← List.eraseIdx_map]
        exact (List.nodup_cons.mp (hperm.nodup_iff.mpr hnodup)).1
      · have hold : (n, o) ∉ q.finished := fun h => hopen (List.mem_map.mpr ⟨_, h, rfl⟩)
        have hfinished' : (q.advance moment).finished = q.finished := rfl
        simp [hfinished, hfinished', hold]
    | waits rest' hrest' hrun htasks hfinished =>
      refine .underWay rest' hrest' ?_ (hfinished ▸ hopen) fun s' more outcome t hs h => ?_
      · rw [htasks]
        have hplace : i < q.tasks.length := by simpa using hlt
        exact List.mem_set hplace _
      · rw [List.append_assoc]
        exact hpath _ _ _ _ helapse (hrun s' more outcome t hs h)

/-- Each check of a pool is at some stage of its work, after what it did on the way. -/
theorem Trail.stage (h : Trail n p acts q) (hE : Around E n p) (hnodup : p.running.Nodup)
    (hopen : n ∉ p.finished.map Prod.fst) {work : Work Source.Outcome} (hwork : work.Sturdy)
    (htask : (n, work) ∈ p.tasks) : Stage E p.shared n work acts q := by
  induction h with
  | start =>
    refine .underWay work hwork htask hopen fun s' more outcome t hs h => ⟨s', hs, ?_⟩
    rwa [List.nil_append]
  | @waits acts q h moment ih =>
    exact ih.of_others hE.trans (hE.elapse _ _) (fun _ h => h) id fun _ => .rfl
  | @goesOn acts q h i r j hnext hj hid ih =>
    obtain ⟨ended, -, hperm, -⟩ := h.reaches.continues
    have hq := (List.nodup_append.mp (hperm.nodup_iff.mpr hnodup)).1
    exact ih.goesOn hE hj hid hq r.moment
  | @others acts q h i r j hnext hj hid ih =>
    have houtlook := outlook_step hj r.moment
    have hplace : q.running[i]? = some j.id := by simp [running, hj]
    refine ih.of_others hE.trans (hE.others h.reaches hnext hj hid)
      (fun rest hmem => houtlook.mem_tasks hplace hid hmem) (fun hn hmem => hn ?_)
      (houtlook.mem_finished_iff hid)
    exact Reaches.running_subset (.single (.goesOn hnext)) hmem

/-- From its beginning in the first pool to the second one, a check with some work has done the acts, and
it has brought the outcome. -/
def Brings (p : Pool) (foreground : Bool) (work : Work Source.Outcome) (acts : List Act)
    (outcome : Source.Outcome) (q : Pool) : Prop :=
  Trail p.fresh (p.spawn foreground work).1 acts q ∧ (p.fresh, outcome) ∈ q.finished

section

variable {foreground : Bool} {work : Work Source.Outcome} {outcome : Source.Outcome}

theorem stage_spawn (hp : p.Sound) (hnew : p.fresh ∉ p.finished.map Prod.fst) (hwork : work.Sturdy)
    (horderly : work.Orderly none) (hE : Around E p.fresh (p.spawn foreground work).1)
    (h : Trail p.fresh (p.spawn foreground work).1 acts q) :
    Stage E p.shared p.fresh work acts q :=
  h.stage hE (sound_spawn hp foreground horderly).nodup hnew hwork (by simp)

theorem Brings.path (h : p.Brings foreground work acts outcome q) (hp : p.Sound)
    (hnew : p.fresh ∉ p.finished.map Prod.fst) (hwork : work.Sturdy) (horderly : work.Orderly none)
    (hE : Around E p.fresh (p.spawn foreground work).1) :
    ∃ s t, E p.shared s ∧ Path E work s acts outcome t ∧ E t q.shared := by
  cases stage_spawn hp hnew hwork horderly hE h.1 with
  | underWay _ _ _ hopen _ => exact absurd (List.mem_map.mpr ⟨_, h.2, rfl⟩) hopen
  | ended outcome' _ honly hpath =>
    obtain rfl := (honly outcome).mp h.2
    exact hpath

/-- If no other check is under way, the first pool becomes the second one by the acts and by the clock. -/
theorem Brings.linked (h : p.Brings foreground work acts outcome q) (hp : p.Sound)
    (hnew : p.fresh ∉ p.finished.map Prod.fst) (hwork : work.Sturdy) (horderly : work.Orderly none)
    (hjobs : p.jobs = []) {γ : Type} (view : Shared → γ)
    (helapse : ∀ s elapsed, view { s with elapsed := elapsed } = view s)
    (hrequest : ∀ url timeout s, view (s.request url timeout).2 = view s) :
    Act.Linked view (view p.shared) acts (view q.shared) := by
  have hrunning : (p.spawn foreground work).1.running = [p.fresh] := by
    have hnone : p.running = [] := by simp [running, hjobs]
    rw [running_spawn, hnone, List.nil_append]
  have hE {s t : Shared} (h : t = { s with elapsed := t.elapsed }) : view t = view s := by
    rw [h, helapse]
  obtain ⟨s, t, hs, hpath, ht⟩ := h.path hp hnew hwork horderly (around_alone hrunning)
  have hlinked := hpath.linked view (fun _ _ h => hE h) hrequest
  rwa [hE hs, ← hE ht] at hlinked

theorem Sound.brings (hp : p.Sound) (hnew : p.fresh ∉ p.finished.map Prod.fst)
    (hwork : work.Sturdy) (horderly : work.Orderly none) (foreground : Bool) :
    ∃ acts outcome, p.Brings foreground work acts outcome (p.spawn foreground work).1.atEnd := by
  have hsound := sound_spawn hp foreground horderly
  obtain ⟨acts, htrail⟩ := (reaches_atEnd (p.spawn foreground work).1).trail p.fresh
  cases stage_spawn hp hnew hwork horderly (around_any _ _) htrail with
  | underWay rest _ hmem _ _ => simp [tasks, hsound.jobs_atEnd] at hmem
  | ended outcome _ honly _ => exact ⟨acts, outcome, htrail, (honly outcome).mpr rfl⟩

end

end Pool

end TorrentSearch.Search
