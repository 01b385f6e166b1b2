import TorrentSearch.Search.Work

/-!
# Checks side by side

A pool holds the checks that are under way. Time is simulated: it moves on when nothing is left to do
at the current moment, and then up to the moment at which the next check goes on. Checks that go on at
the same moment do so in the order in which they became due, those that are waited for directly before
the others. A lock is handed on in the order in which it was asked for.
-/

namespace TorrentSearch.Search

/-- What a check waits for. The turn tells which of two checks began to wait first. -/
inductive Phase where
  /-- A moment, in milliseconds since the beginning. -/
  | due (moment turn : Nat)
  | locked (lock : String) (turn : Nat)
deriving DecidableEq, Repr

structure Job where
  id : Nat
  foreground : Bool
  phase : Phase
  work : Work Source.Outcome

/-- When a check goes on, compared with others. -/
structure Rank where
  moment : Nat
  group : Nat
  order : Nat
  turn : Nat
deriving DecidableEq, Repr

def Rank.before (a b : Rank) : Bool :=
  a.moment < b.moment || (a.moment = b.moment &&
    (a.group < b.group || (a.group = b.group &&
      (a.order < b.order || (a.order = b.order && a.turn < b.turn)))))

/-- The rank of a check that waits for a moment. A moment that has passed counts as the current
one. -/
def Job.rank? (elapsed : Nat) (j : Job) : Option Rank :=
  match j.phase with
  | .due moment turn =>
    if j.foreground then some ⟨max elapsed moment, 0, j.id, turn⟩
    else some ⟨max elapsed moment, 1, moment, turn⟩
  | .locked .. => none

/-- The place and the rank of the check that goes on first. -/
def earliest? (elapsed : Nat) : List Job → Option (Nat × Rank)
  | [] => none
  | j :: rest =>
    match j.rank? elapsed, earliest? elapsed rest with
    | none, none => none
    | none, some (i, r) => some (i + 1, r)
    | some r, none => some (0, r)
    | some r, some (i, q) => if q.before r then some (i + 1, q) else some (0, r)

structure Pool where
  shared : Shared
  jobs : List Job
  /-- The checks that ended, with what they brought, in the order of their ends. -/
  finished : List (Nat × Source.Outcome)
  /-- The names of the locks that are taken. -/
  held : List String
  /-- A number that no check and no turn had yet. -/
  fresh : Nat

namespace Pool

def idle (shared : Shared) : Pool := ⟨shared, [], [], [], 0⟩

/-- A check begins, behind those that are due already; and its number. -/
def spawn (p : Pool) (foreground : Bool) (work : Work Source.Outcome) : Pool × Nat :=
  ({ p with
      jobs := p.jobs ++ [⟨p.fresh, foreground, .due p.shared.elapsed p.fresh, work⟩]
      fresh := p.fresh + 1 },
    p.fresh)

def spawnAll (p : Pool) (foreground : Bool) : List (Work Source.Outcome) → Pool × List Nat
  | [] => (p, [])
  | work :: works =>
    let (p, id) := p.spawn foreground work
    let (p, ids) := spawnAll p foreground works
    (p, id :: ids)

def isRunning (p : Pool) (id : Nat) : Bool := p.jobs.any fun j => j.id = id

def outcome? (p : Pool) (id : Nat) : Option Source.Outcome := p.finished.lookup id

def finish (p : Pool) (i : Nat) (outcome : Source.Outcome) : Pool :=
  match p.jobs[i]? with
  | some j =>
    { p with jobs := p.jobs.eraseIdx i, finished := p.finished ++ [(j.id, outcome)] }
  | none => p

/-- A check waits, with the rest of its work. -/
def park (p : Pool) (i : Nat) (phase : Nat → Phase) (rest : Work Source.Outcome) : Pool :=
  { p with
    jobs := p.jobs.modify i fun j => { j with phase := phase p.fresh, work := rest }
    fresh := p.fresh + 1 }

/-- The place of the check that has waited longest for a lock. -/
def firstWaiting? (lock : String) : List Job → Option (Nat × Nat)
  | [] => none
  | j :: rest =>
    let later := (firstWaiting? lock rest).map fun (i, t) => (i + 1, t)
    match j.phase with
    | .locked l turn =>
      if l = lock then
        match later with
        | some (i, t) => if t < turn then some (i, t) else some (0, turn)
        | none => some (0, turn)
      else later
    | .due .. => later

/-- A lock is given back. The check that has waited longest for it has it then. -/
def giveBack (p : Pool) (lock : String) : Pool :=
  match firstWaiting? lock p.jobs with
  | some (i, _) =>
    { p with
      jobs := p.jobs.modify i fun j => { j with phase := .due p.shared.elapsed p.fresh }
      fresh := p.fresh + 1 }
  | none => { p with held := p.held.erase lock }

/-- The cause that stands for a check that broke down. The number of the check is not part of it. -/
def crashed (text : String) : Source.Error :=
  .internal ("Source task failed: task N panicked with message " ++ Text.quoted text)

/-- The check in place `i` goes on with its work until it has to wait or ends. -/
def run (i : Nat) (work : Work Source.Outcome) (p : Pool) : Pool :=
  match work with
  | .done outcome => p.finish i outcome
  | .crash text => p.finish i (.error (crashed text))
  | .look next => run i (next p.shared) p
  | .change f next => run i next { p with shared := f p.shared }
  | .pause millis next =>
    if millis = 0 then run i next p
    else p.park i (.due (p.shared.elapsed + millis)) next
  | .request url timeout next =>
    let ((millis, reply), shared) := p.shared.request url timeout
    { p with shared := shared }.park i (.due (shared.elapsed + millis)) (next reply)
  | .acquire lock next =>
    if p.held.contains lock then p.park i (.locked lock) next
    else run i next { p with held := lock :: p.held }
  | .release lock next => run i next (p.giveBack lock)

/-- The work of all checks that are under way. -/
def load (p : Pool) : Load Source.Outcome := ⟨p.jobs.map (·.work)⟩

/-- The clock moves on to a moment, never back. -/
def advance (p : Pool) (moment : Nat) : Pool :=
  { p with shared := { p.shared with elapsed := max p.shared.elapsed moment } }

@[simp] theorem load_advance (p : Pool) (moment : Nat) : (p.advance moment).load = p.load := rfl

theorem map_modify_eq_self {α β : Type} {g : α → β} {f : α → α} (h : ∀ a, g (f a) = g a)
    (l : List α) (i : Nat) : (l.modify i f).map g = l.map g := by
  induction l generalizing i with
  | nil => simp
  | cons a l ih => cases i <;> simp [h, ih]

@[simp] theorem load_giveBack (p : Pool) (lock : String) : (p.giveBack lock).load = p.load := by
  unfold giveBack load
  split
  · exact congrArg Load.mk (map_modify_eq_self (by intro; rfl) _ _)
  · rfl

theorem jobs_of_load {p : Pool} {front : List (Work Source.Outcome)} {w : Work Source.Outcome}
    {back : List (Work Source.Outcome)} (h : p.load = ⟨front ++ w :: back⟩) :
    ∃ before j after, p.jobs = before ++ j :: after ∧ before.map (·.work) = front ∧
      j.work = w ∧ after.map (·.work) = back := by
  simp only [load, Load.mk.injEq] at h
  obtain ⟨before, rest, hjobs, hfront, hrest⟩ := List.map_eq_append_iff.1 h
  obtain ⟨j, after, rfl, hj, hback⟩ := List.map_eq_cons_iff.1 hrest
  exact ⟨before, j, after, hjobs, hfront, hj, hback⟩

theorem modify_append_cons (front : List Job) (j : Job) (back : List Job) (f : Job → Job) :
    (front ++ j :: back).modify front.length f = front ++ f j :: back := by
  induction front with
  | nil => simp
  | cons k front ih => simpa using ih

theorem lighter_finish {p : Pool} {front : List (Work Source.Outcome)} {w : Work Source.Outcome}
    {back : List (Work Source.Outcome)} (h : p.load = ⟨front ++ w :: back⟩)
    (outcome : Source.Outcome) :
    Load.Lighter (p.finish front.length outcome).load ⟨front ++ w :: back⟩ := by
  obtain ⟨before, j, after, hjobs, rfl, rfl, rfl⟩ := jobs_of_load h
  have hj : p.jobs[(before.map (·.work)).length]? = some j := by simp [hjobs]
  unfold finish
  rw [hj]
  have : (before ++ j :: after).eraseIdx before.length = before ++ after := by
    rw [List.eraseIdx_append_of_length_le (Nat.le_refl _)]
    simp
  simp only [load, hjobs, List.length_map, this, List.map_append]
  exact .ends _ _ _

theorem lighter_park {p : Pool} {front : List (Work Source.Outcome)} {w : Work Source.Outcome}
    {back : List (Work Source.Outcome)} (h : p.load = ⟨front ++ w :: back⟩)
    (phase : Nat → Phase) {rest : Work Source.Outcome} (hw : Work.Inside rest w) :
    Load.Lighter (p.park front.length phase rest).load ⟨front ++ w :: back⟩ := by
  obtain ⟨before, j, after, hjobs, rfl, rfl, rfl⟩ := jobs_of_load h
  unfold park load
  simp only [hjobs, List.length_map, modify_append_cons, List.map_append, List.map_cons]
  exact .goesOn _ _ _ _ hw

theorem lighter_run {front : List (Work Source.Outcome)} {w : Work Source.Outcome}
    {back : List (Work Source.Outcome)} {work : Work Source.Outcome} {p : Pool}
    (h : p.load = ⟨front ++ w :: back⟩) (hw : work = w ∨ Work.Inside work w) :
    Load.Lighter (p.run front.length work).load ⟨front ++ w :: back⟩ := by
  have inside {v u : Work Source.Outcome} (hv : Work.After v u) (hu : u = w ∨ Work.Inside u w) :
      Work.Inside v w := by
    rcases hu with rfl | hu
    · exact .single hv
    · exact .trans (.single hv) hu
  induction work generalizing p with
  | done outcome => exact lighter_finish h outcome
  | crash text => exact lighter_finish h _
  | look next ih => exact ih p.shared h (.inr (inside (.look next p.shared) hw))
  | change f next ih => exact ih (p := { p with shared := f p.shared }) h (.inr (inside (.change f next) hw))
  | pause millis next ih =>
    unfold run
    split
    · exact ih h (.inr (inside (.pause millis next) hw))
    · exact lighter_park h _ (inside (.pause millis next) hw)
  | request url timeout next ih =>
    unfold run
    exact lighter_park (p := { p with shared := _ }) h _ (inside (.request url timeout next _) hw)
  | acquire lock next ih =>
    unfold run
    split
    · exact lighter_park h _ (inside (.acquire lock next) hw)
    · exact ih (p := { p with held := _ }) h (.inr (inside (.acquire lock next) hw))
  | release lock next ih =>
    exact ih (p := p.giveBack lock) (by simpa using h) (.inr (inside (.release lock next) hw))

def next? (p : Pool) : Option (Nat × Rank) := earliest? p.shared.elapsed p.jobs

/-- The check in place `i` goes on at a moment. -/
def step (p : Pool) (i : Nat) (moment : Nat) : Pool :=
  match p.jobs[i]? with
  | some j => (p.advance moment).run i j.work
  | none => p

theorem lighter_step {p : Pool} {i : Nat} (h : i < p.jobs.length) (moment : Nat) :
    Load.Lighter (p.step i moment).load p.load := by
  have hload : p.load =
      ⟨(p.jobs.take i).map (·.work) ++ p.jobs[i].work :: (p.jobs.drop (i + 1)).map (·.work)⟩ := by
    simp only [load, Load.mk.injEq]
    rw [← List.map_cons, List.getElem_cons_drop, ← List.map_append, List.take_append_drop]
  have hi : i = ((p.jobs.take i).map (·.work)).length := by simp; omega
  have key := lighter_run (p := p.advance moment) (w := p.jobs[i].work)
    (by rw [load_advance, hload]) (.inl rfl)
  rw [← hi, ← hload] at key
  unfold step
  rw [List.getElem?_eq_getElem h]
  exact key

end Pool

theorem lt_length_of_earliest? {elapsed : Nat} {jobs : List Job} {i : Nat} {r : Rank}
    (h : earliest? elapsed jobs = some (i, r)) : i < jobs.length := by
  induction jobs generalizing i r with
  | nil => simp [earliest?] at h
  | cons j rest ih =>
    unfold earliest? at h
    split at h
    · simp at h
    · rename_i hlater
      simp only [Option.some.injEq, Prod.mk.injEq] at h
      have := ih hlater
      simp only [List.length_cons]
      omega
    · simp only [Option.some.injEq, Prod.mk.injEq] at h
      simp only [List.length_cons]
      omega
    · rename_i hlater
      have := ih hlater
      split at h <;> simp only [Option.some.injEq, Prod.mk.injEq] at h <;>
        simp only [List.length_cons] <;> omega

namespace Pool

/-- Time goes by until `stop` holds, until the limit is reached, or until nothing is left to do. What
is due at the limit itself does not go on. -/
def runUntil (stop : Pool → Bool) (limit : Option Nat) (p : Pool) : Pool :=
  if stop p then p
  else
    match _hnext : p.next? with
    | none => p.advance (limit.getD 0)
    | some (i, r) =>
      if limit.any (· ≤ r.moment) then p.advance (limit.getD 0)
      else runUntil stop limit (p.step i r.moment)
termination_by p.load
decreasing_by exact lighter_step (lt_length_of_earliest? _hnext) r.moment

end Pool

end TorrentSearch.Search
