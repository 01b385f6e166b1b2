import TorrentSearch.Proofs.Search.Ledger

/-!
# Checks under one lock

If each check is plain work under the same lock, all checks do what they would do one after another, in
the order in which they ask for the lock.
-/

namespace TorrentSearch.Search

open Work (Alone)

namespace Pool

section

variable {ι : Type} (check : ι → Work Source.Outcome) (start : Shared) (lock : String)

structure Open (p : Pool) (begun : List (Nat × ι)) (asked : List Nat) (visits : List (Visit ι)) :
    Prop where
  ledger : Ledger check lock p begun asked visits []
  free : p.held = []
  order : visits.map Visit.number = asked
  stands : ∀ k ∈ p.jobs, Stands check lock begun asked [] k
  chain : Chain check start visits p.shared

/-- The check `j` has the lock. Whatever work it still has to do is left open. -/
structure Taken (p : Pool) (begun : List (Nat × ι)) (asked : List Nat) (visits : List (Visit ι))
    (line : List (Nat × Nat)) (j : Job) (index : ι) : Prop where
  ledger : Ledger check lock p begun asked visits line
  taken : p.held = [lock]
  order : visits.map Visit.number ++ j.id :: line.map Prod.fst = asked
  stands : ∀ k ∈ p.jobs, k.id ≠ j.id → Stands check lock begun asked line k
  mem : j ∈ p.jobs
  begun : (j.id, index) ∈ begun
  due : ∀ lock turn, j.phase ≠ .locked lock turn

/-- What some work still does by itself completes what a visit after the given ones does under the
lock. -/
def Completes (visits : List (Visit ι)) (w v : Work Source.Outcome) (s : Shared) : Prop :=
  ∀ outcome t, Alone v s outcome t → ∃ before, Chain check start visits before ∧
    Alone w before outcome t

/-- All checks wait, and those that have had the lock were one after another. -/
inductive InTurn (p : Pool) (begun : List (Nat × ι)) (asked : List Nat) : Prop where
  | isOpen {visits : List (Visit ι)} (h : Open check start lock p begun asked visits)
  | isTaken {visits : List (Visit ι)} {line : List (Nat × Nat)} {j : Job} {index : ι}
      {w v : Work Source.Outcome} (h : Taken check lock p begun asked visits line j index)
      (hcheck : check index = .locked lock w) (hplain : v.Plain) (hwork : j.work = v.releasing lock)
      (hcompletes : ∀ s, p.shared.Meanwhile s → Completes check start visits w v s)

end

section

variable {ι : Type} {check : ι → Work Source.Outcome} {start : Shared} {lock : String} {p : Pool}
  {begun : List (Nat × ι)} {asked : List Nat} {visits : List (Visit ι)} {line : List (Nat × Nat)}
  {i : Nat} {j : Job} {index : ι}

namespace Taken

theorem head_of_firstWaiting? (h : Taken check lock p begun asked visits line j index) {m turn : Nat}
    (hfirst : firstWaiting? lock p.jobs = some (m, turn)) :
    ∃ k rest, p.jobs[m]? = some k ∧ k.phase = .locked lock turn ∧ line = (k.id, turn) :: rest := by
  obtain ⟨k, hk, hphase⟩ := locked_of_firstWaiting? hfirst
  have hmem := List.mem_of_getElem? hk
  have hne : k.id ≠ j.id := by
    intro heq
    rw [eq_of_id_eq h.ledger.nodup_running h.mem hmem heq] at hphase
    exact h.due lock turn hphase
  have hin : (k.id, turn) ∈ line := by
    cases h.stands k hmem hne with
    | fresh _ _ hdue _ => exact absurd hphase (hdue lock turn)
    | inLine _ _ _ _ hphase' hline =>
      rw [hphase, Phase.locked.injEq] at hphase'
      exact hphase'.2 ▸ hline
  cases line with
  | nil => cases hin
  | cons e rest =>
    obtain ⟨l, hl, -, hlocked⟩ := h.ledger.present e List.mem_cons_self
    have hle := le_of_firstWaiting? hfirst l hl e.2 hlocked
    rcases List.mem_cons.mp hin with rfl | hrest
    · exact ⟨k, rest, hk, hphase, rfl⟩
    · have hlt := (List.pairwise_cons.mp h.ledger.turns).1 _ hrest
      exact absurd hlt (Nat.not_lt.mpr hle)

/-- A visit of the check that has the lock is one of a check that has begun. -/
theorem visited (h : Taken check lock p begun asked visits line j index) {v : Visit ι}
    (hnumber : v.number = j.id) (hindex : v.index = index) : ∀ u ∈ visits ++ [v], u ∈ visits ∨
      (u.number, u.index) ∈ begun ∧ (u.number, u.outcome) = (j.id, v.outcome) := by
  intro u hu
  rcases List.mem_append.mp hu with hu | hu
  · exact .inl hu
  · rw [List.mem_singleton.mp hu, hnumber, hindex]
    exact .inr ⟨h.begun, rfl⟩

/-- The visit of the check that has the lock is over, and nobody stands in line. -/
theorem leave_of_not_waiting (h : Taken check lock p begun asked visits line j index)
    (hj : p.jobs[i]? = some j) {v : Visit ι} (hnumber : v.number = j.id) (hindex : v.index = index)
    (hchain : Chain check start (visits ++ [v]) p.shared)
    (hnone : firstWaiting? lock p.jobs = none) :
    InTurn check start lock ((p.giveBack lock).finish i v.outcome) begun asked := by
  have hline : line = [] := by
    refine List.eq_nil_iff_forall_not_mem.mpr fun e he => ?_
    obtain ⟨k, hk, -, hphase⟩ := h.ledger.present e he
    exact not_locked_of_firstWaiting? hnone k hk e.2 hphase
  subst hline
  have hasked : j.id ∈ asked := by simp [← h.order]
  have hledger : Ledger check lock { p with held := p.held.erase lock } begun asked visits [] :=
    { h.ledger with }
  have hends := hledger.finish hj (h.due lock) v.outcome (visits ++ [v])
    (h.visited hnumber hindex) (.inl hasked)
  rw [giveBack_of_not_waiting hnone]
  rw [finish_of_job (p := { p with held := p.held.erase lock }) hj] at hends ⊢
  refine .isOpen ⟨hends, ?_, ?_, fun k hk => ?_, hchain⟩
  · simp [h.taken]
  · simp [← h.order, hnumber]
  · obtain ⟨hk, hne⟩ := (mem_eraseIdx_iff h.ledger.nodup_running hj).mp hk
    exact h.stands k hk hne

/-- The visit of the check that has the lock is over, and the first in line has the lock then. -/
theorem leave_of_waiting (h : Taken check lock p begun asked visits line j index)
    (hj : p.jobs[i]? = some j) {v : Visit ι} (hnumber : v.number = j.id) (hindex : v.index = index)
    (hchain : Chain check start (visits ++ [v]) p.shared) {m turn : Nat}
    (hfirst : firstWaiting? lock p.jobs = some (m, turn)) :
    InTurn check start lock ((p.giveBack lock).finish i v.outcome) begun asked := by
  obtain ⟨k, rest, hk, hphase, rfl⟩ := h.head_of_firstWaiting? hfirst
  have hnodup := h.ledger.nodup_running
  have hne : k.id ≠ j.id := by
    intro heq
    rw [eq_of_id_eq hnodup h.mem (List.mem_of_getElem? hk) heq] at hphase
    exact h.due lock turn hphase
  have hmi : m ≠ i := by
    rintro rfl
    rw [hk, Option.some.injEq] at hj
    exact hne (congrArg Job.id hj)
  have hasked : j.id ∈ asked := by simp [← h.order]
  have hledger := h.ledger.giveBack hk hphase hfirst
  have hnodup' := hledger.nodup_running
  rw [giveBack_of_waiting hfirst] at hledger hnodup' ⊢
  let k' : Job := { k with phase := .due p.shared.elapsed p.fresh }
  have hplace : (p.jobs.modify m fun l => { l with phase := .due p.shared.elapsed p.fresh })[i]? =
      some j := by
    rw [List.getElem?_modify_ne _ _ hmi]
    exact hj
  have hends := hledger.finish hplace (h.due lock) v.outcome (visits ++ [v])
    (h.visited hnumber hindex) (.inl hasked)
  rw [finish_of_job hplace] at hends ⊢
  cases h.stands k (List.mem_of_getElem? hk) hne with
  | fresh _ _ hdue _ => exact absurd hphase (hdue lock turn)
  | @inLine index' w _ hbegun' hcheck hplain hwork _ _ =>
    refine .isTaken (j := k') ⟨hends, h.taken, ?_, fun l hl hlk => ?_, ?_, hbegun',
      fun lock turn hlocked => by cases hlocked⟩ hcheck hplain hwork
      fun s hs outcome t halone => ⟨s, .waits hchain hs, halone⟩
    · simp [← h.order, hnumber, k']
    · obtain ⟨hl, hlj⟩ := (mem_eraseIdx_iff hnodup' hplace).mp hl
      rcases (mem_modify_iff hnodup hk _).mp hl with rfl | ⟨hl, hlk'⟩
      · exact absurd rfl hlk
      · refine (h.stands l hl hlj).imp id fun turn' _ hin => ?_
        rcases List.mem_cons.mp hin with heq | hin
        · exact absurd (congrArg Prod.fst heq) hlk'
        · exact hin
    · exact (mem_eraseIdx_iff hnodup' hplace).mpr
        ⟨(mem_modify_iff hnodup hk _).mpr (.inl rfl), hne⟩

theorem run (h : Taken check lock p begun asked visits line j index) (hj : p.jobs[i]? = some j)
    {w v : Work Source.Outcome} (hcheck : check index = .locked lock w) (hplain : v.Plain)
    (hcompletes : Completes check start visits w v p.shared) :
    InTurn check start lock (p.run i (v.releasing lock)) begun asked := by
  cases stretch_run hplain (fun a => .release lock (.done a)) p i with
  | @ends outcome t halone hq =>
    obtain ⟨before, hchain, hw⟩ := hcompletes outcome t halone
    let visit : Visit ι := ⟨j.id, index, before, outcome, t⟩
    have hvisit : Chain check start (visits ++ [visit]) t :=
      .visit (v := visit) hchain (by rw [hcheck]; exact hw.locked lock)
    have h' : Taken check lock { p with shared := t } begun asked visits line j index :=
      { h with ledger := { h.ledger with } }
    have hq' : p.run i (v.releasing lock) =
        (({ p with shared := t } : Pool).giveBack lock).finish i outcome := hq
    rw [hq']
    cases hfirst : firstWaiting? lock p.jobs with
    | none => exact h'.leave_of_not_waiting hj (v := visit) rfl rfl hvisit hfirst
    | some first => exact h'.leave_of_waiting hj (v := visit) rfl rfl hvisit hfirst
  | @waits rest s phase hrest hphase halone hq =>
    have h' : Taken check lock { p with shared := s } begun asked visits line j index :=
      { h with ledger := { h.ledger with } }
    have hnodup := h.ledger.nodup_running
    let j' : Job := { j with phase := phase p.fresh, work := rest.releasing lock }
    have hq' : p.run i (v.releasing lock) =
        ({ p with shared := s } : Pool).park i phase (rest.releasing lock) := hq
    rw [hq']
    refine .isTaken (j := j') ⟨h'.ledger.park hj (h.due lock) phase _, h.taken,
      h.order, fun k hk hne => ?_, (mem_modify_iff hnodup hj _).mpr (.inl rfl), h.begun,
      fun l turn hlocked => ?_⟩ hcheck hrest rfl fun s' hs outcome t hv => ?_
    · rcases (mem_modify_iff hnodup hj _).mp hk with rfl | ⟨hk, hne'⟩
      · exact absurd rfl hne
      · exact h.stands k hk hne'
    · obtain ⟨moment, hdue⟩ := hphase p.fresh
      change phase p.fresh = _ at hlocked
      rw [hdue] at hlocked
      cases hlocked
    · exact hcompletes outcome t (halone s' outcome t hs hv)

/-- A check that has not gone on yet asks for the lock, which another one has. -/
theorem join (h : Taken check lock p begun asked visits line j index) {k : Job} {other : ι}
    {rest : Work Source.Outcome} (hk : p.jobs[i]? = some k) (hne : k.id ≠ j.id)
    (hbegun : (k.id, other) ∈ begun) (hasked : k.id ∉ asked)
    (hdue : ∀ lock turn, k.phase ≠ .locked lock turn) {w : Work Source.Outcome}
    (hcheck : check other = .locked lock w) (hplain : w.Plain) (hrest : rest = w.releasing lock) :
    Taken check lock (p.park i (.locked lock) rest) begun (asked ++ [k.id]) visits
      (line ++ [(k.id, p.fresh)]) j index := by
  have hnodup := h.ledger.nodup_running
  refine ⟨(h.ledger.ask hbegun hasked).join hk (hdue lock) rest, h.taken, by simp [← h.order],
    fun l hl hlj => ?_, ?_, h.begun, h.due⟩
  · rcases (mem_modify_iff hnodup hk _).mp hl with rfl | ⟨hl, hlk⟩
    · have hphase : Phase.locked lock p.fresh = .locked lock p.fresh := rfl
      exact .inLine hbegun hcheck hplain hrest hphase
        (List.mem_append_right _ (List.mem_singleton_self _))
    · refine (h.stands l hl hlj).imp (fun hnew hin => ?_) fun turn _ => List.mem_append_left _
      rcases List.mem_append.mp hin with hin | hin
      · exact hnew hin
      · exact hlk (List.mem_singleton.mp hin)
  · exact (mem_modify_iff hnodup hk _).mpr (.inr ⟨h.mem, hne.symm⟩)

theorem refuse (h : Taken check lock p begun asked visits line j index) {k : Job} {other : ι}
    (hk : p.jobs[i]? = some k) (hne : k.id ≠ j.id) (hbegun : (k.id, other) ∈ begun)
    (hdue : ∀ lock turn, k.phase ≠ .locked lock turn) {outcome : Source.Outcome}
    (hcheck : check other = .done outcome) :
    Taken check lock (p.finish i outcome) begun asked visits line j index := by
  have hnodup := h.ledger.nodup_running
  have hends := h.ledger.finish hk (hdue lock) outcome visits (fun v hv => .inl hv)
    (.inr ⟨other, hbegun, hcheck⟩)
  rw [finish_of_job hk] at hends ⊢
  refine ⟨hends, h.taken, h.order, fun l hl hlj => ?_, ?_, h.begun, h.due⟩
  · exact h.stands l ((mem_eraseIdx_iff hnodup hk).mp hl).1 hlj
  · exact (mem_eraseIdx_iff hnodup hk).mpr ⟨h.mem, hne.symm⟩

end Taken

namespace Open

theorem take (h : Open check start lock p begun asked visits) (hj : p.jobs[i]? = some j)
    (hbegun : (j.id, index) ∈ begun) (hasked : j.id ∉ asked)
    (hdue : ∀ lock turn, j.phase ≠ .locked lock turn) :
    Taken check lock { p with held := lock :: p.held } begun (asked ++ [j.id]) visits [] j index := by
  refine ⟨{ h.ledger.ask hbegun hasked with }, by rw [h.free], by simp [← h.order],
    fun k hk hne => ?_, List.mem_of_getElem? hj, hbegun, hdue⟩
  refine (h.stands k hk).imp (fun hnew hin => ?_) fun turn _ => id
  rcases List.mem_append.mp hin with hin | hin
  · exact hnew hin
  · exact hne (List.mem_singleton.mp hin)

theorem refuse (h : Open check start lock p begun asked visits) (hj : p.jobs[i]? = some j)
    (hbegun : (j.id, index) ∈ begun) (hdue : ∀ lock turn, j.phase ≠ .locked lock turn)
    {outcome : Source.Outcome} (hcheck : check index = .done outcome) :
    Open check start lock (p.finish i outcome) begun asked visits := by
  have hends := h.ledger.finish hj (hdue lock) outcome visits (fun v hv => .inl hv)
    (.inr ⟨index, hbegun, hcheck⟩)
  rw [finish_of_job hj] at hends ⊢
  refine ⟨hends, h.free, h.order, fun k hk => ?_, h.chain⟩
  exact h.stands k ((mem_eraseIdx_iff h.ledger.nodup_running hj).mp hk).1

end Open

namespace InTurn

theorem idle : InTurn check start lock (.idle start) [] [] := by
  have hopen : Open check start lock (.idle start) [] [] [] :=
    ⟨by constructor <;> simp [Pool.idle, running], rfl, rfl, fun k hk => by simp [Pool.idle] at hk,
      .start⟩
  exact .isOpen hopen

theorem waits (h : InTurn check start lock p begun asked) {s : Shared}
    (hs : p.shared.Meanwhile s) : InTurn check start lock { p with shared := s } begun asked := by
  cases h with
  | isOpen h => exact .isOpen { h with ledger := { h.ledger with }, chain := h.chain.waits hs }
  | isTaken h hcheck hplain hwork hcompletes =>
    exact .isTaken { h with ledger := { h.ledger with } } hcheck hplain hwork
      fun t ht => hcompletes t (hs.trans ht)

theorem begins (h : InTurn check start lock p begun asked) (foreground : Bool) (index : ι) :
    InTurn check start lock (p.spawn foreground (check index)).1 (begun ++ [(p.fresh, index)])
      asked := by
  cases h with
  | isOpen h =>
    refine .isOpen ⟨h.ledger.begins foreground _ index, h.free, h.order, fun k hk => ?_, h.chain⟩
    rcases h.ledger.stands_spawn foreground index hk with hk | ⟨-, hk⟩
    · exact (h.stands k hk).begins _
    · exact hk
  | isTaken h hcheck hplain hwork hcompletes =>
    refine .isTaken ⟨h.ledger.begins foreground _ index, h.taken, h.order, fun k hk hne => ?_,
      List.mem_append_left _ h.mem, List.mem_append_left _ h.begun, h.due⟩ hcheck hplain hwork
      hcompletes
    rcases h.ledger.stands_spawn foreground index hk with hk | ⟨-, hk⟩
    · exact (h.stands k hk hne).begins _
    · exact hk

theorem run (hunder : UnderLock check lock) (h : InTurn check start lock p begun asked)
    (hj : p.jobs[i]? = some j) (hdue : ∀ lock turn, j.phase ≠ .locked lock turn) :
    InTurn check start lock (p.run i j.work) begun (asked ++ j.asks) := by
  have hmem := List.mem_of_getElem? hj
  cases h with
  | isOpen h =>
    cases h.stands j hmem with
    | inLine _ _ _ _ hphase _ => exact absurd hphase (hdue _ _)
    | @fresh index hbegun hwork _ hasked =>
      obtain ⟨w, hplain, hcheck⟩ | ⟨outcome, hcheck⟩ := hunder index
      · have hwork' : j.work = .acquire lock (w.releasing lock) := hwork.trans hcheck
        have htaken := h.take hj hbegun hasked hdue
        have hasks : j.asks = [j.id] := by rw [Job.asks, hwork']
        have hrun : p.run i j.work =
            Pool.run i (w.releasing lock) { p with held := lock :: p.held } := by
          rw [hwork', Pool.run, h.free]
          rfl
        rw [hrun, hasks]
        exact htaken.run hj hcheck hplain fun o t halone => ⟨p.shared, h.chain, halone⟩
      · have hasks : j.asks = [] := by rw [Job.asks, hwork, hcheck]
        rw [hasks, List.append_nil, hwork, hcheck]
        exact .isOpen (h.refuse hj hbegun hdue hcheck)
  | @isTaken visits line holder index w v h hcheck hplain hwork hcompletes =>
    by_cases heq : j.id = holder.id
    · obtain rfl := eq_of_id_eq h.ledger.nodup_running h.mem hmem heq
      rw [asks_releasing hplain hwork, List.append_nil, hwork]
      exact h.run hj hcheck hplain (hcompletes p.shared (.refl _))
    · cases h.stands j hmem heq with
      | inLine _ _ _ _ hphase _ => exact absurd hphase (hdue _ _)
      | @fresh other hbegun hfresh _ hasked =>
        obtain ⟨w', hplain', hcheck'⟩ | ⟨outcome, hcheck'⟩ := hunder other
        · have hwork' : j.work = .acquire lock (w'.releasing lock) := hfresh.trans hcheck'
          have hasks : j.asks = [j.id] := by rw [Job.asks, hwork']
          have hrun : p.run i j.work = p.park i (.locked lock) (w'.releasing lock) := by
            rw [hwork', Pool.run, h.taken, if_pos (by simp)]
          rw [hrun, hasks]
          exact .isTaken (h.join hj heq hbegun hasked hdue hcheck' hplain' rfl) hcheck hplain hwork
            hcompletes
        · have hasks : j.asks = [] := by rw [Job.asks, hfresh, hcheck']
          have hends := h.refuse hj heq hbegun hdue hcheck'
          rw [hasks, List.append_nil, hfresh, hcheck', Pool.run]
          refine .isTaken hends hcheck hplain hwork ?_
          rw [finish_of_job hj]
          exact hcompletes

theorem step (hunder : UnderLock check lock) (h : InTurn check start lock p begun asked)
    (hj : p.jobs[i]? = some j) (hdue : ∀ lock turn, j.phase ≠ .locked lock turn) (moment : Nat) :
    InTurn check start lock (p.step i moment) begun (asked ++ j.asks) := by
  have hadvanced : InTurn check start lock (p.advance moment) begun asked :=
    h.waits (Shared.meanwhile_elapsed _ _)
  unfold Pool.step
  rw [hj]
  exact hadvanced.run hunder hj hdue

theorem oneByOne (h : InTurn check start lock p begun asked) (hjobs : p.jobs = []) :
    ∃ visits, OneByOne check start p begun asked visits := by
  cases h with
  | isTaken h => exact absurd h.mem (by simp [hjobs])
  | @isOpen visits h =>
    have hnodup := h.ledger.nodup_finished
    refine ⟨visits, h.chain, h.order, h.ledger.once, fun v hv => ?_, fun e he hasked => ?_⟩
    · exact ⟨(h.ledger.brought v hv).1, outcome?_of_mem_finished hnodup (h.ledger.brought v hv).2⟩
    · have hended : e.1 ∈ p.finished.map Prod.fst := by
        have hall := h.ledger.all.mem_iff.mpr (List.mem_map.mpr ⟨e, he, rfl⟩)
        simpa [running, hjobs] using hall
      obtain ⟨outcome, hcheck, hmem⟩ := h.ledger.others e he hended hasked
      exact ⟨outcome, hcheck, outcome?_of_mem_finished hnodup hmem⟩

end InTurn

end

end Pool

namespace Course

variable {ι : Type} {check : ι → Work Source.Outcome} {start : Shared} {lock : String} {p : Pool}
  {begun : List (Nat × ι)} {asked : List Nat}

theorem inTurn (hunder : UnderLock check lock) (h : Course check start p begun asked) :
    p.InTurn check start lock begun asked := by
  induction h with
  | idle => exact .idle
  | begins _ foreground index ih => exact ih.begins foreground index
  | goesOn _ hj hdue moment ih => exact ih.step hunder hj hdue moment
  | waits _ hs ih => exact ih.waits hs

theorem sound (hunder : UnderLock check lock) (h : Course check start p begun asked) : p.Sound := by
  induction h with
  | idle => exact Pool.sound_idle start
  | begins _ foreground index ih =>
    refine Pool.sound_spawn ih foreground ?_
    obtain ⟨w, hplain, hcheck⟩ | ⟨outcome, hcheck⟩ := hunder index
    · rw [hcheck]
      exact hplain.orderly_locked lock
    · rw [hcheck]
      exact .done outcome
  | goesOn _ hj hdue moment ih => exact ih.step hj hdue moment
  | waits _ _ ih =>
    obtain ⟨grip, hrest⟩ := ih
    exact ⟨grip, { hrest with }⟩

theorem reaches (h : Course check start p begun asked) {q : Pool} (hreaches : p.Reaches q) :
    ∃ more, Course check start q begun (asked ++ more) := by
  induction hreaches with
  | refl => exact ⟨[], by rwa [List.append_nil]⟩
  | tail _ hstep ih =>
    obtain ⟨more, hcourse⟩ := ih
    cases hstep with
    | @goesOn i r hnext =>
      obtain ⟨j, hj, hrank⟩ := rank_of_earliest? hnext
      have hgoes := hcourse.goesOn hj (Job.due_of_rank? hrank) r.moment
      rw [List.append_assoc] at hgoes
      exact ⟨_, hgoes⟩
    | waits moment => exact ⟨more, hcourse.waits (Shared.meanwhile_elapsed _ _)⟩

theorem ends (hunder : UnderLock check lock) (h : Course check start p begun asked) :
    ∃ q more, p.Reaches q ∧ q.jobs = [] ∧ Course check start q begun (asked ++ more) := by
  let stop (q : Pool) : Bool := q.jobs.isEmpty
  have hend := (h.sound hunder).stop_runUntil stop fun q hq => by simp [stop, hq]
  have hreaches := Pool.reaches_runUntil stop none p
  obtain ⟨more, hcourse⟩ := h.reaches hreaches
  exact ⟨_, more, hreaches, by simpa [stop] using hend, hcourse⟩

/-- Checks under one lock, when all have come to their ends, were one after another. -/
theorem oneByOne (hunder : UnderLock check lock) (h : Course check start p begun asked)
    (hjobs : p.jobs = []) : ∃ visits, OneByOne check start p begun asked visits :=
  (h.inTurn hunder).oneByOne hjobs

end Course

end TorrentSearch.Search
