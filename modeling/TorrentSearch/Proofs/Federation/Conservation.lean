import TorrentSearch.Proofs.Federation.Background
import TorrentSearch.Proofs.Federation.CompletionOrder
import TorrentSearch.Proofs.Source.StubRecord

/-!
# No check is lost

Each search asks each of its stubs once, and whatever it answers, the checks that it began come to their
ends. So what the stubs recorded is what they were asked for, in as far as it has begun, and what they
counted is what they recorded, in as far as it is not under way.
-/

namespace TorrentSearch.Federation

open Search (Pool Shared Work)
open Source (Errand Balanced Stub records)
open Source.Errand (checksAt)

/-- A check's errand, with its number and the work that it has still to do. -/
abbrev Line := Errand × Nat × Work Source.Outcome

/-- The checks of a pool are on errands, and the errands balance with what is recorded. -/
structure Booked (places : Nat) (asked : List Errand) (p : Pool) (ledger : List Line) : Prop where
  tasks : ledger.map Prod.snd = p.tasks
  does : ∀ line ∈ ledger, line.1.Does line.2.2
  balanced : Balanced places asked (ledger.map Prod.fst) (records p.shared)

variable {places : Nat} {asked : List Errand} {p q : Pool} {ledger : List Line}

theorem Booked.of_same (h : Booked places asked p ledger) (htasks : q.tasks = p.tasks)
    (hrecords : records q.shared = records p.shared) : Booked places asked q ledger :=
  ⟨h.tasks.trans htasks.symm, h.does, hrecords ▸ h.balanced⟩

theorem errands_perm {k : Nat} {line : Line} (hget : ledger[k]? = some line) :
    (ledger.map Prod.fst).Perm (line.1 :: (ledger.eraseIdx k).map Prod.fst) := by
  obtain ⟨hlt, rfl⟩ := List.getElem?_eq_some_iff.mp hget
  exact (List.getElem_cons_eraseIdx_perm hlt).symm.map Prod.fst

theorem set_eq_self {α : Type} {l : List α} {k : Nat} {a : α} (h : l[k]? = some a) :
    l.set k a = l := by
  obtain ⟨hlt, rfl⟩ := List.getElem?_eq_some_iff.mp h
  exact List.set_getElem_self hlt

theorem booked_run (ledger : List Line) {k n i : Nat} {check : String × Nat}
    {old rest : Work Source.Outcome} (htasks : ledger.map Prod.snd = p.tasks)
    (hget : ledger[k]? = some (⟨i, check, true⟩, n, old))
    (hothers : ∀ line ∈ ledger.eraseIdx k, line.1.Does line.2.2)
    (hbalanced : Balanced places asked (ledger.map Prod.fst) (records p.shared))
    (hrest : rest.Spares records (fun _ _ => True) p.shared) :
    ∃ ledger', Booked places asked (p.run k (rest.bind (Stub.finishing i))) ledger' := by
  have hid : p.running[k]? = some n := by
    rw [Pool.running_eq_tasks, ← htasks]
    simp [hget]
  have hperm := errands_perm hget
  cases Pool.spared_run hrest (Stub.finishing i) rfl hid with
  | @ends r a _ ht hview hq =>
    let counted : Pool := { r with shared := r.shared.changeStub i Stub.complete }
    have hid' : counted.running[k]? = some n := by
      change r.running[k]? = some n
      rwa [Pool.running_eq_tasks, ht, ← Pool.running_eq_tasks]
    have hend : p.run k (rest.bind (Stub.finishing i)) = counted.finish k a := hq
    rw [hend, Pool.finish_eq hid']
    refine ⟨ledger.eraseIdx k, ?_, hothers, ?_⟩
    · change _ = (r.jobs.eraseIdx k).map fun j => (j.id, j.work)
      rw [← List.eraseIdx_map, ← List.eraseIdx_map, htasks, ← ht]
      rfl
    · have hcounted : records (r.shared.changeStub i Stub.complete) =
          (records p.shared).modify i fun r => (r.1, r.2 + 1) := by
        rw [← hview]
        exact Source.records_changeStub (fun _ => rfl) r.shared
      rw [hcounted]
      exact (hbalanced.perm hperm).complete
  | waits rest' hrest' ht hview =>
    obtain ⟨hlt, -⟩ := List.getElem?_eq_some_iff.mp hget
    refine ⟨ledger.set k (⟨i, check, true⟩, n, rest'.bind (Stub.finishing i)), ?_, ?_, ?_⟩
    · rw [List.map_set, htasks, ht]
    · intro line hline
      have hmem := (List.set_perm_cons_eraseIdx hlt _).mem_iff.mp hline
      rcases List.mem_cons.mp hmem with rfl | hmem
      · exact .working i check hrest'
      · exact hothers line hmem
    · have hset := (List.set_perm_cons_eraseIdx hlt
        (⟨i, check, true⟩, n, rest'.bind (Stub.finishing i))).map Prod.fst
      rw [hview]
      exact hbalanced.perm (hperm.trans hset.symm)

theorem Booked.step (h : Booked places asked p ledger) (hstep : p.Step q) :
    ∃ ledger', Booked places asked q ledger' := by
  obtain ⟨k, j, moment, hj, rfl⟩ | ⟨moment, rfl⟩ := hstep.cases_job
  · obtain ⟨htasks, hdoes, hbalanced⟩ := h
    have htask : p.tasks[k]? = some (j.id, j.work) := by simp [Pool.tasks, hj]
    rw [← htasks, List.getElem?_map] at htask
    obtain ⟨⟨e, n, work⟩, hget, htask⟩ := Option.map_eq_some_iff.mp htask
    obtain ⟨rfl, rfl⟩ := Prod.mk.inj htask
    obtain ⟨hlt, -⟩ := List.getElem?_eq_some_iff.mp hget
    have hothers : ∀ line ∈ ledger.eraseIdx k, line.1.Does line.2.2 :=
      fun line hline => hdoes line (List.mem_of_mem_eraseIdx hline)
    have hdoes := hdoes _ (List.mem_of_getElem? hget)
    have hperm := errands_perm hget
    unfold Pool.step
    rw [hj]
    dsimp only at hdoes ⊢
    generalize j.work = work at hdoes hget
    cases hdoes with
    | waiting stub i attempts hid =>
      rename_i id
      let line : Line := (⟨i, (id, attempts), true⟩, j.id, stub.checkUpTo i attempts id)
      have hset := (List.set_perm_cons_eraseIdx hlt line).map Prod.fst
      rw [stub.checkUpTo_eq i attempts hid]
      refine booked_run (ledger.set k line) ?_ (List.getElem?_set_self hlt) ?_ ?_
        (stub.spares_body i attempts id _)
      · rw [List.map_set, htasks]
        exact set_eq_self (by rw [← htasks, List.getElem?_map, hget]; rfl)
      · rwa [List.eraseIdx_set_eq]
      · rw [Source.records_changeStub (g := fun r => ((id, attempts) :: r.1, r.2)) fun _ => rfl]
        exact (hbalanced.perm hperm).record.perm hset.symm
    | working i check hrest =>
      exact booked_run ledger htasks hget hothers hbalanced (hrest _)
  · exact ⟨ledger, h.of_same rfl rfl⟩

theorem Booked.reaches (h : Booked places asked p ledger) (hreaches : p.Reaches q) :
    ∃ ledger', Booked places asked q ledger' := by
  induction hreaches with
  | refl => exact ⟨ledger, h⟩
  | tail _ hstep ih =>
    obtain ⟨_, hbefore⟩ := ih
    exact hbefore.step hstep

section

variable (stubs : List Stub) (fast : List (Fin stubs.length)) (slow : Option (Fin stubs.length))
  (settings : Config.FederationSettings)

def ofStubs : Federation :=
  ⟨fast.map fun i => stubs[i].toSource i, slow.map fun i => stubs[i].toSource i, settings⟩

/-- The attempts that a check of a stub is allowed in a search. -/
def attemptsAt (i : Fin stubs.length) : Nat :=
  if stubs[i].supportsRetries then min (settings.retries + 1) (2 ^ 32 - 1) else 1

/-- What a call asks of the stubs: a search for an identifier that is not blank asks each of them once, and
no other call asks any. -/
def errands : Call → List Errand
  | .find id =>
    if Text.isBlankText id then []
    else (fast ++ slow.toList).map fun i : Fin stubs.length =>
      ⟨i, (id, attemptsAt stubs settings i), false⟩
  | .sleep _ | .count | .settle => []

theorem works_ofStubs (id : String) :
    ((ofStubs stubs fast slow settings).sources.map fun source =>
        source.run (ofStubs stubs fast slow settings).settings.attempts id) =
      (fast ++ slow.toList).map fun i => stubs[i].checkUpTo i (attemptsAt stubs settings i) id := by
  have hrun (i : Fin stubs.length) : (stubs[i].toSource i).run settings.attempts id =
      stubs[i].checkUpTo i (attemptsAt stubs settings i) id :=
    stubs[i].run_toSource i settings.attempts id
  have hsources : (ofStubs stubs fast slow settings).sources =
      (fast ++ slow.toList).map fun i => stubs[i].toSource i := by
    cases slow <;> simp [ofStubs, sources]
  rw [hsources, List.map_map]
  exact List.map_congr_left fun i _ => hrun i

variable {stubs fast slow settings} {s : Session} {id : String}

theorem tasks_launched :
    ((ofStubs stubs fast slow settings).launched id s).tasks = s.pool.tasks ++
      (List.range' s.pool.fresh (fast ++ slow.toList).length).zip ((fast ++ slow.toList).map fun i =>
        stubs[i].checkUpTo i (attemptsAt stubs settings i) id) := by
  rw [launched, works_ofStubs, Pool.tasks_spawnAll, List.length_map]

variable (fast slow settings) in
theorem booked_launched (h : Booked places asked s.pool ledger) (hid : Text.isBlankText id = false) :
    ∃ ledger', Booked places (asked ++ errands stubs fast slow settings (.find id))
      ((ofStubs stubs fast slow settings).launched id s) ledger' := by
  let line (numbered : Nat × Fin stubs.length) : Line :=
    let i := numbered.2
    (⟨i, (id, attemptsAt stubs settings i), false⟩, numbered.1,
      stubs[i].checkUpTo i (attemptsAt stubs settings i) id)
  let numbered := (List.range' s.pool.fresh (fast ++ slow.toList).length).zip (fast ++ slow.toList)
  have herrands : (numbered.map line).map Prod.fst = errands stubs fast slow settings (.find id) := by
    have hplaces : numbered.map Prod.snd = fast ++ slow.toList :=
      List.map_snd_zip (by simp)
    rw [errands, if_neg (by simp [hid]), ← hplaces, List.map_map, List.map_map]
    rfl
  refine ⟨ledger ++ numbered.map line, ?_, ?_, ?_⟩
  · rw [List.map_append, h.tasks, tasks_launched, List.zip_map_right, List.map_map]
    rfl
  · intro l hl
    rcases List.mem_append.mp hl with hl | hl
    · exact h.does l hl
    · obtain ⟨n, -, rfl⟩ := List.mem_map.mp hl
      exact .waiting stubs[n.2] n.2 _ hid
  · have hrecords : records ((ofStubs stubs fast slow settings).launched id s).shared =
        records s.pool.shared := by
      rw [launched, Pool.shared_spawnAll]
    rw [hrecords, List.map_append, herrands]
    refine h.balanced.ask fun e he => ?_
    rw [← herrands, List.map_map] at he
    obtain ⟨n, -, rfl⟩ := List.mem_map.mp he
    rfl

theorem booked_find (h : Booked places asked s.pool ledger) :
    ∃ ledger', Booked places (asked ++ errands stubs fast slow settings (.find id))
      ((ofStubs stubs fast slow settings).find id s).2.pool ledger' := by
  by_cases hid : Text.isBlankText id = true
  · have hnone : errands stubs fast slow settings (.find id) = [] := by simp [errands, hid]
    rw [hnone, List.append_nil, find, if_pos hid]
    exact ⟨ledger, h⟩
  · rw [Bool.not_eq_true] at hid
    by_cases hf : (ofStubs stubs fast slow settings).sources = []
    · have hplaces : fast ++ slow.toList = [] := by
        have hworks := works_ofStubs stubs fast slow settings id
        rw [hf] at hworks
        exact List.map_eq_nil_iff.mp hworks.symm
      have hnone : errands stubs fast slow settings (.find id) = [] := by
        rw [errands, hplaces]
        simp
      rw [hnone, List.append_nil, find, if_neg (by simp [hid]), if_pos (by simp [hf])]
      exact ⟨ledger, h⟩
    · rw [find_of_asked _ id s hid hf]
      obtain ⟨count, hask⟩ := (ofStubs stubs fast slow settings).snd_ask id s
      obtain ⟨_, hlaunched⟩ := booked_launched fast slow settings h hid
      obtain ⟨ledger', hend⟩ :=
        hlaunched.reaches ((ofStubs stubs fast slow settings).reaches_of_launched id s)
      rw [hask]
      exact ⟨ledger', hend.of_same rfl rfl⟩

end

namespace Chronicle

theorem after_concat (f : Federation) (shared : Shared) (calls : List Call) (call : Call) :
    after f shared (calls ++ [call]) = (after f shared calls).next f call := by
  simp [after]

theorem reachable_after (f : Federation) (shared : Shared) (calls : List Call) :
    (after f shared calls).session.Reachable := by
  induction calls using List.reverseRecOn with
  | nil => exact .start shared
  | append_singleton calls call ih =>
    rw [after_concat]
    cases call with
    | find id => exact ih.find f id
    | sleep millis => exact ih.sleep millis
    | count => exact ih
    | settle => exact ih.settle

end Chronicle

section

variable (shared : Shared) (fast : List (Fin shared.stubs.length))
  (slow : Option (Fin shared.stubs.length)) (settings : Config.FederationSettings)

theorem booked_after (hfresh : ∀ stub ∈ shared.stubs, stub.checks = [] ∧ stub.completed = 0)
    (calls : List Call) :
    ∃ ledger, Booked shared.stubs.length (calls.flatMap (errands shared.stubs fast slow settings))
      (Chronicle.after (ofStubs shared.stubs fast slow settings) shared calls).session.pool ledger := by
  induction calls using List.reverseRecOn with
  | nil =>
    refine ⟨[], rfl, by simp, List.length_map .., fun i r hr => ?_, fun i r hr => ?_⟩
    all_goals
      obtain ⟨stub, hstub, rfl⟩ := List.mem_map.mp (List.mem_of_getElem? hr)
      obtain ⟨hchecks, hcompleted⟩ := hfresh stub hstub
      simp [hchecks, hcompleted]
  | append_singleton calls call ih =>
    obtain ⟨ledger, h⟩ := ih
    rw [Chronicle.after_concat, List.flatMap_append, List.flatMap_singleton]
    generalize Chronicle.after (ofStubs shared.stubs fast slow settings) shared calls = c at h
    cases call with
    | find id => exact booked_find h
    | sleep millis =>
      simp only [errands, List.append_nil]
      obtain ⟨ledger', h'⟩ := h.reaches (Pool.reaches_runUntil ..)
      exact ⟨ledger', h'.of_same rfl rfl⟩
    | count =>
      simp only [errands, List.append_nil]
      exact ⟨ledger, h⟩
    | settle =>
      simp only [errands, List.append_nil]
      obtain ⟨ledger', h'⟩ := h.reaches (Pool.reaches_runUntil ..)
      exact ⟨ledger', h'.of_same rfl rfl⟩

/-- Every check that was asked for is recorded or has yet to begin, every recorded one is counted or under
way, and there are as many of these and those as there are checks in the pool. -/
def Conserved (places : Nat) (asked : List Errand) (p : Pool) : Prop :=
  ∃ es : List Errand, es.length = p.running.length ∧ Balanced places asked es (records p.shared)

theorem Booked.conserved (h : Booked places asked p ledger) : Conserved places asked p := by
  refine ⟨ledger.map Prod.fst, ?_, h.balanced⟩
  rw [Pool.running_eq_tasks, ← h.tasks, List.length_map, List.length_map, List.length_map]

/-- When nothing is under way, each stub recorded what it was asked for, and counted all of it. -/
theorem Conserved.recorded (h : Conserved places asked p) (hidle : p.running = []) {i : Nat}
    (hi : i < places) :
    ∃ stub, p.shared.stubs[i]? = some stub ∧ stub.checks.Perm (checksAt i asked) ∧
      stub.completed = stub.checks.length := by
  obtain ⟨es, hlength, hbalanced⟩ := h
  rw [hidle, List.length_nil, List.length_eq_zero_iff] at hlength
  subst hlength
  have hplaces : p.shared.stubs.length = places := by
    rw [← hbalanced.length, records, List.length_map]
  have hstub : p.shared.stubs[i]? = some p.shared.stubs[i] := List.getElem?_eq_getElem (by omega)
  have hrecord : (records p.shared)[i]? =
      some (p.shared.stubs[i].checks, p.shared.stubs[i].completed) := by
    rw [records, List.getElem?_map, hstub]
    rfl
  refine ⟨_, hstub, ?_, ?_⟩
  · simpa using hbalanced.recorded i _ hrecord
  · simpa using (hbalanced.completed i _ hrecord).symm

theorem find_of_refused {f : Federation} {id : String} {s : Session} {e : Error}
    (h : (f.find id s).1 = .error e) (he : e = .noSources ∨ ∃ id', e = .invalidIdentifier id') :
    (f.find id s).2 = s := by
  rcases f.find_cases id (s := s) with hask | hsame
  · rw [hask, fst_ask] at h
    unfold conclude at h
    split at h
    · cases h
      simp at he
    · split at h
      · cases h
        simp at he
      · cases h
  · exact hsame

/-- In any run of calls, each search for an identifier that is not blank begins one check of each of its
stubs, with that identifier and the attempts that the stub is allowed, and goes on from there; calls that
are refused change nothing. At each moment between the calls and during a search, no check is lost. When
the checks in the background were waited for, none is left, and each stub recorded the checks that it was
asked for and counted all of them. -/
theorem checks_conserved (hfresh : ∀ stub ∈ shared.stubs, stub.checks = [] ∧ stub.completed = 0)
    (calls : List Call) :
    let f := ofStubs shared.stubs fast slow settings
    let c := Chronicle.after f shared calls
    let asked := calls.flatMap (errands shared.stubs fast slow settings)
    (∀ id, Text.isBlankText id = false → f.sources ≠ [] →
      (f.launched id c.session).tasks = c.session.pool.tasks ++
        (List.range' c.session.pool.fresh (fast ++ slow.toList).length).zip
          ((fast ++ slow.toList).map fun i =>
            shared.stubs[i].checkUpTo i (attemptsAt shared.stubs settings i) id) ∧
      ∃ q, (f.launched id c.session).Reaches q ∧ (f.find id c.session).2.pool.tasks = q.tasks ∧
        (f.find id c.session).2.pool.shared.stubs = q.shared.stubs) ∧
    (∀ id e, (f.find id c.session).1 = .error e →
      (e = .noSources ∨ ∃ id', e = .invalidIdentifier id') → (f.find id c.session).2 = c.session) ∧
    (∀ q, c.session.pool.Reaches q → Conserved shared.stubs.length asked q) ∧
    (∀ id q, Text.isBlankText id = false → (f.launched id c.session).Reaches q →
      Conserved shared.stubs.length
        (asked ++ errands shared.stubs fast slow settings (.find id)) q) ∧
    c.session.settle.2.pool.running = [] ∧
    ∀ i < shared.stubs.length, ∃ stub, c.session.settle.2.pool.shared.stubs[i]? = some stub ∧
      stub.checks.Perm (checksAt i asked) ∧ stub.completed = stub.checks.length := by
  intro f c asked
  obtain ⟨ledger, hbooked⟩ := booked_after shared fast slow settings hfresh calls
  have hsettled : c.session.settle.2.pool.running = [] :=
    (Chronicle.reachable_after f shared calls).running_settle
  refine ⟨fun id hid hf => ⟨tasks_launched, ?_⟩, fun id e => find_of_refused, fun q hq => ?_,
    fun id q hid hq => ?_, hsettled, fun i hi => ?_⟩
  · obtain ⟨count, hask⟩ := f.snd_ask id c.session
    refine ⟨_, f.reaches_of_launched id c.session, ?_⟩
    rw [find_of_asked f id _ hid hf, hask]
    exact ⟨rfl, rfl⟩
  · obtain ⟨_, h⟩ := hbooked.reaches hq
    exact h.conserved
  · obtain ⟨_, hlaunched⟩ := booked_launched fast slow settings hbooked hid
    obtain ⟨_, h⟩ := hlaunched.reaches hq
    exact h.conserved
  · obtain ⟨_, h⟩ := hbooked.reaches (Pool.reaches_runUntil (fun p : Pool =>
      c.session.background.all fun b => !p.isRunning b.2) none c.session.pool)
    exact h.conserved.recorded hsettled hi

end

/-- Two searches and a refused one on a stub that fails and tries again and on a slow one. -/
theorem checks_conserved_of_three :
    let failing : Stub := { name := "A", error := some .timeout, supportsRetries := true }
    let remembering : Stub := { name := "B", maxAge := some (.ofSeconds 60) }
    let late : Stub := { name := "C", delay := some 5000 }
    let shared : Shared := .start .epoch (.empty 100) .down [failing, remembering, late]
    let f := ofStubs shared.stubs [⟨0, Nat.succ_pos _⟩, ⟨1, Nat.succ_lt_succ (Nat.succ_pos _)⟩]
      (some ⟨2, Nat.lt_succ_self _⟩) { gracePeriodMs := 10, retries := 4 }
    let s := (Chronicle.after f shared [.find "tt", .find " ", .sleep 10, .find "uu"]).session
    (∀ stub ∈ shared.stubs, stub.checks = [] ∧ stub.completed = 0) ∧
      (∃ stub, s.settle.2.pool.shared.stubs[0]? = some stub ∧
        stub.checks.Perm [("tt", 5), ("uu", 5)] ∧ stub.completed = stub.checks.length) ∧
      ∃ stub, s.settle.2.pool.shared.stubs[2]? = some stub ∧
        stub.checks.Perm [("tt", 1), ("uu", 1)] ∧ stub.completed = stub.checks.length := by
  intro failing remembering late shared f s
  have hfresh : ∀ stub ∈ shared.stubs, stub.checks = [] ∧ stub.completed = 0 := by
    change ∀ stub ∈ [failing, remembering, late], _
    simp [failing, remembering, late]
  obtain ⟨-, -, -, -, -, hrecorded⟩ := checks_conserved shared
    [⟨0, Nat.succ_pos _⟩, ⟨1, Nat.succ_lt_succ (Nat.succ_pos _)⟩] (some ⟨2, Nat.lt_succ_self _⟩)
    { gracePeriodMs := 10, retries := 4 } hfresh [.find "tt", .find " ", .sleep 10, .find "uu"]
  refine ⟨hfresh, ?_, ?_⟩
  · obtain ⟨stub, hstub, hchecks, hcompleted⟩ := hrecorded 0 (Nat.succ_pos _)
    exact ⟨stub, hstub, hchecks.trans (.of_eq (by decide +kernel)), hcompleted⟩
  · obtain ⟨stub, hstub, hchecks, hcompleted⟩ := hrecorded 2 (Nat.lt_succ_self _)
    exact ⟨stub, hstub, hchecks.trans (.of_eq (by decide +kernel)), hcompleted⟩

end TorrentSearch.Federation
