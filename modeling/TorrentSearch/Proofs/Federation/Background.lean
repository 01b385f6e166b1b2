import TorrentSearch.Proofs.Federation.Session

/-!
# Checks in the background

The list of a session tells which checks searches left under way. A chronicle of the calls notes
every such check on its own, by the numbers of the checks that are under way after a search and were
not before, and the list is compared with it.
-/

namespace TorrentSearch.Federation

open Search (Pool)

/-- What can be done with a federation at work. -/
inductive Call where
  | find (id : String)
  | sleep (millis : Nat)
  | count
  | settle
deriving DecidableEq, Repr

/-- The checks that a search began and that are still under way behind it. -/
def leftBehind (f : Federation) (id : String) (s : Session) : List (String × Nat) :=
  ((f.find id s).2.pool.running.filter fun n => n ∉ s.pool.running).map fun n => (id, n)

/-- A session with the checks that searches left under way, all of them and those since the checks in
the background were last waited for. -/
structure Chronicle where
  session : Session
  detached : List (String × Nat)
  unsettled : List (String × Nat)

namespace Chronicle

def next (c : Chronicle) (f : Federation) : Call → Chronicle
  | .find id =>
    { session := (f.find id c.session).2
      detached := c.detached ++ f.leftBehind id c.session
      unsettled := c.unsettled ++ f.leftBehind id c.session }
  | .sleep millis => { c with session := c.session.sleep millis }
  | .count => c
  | .settle => { c with session := c.session.settle.2, unsettled := [] }

def after (f : Federation) (shared : Search.Shared) (calls : List Call) : Chronicle :=
  calls.foldl (fun c call => c.next f call) ⟨.start shared, [], []⟩

/-- The list in the background has the checks that were left under way since the last wait, in their
order, except for some that ended. -/
structure Faithful (c : Chronicle) : Prop where
  ready : c.session.Ready
  nodup : (c.detached.map Prod.snd).Nodup
  old : ∀ b ∈ c.detached, b.2 < c.session.pool.fresh
  unsettled : c.unsettled.Sublist c.detached
  listed : c.session.background.Sublist c.unsettled
  kept : ∀ b ∈ c.detached, b.2 ∈ c.session.pool.running → b ∈ c.session.background

end Chronicle

variable (f : Federation) (id : String) {s : Session}

theorem running_afterGrace (h : s.Ready) {n : Nat} (hn : n ∈ (f.afterGrace id s).running) :
    n ∈ s.pool.running ∨ (n = f.slowCheck s ∧ (f.late? id s).isSome) := by
  have hfast : n ∈ (f.afterFast id s).running :=
    Pool.Reaches.running_subset (f.reaches_afterGrace id s) hn
  have hlaunched := Pool.Reaches.running_subset (f.reaches_afterFast id s) hfast
  rw [running_launched, List.mem_append] at hlaunched
  refine hlaunched.imp_right fun hnew => ?_
  have hnotFast : n ∉ f.fastChecks s := fun h' => f.fast_ended id h.sound n h' hfast
  simp only [fastChecks, List.mem_range'_1, sources, List.length_append] at hnew hnotFast
  cases hslow : f.slow with
  | none =>
    simp only [hslow, Option.toList, List.length_nil] at hnew
    omega
  | some source =>
    simp only [hslow, Option.toList, List.length_singleton] at hnew
    have hslowCheck : n = f.slowCheck s := by
      unfold slowCheck
      omega
    have hnone := (f.slowArrival?_eq_none_iff id h hslow).mpr (hslowCheck ▸ hn)
    exact ⟨hslowCheck, by simp [late?, hnone, hslow]⟩

theorem slowCheck_running (h : s.Ready) (hlate : (f.late? id s).isSome) :
    f.slowCheck s ∈ (f.afterGrace id s).running := by
  obtain ⟨source, hsource⟩ := Option.isSome_iff_exists.mp hlate
  simp only [late?, Option.ite_none_right_eq_some] at hsource
  exact (f.slowArrival?_eq_none_iff id h hsource.2).mp hsource.1

theorem slowCheck_not_running (h : s.Ready) : f.slowCheck s ∉ s.pool.running := by
  intro hmem
  have hlt := h.sound.lt_fresh hmem
  unfold slowCheck at hlt
  omega

theorem leftBehind_of_ask (h : s.Ready) (hfind : f.find id s = f.ask id s) :
    f.leftBehind id s = (f.late? id s).toList.map fun _ => (id, f.slowCheck s) := by
  have hnew : ∀ n, n ∈ (f.afterGrace id s).running.filter (fun n => n ∉ s.pool.running) ↔
      n = f.slowCheck s ∧ (f.late? id s).isSome := by
    intro n
    rw [List.mem_filter, decide_eq_true_eq]
    constructor
    · rintro ⟨hn, hnot⟩
      exact (f.running_afterGrace id h hn).resolve_left hnot
    · rintro ⟨rfl, hlate⟩
      exact ⟨f.slowCheck_running id h hlate, f.slowCheck_not_running h⟩
  have hnodup := (f.sound_afterGrace id h.sound).nodup.filter fun n => n ∉ s.pool.running
  rw [leftBehind, hfind, running_ask]
  cases hlate : f.late? id s with
  | none =>
    have hnil : (f.afterGrace id s).running.filter (fun n => n ∉ s.pool.running) = [] := by
      refine List.eq_nil_iff_forall_not_mem.mpr fun n hn => ?_
      simpa [hlate] using (hnew n).mp hn
    rw [hnil]
    rfl
  | some source =>
    have hone : (f.afterGrace id s).running.filter (fun n => n ∉ s.pool.running) =
        [f.slowCheck s] := by
      refine List.perm_singleton.mp ((List.perm_ext_iff_of_nodup hnodup (List.nodup_singleton _)).mpr
        fun n => ?_)
      simpa [hlate] using hnew n
    rw [hone]
    rfl

/-- A search begins no check if its identifier is blank or nobody can be asked. -/
theorem find_cases : f.find id s = f.ask id s ∨ (f.find id s).2 = s := by
  unfold find
  split
  · exact .inr rfl
  · split
    · exact .inr rfl
    · exact .inl rfl

theorem leftBehind_of_unchanged (h : (f.find id s).2 = s) : f.leftBehind id s = [] := by
  rw [leftBehind, h, List.map_eq_nil_iff, List.filter_eq_nil_iff]
  simp

/-- The list behind a search grows by what the search left under way, and shrinks elsewhere. -/
theorem background_find (h : s.Ready) :
    (f.find id s).2.background.Sublist (s.background ++ f.leftBehind id s) := by
  rcases f.find_cases id (s := s) with hfind | hsame
  · rw [leftBehind_of_ask f id h hfind, hfind, background_ask, backgroundAfter]
    cases f.late? id s with
    | none => simp
    | some source => exact (List.filter_sublist).append (List.Sublist.refl _)
  · rw [hsame]
    exact List.sublist_append_left ..

theorem mem_background_find (h : s.Ready) {b : String × Nat}
    (hb : b ∈ s.background ++ f.leftBehind id s) (hn : b.2 ∈ (f.find id s).2.pool.running) :
    b ∈ (f.find id s).2.background := by
  rcases f.find_cases id (s := s) with hfind | hsame
  · rw [hfind, running_ask] at hn
    rw [leftBehind_of_ask f id h hfind] at hb
    rw [hfind, background_ask, backgroundAfter]
    cases hlate : f.late? id s with
    | none => simpa [hlate] using hb
    | some source =>
      rw [hlate, List.mem_append] at hb
      refine List.mem_append.mpr (hb.imp_left fun hb => ?_)
      exact List.mem_filter.mpr ⟨hb, Pool.isRunning_iff.mpr hn⟩
  · rw [leftBehind_of_unchanged f id hsame, List.append_nil] at hb
    rwa [hsame]

/-- Behind a search that leaves a check under way, all that is listed is under way. -/
theorem running_of_leftBehind (h : s.Ready) (hleft : f.leftBehind id s ≠ []) :
    ∀ b ∈ (f.find id s).2.background, (f.find id s).2.pool.isRunning b.2 = true := by
  rcases f.find_cases id (s := s) with hfind | hsame
  · intro b hb
    rw [leftBehind_of_ask f id h hfind] at hleft
    rw [Pool.isRunning_iff, hfind, running_ask]
    rw [hfind, background_ask, backgroundAfter] at hb
    cases hlate : f.late? id s with
    | none => simp [hlate] at hleft
    | some source =>
      rw [hlate, List.mem_append, List.mem_filter, List.mem_singleton] at hb
      rcases hb with ⟨-, hn⟩ | rfl
      · exact Pool.isRunning_iff.mp hn
      · exact f.slowCheck_running id h (by rw [hlate]; rfl)
  · exact absurd (leftBehind_of_unchanged f id hsame) hleft

theorem fresh_le_leftBehind (h : s.Ready) {b : String × Nat} (hb : b ∈ f.leftBehind id s) :
    s.pool.fresh ≤ b.2 := by
  rcases f.find_cases id (s := s) with hfind | hsame
  · rw [leftBehind_of_ask f id h hfind] at hb
    obtain ⟨source, -, rfl⟩ := List.mem_map.mp hb
    exact Nat.le_add_right ..
  · simp [leftBehind_of_unchanged f id hsame] at hb

theorem leftBehind_running {b : String × Nat} (hb : b ∈ f.leftBehind id s) :
    b.2 ∈ (f.find id s).2.pool.running := by
  obtain ⟨n, hn, rfl⟩ := List.mem_map.mp hb
  exact (List.mem_filter.mp hn).1

theorem leftBehind_nodup (h : s.Ready) : ((f.leftBehind id s).map Prod.snd).Nodup := by
  have hsnd : (f.leftBehind id s).map Prod.snd =
      (f.find id s).2.pool.running.filter fun n => n ∉ s.pool.running := by
    simp [leftBehind, Function.comp_def]
  rw [hsnd]
  exact (h.find f id).sound.nodup.filter _

theorem fresh_le_find (s : Session) : s.pool.fresh ≤ (f.find id s).2.pool.fresh := by
  rcases f.find_cases id (s := s) with hfind | hsame
  · obtain ⟨ended, -, -, hle⟩ := Pool.Reaches.continues (f.reaches_of_launched id s)
    rw [fresh_launched] at hle
    rw [hfind, fresh_ask]
    exact Nat.le_of_add_right_le hle
  · exact Nat.le_of_eq (by rw [hsame])

/-- A check that was under way before a search and still is, is one that has been left so. -/
theorem running_before_find (h : s.Ready) {n : Nat} (hn : n ∈ (f.find id s).2.pool.running)
    (hlt : n < s.pool.fresh) : n ∈ s.pool.running := by
  rcases f.find_cases id (s := s) with hfind | hsame
  · rw [hfind, running_ask] at hn
    refine (f.running_afterGrace id h hn).resolve_right fun ⟨heq, _⟩ => ?_
    unfold slowCheck at heq
    omega
  · rwa [hsame] at hn

namespace Session

/-- Waiting for the checks in the background ends with all of them at their end. -/
theorem ended_settle (h : s.Ready) : ∀ b ∈ s.background, b.2 ∉ s.settle.2.pool.running := by
  intro b hb
  have hstop := h.sound.stop_runUntil (fun p => s.background.all fun b => !p.isRunning b.2)
    fun q hq => by simp [Pool.isRunning, hq]
  exact Pool.not_isRunning_iff.mp (List.all_eq_true.mp hstop b hb)

theorem reaches_settle (s : Session) :
    ∃ q, s.pool.Reaches q ∧ s.settle.2 = ⟨{ q with finished := [] }, []⟩ :=
  ⟨_, Pool.reaches_runUntil .., rfl⟩

theorem running_checkAll (h : s.Ready) {works : List (Search.Work Source.Outcome)}
    (hworks : ∀ work ∈ works, work.Orderly none) :
    (s.checkAll works).2.pool.running ⊆ s.pool.running := by
  intro n hn
  have hstop := (Pool.sound_spawnAll true hworks h.sound).stop_runUntil
    (fun p => (s.pool.spawnAll true works).2.all fun id => !p.isRunning id)
    fun q hq => by simp [Pool.isRunning, hq]
  have hbefore : n ∈ (s.pool.spawnAll true works).1.running :=
    (Pool.reaches_runUntil ..).running_subset hn
  rw [Pool.running_spawnAll, ← Pool.snd_spawnAll s.pool true works, List.mem_append] at hbefore
  refine hbefore.resolve_right fun hnew => ?_
  exact Pool.not_isRunning_iff.mp (List.all_eq_true.mp hstop n hnew) hn

theorem Reachable.mem_background (h : s.Reachable) :
    s.pool.running ⊆ s.background.map Prod.snd := by
  induction h with
  | start shared => exact List.nil_subset _
  | change _ f ih => exact ih
  | @find s h f id ih =>
    intro n hn
    have hlisted : ∃ b ∈ s.background ++ f.leftBehind id s, b.2 = n := by
      by_cases hbefore : n ∈ s.pool.running
      · obtain ⟨b, hb, hbn⟩ := List.mem_map.mp (ih hbefore)
        exact ⟨b, List.mem_append_left _ hb, hbn⟩
      · have hleft : (id, n) ∈ f.leftBehind id s :=
          List.mem_map.mpr ⟨n, List.mem_filter.mpr ⟨hn, by simpa using hbefore⟩, rfl⟩
        exact ⟨_, List.mem_append_right _ hleft, rfl⟩
    obtain ⟨b, hb, rfl⟩ := hlisted
    exact List.mem_map.mpr ⟨b, f.mem_background_find id h.ready hb hn, rfl⟩
  | checkAll h works hworks ih => exact fun n hn => ih (running_checkAll h.ready hworks hn)
  | sleep _ millis ih => exact fun n hn => ih ((Pool.reaches_runUntil ..).running_subset hn)
  | settle h ih =>
    intro n hn
    obtain ⟨b, hb, rfl⟩ := List.mem_map.mp (ih ((Pool.reaches_runUntil ..).running_subset hn))
    exact absurd hn (ended_settle h.ready b hb)

theorem Reachable.running_settle (h : s.Reachable) : s.settle.2.pool.running = [] :=
  List.subset_nil.mp h.settle.mem_background

theorem Reachable.settle_eq (h : s.Reachable) :
    s.settle.2 = ⟨{ s.pool.atEnd with finished := [] }, []⟩ := by
  have hstop (q : Pool) (hq : s.pool.Reaches q) :
      (s.background.all fun b => !q.isRunning b.2) = true ↔ q.jobs = [] := by
    constructor
    · intro hdone
      have hnone : q.running = [] := by
        refine List.eq_nil_iff_forall_not_mem.mpr fun n hn => ?_
        obtain ⟨b, hb, rfl⟩ := List.mem_map.mp (h.mem_background (hq.running_subset hn))
        exact Pool.not_isRunning_iff.mp (List.all_eq_true.mp hdone b hb) hn
      exact List.map_eq_nil_iff.mp hnone
    · intro hnil
      simp [Pool.isRunning, hnil]
  rw [snd_settle, h.ready.sound.runUntil_eq_atEnd hstop]
  rfl

end Session

namespace Chronicle

variable {f} {c : Chronicle}

theorem Faithful.mem_background (h : c.Faithful) {b : String × Nat}
    (hb : b ∈ c.session.background) : b ∈ c.detached :=
  h.unsettled.subset (h.listed.subset hb)

theorem Faithful.of_reaches (h : c.Faithful) {session : Session} (hready : session.Ready)
    {q : Pool} (hreach : c.session.pool.Reaches q) (hrunning : session.pool.running = q.running)
    (hfresh : session.pool.fresh = q.fresh) (hsame : session.background = c.session.background) :
    Faithful { c with session := session } := by
  obtain ⟨ended, -, -, hle⟩ := hreach.continues
  refine ⟨hready, h.nodup, fun b hb => ?_, h.unsettled, hsame ▸ h.listed, fun b hb hn => ?_⟩
  · rw [hfresh]
    exact Nat.lt_of_lt_of_le (h.old b hb) hle
  · rw [hrunning] at hn
    rw [hsame]
    exact h.kept b hb (hreach.running_subset hn)

theorem Faithful.sleep (h : c.Faithful) (millis : Nat) : (c.next f (.sleep millis)).Faithful :=
  h.of_reaches (h.ready.sleep millis) (Pool.reaches_runUntil ..) rfl rfl rfl

/-- Every check that was left under way has ended after the wait, listed or not. -/
theorem Faithful.ended_settle (h : c.Faithful) :
    ∀ b ∈ c.detached, b.2 ∉ c.session.settle.2.pool.running := by
  intro b hb hn
  obtain ⟨q, hreach, heq⟩ := c.session.reaches_settle
  have hbefore : b.2 ∈ c.session.pool.running := by
    rw [heq] at hn
    exact Pool.Reaches.running_subset hreach hn
  exact Session.ended_settle h.ready b (h.kept b hb hbefore) hn

theorem Faithful.settle (h : c.Faithful) : (c.next f .settle).Faithful := by
  obtain ⟨q, hreach, heq⟩ := c.session.reaches_settle
  obtain ⟨ended, -, -, hle⟩ := Pool.Reaches.continues hreach
  refine ⟨h.ready.settle, h.nodup, fun b hb => ?_, List.nil_sublist _, ?_, fun b hb hn => ?_⟩
  · have hfresh : c.session.settle.2.pool.fresh = q.fresh := by rw [heq]
    exact hfresh ▸ Nat.lt_of_lt_of_le (h.old b hb) hle
  · exact List.Sublist.refl _
  · exact absurd hn (h.ended_settle b hb)

theorem Faithful.find (h : c.Faithful) : (c.next f (.find id)).Faithful := by
  have hready := h.ready.find f id
  refine ⟨hready, ?_, fun b hb => ?_, h.unsettled.append (List.Sublist.refl _),
    (background_find f id h.ready).trans (h.listed.append (List.Sublist.refl _)),
    fun b hb hn => mem_background_find f id h.ready ?_ hn⟩
  · -- the numbers of earlier checks are smaller
    simp only [next, List.map_append]
    refine List.nodup_append.mpr ⟨h.nodup, leftBehind_nodup f id h.ready, ?_⟩
    rintro m hm n hn rfl
    obtain ⟨b, hb, rfl⟩ := List.mem_map.mp hm
    obtain ⟨d, hd, heq⟩ := List.mem_map.mp hn
    have hold := h.old b hb
    have hnew := fresh_le_leftBehind f id h.ready hd
    omega
  · rcases List.mem_append.mp hb with hb | hb
    · exact Nat.lt_of_lt_of_le (h.old b hb) (fresh_le_find f id c.session)
    · exact hready.sound.lt_fresh (leftBehind_running f id hb)
  · refine List.mem_append.mpr ((List.mem_append.mp hb).imp_left fun hb => ?_)
    exact h.kept b hb (running_before_find f id h.ready hn (h.old b hb))

theorem faithful_next (h : c.Faithful) (call : Call) : (c.next f call).Faithful := by
  cases call with
  | find id => exact h.find id
  | sleep millis => exact h.sleep millis
  | count => exact h
  | settle => exact h.settle

theorem faithful_after (f : Federation) (shared : Search.Shared) (calls : List Call) :
    (after f shared calls).Faithful := by
  have hstart : Faithful ⟨.start shared, [], []⟩ :=
    ⟨Session.ready_start shared, List.nodup_nil, by simp, List.Sublist.refl _,
      List.Sublist.refl _, by simp⟩
  unfold after
  generalize (⟨.start shared, [], []⟩ : Chronicle) = c at hstart
  induction calls generalizing c with
  | nil => exact hstart
  | cons call calls ih => exact ih _ (faithful_next hstart call)

/-- With the checks of a pool under way, the list has each check that was left under way and has not
ended just once, and counting in the list counts all of these. -/
def Tracks (c : Chronicle) (q : Pool) : Prop :=
  (∀ b ∈ c.detached, q.isRunning b.2 = true → c.session.background.count b = 1) ∧
    { c.session with pool := q }.backgroundCount = c.detached.countP fun b => q.isRunning b.2

theorem Faithful.background_nodup (h : c.Faithful) : c.session.background.Nodup :=
  (h.nodup.of_map Prod.snd).sublist (h.listed.trans h.unsettled)

/-- The list is right as long as no check runs that was at its end before. -/
theorem Faithful.tracks (h : c.Faithful) {q : Pool}
    (hq : ∀ b ∈ c.detached, b.2 ∈ q.running → b.2 ∈ c.session.pool.running) : c.Tracks q := by
  have hkept (b : String × Nat) (hb : b ∈ c.detached) (hn : q.isRunning b.2 = true) :
      b ∈ c.session.background :=
    h.kept b hb (hq b hb (Pool.isRunning_iff.mp hn))
  refine ⟨fun b hb hn => List.count_eq_one_of_mem h.background_nodup (hkept b hb hn), ?_⟩
  have hdetached : c.detached.Nodup := h.nodup.of_map Prod.snd
  have hperm : (c.session.background.filter fun b => q.isRunning b.2).Perm
      (c.detached.filter fun b => q.isRunning b.2) := by
    refine (List.perm_ext_iff_of_nodup (h.background_nodup.filter _) (hdetached.filter _)).mpr
      fun b => ?_
    rw [List.mem_filter, List.mem_filter]
    exact and_congr_left fun hn => ⟨h.mem_background, fun hb => hkept b hb hn⟩
  rw [Session.backgroundCount, List.countP_eq_length_filter, List.countP_eq_length_filter]
  exact hperm.length_eq

theorem Faithful.tracks_of_reaches (h : c.Faithful) {q : Pool} (hreach : c.session.pool.Reaches q) :
    c.Tracks q :=
  h.tracks fun _ _ hn => hreach.running_subset hn

theorem Faithful.tracks_of_launched (h : c.Faithful) (id : String) {q : Pool}
    (hreach : (f.launched id c.session).Reaches q) : c.Tracks q := by
  refine h.tracks fun b hb hn => ?_
  have hlaunched := hreach.running_subset hn
  rw [running_launched, List.mem_append, List.mem_range'_1] at hlaunched
  have hold := h.old b hb
  exact hlaunched.resolve_right fun hnew => by omega

end Chronicle

/-- After any calls, while time goes by and while a search waits, the list in the background has every
check left under way that has not ended, just once. Right after a search has left one there, it has no
others. Who waits for the list takes it away first: until the wait is over there is nothing in it, and the
checks that have not ended are in what was taken, each just once. The wait begins no check, ends with all
of them at their end, and tells a number between those still under way before and those left under way
since the last wait. -/
theorem background_faithful (shared : Search.Shared) (calls : List Call) :
    let c := Chronicle.after f shared calls
    let taken := c.session.takeBackground.1
    let waiting := c.session.takeBackground.2
    (∀ q, c.session.pool.Reaches q → c.Tracks q) ∧
    (∀ id q, (f.launched id c.session).Reaches q → c.Tracks q) ∧
    (∀ id, f.leftBehind id c.session ≠ [] →
      ∀ b ∈ (f.find id c.session).2.background,
        (f.find id c.session).2.pool.isRunning b.2 = true) ∧
    c.session.settle = (taken.length, waiting.await taken) ∧
    (∀ q, c.session.pool.Reaches q →
      { waiting with pool := q }.background = [] ∧ { waiting with pool := q }.backgroundCount = 0 ∧
      (∀ b ∈ c.detached, q.isRunning b.2 = true → taken.count b = 1) ∧
      (taken.countP fun b => q.isRunning b.2) = c.detached.countP fun b => q.isRunning b.2) ∧
    (∃ q, c.session.pool.Reaches q ∧
      (q.running ++ q.finished.map Prod.fst).Perm c.session.pool.running ∧
      (∀ b ∈ c.detached, q.isRunning b.2 = false) ∧
      c.session.settle.2 = ⟨{ q with finished := [] }, []⟩) ∧
    c.session.settle.2.backgroundCount = 0 ∧
    c.session.backgroundCount ≤ c.session.settle.1 ∧
    c.session.settle.1 ≤ c.unsettled.length := by
  intro c taken waiting
  have h : c.Faithful := Chronicle.faithful_after f shared calls
  obtain ⟨q, hreach, heq⟩ := c.session.reaches_settle
  obtain ⟨ended, hfinished, hperm, -⟩ := Pool.Reaches.continues hreach
  rw [h.ready.finished, List.nil_append] at hfinished
  refine ⟨fun q hq => h.tracks_of_reaches hq, fun id q hq => h.tracks_of_launched id hq,
    fun id hleft => running_of_leftBehind f id h.ready hleft, rfl, fun q hq => ?_,
    ⟨q, hreach, hfinished ▸ hperm, fun b hb => ?_, heq⟩, ?_, List.countP_le_length,
    h.listed.length_le⟩
  · obtain ⟨honce, hcount⟩ := h.tracks_of_reaches hq
    exact ⟨rfl, rfl, honce, hcount⟩
  · have hended := h.ended_settle b hb
    rw [heq] at hended
    exact Bool.eq_false_iff.mpr (mt Pool.isRunning_iff.mp hended)
  · rw [heq]
    rfl

/-- While a wait for a slow check goes on, that check is in no list and is not counted. And a check that
a search without fast sources and without a grace period leaves under way asks its source only during
the wait. -/
theorem not_background_faithful_in_settle :
    let late : Source.Stub := { name := "slow", delay := some 5000 }
    let f (millis : Nat) : Federation := ⟨[], some (late.toSource 0), { gracePeriodMs := millis }⟩
    let shared : Search.Shared := .start .epoch (.empty 4) .down [late]
    let c (millis : Nat) := Chronicle.after (f millis) shared [.find "tt1"]
    let waiting (millis : Nat) := (c millis).session.takeBackground.2
    (("tt1", 0) ∈ (c 10).detached ∧ (waiting 10).pool.isRunning 0 = true ∧
      (waiting 10).background.count ("tt1", 0) = 0 ∧ (waiting 10).backgroundCount = 0) ∧
    ((c 0).session.pool.shared.stubs.map (·.checks) = [[]] ∧
      (c 0).session.settle.2.pool.shared.stubs.map (·.checks) = [[("tt1", 1)]]) := by
  intro late f shared c waiting
  let s := Session.start shared
  let left (q : Pool) : Session := ((detach "tt1" "slow" 0 { s with pool := q }).change
    (·.count (observe (conclude [] (some "slow"))))).forget
  have hfind (millis : Nat) {q : Pool} (hq : ((f millis).launched "tt1" s).runWithin
      (fun q => !q.isRunning 0) (some millis) 20 = some q) (hnone : q.outcome? 0 = none) :
      (c millis).session = left q := by
    have hgrace : (f millis).afterGrace "tt1" s = q :=
      (congrArg (fun l => Pool.runUntil _ (some l) _) (Nat.zero_add millis)).trans
        (Pool.runUntil_of_runWithin hq)
    have hask := ask_of_late (f millis) "tt1" s rfl (hgrace ▸ hnone)
    rw [hgrace] at hask
    exact congrArg Prod.snd hask
  have hten : (((f 10).launched "tt1" s).runWithin (fun q => !q.isRunning 0) (some 10) 20).any
      (fun q => decide (q.outcome? 0 = none ∧ (left q).pool.isRunning 0 = true)) = true := by
    decide +kernel
  have hzero : (((f 0).launched "tt1" s).runWithin (fun q => !q.isRunning 0) (some 0) 20).any
      (fun q => ((left q).pool.runWithin
        (fun r => (left q).background.all fun b => !r.isRunning b.2) none 20).any fun ended =>
          decide (q.outcome? 0 = none ∧ (left q).pool.shared.stubs.map (·.checks) = [[]] ∧
            ended.shared.stubs.map (·.checks) = [[("tt1", 1)]])) = true := by
    decide +kernel
  obtain ⟨q, hq, hall⟩ := (Option.any_eq_true _ _).mp hten
  obtain ⟨hnone, hrunning⟩ := of_decide_eq_true hall
  obtain ⟨q', hq', hall'⟩ := (Option.any_eq_true _ _).mp hzero
  obtain ⟨ended, hended, hall'⟩ := (Option.any_eq_true _ _).mp hall'
  obtain ⟨hnone', hbefore, hafter⟩ := of_decide_eq_true hall'
  have hsession := hfind 10 hq hnone
  refine ⟨⟨?_, ?_, rfl, rfl⟩, ?_, ?_⟩
  · refine List.mem_append_right _ (List.mem_map.mpr ⟨0, List.mem_filter.mpr ⟨?_, ?_⟩, rfl⟩)
    · change 0 ∈ (c 10).session.pool.running
      rw [hsession]
      exact Pool.isRunning_iff.mp hrunning
    · rfl
  · change (c 10).session.pool.isRunning 0 = true
    rw [hsession]
    exact hrunning
  · rw [hfind 0 hq' hnone']
    exact hbefore
  · rw [hfind 0 hq' hnone', Session.snd_settle, Pool.runUntil_of_runWithin hended]
    exact hafter

end TorrentSearch.Federation
