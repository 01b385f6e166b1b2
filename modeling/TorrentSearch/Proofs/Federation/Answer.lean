import TorrentSearch.Proofs.Federation.Grace

/-!
# The answer of a search

A search waits for all its fast sources, and for the slow one if that ends in time. What they bring, in
the order in which their checks end and the slow one last, decides between a list, the causes of all
failures and no answer yet.
-/

namespace TorrentSearch.Federation

open Search (Pool)

variable {f : Federation} {id : String} {s : Session} {source : Source}

theorem EndingOrder.moments {order : List (Nat × Source)} (h : f.EndingOrder id s order) (hs : s.Ready)
    (hpunctual : (f.launched id s).Punctual) :
    order.Pairwise fun c d => (f.launched id s).endMoment c.1 ≤ (f.launched id s).endMoment d.1 := by
  refine h.ends.imp fun {c d} hends => ?_
  have hpasses : Pool.Passes d.1 ((f.launched id s).endOf d.1) ((f.launched id s).endOf c.1) :=
    (Pool.Passes.refl _ _).runUntil (f.sound_launched id hs.sound) _ none
  exact hpasses.elapsed_le (hpunctual.of_reaches (Pool.reaches_endOf ..)) hends

/-- The slow check is over with the fast phase if and only if it takes no longer than that, unless there
is no fast phase. -/
theorem not_running_afterFast_iff (hs : s.Ready) (hslow : f.slow = some source)
    (h : (f.launched id s).Punctual) {d : Fin f.fast.length → Nat} {slow : Nat}
    (htakes : f.Takes id s d slow) :
    f.slowCheck s ∉ (f.afterFast id s).running ↔ f.fast ≠ [] ∧ slow ≤ Finset.univ.sup d := by
  have hpasses : Pool.Passes (f.slowCheck s) (f.slowFinish id s) (f.afterFast id s) :=
    f.passes_afterFast id hs _
  have hfast := elapsed_afterFast hs h htakes
  have hfinish : (f.slowFinish id s).shared.elapsed = s.pool.shared.elapsed + slow := htakes.slow
  have hpunctual : (f.afterFast id s).Punctual := h.of_reaches (f.reaches_afterFast id s)
  constructor
  · intro hended
    refine ⟨fun hnone => hended ?_, ?_⟩
    · have hsame : f.afterFast id s = f.launched id s := by
        simp [afterFast, awaitFast, fastChecks, hnone]
      exact hsame ▸ f.slowCheck_mem_launched id hslow
    · have hle := hpasses.le_elapsed (h.of_reaches (Pool.reaches_endOf ..)) hended
      omega
  · rintro ⟨hne, hle⟩ hrunning
    have hchecks : f.fastChecks s ≠ [] := by simpa [fastChecks] using hne
    -- something is due later, and the slow check does not end before that
    have hquiet := (f.stop_afterFast id hs.sound hchecks).2
    obtain ⟨i, r, hnext⟩ := (sound_afterFast hs).exists_next? hrunning
    have hlater : (f.afterFast id s).shared.elapsed < r.moment := by simpa [isQuiet, hnext] using hquiet
    have hend := hpunctual.moment_le_endMoment hrunning hnext
    rw [Pool.endMoment, hpasses.ahead hrunning] at hend
    omega

/-- The slow source arrives if its check takes less than the fast phase and the grace period, or is over
with the fast phase. -/
theorem slowArrival?_isSome_iff (hs : s.Ready) (hslow : f.slow = some source)
    (h : (f.launched id s).Punctual) {d : Fin f.fast.length → Nat} {slow : Nat}
    (htakes : f.Takes id s d slow) :
    (f.slowArrival? id s).isSome ↔
      slow < Finset.univ.sup d + f.settings.gracePeriodMs ∨
        (f.fast ≠ [] ∧ slow ≤ Finset.univ.sup d) := by
  have hpasses : Pool.Passes (f.slowCheck s) (f.slowFinish id s) (f.afterFast id s) :=
    f.passes_afterFast id hs _
  rw [← not_running_afterFast_iff hs hslow h htakes, Option.isSome_iff_ne_none, ne_eq,
    f.slowArrival?_eq_none_iff id hs hslow]
  by_cases hlt : slow < Finset.univ.sup d + f.settings.gracePeriodMs
  · refine iff_of_true (fun hrunning => ?_) (.inl hlt)
    have hreaches := (elapsed_afterGrace_of_lt hs hslow h htakes hlt).1
    exact (f.sound_launched id hs.sound).not_running_endOf _ (hreaches.running_subset hrunning)
  · rw [or_iff_right hlt]
    simp only [afterGrace, hslow, awaitSlow]
    by_cases hrunning : f.slowCheck s ∈ (f.afterFast id s).running
    · -- its end is not before the limit
      have hmoment : (f.afterFast id s).shared.elapsed + f.settings.gracePeriodMs ≤
          (f.afterFast id s).endMoment (f.slowCheck s) := by
        have hfinish : (f.slowFinish id s).shared.elapsed = s.pool.shared.elapsed + slow := htakes.slow
        rw [Pool.endMoment, hpasses.ahead hrunning, elapsed_afterFast hs h htakes]
        omega
      have hstill := (Pool.runUntil_of_le_endMoment (h.of_reaches (f.reaches_afterFast id s))
        (sound_afterFast hs) hrunning (Nat.le_add_right _ _) hmoment).1
      exact iff_of_false (not_not_intro hstill) (not_not_intro hrunning)
    · rw [Pool.runUntil_of_stop (Pool.not_isRunning_iff.mpr hrunning)]

/-- What the slow source brings in time is what its check brings at its end. -/
theorem brought?_of_slowArrival? (hs : s.Ready) (hslow : f.slow = some source) {a : Arrival}
    (ha : f.slowArrival? id s = some a) : f.brought? id s (f.slowCheck s, source) = some a := by
  have hpast : (f.slowFinish id s).Reaches (f.afterGrace id s) := by
    have hpasses : Pool.Passes (f.slowCheck s) (f.slowFinish id s) (f.afterGrace id s) := by
      simp only [afterGrace, hslow]
      exact (f.passes_afterFast id hs _).runUntil (sound_afterFast hs) _ _
    refine hpasses.past fun hrunning => ?_
    rw [(f.slowArrival?_eq_none_iff id hs hslow).mpr hrunning] at ha
    cases ha
  obtain ⟨outcome, houtcome⟩ := exists_outcome_slowFinish id hs hslow
  rw [slowArrival?, hslow, Option.bind_some, hpast.outcome?_eq houtcome] at ha
  have hend : ((f.launched id s).endOf (f.slowCheck s)).outcome? (f.slowCheck s) = some outcome :=
    houtcome
  rw [brought?, hend]
  exact ha

/-- What a search answers for its arrivals: that the slow source is still at work, if nobody could
arrive but it; or the causes of all failures, if nobody brought a list; or the torrents of all lists,
of which those with a known info hash are left out if several lists have some. -/
structure Answers (f : Federation) (arrived : List Arrival) (answer : Except Error (List Torrent)) : Prop where
  pending : ∀ name, answer = .error (.pending name) ↔
    f.fast = [] ∧ arrived = [] ∧ ∃ source, f.slow = some source ∧ source.name = name
  failed : ∀ causes, answer = .error (.allSourcesFailed causes) ↔
    arrived ≠ [] ∧ arrived = causes.map Failure.arrival
  found : ∀ torrents, answer = .ok torrents ↔
    (∃ a ∈ arrived, a.outcome.isOk = true) ∧
      torrents =
        if 1 < (lists arrived).countP (!·.isEmpty) then Torrent.firsts (lists arrived).flatten
        else (lists arrived).flatten

/-- A search that asks somebody and has no arrivals has a slow source that is late. -/
theorem late_of_no_arrivals (hf : f.sources ≠ [])
    (h : s.Ready) (hnone : f.fastArrivals id s ++ (f.slowArrival? id s).toList = []) :
    f.fast = [] ∧ f.late? id s = f.slow ∧ f.slow ≠ none := by
  obtain ⟨hfast, hslow⟩ := List.append_eq_nil_iff.mp hnone
  rw [fastArrivals_eq_nil_iff f id h] at hfast
  rw [Option.toList_eq_nil_iff] at hslow
  refine ⟨hfast, by rw [late?, if_pos hslow], fun hnone => hf ?_⟩
  rw [sources, hfast, hnone]
  rfl

theorem answers_ask (hf : f.sources ≠ []) (h : s.Ready) :
    f.Answers (f.fastArrivals id s ++ (f.slowArrival? id s).toList) (f.ask id s).1 := by
  rw [fst_ask]
  refine ⟨fun name => ?_, fun causes => ?_, fun torrents => ?_⟩
  · rw [conclude_eq_pending_iff, Option.map_eq_some_iff]
    constructor
    · rintro ⟨hnone, source, hlate, rfl⟩
      obtain ⟨hfast, heq, -⟩ := late_of_no_arrivals hf h hnone
      exact ⟨hfast, hnone, source, heq ▸ hlate, rfl⟩
    · rintro ⟨-, hnone, source, hslow, rfl⟩
      obtain ⟨-, heq, -⟩ := late_of_no_arrivals hf h hnone
      exact ⟨hnone, source, heq.trans hslow, rfl⟩
  · rw [conclude_eq_allSourcesFailed_iff]
    refine and_congr_left fun _ => ⟨fun himp hnone => ?_, fun hne hnone => absurd hnone hne⟩
    obtain ⟨-, heq, hslow⟩ := late_of_no_arrivals hf h hnone
    have hmap := himp hnone
    rw [heq, Option.map_eq_none_iff] at hmap
    exact hslow hmap
  · rw [conclude_eq_ok_iff, mergeLists_eq]

/-- What a search gets from its slow source: what that one's check brings at its end, or nothing if it is
still under way at the answer. If no check sets the clock, this is decided by how long the checks take:
the slow one is in time if it takes less than all fast ones and the grace period, or no longer than the
fast ones. -/
structure SlowArrival (f : Federation) (id : String) (s : Session) (slow? : Option Arrival) : Prop where
  brings : ∀ a, slow? = some a → ∃ source, f.slow = some source ∧
    f.brought? id s (f.slowCheck s, source) = some a ∧
    (source.run f.settings.attempts id).MayBring a.outcome
  late : slow? = none ↔ f.slow = none ∨ f.slowCheck s ∈ (f.find id s).2.pool.running
  inTime : f.slow ≠ none → (f.launched id s).Punctual →
    ∃ (d : Fin f.fast.length → Nat) (slow : Nat), f.Takes id s d slow ∧
      (slow?.isSome ↔ slow < Finset.univ.sup d + f.settings.gracePeriodMs ∨
        (f.fast ≠ [] ∧ slow ≤ Finset.univ.sup d))

theorem slowArrival (hs : s.Ready) (hfind : f.find id s = f.ask id s) :
    f.SlowArrival id s (f.slowArrival? id s) := by
  cases hslow : f.slow with
  | none =>
    have hnone : f.slowArrival? id s = none := by rw [slowArrival?, hslow, Option.bind_none]
    rw [hnone]
    exact ⟨by simp, by simp [hslow], fun h => absurd hslow h⟩
  | some source =>
    refine ⟨fun a ha => ?_, ?_, fun _ hpunctual => ?_⟩
    · have hbrought := brought?_of_slowArrival? hs hslow ha
      exact ⟨source, hslow, hbrought,
        (f.mayBring_of_brought? id hs (slowCheck_mem_zip hslow) hbrought).2⟩
    · rw [f.slowArrival?_eq_none_iff id hs hslow, hfind, running_ask]
      simp [hslow]
    · obtain ⟨d, slow, htakes⟩ := exists_takes hpunctual
      exact ⟨d, slow, htakes, slowArrival?_isSome_iff hs hslow hpunctual htakes⟩

/-- What a search for an identifier that is not blank answers, if there is somebody to ask: each fast
source arrives once, in the order in which the checks end, the slow one arrives last if it is in time, and
the answer is the one for these arrivals. -/
theorem find_answers (hs : s.Reachable) (hid : Text.isBlankText id = false) (hf : f.sources ≠ []) :
    ∃ (order : List (Nat × Source)) (arrived : List Arrival) (slow? : Option Arrival),
      f.EndingOrder id s order ∧
      ((f.launched id s).Punctual → order.Pairwise fun c d =>
        (f.launched id s).endMoment c.1 ≤ (f.launched id s).endMoment d.1) ∧
      order.map (f.brought? id s) = arrived.map some ∧
      (∀ c ∈ order, ∀ a, f.brought? id s c = some a →
        (c.2.run f.settings.attempts id).MayBring a.outcome) ∧
      f.SlowArrival id s slow? ∧
      f.Answers (arrived ++ slow?.toList) (f.find id s).1 ∧
      ∀ torrents : List Torrent, (Torrent.firsts torrents).Sublist torrents ∧
        ((Torrent.firsts torrents).map (·.infoHash)).Nodup ∧
        ∀ t ∈ torrents, t.infoHash ∈ (Torrent.firsts torrents).map (·.infoHash) := by
  have h := hs.ready
  have hfind : f.find id s = f.ask id s := f.find_of_asked id s hid hf
  obtain ⟨order, horder, hbrought⟩ := f.fastArrivals_inOrder id h
  refine ⟨order, f.fastArrivals id s, f.slowArrival? id s, horder, horder.moments h, hbrought,
    fun c hc a ha => ?_, slowArrival h hfind, ?_,
    fun torrents => ⟨Torrent.firsts_sublist _, Torrent.firsts_hashes_nodup _,
      fun t ht => Torrent.hash_mem_firsts ht⟩⟩
  · have hmem := mem_sources_of_fast f (horder.perm.mem_iff.mp hc)
    exact (f.mayBring_of_brought? id h hmem ha).2
  · rw [hfind]
    exact answers_ask hf h

/-- When a check ends, what it brings, and which checks are still under way then. -/
private structure Ends (p : Pool) (n moment : Nat) (outcome : Source.Outcome) (still : List Nat) :
    Prop where
  brought : (p.endOf n).outcome? n = some outcome
  moment : p.endMoment n = moment
  still : (p.endOf n).running = still

/-- A fast source that overtakes the one before it, and a slow one with a torrent of theirs, which is in
time or late. -/
theorem find_answers_of_overtaking :
    let film (title hash : String) : Torrent := ⟨title, "720p", hash, ""⟩
    let left : Source.Stub :=
      { name := "left", results := [film "L" "1", film "L" "3"], delay := some 80 }
    let right : Source.Stub :=
      { name := "right", results := [film "R" "1", film "R" "2"], delay := some 30 }
    let slow (millis : Nat) : Source.Stub :=
      { name := "slow", results := [film "S" "2", film "S" "4"], delay := some millis }
    let f (millis : Nat) : Federation :=
      ⟨[left.toSource 0, right.toSource 1], some ((slow millis).toSource 2), { gracePeriodMs := 50 }⟩
    let s (millis : Nat) := Session.start (.start .epoch (.empty 4) .down [left, right, slow millis])
    ((f 100).find "tt1" (s 100)).1 =
        .ok [film "R" "1", film "R" "2", film "L" "3", film "S" "4"] ∧
      ((f 200).find "tt1" (s 200)).1 = .ok [film "R" "1", film "R" "2", film "L" "3"] := by
  intro film left right slow f s
  have hpunctual (millis : Nat) : ((f millis).launched "tt1" (s millis)).Punctual := by
    refine Impartial.punctual ⟨fun source hsource => ?_, fun t ht => by cases ht⟩
    simp only [sources, f, Option.toList_some, List.mem_append, List.mem_cons, List.not_mem_nil,
      or_false] at hsource
    rcases hsource with (rfl | rfl) | rfl
    · exact ⟨left.timeless_run 0 _ _, left.uncounted_run 0 _ _⟩
    · exact ⟨right.timeless_run 1 _ _, right.uncounted_run 1 _ _⟩
    · exact ⟨(slow millis).timeless_run 2 _ _, (slow millis).uncounted_run 2 _ _⟩
  let p (millis : Nat) : Pool := (f millis).launched "tt1" (s millis)
  have hends (millis n moment : Nat) (outcome : Source.Outcome) (rest : List Nat)
      (h : ((p millis).runWithin (fun q => !q.isRunning n) none 20).any (fun q =>
        decide (q.outcome? n = some outcome ∧ q.shared.elapsed = moment ∧ q.running = rest)) = true) :
      Ends (p millis) n moment outcome rest := by
    obtain ⟨houtcome, hmoment, hrunning⟩ := of_decide_eq_true (Pool.endOf_of_runWithin h)
    exact ⟨houtcome, hmoment, hrunning⟩
  have hanswer (millis : Nat) {still still' : List Nat}
      (hleft : Ends (p millis) 0 80 (.ok left.results) still)
      (hright : Ends (p millis) 1 30 (.ok right.results) (0 :: still))
      (hslow : Ends (p millis) 2 millis (.ok (slow millis).results) still') (hstill : 1 ∉ still) :
      (f millis).Answers ([⟨"right", .ok right.results⟩, ⟨"left", .ok left.results⟩] ++
        if millis < 130 then [⟨"slow", .ok (slow millis).results⟩] else [])
        ((f millis).find "tt1" (s millis)).1 := by
    obtain ⟨order, arrived, slow?, ⟨hperm, hinOrder⟩, -, hbrought, -, ⟨hbrings, -, hinTime⟩,
        hanswers, -⟩ := (find_answers (.start _) (by decide) (by simp [sources, f]) :
      ∃ (order : List (Nat × Source)) (arrived : List Arrival) (slow? : Option Arrival),
        (f millis).EndingOrder "tt1" (s millis) order ∧ _)
    have horder : order = [(1, right.toSource 1), (0, left.toSource 0)] :=
      EndingOrder.unique _ _ ⟨hperm, hinOrder⟩
        ⟨.swap .., List.pairwise_pair.mpr (hright.still ▸ List.mem_cons_self)⟩
        (Session.Reachable.start _).ready
    have harrived : arrived = [⟨"right", .ok right.results⟩, ⟨"left", .ok left.results⟩] := by
      refine List.map_injective_iff.mpr (Option.some_injective _) (hbrought.symm.trans ?_)
      simp only [horder, List.map_cons, List.map_nil, brought?]
      rw [hleft.brought, hright.brought]
      rfl
    obtain ⟨d, duration, ⟨hfast, hlast⟩, hiff⟩ : ∃ (d : Fin 2 → Nat) (duration : Nat),
        (f millis).Takes "tt1" (s millis) d duration ∧
          (slow?.isSome ↔ duration < Finset.univ.sup d + 50 ∨ _ ∧ duration ≤ Finset.univ.sup d) :=
      hinTime (by simp [f]) (hpunctual millis)
    obtain rfl : millis = duration := by
      rw [← hslow.moment, ← Nat.zero_add duration]
      exact hlast
    have hsup : Finset.univ.sup d = 80 := by
      have hfirst : 80 = 0 + d 0 := hleft.moment.symm.trans (hfast (0 : Fin 2))
      have hsecond : 30 = 0 + d 1 := hright.moment.symm.trans (hfast (1 : Fin 2))
      refine Nat.le_antisymm (Finset.sup_le fun k _ => ?_) ?_
      · revert k
        exact Fin.forall_fin_two.mpr ⟨by omega, by omega⟩
      · exact hfirst.trans (Nat.zero_add _) ▸ Finset.le_sup (Finset.mem_univ 0)
    have hin : slow?.isSome ↔ millis < 130 := by
      rw [hiff, hsup]
      omega
    have hslow? : slow?.toList =
        if millis < 130 then [⟨"slow", .ok (slow millis).results⟩] else [] := by
      cases slow? with
      | none => rw [if_neg (by simpa using hin), Option.toList_none]
      | some a =>
        rw [if_pos (by simpa using hin)]
        obtain ⟨source, hsource, ha, -⟩ := hbrings a rfl
        obtain rfl := Option.some.inj hsource
        have hlate : (f millis).brought? "tt1" (s millis) ((f millis).slowCheck (s millis),
            (slow millis).toSource 2) = some ⟨"slow", .ok (slow millis).results⟩ :=
          congrArg (Option.map _) hslow.brought
        rw [Option.some.inj (ha.symm.trans hlate), Option.toList_some]
    rwa [harrived, hslow?] at hanswers
  have h100 := hanswer 100 (hends 100 0 80 (.ok left.results) [2] (by decide +kernel))
    (hends 100 1 30 (.ok right.results) [0, 2] (by decide +kernel))
    (hends 100 2 100 (.ok (slow 100).results) [] (by decide +kernel)) (by decide)
  have h200 := hanswer 200 (hends 200 0 80 (.ok left.results) [2] (by decide +kernel))
    (hends 200 1 30 (.ok right.results) [0, 2] (by decide +kernel))
    (hends 200 2 200 (.ok (slow 200).results) [] (by decide +kernel)) (by decide)
  exact ⟨(h100.found _).mpr ⟨⟨_, List.mem_cons_self, rfl⟩, by decide⟩,
    (h200.found _).mpr ⟨⟨_, List.mem_cons_self, rfl⟩, by decide⟩⟩

end TorrentSearch.Federation
