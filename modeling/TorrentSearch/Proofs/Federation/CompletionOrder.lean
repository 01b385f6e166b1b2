import TorrentSearch.Proofs.Federation.Arrivals

/-!
# The order of completion

Two searches whose sources bring the same in different orders answer alike and count alike. Which copy
of a torrent is kept depends on the order. Whether there is an answer, which info hashes it has and how
many torrents does not.
-/

namespace TorrentSearch.Federation

open Search (Pool)

/-- Answers that differ at most in the order of their parts and in the copies of torrents that they
keep. -/
inductive Alike : Except Error (List Torrent) → Except Error (List Torrent) → Prop where
  | found {ts us : List Torrent} (h : (ts.map (·.infoHash)).Perm (us.map (·.infoHash))) :
      Alike (.ok ts) (.ok us)
  | failed {causes causes' : List Failure} (h : causes.Perm causes') :
      Alike (.error (.allSourcesFailed causes)) (.error (.allSourcesFailed causes'))
  | refused (e : Error) : Alike (.error e) (.error e)

theorem hashes_firsts_perm {ts us : List Torrent} (h : ts.Perm us) :
    ((Torrent.firsts ts).map (·.infoHash)).Perm ((Torrent.firsts us).map (·.infoHash)) := by
  have hts := Torrent.firsts_hashes_nodup ts
  have hus := Torrent.firsts_hashes_nodup us
  apply (List.perm_ext_iff_of_nodup hts hus).mpr
  intro hash
  rw [Torrent.hash_mem_firsts_iff, Torrent.hash_mem_firsts_iff]
  exact (h.map _).mem_iff

theorem flatten_eq_of_perm {ls ms : List (List Torrent)} (h : ls.Perm ms)
    (hone : ls.countP (!·.isEmpty) ≤ 1) : ls.flatten = ms.flatten := by
  have hfilter := h.filter (!·.isEmpty)
  rw [List.countP_eq_length_filter] at hone
  rw [← List.flatten_filter_not_isEmpty (L := ls), ← List.flatten_filter_not_isEmpty (L := ms)]
  cases hls : ls.filter (!·.isEmpty) with
  | nil =>
    rw [hls] at hfilter
    rw [hfilter.nil_eq]
  | cons l rest =>
    rw [hls, List.length_cons] at hone
    have hrest : rest = [] := List.eq_nil_of_length_eq_zero (by omega)
    subst hrest
    rw [hls] at hfilter
    rw [hfilter.singleton_eq]

theorem hashes_mergeLists_perm {ls ms : List (List Torrent)} (h : ls.Perm ms) :
    ((mergeLists ls).map (·.infoHash)).Perm ((mergeLists ms).map (·.infoHash)) := by
  have hcount : ls.countP (!·.isEmpty) = ms.countP (!·.isEmpty) := h.countP_eq _
  rw [mergeLists_eq, mergeLists_eq, ← hcount]
  split
  · exact hashes_firsts_perm h.flatten
  · exact h.flatten.map _

theorem mergeLists_eq_of_perm {ls ms : List (List Torrent)} (h : ls.Perm ms)
    (hone : ls.countP (!·.isEmpty) ≤ 1) : mergeLists ls = mergeLists ms := by
  have hcount : ls.countP (!·.isEmpty) = ms.countP (!·.isEmpty) := h.countP_eq _
  rw [mergeLists_eq, mergeLists_eq, if_neg (by omega), if_neg (by omega)]
  exact flatten_eq_of_perm h hone

section

variable {arrivals arrivals' : List Arrival} (h : arrivals.Perm arrivals') (atWork : Option String)

include h

theorem lists_perm : (lists arrivals).Perm (lists arrivals') := h.filterMap _

theorem conclude_alike : Alike (conclude arrivals atWork) (conclude arrivals' atWork) := by
  by_cases hnone : arrivals = [] ∧ atWork ≠ none
  · obtain ⟨rfl, hwork⟩ := hnone
    obtain ⟨name, rfl⟩ := Option.ne_none_iff_exists'.mp hwork
    rw [← h.nil_eq]
    exact .refused (.pending name)
  · have harrived : arrivals = [] → atWork = none := by
      intro hnil
      by_contra hwork
      exact hnone ⟨hnil, hwork⟩
    have harrived' : arrivals' = [] → atWork = none := by
      rintro rfl
      exact harrived h.eq_nil
    have hlists := lists_perm h
    simp only [conclude_of_arrived harrived, conclude_of_arrived harrived', List.isEmpty_iff]
    by_cases hempty : lists arrivals = []
    · rw [hempty] at hlists
      rw [if_pos hempty, if_pos hlists.nil_eq.symm]
      exact .failed (h.filterMap _)
    · have hempty' : lists arrivals' ≠ [] := by
        intro hnil
        rw [hnil] at hlists
        exact hempty hlists.eq_nil
      rw [if_neg hempty, if_neg hempty']
      exact .found (hashes_mergeLists_perm hlists)

theorem conclude_eq_of_perm {ts us : List Torrent} (hts : conclude arrivals atWork = .ok ts)
    (hus : conclude arrivals' atWork = .ok us)
    (hone : (lists arrivals).countP (!·.isEmpty) ≤ 1) : ts = us := by
  obtain ⟨-, rfl⟩ := conclude_eq_ok_iff.mp hts
  obtain ⟨-, rfl⟩ := conclude_eq_ok_iff.mp hus
  exact mergeLists_eq_of_perm (lists_perm h) hone

end

namespace Alike

variable {answer answer' : Except Error (List Torrent)}

theorem length_eq {ts us : List Torrent} (h : Alike (.ok ts) (.ok us)) : ts.length = us.length := by
  cases h with
  | found h => simpa using h.length_eq

theorem count_eq (h : Alike answer answer') :
    answer.toOption.map List.length = answer'.toOption.map List.length := by
  cases h with
  | found h => exact congrArg some (by simpa using h.length_eq)
  | failed _ => rfl
  | refused _ => rfl

theorem outcomeOf_eq (h : Alike answer answer') : outcomeOf answer = outcomeOf answer' := by
  cases h with
  | @found ts us h =>
    have hlength : ts.length = us.length := by simpa using h.length_eq
    cases ts with
    | nil => rw [List.length_eq_zero_iff.mp hlength.symm]
    | cons t ts =>
      cases us with
      | nil => cases hlength
      | cons u us => rfl
  | failed _ => rfl
  | refused _ => rfl

end Alike

/-- What a search counts on its own account when the waiting is over: the slow source that it leaves at
work, how it ended, and how many torrents it found. -/
def Counts (f : Federation) (id : String) (s : Session) (late : Option String)
    (outcome : SearchOutcome) (found : Option Nat) : Prop :=
  let counted := (f.afterGrace id s).shared.counters
  (f.find id s).2.pool.shared.counters =
    (late.elim counted counted.observeDetached).observeSearch outcome found

section

variable (f : Federation) (id : String) (s : Session)

theorem find_of_asked (hid : Text.isBlankText id = false) (hf : f.sources ≠ []) :
    f.find id s = f.ask id s := by
  rw [find, if_neg (by simp [hid]), if_neg (by simpa using hf)]

theorem find_of_arrived (hid : Text.isBlankText id = false) {a : Arrival}
    (harrived : f.slowArrival? id s = some a) :
    (f.find id s).1 = conclude (f.fastArrivals id s ++ [a]) none := by
  obtain ⟨source, hslow, -⟩ := Option.bind_eq_some_iff.mp harrived
  have hf : f.sources ≠ [] := by simp [sources, hslow]
  have hlate : f.late? id s = none := by simp [late?, harrived]
  rw [find_of_asked f id s hid hf, fst_ask, harrived, hlate]
  rfl

theorem counts_find (hid : Text.isBlankText id = false) (hf : f.sources ≠ []) :
    f.Counts id s ((f.late? id s).map (·.name)) (outcomeOf (f.find id s).1)
      ((f.find id s).1.toOption.map List.length) := by
  unfold Counts
  rw [find_of_asked f id s hid hf]
  cases h : f.slow with
  | none =>
    have hlate : f.late? id s = none := by simp [late?, h]
    rw [ask_of_none f id s h, hlate]
    rfl
  | some source =>
    cases houtcome : (f.afterGrace id s).outcome? (f.slowCheck s) with
    | some outcome =>
      have hlate : f.late? id s = none := by simp [late?, slowArrival?, h, houtcome]
      rw [ask_of_arrived f id s h houtcome, hlate]
      rfl
    | none =>
      have hlate : f.late? id s = some source := by simp [late?, slowArrival?, h, houtcome]
      rw [ask_of_late f id s h houtcome, hlate]
      rfl

end

section

variable {f f' : Federation} {id : String} {s s' : Session}

theorem late?_name_eq (hname : f.slow.map (·.name) = f'.slow.map (·.name))
    (hslow : f.slowArrival? id s = f'.slowArrival? id s') :
    (f.late? id s).map (·.name) = (f'.late? id s').map (·.name) := by
  unfold late?
  rw [hslow]
  split
  · exact hname
  · rfl

/-- Searches with the same fast arrivals have somebody to ask if one of them has. -/
theorem sources_eq_nil_iff (hs : s.Ready) (hs' : s'.Ready)
    (hfast : (f.fastArrivals id s).Perm (f'.fastArrivals id s'))
    (hname : f.slow.map (·.name) = f'.slow.map (·.name)) : f.sources = [] ↔ f'.sources = [] := by
  have hnone : f.fast = [] ↔ f'.fast = [] := by
    rw [← fastArrivals_eq_nil_iff f id hs, ← fastArrivals_eq_nil_iff f' id hs']
    constructor
    · intro hnil
      rw [hnil] at hfast
      exact hfast.nil_eq.symm
    · intro hnil
      rw [hnil] at hfast
      exact hfast.eq_nil
  have hslow : f.slow = none ↔ f'.slow = none := by
    rw [← Option.map_eq_none_iff (f := Source.name), hname, Option.map_eq_none_iff]
  simp only [sources, List.append_eq_nil_iff, Option.toList_eq_nil_iff, hnone, hslow]

/-- Two searches answer alike. Found lists are as long as each other, and the same if at most one source
found something. Either neither search asks anybody, or both count the same. -/
structure Agree (f f' : Federation) (id : String) (s s' : Session) : Prop where
  answer : Alike (f.find id s).1 (f'.find id s').1
  found : ∀ ts us, (f.find id s).1 = .ok ts → (f'.find id s').1 = .ok us → ts.length = us.length ∧
    ((lists (f.fastArrivals id s ++ (f.slowArrival? id s).toList)).countP (!·.isEmpty) ≤ 1 → ts = us)
  counted : ((f.find id s).2 = s ∧ (f'.find id s').2 = s') ∨
    ∃ late outcome found, f.Counts id s late outcome found ∧ f'.Counts id s' late outcome found

theorem agree_of_refused {e : Error} (h : f.find id s = (.error e, s))
    (h' : f'.find id s' = (.error e, s')) : Agree f f' id s s' := by
  constructor
  · rw [h, h']
    exact .refused e
  · intro ts us hts
    rw [h] at hts
    cases hts
  · left
    rw [h, h']
    exact ⟨rfl, rfl⟩

theorem agree_of_asked (hfast : (f.fastArrivals id s).Perm (f'.fastArrivals id s'))
    (hname : f.slow.map (·.name) = f'.slow.map (·.name))
    (hslow : f.slowArrival? id s = f'.slowArrival? id s') (hid : Text.isBlankText id = false)
    (hf : f.sources ≠ []) (hf' : f'.sources ≠ []) : Agree f f' id s s' := by
  have harrived := hfast.append_right (f'.slowArrival? id s').toList
  have hlate := late?_name_eq hname hslow
  have hask : (f.find id s).1 =
      conclude (f.fastArrivals id s ++ (f'.slowArrival? id s').toList)
        ((f'.late? id s').map (·.name)) := by
    rw [find_of_asked f id s hid hf, fst_ask, hslow, hlate]
  have hask' : (f'.find id s').1 =
      conclude (f'.fastArrivals id s' ++ (f'.slowArrival? id s').toList)
        ((f'.late? id s').map (·.name)) := by
    rw [find_of_asked f' id s' hid hf', fst_ask]
  have halike : Alike (f.find id s).1 (f'.find id s').1 := by
    rw [hask, hask']
    exact conclude_alike harrived _
  refine ⟨halike, ?_, .inr ?_⟩
  · intro ts us hts hus
    rw [hts, hus] at halike
    rw [hask] at hts
    rw [hask'] at hus
    rw [hslow]
    exact ⟨halike.length_eq, conclude_eq_of_perm harrived _ hts hus⟩
  · have hcounts := counts_find f id s hid hf
    have hcounts' := counts_find f' id s' hid hf'
    rw [hlate, halike.outcomeOf_eq, halike.count_eq] at hcounts
    exact ⟨_, _, _, hcounts, hcounts'⟩

/-- Two searches agree if their fast sources bring the same in any two orders, and their slow sources
bring the same or are both late. -/
theorem find_agree (hs : s.Reachable) (hs' : s'.Reachable)
    (hfast : (f.fastArrivals id s).Perm (f'.fastArrivals id s'))
    (hname : f.slow.map (·.name) = f'.slow.map (·.name))
    (hslow : f.slowArrival? id s = f'.slowArrival? id s') : Agree f f' id s s' := by
  have hsources := sources_eq_nil_iff hs.ready hs'.ready hfast hname
  by_cases hid : Text.isBlankText id = false
  · by_cases hf : f.sources = []
    · have hf' := hsources.mp hf
      have hrefused : f.find id s = (.error .noSources, s) := by simp [find, hid, hf]
      have hrefused' : f'.find id s' = (.error .noSources, s') := by simp [find, hid, hf']
      exact agree_of_refused hrefused hrefused'
    · have hf' : f'.sources ≠ [] := fun hnil => hf (hsources.mpr hnil)
      exact agree_of_asked hfast hname hslow hid hf hf'
  · have hblank : Text.isBlankText id = true := by simpa using hid
    have hrefused : f.find id s = (.error (.invalidIdentifier id), s) := by simp [find, hblank]
    have hrefused' : f'.find id s' = (.error (.invalidIdentifier id), s') := by simp [find, hblank]
    exact agree_of_refused hrefused hrefused'

end

deriving instance DecidableEq for Arrival

section

variable (f : Federation) (id : String) (s : Session) (steps : Nat)

theorem afterFast_of_runWithin {p : Pool} (hfast : f.fast ≠ [])
    (h : (f.launched id s).runWithin
      (fun p => ((f.fastChecks s).all fun n => !p.isRunning n) && isQuiet p) none steps = some p) :
    f.afterFast id s = p := by
  have hchecks : (f.fastChecks s).isEmpty = false := by
    simpa [fastChecks] using hfast
  unfold afterFast awaitFast
  rw [hchecks, if_neg Bool.false_ne_true]
  exact Pool.runUntil_of_runWithin h

theorem fastArrivals_of_runWithin {arrived : List Arrival} (hfast : f.fast ≠ [])
    (h : ((f.launched id s).runWithin
        (fun p => ((f.fastChecks s).all fun n => !p.isRunning n) && isQuiet p) none steps).map
      (arrivals ((f.fastChecks s).zip (f.fast.map (·.name)))) = some arrived) :
    f.fastArrivals id s = arrived := by
  obtain ⟨p, hrun, rfl⟩ := Option.map_eq_some_iff.mp h
  rw [fastArrivals, afterFast_of_runWithin f id s steps hfast hrun]

end

/-- The pools when the waiting for the fast checks and that for the slow check are over, if so many steps
are enough for each. -/
def waitedWithin (f : Federation) (id : String) (s : Session) (steps : Nat) : Option (Pool × Pool) :=
  ((f.launched id s).runWithin
      (fun p => ((f.fastChecks s).all fun n => !p.isRunning n) && isQuiet p) none steps).bind fun p =>
    (p.runWithin (fun p => !p.isRunning (f.slowCheck s))
      (some (p.shared.elapsed + f.settings.gracePeriodMs)) steps).map fun q => (p, q)

theorem waited_of_waitedWithin (f : Federation) (id : String) (s : Session) (steps : Nat)
    (hfast : f.fast ≠ []) (hslow : f.slow.isSome) {p q : Pool}
    (h : f.waitedWithin id s steps = some (p, q)) :
    f.afterFast id s = p ∧ f.afterGrace id s = q := by
  obtain ⟨p', hrun, h⟩ := Option.bind_eq_some_iff.mp h
  obtain ⟨q', hgrace, heq⟩ := Option.map_eq_some_iff.mp h
  obtain ⟨rfl, rfl⟩ := Prod.mk.inj heq
  have hafter := afterFast_of_runWithin f id s steps hfast hrun
  obtain ⟨source, hsource⟩ := Option.isSome_iff_exists.mp hslow
  refine ⟨hafter, ?_⟩
  unfold afterGrace awaitSlow
  rw [hsource, hafter]
  exact Pool.runUntil_of_runWithin hgrace

/-- Two sources with one torrent in common, of which now the one and now the other is the faster. -/
theorem find_agree_of_overtaking :
    let film (title hash : String) : Torrent := ⟨title, "720p", hash, ""⟩
    let delayed (name : String) (millis : Nat) (results : List Torrent) : Source :=
      .once name (fun _ => .pause millis (.done (.ok results))) fun _ => .pause _ (.done _)
    let f (first second : Nat) : Federation :=
      ⟨[delayed "A" first [film "a" "1", film "b" "2"], delayed "B" second [film "c" "2"]], none, {}⟩
    let s := Session.start (.start .epoch (.empty 4) .down [])
    s.Reachable ∧ ((f 1 2).fastArrivals "tt" s).Perm ((f 2 1).fastArrivals "tt" s) ∧
      (f 1 2).fastArrivals "tt" s ≠ (f 2 1).fastArrivals "tt" s ∧
      (f 1 2).slow.map (·.name) = (f 2 1).slow.map (·.name) ∧
      (f 1 2).slowArrival? "tt" s = (f 2 1).slowArrival? "tt" s ∧
      Agree (f 1 2) (f 2 1) "tt" s s := by
  intro film delayed f s
  let first : Arrival := ⟨"A", .ok [film "a" "1", film "b" "2"]⟩
  let second : Arrival := ⟨"B", .ok [film "c" "2"]⟩
  have hs : s.Reachable := .start _
  have hfast : (f 1 2).fastArrivals "tt" s = [first, second] :=
    fastArrivals_of_runWithin _ _ _ 5 (by simp [f]) (by decide +kernel)
  have hfast' : (f 2 1).fastArrivals "tt" s = [second, first] :=
    fastArrivals_of_runWithin _ _ _ 5 (by simp [f]) (by decide +kernel)
  have hperm : ((f 1 2).fastArrivals "tt" s).Perm ((f 2 1).fastArrivals "tt" s) := by
    rw [hfast, hfast']
    exact .swap _ _ _
  have hother : (f 1 2).fastArrivals "tt" s ≠ (f 2 1).fastArrivals "tt" s := by
    rw [hfast, hfast']
    decide
  exact ⟨hs, hperm, hother, rfl, rfl, find_agree hs hs hperm rfl rfl⟩

end TorrentSearch.Federation
