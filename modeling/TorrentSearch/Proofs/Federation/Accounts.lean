import Mathlib.Algebra.BigOperators.Ring.Finset
import TorrentSearch.Proofs.Federation.CompletionOrder
import TorrentSearch.Proofs.Federation.Background
import TorrentSearch.Proofs.Federation.Gauges

/-!
# Accounts of a session

A journal notes what happens in a session, from outside: which checks begin, what each search answers, and
whether it leaves its slow source at work. When no check is under way, the counters tell the same.
-/

namespace TorrentSearch.Federation

open Search (Pool Shared)

inductive Record where
  /-- A check of a source of a name begins, and its identifier is not blank. -/
  | asked (name : String)
  /-- A search leaves the check of its slow source under way. -/
  | leftRunning (name : String)
  | answered (answer : Except Error (List Torrent))

def isRefused : Except Error (List Torrent) → Bool
  | .error .noSources => true
  | .error (.invalidIdentifier _) => true
  | _ => false

/-- How many checks of sources of a name began. -/
def asks (name : String) (records : List Record) : Nat :=
  records.countP fun
    | .asked other => other = name
    | _ => false

/-- How many searches left the slow source of a name at work. -/
def leavings (name : String) (records : List Record) : Nat :=
  records.countP fun
    | .leftRunning other => other = name
    | _ => false

def replies (records : List Record) : List (Except Error (List Torrent)) :=
  records.filterMap fun
    | .answered answer => if isRefused answer then none else some answer
    | _ => none

def returned (records : List Record) : List (List Torrent) :=
  (replies records).filterMap Except.toOption

/-- The counters tell what a journal tells. -/
structure Accounted (c : Counters) (records : List Record) : Prop where
  lookups : ∀ site : Site, c.lookups.count (site.name, .hit) + c.lookups.count (site.name, .expired) +
    c.lookups.count (site.name, .corrupt) + c.lookups.count (site.name, .miss) =
      asks site.name records
  checks : ∀ site : Site,
    c.checks.count (site.name, true) + c.checks.count (site.name, false) = asks site.name records
  durations : ∀ site : Site, (c.durationsOf site.name).length = asks site.name records
  hits : ∀ site : Site, c.lookups.count (site.name, .hit) ≤ c.checks.count (site.name, true)
  searches : c.searches.count .found + c.searches.count .empty + c.searches.count .failed +
    c.searches.count .pending = (replies records).length
  results : c.resultCounts.length = c.searches.count .found + c.searches.count .empty
  sum : c.resultCounts.sum = ((returned records).map List.length).sum
  buckets : ∀ bound, Counters.atMost bound c.resultCounts =
    (returned records).countP fun list => list.length ≤ bound
  detached : ∀ name, c.detached.count name = leavings name records

namespace Gauge

variable (g : Gauge)

def worth : Record → ℤ
  | .asked name => g.due name
  | .leftRunning name => g.byDetached name
  | .answered answer =>
    if isRefused answer then 0 else g.bySearch (outcomeOf answer) (answer.toOption.map List.length)

def total (records : List Record) : ℤ := (records.map g.worth).sum

theorem total_append (first second : List Record) :
    g.total (first ++ second) = g.total first + g.total second := by
  rw [total, List.map_append, List.sum_append, total, total]

theorem worth_neg (h : g.Exact) (r : Record) : (g.neg h).worth r = -g.worth r := by
  cases r with
  | asked name => rfl
  | leftRunning name => rfl
  | answered answer =>
    simp only [worth]
    split
    · rfl
    · rfl

theorem total_neg (h : g.Exact) (records : List Record) : (g.neg h).total records = -g.total records := by
  induction records with
  | nil => rfl
  | cons r records ih =>
    unfold total at ih ⊢
    rw [List.map_cons, List.sum_cons, ih, worth_neg, List.map_cons, List.sum_cons, neg_add]

/-- If no number is less than the records are worth, exact numbers are what they are worth. -/
theorem value_eq_total {c : Counters} {records : List Record}
    (hall : ∀ g : Gauge, g.total records ≤ g.value c) (h : g.Exact) : g.value c = g.total records := by
  have hle := hall g
  have hge := hall (g.neg h)
  rw [total_neg] at hge
  change -g.total records ≤ -g.value c at hge
  omega

theorem sum_ite_eq_countP {α : Type} (amount : ℤ) (p : α → Bool) (l : List α) :
    (l.map fun a => if p a then amount else 0).sum = amount * l.countP p := by
  induction l with
  | nil => simp
  | cons a l ih =>
    rw [List.map_cons, List.sum_cons, ih, List.countP_cons]
    split
    · simp
      ring
    · simp

variable {site : Site} {lookup : Cache.Lookup.Outcome → ℤ} {check : Bool → ℤ} {duration owed : ℤ}
  {howed : ∀ outcome success, (outcome = .hit → success = true) →
    owed ≤ lookup outcome + (check success + duration)}
  {ended : SearchOutcome → ℤ} {weight : Nat → ℤ}

theorem total_ofChecks (records : List Record) :
    (ofChecks site lookup check duration owed howed).total records =
      owed * asks site.name records := by
  rw [asks, ← sum_ite_eq_countP]
  refine congrArg List.sum (List.map_congr_left fun r _ => ?_)
  cases r with
  | asked name => simp [worth, ofChecks]
  | leftRunning name => rfl
  | answered answer => exact ite_self 0

theorem exact_ofChecks (h : ∀ outcome success, (outcome = .hit → success = true) →
    lookup outcome + (check success + duration) = owed) :
    (ofChecks site lookup check duration owed howed).Exact := by
  intro name outcome success hhit
  change (if _ then _ else _) + (if _ then _ else _) = if _ then _ else _
  split
  · exact h outcome success hhit
  · rfl

/-- What each check adds once to a number is counted as often as checks began. -/
theorem value_ofChecks {c : Counters} {records : List Record}
    (hall : ∀ g : Gauge, g.total records ≤ g.value c) (site : Site)
    (lookup : Cache.Lookup.Outcome → ℤ) (check : Bool → ℤ) (duration : ℤ)
    (hone : ∀ outcome success, (outcome = .hit → success = true) →
      lookup outcome + (check success + duration) = 1) :
    (ofChecks site lookup check duration 1 fun outcome success hhit =>
      Int.le_of_eq (hone outcome success hhit).symm).value c = asks site.name records := by
  rw [value_eq_total _ hall (exact_ofChecks hone), total_ofChecks, one_mul]

theorem total_ofDetached (name : String) (records : List Record) :
    (ofDetached name).total records = leavings name records := by
  rw [← one_mul (leavings name records : ℤ), leavings, ← sum_ite_eq_countP]
  refine congrArg List.sum (List.map_congr_left fun r _ => ?_)
  cases r with
  | asked name => rfl
  | leftRunning name => simp [worth, ofDetached]
  | answered answer => exact ite_self 0

theorem exact_ofDetached (name : String) : (ofDetached name).Exact := fun _ _ _ _ => rfl

theorem total_ofSearches (records : List Record) :
    (ofSearches ended weight).total records =
      ((replies records).map fun answer => ended (outcomeOf answer) +
        ((answer.toOption.map List.length).toList.map weight).sum).sum := by
  induction records with
  | nil => rfl
  | cons r records ih =>
    have hcons : (ofSearches ended weight).total (r :: records) =
        (ofSearches ended weight).worth r + (ofSearches ended weight).total records := List.sum_cons
    rw [hcons, ih]
    cases r with
    | asked name => exact zero_add _
    | leftRunning name => exact zero_add _
    | answered answer =>
      by_cases hrefused : isRefused answer = true
      · simp [worth, replies, hrefused]
      · simp [worth, replies, hrefused, ofSearches]

theorem exact_ofSearches : (ofSearches ended weight).Exact := fun _ _ _ _ => rfl

/-- If only lists count, the records are worth the weights of the lists that were returned. -/
theorem total_returned (records : List Record) :
    (ofSearches (fun _ => 0) weight).total records =
      ((returned records).map fun list => weight list.length).sum := by
  rw [total_ofSearches, returned]
  induction replies records with
  | nil => rfl
  | cons answer answers ih =>
    rw [List.map_cons, List.sum_cons, ih]
    cases answer with
    | ok list =>
      have hcons : (Except.ok list :: answers).filterMap Except.toOption =
          list :: answers.filterMap Except.toOption := rfl
      simp [hcons, Except.toOption]
    | error e =>
      have hcons : (Except.error e :: answers).filterMap Except.toOption =
          answers.filterMap Except.toOption := rfl
      simp [hcons, Except.toOption]

end Gauge

/-- Numbers that are at least what the records are worth tell what the journal tells. -/
theorem accounted_of_le {c : Counters} {records : List Record}
    (hall : ∀ g : Gauge, g.total records ≤ g.value c) : Accounted c records where
  lookups site := by
    have h := Gauge.value_ofChecks hall site (fun _ => 1) (fun _ => 0) 0 (by simp)
    simp only [Gauge.ofChecks] at h
    omega
  checks site := by
    have h := Gauge.value_ofChecks hall site (fun _ => 0) (fun _ => 1) 0 (by simp)
    simp only [Gauge.ofChecks] at h
    omega
  durations site := by
    have h := Gauge.value_ofChecks hall site (fun _ => 0) (fun _ => 0) 1 (by simp)
    simp only [Gauge.ofChecks] at h
    omega
  hits site := by
    have h := hall (.ofChecks site (fun found => if found = .hit then -1 else 0)
      (fun success => if success then 1 else 0) 0 0 fun found success hhit => by
        by_cases hfound : found = .hit
        · simp [hfound, hhit hfound]
        · cases success <;> simp [hfound])
    rw [Gauge.total_ofChecks] at h
    simp only [Gauge.ofChecks, reduceCtorEq, if_true, if_false, Bool.false_eq_true] at h
    omega
  searches := by
    have h := Gauge.value_eq_total (.ofSearches (fun _ => 1) fun _ => 0) hall Gauge.exact_ofSearches
    rw [Gauge.total_ofSearches] at h
    simp only [Gauge.ofSearches, one_mul, List.map_const', List.sum_replicate, nsmul_zero, add_zero,
      Int.nsmul_eq_mul, mul_one] at h
    omega
  results := by
    have h := Gauge.value_eq_total
      (.ofSearches (fun o => if o = .found ∨ o = .empty then -1 else 0) fun _ => 1) hall
      Gauge.exact_ofSearches
    rw [Gauge.total_ofSearches] at h
    rw [List.sum_eq_zero] at h
    · simp only [Gauge.ofSearches, reduceCtorEq, or_false, ↓reduceIte, Int.reduceNeg, neg_mul, one_mul,
        or_true, or_self, zero_mul, add_zero, List.map_const', List.sum_replicate, Int.nsmul_eq_mul,
        mul_one] at h
      omega
    · intro n hn
      obtain ⟨answer, -, rfl⟩ := List.mem_map.mp hn
      rcases answer with e | list
      · cases e <;> rfl
      · cases list <;> rfl
  sum := by
    have h := Gauge.value_eq_total (.ofSearches (fun _ => 0) fun n => n) hall Gauge.exact_ofSearches
    rw [Gauge.total_returned] at h
    simp only [Gauge.ofSearches, zero_mul, add_zero, zero_add] at h
    rw [← Int.natCast_inj, Nat.cast_list_sum, Nat.cast_list_sum, List.map_map]
    exact h
  buckets bound := by
    have h := Gauge.value_eq_total
      (.ofSearches (fun _ => 0) fun n => if decide (n ≤ bound) then 1 else 0) hall
      Gauge.exact_ofSearches
    rw [Gauge.total_returned,
      Gauge.sum_ite_eq_countP 1 fun list : List Torrent => decide (list.length ≤ bound)] at h
    simp only [Gauge.ofSearches, Gauge.sum_ite_eq_countP 1 fun n => decide (n ≤ bound)] at h
    rw [Counters.atMost]
    omega
  detached name := by
    have h := Gauge.value_eq_total (.ofDetached name) hall (Gauge.exact_ofDetached name)
    rw [Gauge.total_ofDetached] at h
    exact Int.ofNat.inj h

/-- What can happen in a session, other than that somebody asks the cache and counts it. -/
inductive Occasion where
  | find (f : Federation) (hsources : ∀ source ∈ f.sources, source.Accountable) (id : String)
  /-- Some checks are waited for directly, all at once. -/
  | check (inquiries : List Inquiry) (hsources : ∀ i ∈ inquiries, i.source.Accountable)
  | sleep (millis : Nat)
  | settle
  /-- Something else changes in what is shared, and nothing is counted. -/
  | change (g : Shared → Shared) (hcounters : ∀ s, (g s).counters = s.counters)

def searchRecords (f : Federation) (id : String) (s : Session) : List Record :=
  (if Text.isBlankText id then [] else f.sources.map fun source => .asked source.name) ++
    ((if f.leftBehind id s = [] then [] else f.slow.toList.map fun source => .leftRunning source.name) ++
      [.answered (f.find id s).1])

def inquiryRecords (inquiries : List Inquiry) : List Record :=
  (inquiries.filter fun i => !Text.isBlankText i.id).map fun i => .asked i.source.name

/-- A session with the records of what happened in it. -/
structure Journal where
  session : Session
  records : List Record

namespace Journal

def next (j : Journal) : Occasion → Journal
  | .find f _ id =>
    { session := (f.find id j.session).2, records := j.records ++ f.searchRecords id j.session }
  | .check inquiries _ =>
    { session := (j.session.checkAll (inquiries.map Inquiry.work)).2
      records := j.records ++ inquiryRecords inquiries }
  | .sleep millis => { j with session := j.session.sleep millis }
  | .settle => { j with session := j.session.settle.2 }
  | .change g _ => { j with session := j.session.change g }

def after (shared : Shared) (occasions : List Occasion) : Journal :=
  occasions.foldl next ⟨.start shared, []⟩

/-- Every number comes to what the records are worth, together with the dues of the checks that are under
way. -/
structure Kept (j : Journal) : Prop where
  reachable : j.session.Reachable
  covers : ∀ g : Gauge, j.session.pool.Covers g.value (g.total j.records)

end Journal

section

variable {f : Federation} {id : String} {s : Session}

theorem not_isRefused_conclude (arrivals : List Arrival) (atWork : Option String) :
    isRefused (conclude arrivals atWork) = false := by
  unfold conclude
  split
  · rfl
  · split <;> rfl

theorem isRefused_find : isRefused (f.find id s).1 = true ↔
    Text.isBlankText id = true ∨ f.sources = [] := by
  by_cases hid : Text.isBlankText id = true
  · simp [find, hid, isRefused]
  by_cases hf : f.sources = []
  · simp [find, hid, hf, isRefused]
  rw [find_of_asked f id s (by simpa using hid) hf, fst_ask, not_isRefused_conclude]
  simp [hid, hf]

theorem asks_append (name : String) (first second : List Record) :
    asks name (first ++ second) = asks name first + asks name second :=
  List.countP_append

theorem replies_append (first second : List Record) :
    replies (first ++ second) = replies first ++ replies second :=
  List.filterMap_append

theorem asks_searchRecords (name : String) : asks name (f.searchRecords id s) =
    if Text.isBlankText id then 0 else f.sources.countP (·.name = name) := by
  have hleft : asks name (if f.leftBehind id s = [] then []
      else f.slow.toList.map fun source => .leftRunning source.name) = 0 := by
    split
    · rfl
    · cases f.slow <;> rfl
  have hanswered : asks name [.answered (f.find id s).1] = 0 := rfl
  rw [searchRecords, asks_append, asks_append, hleft, hanswered, add_zero, add_zero]
  split
  · rfl
  · rw [asks, List.countP_map]
    rfl

theorem replies_searchRecords : replies (f.searchRecords id s) =
    if Text.isBlankText id = true ∨ f.sources = [] then [] else [(f.find id s).1] := by
  have hasked : replies (if Text.isBlankText id then []
      else f.sources.map fun source => .asked source.name) = [] := by
    split
    · rfl
    · simp [replies]
  have hleft : replies (if f.leftBehind id s = [] then []
      else f.slow.toList.map fun source => .leftRunning source.name) = [] := by
    split
    · rfl
    · cases f.slow <;> rfl
  have hanswered : isRefused (f.find id s).1 = true ↔ _ := isRefused_find
  rw [searchRecords, replies_append, replies_append, hasked, hleft]
  split
  · rename_i hnobody
    simp [replies, hanswered.mpr hnobody]
  · rename_i hsomebody
    simp [replies, mt hanswered.mp hsomebody]

theorem covers_launched (g : Gauge) (hsources : ∀ source ∈ f.sources, source.Accountable)
    (hid : Text.isBlankText id = false) {total : ℤ} (h : s.pool.Covers g.value total) :
    (f.launched id s).Covers g.value
      (total + g.total (f.sources.map fun source => .asked source.name)) := by
  have hdues : g.total (f.sources.map fun source => .asked source.name) =
      (f.sources.map fun source => g.due source.name).sum := by
    rw [Gauge.total, List.map_map]
    rfl
  rw [hdues]
  exact h.spawnAll false fun source hsource =>
    Inquiry.yields_run g (hsources source hsource) f.settings.attempts hid

/-- A search that asks somebody counts what it leaves at work and what it answers. -/
theorem covers_ask (g : Gauge) (hs : s.Ready) (hid : Text.isBlankText id = false)
    (hf : f.sources ≠ []) {total : ℤ} (h : (f.afterGrace id s).Covers g.value total) :
    (f.find id s).2.pool.Covers g.value (total +
      g.total ((if f.leftBehind id s = [] then []
        else f.slow.toList.map fun source => .leftRunning source.name) ++
          [.answered (f.find id s).1])) := by
  have hask := find_of_asked f id s hid hf
  have htasks : (f.find id s).2.pool.tasks = (f.afterGrace id s).tasks := by
    obtain ⟨count, heq⟩ := f.snd_ask id s
    rw [hask, heq]
    rfl
  have hcounts : (f.find id s).2.pool.shared.counters = _ := counts_find f id s hid hf
  have hanswered : isRefused (f.find id s).1 = false := by
    rw [Bool.eq_false_iff, Ne, isRefused_find]
    simp [hid, hf]
  refine h.of_same htasks (le_of_eq ?_)
  rw [hcounts, g.value_observeSearch, leftBehind_of_ask f id hs hask]
  cases hlate : f.late? id s with
  | none => simp [Gauge.total, Gauge.worth, hanswered]
  | some source =>
    have hslow : f.slow = some source := by
      simp only [late?, Option.ite_none_right_eq_some] at hlate
      exact hlate.2
    simp [Gauge.total, Gauge.worth, hanswered, hslow, g.value_observeDetached, add_assoc]

theorem covers_find (g : Gauge) (hs : s.Ready)
    (hsources : ∀ source ∈ f.sources, source.Accountable) {total : ℤ}
    (h : s.pool.Covers g.value total) :
    (f.find id s).2.pool.Covers g.value (total + g.total (f.searchRecords id s)) := by
  -- a search that asks nobody leaves all as it is, and is worth nothing
  have hrefused {e : Error} (hfind : f.find id s = (.error e, s)) (he : isRefused (.error e) = true)
      (hnobody : Text.isBlankText id = true ∨ f.sources = []) :
      (f.find id s).2.pool.Covers g.value (total + g.total (f.searchRecords id s)) := by
    have hnothing : g.total (f.searchRecords id s) = 0 := by
      rw [searchRecords, leftBehind_of_unchanged f id (by rw [hfind]), hfind]
      rcases hnobody with hid | hf
      · simp [hid, Gauge.total, Gauge.worth, he]
      · simp [hf, Gauge.total, Gauge.worth, he]
    rw [hnothing, add_zero, hfind]
    exact h
  by_cases hid : Text.isBlankText id = true
  · exact hrefused (by rw [find, if_pos hid]) rfl (.inl hid)
  by_cases hf : f.sources = []
  · exact hrefused (by rw [find, if_neg hid, if_pos (by simp [hf])]) rfl (.inr hf)
  rw [Bool.not_eq_true] at hid
  have hlaunched := (covers_launched g hsources hid h).reaches (f.reaches_of_launched id s)
  have hended := covers_ask g hs hid hf hlaunched
  rw [searchRecords, if_neg (by simp [hid]), Gauge.total_append, ← add_assoc]
  exact hended

theorem total_inquiryRecords (g : Gauge) (inquiries : List Inquiry) :
    g.total (inquiryRecords inquiries) =
      (inquiries.map fun i => if Text.isBlankText i.id then 0 else g.due i.source.name).sum := by
  unfold inquiryRecords
  induction inquiries with
  | nil => rfl
  | cons i inquiries ih =>
    rw [List.map_cons, List.sum_cons, ← ih, List.filter_cons]
    cases hid : Text.isBlankText i.id with
    | true => simp
    | false => simp [Gauge.total, Gauge.worth]

theorem covers_checkAll (g : Gauge) {inquiries : List Inquiry}
    (hsources : ∀ i ∈ inquiries, i.source.Accountable) {total : ℤ} (h : s.pool.Covers g.value total) :
    (s.checkAll (inquiries.map Inquiry.work)).2.pool.Covers g.value
      (total + g.total (inquiryRecords inquiries)) := by
  rw [total_inquiryRecords]
  have hbegun := h.spawnAll true fun i hi => Inquiry.yields_work g (hsources i hi)
  exact (hbegun.reaches (Pool.reaches_runUntil ..)).of_counters rfl rfl

end

namespace Journal

variable {j : Journal}

theorem Kept.next (h : j.Kept) (o : Occasion) : (j.next o).Kept := by
  cases o with
  | find f hsources id =>
    refine ⟨h.reachable.find f id, fun g => ?_⟩
    rw [Journal.next, Gauge.total_append]
    exact covers_find g h.reachable.ready hsources (h.covers g)
  | check inquiries hsources =>
    refine ⟨h.reachable.checkAll _ fun work hwork => ?_, fun g => ?_⟩
    · obtain ⟨i, -, rfl⟩ := List.mem_map.mp hwork
      exact i.orderly_work
    · rw [Journal.next, Gauge.total_append]
      exact covers_checkAll g hsources (h.covers g)
  | sleep millis =>
    exact ⟨h.reachable.sleep millis, fun g =>
      ((h.covers g).reaches (Pool.reaches_runUntil ..)).of_counters rfl rfl⟩
  | settle =>
    exact ⟨h.reachable.settle, fun g =>
      ((h.covers g).reaches (Pool.reaches_runUntil ..)).of_counters rfl rfl⟩
  | change f hcounters =>
    exact ⟨h.reachable.change f, fun g => (h.covers g).of_counters rfl (hcounters _)⟩

theorem kept_after (shared : Shared) (hzero : shared.counters = .zero) (occasions : List Occasion) :
    (after shared occasions).Kept := by
  have hstart : Kept ⟨.start shared, []⟩ := by
    refine ⟨.start shared, fun g => ?_⟩
    have hidle := Pool.covers_idle (m := g.value) shared
    rwa [hzero, g.value_zero] at hidle
  unfold after
  induction occasions using List.reverseRecOn with
  | nil => exact hstart
  | append_singleton occasions o ih =>
    rw [List.foldl_append]
    exact ih.next o

end Journal

/-- Whatever happens in a session, unless somebody asks the cache and counts it: at each moment between
two things that happen, and during a search, at which no check is under way, the counters tell what the
journal tells. For each site, the lookups of all kinds, the successes with the failures, and the durations
are as many as its checks for identifiers that are not blank, and there are at most as many hits as
successes. The searches of all kinds are as many as those that asked somebody. The numbers of torrents
are as many as the searches that found some or none, come to the lengths of the lists that were returned
all together, and are at most a bound as often as these lists are at most so long. And each slow source
was left at work as often as that was counted. -/
theorem counters_account_for_all (now : Time.Instant) (cache : Cache.Store) (network : Http.Network)
    (stubs : List Source.Stub) (occasions : List Occasion) :
    let journal := Journal.after (.start now cache network stubs) occasions
    (∀ q, journal.session.pool.Reaches q → q.jobs = [] →
      Accounted q.shared.counters journal.records) ∧
    ∀ (f : Federation) id q, (∀ source ∈ f.sources, source.Accountable) →
      Text.isBlankText id = false → (f.launched id journal.session).Reaches q → q.jobs = [] →
      Accounted q.shared.counters
        (journal.records ++ f.sources.map fun source => .asked source.name) := by
  intro journal
  have h : journal.Kept := Journal.kept_after _ rfl occasions
  refine ⟨fun q hq hjobs => accounted_of_le fun g => ((h.covers g).reaches hq).le hjobs,
    fun f id q hsources hid hq hjobs => accounted_of_le fun g => ?_⟩
  rw [Gauge.total_append]
  exact ((covers_launched g hsources hid (h.covers g)).reaches hq).le hjobs

theorem accountable_ofConfig (config : Config) :
    ∀ source ∈ (ofConfig config).sources, source.Accountable :=
  fun source hsource => .inl (ofSites_ofConfig config source hsource)

/-- Checks of a site for an identifier and for none, and checks of sources that are no sites. -/
def sampleInquiries : List Inquiry :=
  let yts : Source := (Site.yts ⟨"http://[::1]".toList, 1000, .ofSeconds 60⟩).toSource
  let stub : Source.Stub := { name := "stub" }
  [⟨yts, "tt", some 2⟩, ⟨yts, " ", none⟩, ⟨.constant "plain" (.ok []), "tt", none⟩,
    ⟨.broken "broken" "out of memory", "tt", none⟩, ⟨stub.toSource 0, "tt", some 3⟩]

theorem accountable_sampleInquiries : ∀ i ∈ sampleInquiries, i.source.Accountable := by
  have hname {name : String} (hyts : Source.Yts.name ≠ name) (hibit : Source.Ibit.name ≠ name) :
      ∀ site : Site, site.name ≠ name
    | .yts _ => hyts
    | .ibit _ => hibit
  simp only [sampleInquiries, List.forall_mem_cons, List.not_mem_nil, false_implies, implies_true,
    and_true]
  exact ⟨.inl ⟨_, rfl⟩, .inl ⟨_, rfl⟩,
    .inr (Source.stranger_constant _ (hname (by decide) (by decide))),
    .inr (Source.stranger_broken _ (hname (by decide) (by decide))),
    .inr (Source.Stub.stranger_toSource _ _ (hname (by decide) (by decide)))⟩

/-- A search for an identifier and one for none, some checks, and the wait for the rest. -/
theorem counters_account_for_all_of_two :
    let f := ofConfig {}
    let shared : Shared := .start .epoch (.empty 1000) .down [{ name := "stub" }]
    let j := Journal.after shared [.find f (accountable_ofConfig _) "tt",
      .find f (accountable_ofConfig _) " ", .check sampleInquiries accountable_sampleInquiries, .settle]
    let c := j.session.pool.shared.counters
    j.session.pool.jobs = [] ∧
      c.checks.count ("YTS", true) + c.checks.count ("YTS", false) = 2 ∧
      (c.durationsOf "ibit").length = 1 ∧
      c.searches.count .found + c.searches.count .empty + c.searches.count .failed +
        c.searches.count .pending = 1 := by
  intro f shared j c
  have hjobs : j.session.pool.jobs = [] := by
    have hkept := Journal.kept_after shared rfl [.find f (accountable_ofConfig _) "tt",
      .find f (accountable_ofConfig _) " ", .check sampleInquiries accountable_sampleInquiries]
    exact List.map_eq_nil_iff.mp hkept.reachable.running_settle
  have haccounted : Accounted c j.records :=
    (counters_account_for_all .epoch (.empty 1000) .down [{ name := "stub" }] [.find f (accountable_ofConfig _) "tt",
      .find f (accountable_ofConfig _) " ", .check sampleInquiries accountable_sampleInquiries, .settle]).1
        j.session.pool .refl hjobs
  have hrecords : j.records = f.searchRecords "tt" (.start shared) ++
      f.searchRecords " " (f.find "tt" (.start shared)).2 ++ inquiryRecords sampleInquiries := rfl
  have hsome : Text.isBlankText "tt" = false := by decide +kernel
  have hnone : Text.isBlankText " " = true := by decide +kernel
  have hasks (name : String) : asks name j.records =
      f.sources.countP (·.name = name) + asks name (inquiryRecords sampleInquiries) := by
    rw [hrecords, asks_append, asks_append, asks_searchRecords, asks_searchRecords, hsome, hnone]
    rfl
  have hreplies : replies j.records = [(f.find "tt" (.start shared)).1] := by
    have hf : f.sources ≠ [] := fun h => by
      have hlength := congrArg List.length h
      cases hlength
    have hquiet : replies (inquiryRecords sampleInquiries) = [] := by simp [replies, inquiryRecords, sampleInquiries]
    rw [hrecords, replies_append, replies_append, replies_searchRecords, replies_searchRecords,
      hquiet, if_neg (by simp [hsome, hf]), if_pos (.inl hnone)]
    rfl
  refine ⟨hjobs, ?_, ?_, ?_⟩
  · have hchecks := haccounted.checks (.yts ⟨[], 0, .ofSeconds 0⟩)
    rw [hasks] at hchecks
    exact hchecks.trans (by decide +kernel)
  · have hdurations := haccounted.durations (.ibit ⟨[], 0, .ofSeconds 0, 0⟩)
    rw [hasks] at hdurations
    exact hdurations.trans (by decide +kernel)
  · rw [haccounted.searches, hreplies, List.length_singleton]

end TorrentSearch.Federation
