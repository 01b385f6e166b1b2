import Mathlib.Tactic.Ring
import TorrentSearch.Counters.Exposition
import TorrentSearch.Proofs.Federation.KeptAnswers
import TorrentSearch.Proofs.Search.Dues

/-!
# What checks count

A check of a site counts its look into the cache first and its success at its end; in between it counts
pages at most. So a number to which lookups and successes add fixed amounts grows by the amounts of one
lookup and one success with each check, however the check goes.
-/

namespace TorrentSearch

namespace Counters

/-- The counters change in a way in which a source of a name counts. -/
inductive Notes (name : String) (c : Counters) : Counters → Prop where
  | nothing : Notes name c c
  | lookup (outcome : Cache.Lookup.Outcome) : Notes name c (c.observeLookup name outcome)
  | check (success : Bool) (millis : Nat) : Notes name c (c.observeCheck name success millis)
  | zeroLinkPage : Notes name c (c.observeZeroLinkPage name)
  | skippedPage (reason : Page.SkipReason) : Notes name c (c.observeSkippedPage name reason)

end Counters

namespace Source

open Federation (Site)
open Search (Shared Work)

/-- A source that is no site, and counts under its own name only. -/
structure Stranger (source : Source) : Prop where
  name : ∀ site : Site, site.name ≠ source.name
  check : ∀ id, (source.check id).Counts (Counters.Notes source.name)
  checkUpTo : ∀ attempts id, (source.checkUpTo attempts id).Counts (Counters.Notes source.name)

/-- A site, or a source that does not count under the name of one. -/
def Accountable (source : Source) : Prop :=
  (∃ site : Site, source = site.toSource) ∨ source.Stranger

theorem Stranger.once {name : String} {check : String → Work Outcome}
    (horderly : ∀ id, (check id).Orderly none) (hname : ∀ site : Site, site.name ≠ name)
    (hcheck : ∀ id, (check id).Counts (Counters.Notes name)) : (once name check horderly).Stranger :=
  ⟨hname, hcheck, fun _ => hcheck⟩

theorem stranger_constant {name : String} (outcome : Outcome)
    (hname : ∀ site : Site, site.name ≠ name) : (constant name outcome).Stranger :=
  .once _ hname fun _ => .done outcome

theorem stranger_broken {name : String} (text : String) (hname : ∀ site : Site, site.name ≠ name) :
    (broken name text).Stranger :=
  .once _ hname fun _ => .crash text

namespace Stub

variable (stub : Stub) (i : Nat)

theorem counts_modify (f : Stub → Stub) : (modify i f).Counts (Counters.Notes stub.name) := by
  refine .update fun s => ?_
  rw [Shared.counters_changeStub]
  exact .nothing

theorem counts_lookUp (id : String) : (stub.lookUp id).Counts (Counters.Notes stub.name) := by
  unfold lookUp
  split
  · refine Work.Counts.bind (.consult fun s => ?_) fun _ => .pure _
    rw [Shared.counters_lookup]
    exact .lookup _
  · exact .pure none

theorem counts_checkLive (attempts : Nat) (id : String) :
    (stub.checkLive i attempts id).Counts (Counters.Notes stub.name) := by
  have hpause : stub.pause.Counts (Counters.Notes stub.name) := by
    unfold pause
    split
    · exact .wait _
    · exact .pure ()
  have hanswer : (answer i attempts).Counts (Counters.Notes stub.name) :=
    Work.Counts.bind (.look fun _ => .done _) fun _ =>
      (stub.counts_modify i _).bind fun _ => .pure _
  have hkeep (outcome : Outcome) :
      (stub.keepFound id outcome).Counts (Counters.Notes stub.name) := by
    unfold keepFound
    split
    · refine .update fun s => ?_
      rw [Shared.counters_store]
      exact .nothing
    · exact .pure ()
  exact hpause.bind fun _ => hanswer.bind fun outcome => (hkeep outcome).bind fun _ => .pure _

theorem counts_checkUpTo (attempts : Nat) (id : String) :
    (stub.checkUpTo i attempts id).Counts (Counters.Notes stub.name) := by
  refine (stub.counts_modify i _).bind fun _ => ?_
  split
  · exact .pure _
  · refine Work.Counts.bind ?_ fun outcome => (stub.counts_modify i _).bind fun _ => .pure _
    refine (stub.counts_lookUp id).bind fun found => ?_
    cases found with
    | some results => exact .pure _
    | none => exact stub.counts_checkLive i attempts id

theorem stranger_toSource (hname : ∀ site : Site, site.name ≠ stub.name) :
    (stub.toSource i).Stranger :=
  ⟨hname, stub.counts_checkUpTo i 1, fun _ => stub.counts_checkUpTo i _⟩

end Stub

end Source

namespace Federation

open Cache (Lookup)
open Search (Act Shared Work)
open Search.Work (Path Yields)
open Source (Outcome)

/-- A number that the counters give, with what it grows by when something is counted, and the least that
a check of a name adds to it. Pages do not matter for it, nor do sources that are no sites. -/
structure Gauge where
  value : Counters → ℤ
  byLookup : String → Lookup.Outcome → ℤ := fun _ _ => 0
  byCheck : String → Bool → ℤ := fun _ _ => 0
  bySearch : SearchOutcome → Option Nat → ℤ := fun _ _ => 0
  byDetached : String → ℤ := fun _ => 0
  due : String → ℤ := fun _ => 0
  value_zero : value .zero = 0
  value_observeLookup : ∀ c name outcome,
    value (c.observeLookup name outcome) = value c + byLookup name outcome
  value_observeCheck : ∀ c name success millis,
    value (c.observeCheck name success millis) = value c + byCheck name success
  value_observeZeroLinkPage : ∀ c name, value (c.observeZeroLinkPage name) = value c
  value_observeSkippedPage : ∀ c name reason, value (c.observeSkippedPage name reason) = value c
  value_observeSearch : ∀ c outcome results,
    value (c.observeSearch outcome results) = value c + bySearch outcome results
  value_observeDetached : ∀ c name, value (c.observeDetached name) = value c + byDetached name
  due_le : ∀ name outcome success, (outcome = .hit → success = true) →
    due name ≤ byLookup name outcome + byCheck name success
  of_stranger : ∀ name, (∀ site : Site, site.name ≠ name) →
    due name = 0 ∧ (∀ outcome, byLookup name outcome = 0) ∧ ∀ success, byCheck name success = 0

namespace Gauge

variable (g : Gauge)

def Exact : Prop :=
  ∀ name outcome success, (outcome = .hit → success = true) →
    g.byLookup name outcome + g.byCheck name success = g.due name

/-- What counts in the one direction counts in the other one. -/
def neg (h : g.Exact) : Gauge where
  value c := -g.value c
  byLookup name outcome := -g.byLookup name outcome
  byCheck name success := -g.byCheck name success
  bySearch outcome results := -g.bySearch outcome results
  byDetached name := -g.byDetached name
  due name := -g.due name
  value_zero := by rw [g.value_zero, neg_zero]
  value_observeLookup c name outcome := by rw [g.value_observeLookup, neg_add]
  value_observeCheck c name success millis := by rw [g.value_observeCheck, neg_add]
  value_observeZeroLinkPage c name := by rw [g.value_observeZeroLinkPage]
  value_observeSkippedPage c name reason := by rw [g.value_observeSkippedPage]
  value_observeSearch c outcome results := by rw [g.value_observeSearch, neg_add]
  value_observeDetached c name := by rw [g.value_observeDetached, neg_add]
  due_le name outcome success hhit := by rw [← neg_add, h name outcome success hhit]
  of_stranger name hname := by
    obtain ⟨hdue, hlookup, hcheck⟩ := g.of_stranger name hname
    exact ⟨by rw [hdue, neg_zero], fun outcome => by rw [hlookup, neg_zero],
      fun success => by rw [hcheck, neg_zero]⟩

theorem value_of_notes {name : String} (hname : ∀ site : Site, site.name ≠ name) {c c' : Counters}
    (h : c.Notes name c') : g.value c' = g.value c := by
  obtain ⟨-, hlookup, hcheck⟩ := g.of_stranger name hname
  cases h with
  | nothing => rfl
  | lookup outcome => rw [g.value_observeLookup, hlookup, add_zero]
  | check success millis => rw [g.value_observeCheck, hcheck, add_zero]
  | zeroLinkPage => exact g.value_observeZeroLinkPage c name
  | skippedPage reason => exact g.value_observeSkippedPage c name reason

end Gauge

/-- A number made up of what checks of one site count: each lookup and each success or failure counts by
its kind, each duration by the same, and a check adds so much at least. -/
def Gauge.ofChecks (site : Site) (lookup : Lookup.Outcome → ℤ) (check : Bool → ℤ) (duration owed : ℤ)
    (howed : ∀ outcome success, (outcome = .hit → success = true) →
      owed ≤ lookup outcome + (check success + duration)) : Gauge where
  value c :=
    lookup .hit * c.lookups.count (site.name, .hit) +
      lookup .expired * c.lookups.count (site.name, .expired) +
      lookup .corrupt * c.lookups.count (site.name, .corrupt) +
      lookup .miss * c.lookups.count (site.name, .miss) +
      (check true * c.checks.count (site.name, true) +
        check false * c.checks.count (site.name, false) +
        duration * (c.durationsOf site.name).length)
  byLookup name outcome := if name = site.name then lookup outcome else 0
  byCheck name success := if name = site.name then check success + duration else 0
  due name := if name = site.name then owed else 0
  value_zero := by
    simp [Counters.zero, Counters.durationsOf, Tally.count, Tally.empty, Tally.countIn]
  value_observeLookup c name outcome := by
    simp only [Counters.observeLookup, Counters.durationsOf, Tally.count_bump, Prod.mk.injEq]
    by_cases hname : name = site.name
    · cases outcome <;> simp [hname] <;> ring
    · simp [hname]
  value_observeCheck c name success millis := by
    simp only [Counters.observeCheck, Counters.durationsOf, Tally.count_bump, Prod.mk.injEq]
    by_cases hname : name = site.name
    · cases success <;> simp [hname] <;> ring
    · simp [hname]
  value_observeZeroLinkPage c name := rfl
  value_observeSkippedPage c name reason := rfl
  value_observeSearch c outcome results := (add_zero _).symm
  value_observeDetached c name := (add_zero _).symm
  due_le name outcome success hhit := by
    split
    · exact howed outcome success hhit
    · exact le_rfl
  of_stranger name hname := by simp [(hname site).symm]

/-- A number made up of what searches count: each search counts by how it ended, and each list that was
returned by its length. -/
def Gauge.ofSearches (ended : SearchOutcome → ℤ) (returned : Nat → ℤ) : Gauge where
  value c :=
    ended .found * c.searches.count .found + ended .empty * c.searches.count .empty +
      ended .failed * c.searches.count .failed + ended .pending * c.searches.count .pending +
      (c.resultCounts.map returned).sum
  bySearch outcome results := ended outcome + (results.toList.map returned).sum
  value_zero := by simp [Counters.zero, Tally.count, Tally.empty, Tally.countIn]
  value_observeLookup c name outcome := (add_zero _).symm
  value_observeCheck c name success millis := (add_zero _).symm
  value_observeZeroLinkPage c name := rfl
  value_observeSkippedPage c name reason := rfl
  value_observeSearch c outcome results := by
    simp only [Counters.observeSearch, Tally.count_bump, List.map_append, List.sum_append]
    cases outcome <;> simp <;> ring
  value_observeDetached c name := (add_zero _).symm
  due_le name outcome success _ := le_rfl
  of_stranger name _ := ⟨rfl, fun _ => rfl, fun _ => rfl⟩

/-- How many searches left the slow source of a name at work. -/
def Gauge.ofDetached (name : String) : Gauge where
  value c := c.detached.count name
  byDetached other := if other = name then 1 else 0
  value_zero := rfl
  value_observeLookup c name outcome := (add_zero _).symm
  value_observeCheck c name success millis := (add_zero _).symm
  value_observeZeroLinkPage c name := rfl
  value_observeSkippedPage c name reason := rfl
  value_observeSearch c outcome results := (add_zero _).symm
  value_observeDetached c other := by simp [Counters.observeDetached, Tally.count_bump]
  due_le name outcome success _ := le_rfl
  of_stranger name _ := ⟨rfl, fun _ => rfl, fun _ => rfl⟩

section

variable {E : Shared → Shared → Prop} {s t : Shared} {acts : List Act} {outcome : Outcome}

theorem Question.gain_live (g : Gauge) {q : Question} (h : Path E q.live s acts outcome t) :
    ∀ act ∈ acts, act.gain g.value = 0 := by
  have hsame (u : Shared) (id name : String) (results : List Torrent) :
      (Act.changed u (u.store id name results)).gain g.value = 0 := by
    rw [Act.gain, Shared.counters_store, sub_self]
  obtain ⟨site, id, attempts⟩ := q
  cases site with
  | yts a =>
    obtain ⟨fetches, u, htries, rfl, -⟩ := Source.Yts.Access.path_checkLive h
    refine List.forall_mem_append.mpr ⟨fun act hact => ?_, ?_⟩
    · obtain ⟨url, reply, rfl⟩ := htries.requested act hact
      rfl
    · cases outcome with
      | ok results => exact List.forall_mem_singleton.mpr (hsame ..)
      | error e => exact fun act hact => by cases hact
  | ibit a =>
    cases Source.Ibit.Access.path_checkLive h with
    | unsent e => simp
    | failed _ hpage => exact List.forall_mem_singleton.mpr rfl
    | linkless t hpage hlinks =>
      refine List.forall_mem_cons.mpr ⟨rfl, List.forall_mem_singleton.mpr ?_⟩
      exact sub_eq_zero.mpr (g.value_observeZeroLinkPage ..)
    | scraped hpage hlinks hvisits =>
      refine List.forall_mem_cons.mpr ⟨rfl, List.forall_mem_append.mpr ⟨fun act hact => ?_, ?_⟩⟩
      · cases Source.Ibit.Access.path_visitAll hvisits act hact with
        | requested => rfl
        | skipped u reason => exact sub_eq_zero.mpr (g.value_observeSkippedPage ..)
      · exact List.forall_mem_singleton.mpr (hsame ..)

/-- A check adds one lookup and one success or failure, or nothing if it is refused. A lookup that hits
comes with a success. -/
theorem Question.gain_path (g : Gauge) (hE : ∀ s, E s s) {q : Question}
    (h : Path E q.work s acts outcome t) :
    (Text.isBlankText q.id = true ∧ (acts.map (Act.gain g.value)).sum = 0) ∨
      Text.isBlankText q.id = false ∧ ∃ found success, (found = .hit → success = true) ∧
        (acts.map (Act.gain g.value)).sum =
          g.byLookup q.site.name found + g.byCheck q.site.name success := by
  rcases cases_path hE h with ⟨hid, rfl, -⟩ |
    ⟨hid, s₀, middle, u, duration, -, hanswered, rfl, rfl⟩
  · exact .inl ⟨hid, rfl⟩
  right
  let looked := (s₀.lookup q.id q.site.name q.site.maxAge).1
  have hlook : (Act.changed s₀ (s₀.lookup q.id q.site.name q.site.maxAge).2).gain g.value =
      g.byLookup q.site.name looked.outcome := by
    rw [Act.gain, Shared.counters_lookup, g.value_observeLookup, add_sub_cancel_left]
  have hcount : (Act.changed u (u.count (·.observeCheck q.site.name outcome.isOk duration))).gain
      g.value = g.byCheck q.site.name outcome.isOk :=
    sub_eq_of_eq_add' (g.value_observeCheck ..)
  have hmiddle : (middle.map (Act.gain g.value)).sum = 0 := by
    cases hanswered with
    | served hhit => rfl
    | live hmiss hlive =>
      refine List.sum_eq_zero fun n hn => ?_
      obtain ⟨act, hact, rfl⟩ := List.mem_map.mp hn
      exact gain_live g hlive act hact
  refine ⟨hid, looked.outcome, outcome.isOk, fun hhit => ?_, ?_⟩
  · cases hanswered with
    | served => rfl
    | live hmiss =>
      have hmiss : looked.hit? = none := hmiss
      cases hlooked : looked with
      | hit results => simp [hlooked, Lookup.hit?] at hmiss
      | expired | corrupt | miss => simp [hlooked, Lookup.outcome] at hhit
  · rw [List.map_cons, List.map_append, List.sum_cons, List.sum_append, List.map_singleton,
      List.sum_singleton, hlook, hmiddle, hcount, zero_add]

theorem Question.yields_work (g : Gauge) (q : Question) (s : Shared) :
    q.work.Yields g.value s (if Text.isBlankText q.id then 0 else g.due q.site.name) := by
  refine q.sturdy_work.yields fun acts outcome t h => ?_
  rcases gain_path g (fun _ => trivial) h with ⟨hid, hgain⟩ | ⟨hid, found, success, hhit, hgain⟩
  · rw [if_pos hid, hgain]
  · rw [if_neg (by simp [hid]), hgain]
    exact g.due_le q.site.name found success hhit

end

/-- A check of one source, with at most so many attempts if a number is given. -/
structure Inquiry where
  source : Source
  id : String
  attempts : Option Nat

def Inquiry.work (i : Inquiry) : Work Outcome :=
  match i.attempts with
  | some attempts => i.source.checkUpTo attempts i.id
  | none => i.source.check i.id

theorem Site.name_toSource (site : Site) : site.toSource.name = site.name := by
  cases site <;> rfl

theorem Inquiry.orderly_work (i : Inquiry) : i.work.Orderly none := by
  unfold work
  split
  · exact i.source.orderly_checkUpTo _ i.id
  · exact i.source.orderly_check i.id

theorem Inquiry.yields_work (g : Gauge) {i : Inquiry} (h : i.source.Accountable) (s : Shared) :
    i.work.Yields g.value s (if Text.isBlankText i.id then 0 else g.due i.source.name) := by
  obtain ⟨source, id, attempts⟩ := i
  rcases h with ⟨site, rfl⟩ | hstranger
  · rw [Site.name_toSource]
    exact Question.yields_work g ⟨site, id, attempts⟩ s
  · obtain ⟨hdue, -, -⟩ := g.of_stranger source.name hstranger.name
    have hvalue (c c' : Counters) (hc : c.Notes source.name c') : g.value c' = g.value c :=
      g.value_of_notes hstranger.name hc
    dsimp only
    rw [hdue, ite_self]
    cases attempts with
    | none => exact (hstranger.check id).yields hvalue s
    | some attempts => exact (hstranger.checkUpTo attempts id).yields hvalue s

theorem Inquiry.yields_run (g : Gauge) {source : Source} (h : source.Accountable) (attempts : Nat)
    {id : String} (hid : Text.isBlankText id = false) (s : Shared) :
    (source.run attempts id).Yields g.value s (g.due source.name) := by
  have hyields (attempts : Option Nat) :
      (Inquiry.work ⟨source, id, attempts⟩).Yields g.value s (g.due source.name) := by
    simpa [hid] using yields_work g (i := ⟨source, id, attempts⟩) h s
  unfold Source.run
  split
  · exact hyields (some attempts)
  · exact hyields none

end Federation

end TorrentSearch
