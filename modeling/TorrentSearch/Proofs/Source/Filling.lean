import TorrentSearch.Proofs.Source.StubRecord
import TorrentSearch.Proofs.Source.Timeless

/-!
# Checks that fill the cache

A source that asks the cache first leaves there what it brings. As long as that is there and fresh, later
checks bring the same at once and disturb nobody.
-/

namespace TorrentSearch.Source

open Cache (Store)
open Cache.Store (resultsKey)
open Search (Shared Terms Work)
open Search.Work (AtOnce Attains)

def Stub.unrecorded (stub : Stub) : Stub := { stub with checks := [], completed := 0 }

theorem Stub.unrecorded_record (id : String) (attempts : Nat) (stub : Stub) :
    (stub.record id attempts).unrecorded = stub.unrecorded := rfl

theorem Stub.unrecorded_complete (stub : Stub) : stub.complete.unrecorded = stub.unrecorded := rfl

/-- No site was disturbed between the states: no time went by, nothing was requested, no stub gave an
answer, and the cache holds what it held. -/
structure Undisturbed (s t : Shared) : Prop where
  now : t.now = s.now
  elapsed : t.elapsed = s.elapsed
  network : t.network = s.network
  requests : t.requests = s.requests
  stubs : t.stubs.map Stub.unrecorded = s.stubs.map Stub.unrecorded
  held : ∀ key, t.cache.find? key = s.cache.find? key

namespace Undisturbed

variable {s t u : Shared}

theorem trans (h : Undisturbed s t) (h' : Undisturbed t u) : Undisturbed s u :=
  ⟨h'.now.trans h.now, h'.elapsed.trans h.elapsed, h'.network.trans h.network,
    h'.requests.trans h.requests, h'.stubs.trans h.stubs, fun key => (h'.held key).trans (h.held key)⟩

theorem lookup (id name : String) (maxAge : Time.Span) (s : Shared) :
    Undisturbed s (s.lookup id name maxAge).2 := by
  refine ⟨?_, elapsed_lookup id name maxAge s, ?_, ?_, ?_, fun key => Shared.find?_lookup key⟩
  · rw [Shared.lookup]
  · rw [Shared.lookup]
  · rw [Shared.lookup]
  · rw [Shared.lookup]

theorem count (f : Counters → Counters) (s : Shared) : Undisturbed s (s.count f) :=
  ⟨rfl, rfl, rfl, rfl, rfl, fun _ => rfl⟩

theorem changeStub {f : Stub → Stub} (hf : ∀ stub, (f stub).unrecorded = stub.unrecorded) (i : Nat)
    (s : Shared) : Undisturbed s (s.changeStub i f) :=
  ⟨rfl, rfl, rfl, rfl, Search.Pool.map_modify_eq_self hf s.stubs i, fun _ => rfl⟩

end Undisturbed

section

variable {id name : String} {maxAge : Time.Span} {results : List Torrent} {s t : Shared}
  {taken : List String}

theorem atOnce_answeredBy (taken : List String)
    (hhit : (s.cache.lookupResults id name maxAge s.now).1.hit? = some results) (live : Work Outcome) :
    AtOnce taken (answeredBy (cached id name maxAge) live) s (.ok results)
      (s.lookup id name maxAge).2 := by
  have hfound : (s.lookup id name maxAge).1.hit? = some results := by
    rw [Shared.lookup]
    exact hhit
  have hcached : AtOnce taken (cached id name maxAge) s (some results) (s.lookup id name maxAge).2 := by
    rw [← hfound]
    exact .look (.change (.done ..))
  exact hcached.bind fun taken => .done taken _ _

theorem atOnce_timed {check : Work Outcome} {outcome : Outcome} (h : AtOnce taken check s outcome t)
    (name : String) :
    AtOnce taken (timed name check) s outcome
      (t.count (·.observeCheck name outcome.isOk (t.elapsed - s.elapsed))) := by
  refine .look (h.bind fun taken => ?_)
  exact .change (.done taken _ _)

end

/-- If the cache has an entry of a source for an identifier, and one of a possible length, its results are
the given ones. -/
def Keeps (id name : String) (results : List Torrent) (cache : Store) : Prop :=
  ∀ value, cache.find? (resultsKey id name) = some value → value.length < 2 ^ 64 →
    ∃ e, Entry.decode? value = some e ∧ e.results = results

theorem keeps_storeResults (id name : String) (results : List Torrent) (cache : Store)
    (now : Time.Instant) : Keeps id name results (cache.storeResults id name results now) := by
  intro value hfind hlength
  rw [Store.storeResults_eq_put] at hfind
  rcases Store.find?_put cache (resultsKey id name) (Entry.encode ⟨now, results⟩) with hnone | hsome
  · rw [hnone] at hfind
    cases hfind
  · rw [hsome, Option.some.injEq] at hfind
    subst hfind
    have hread := (Entry.Addressable.of_length_encode hlength).decode?_append []
    rw [List.append_nil] at hread
    exact ⟨_, hread, rfl⟩

abbrev Filled (id name : String) (results : List Torrent) (outcome : Outcome) (s : Shared) : Prop :=
  outcome = .ok results → Keeps id name results s.cache

/-- Whenever the source brings the given results, it leaves them in the cache. -/
def Fills (source : Source) (id : String) (results : List Torrent) : Prop :=
  ∀ (attempts : Nat) (s : Shared),
    Attains (Filled id source.name results) (source.run attempts id) s

/-- A source that asks the cache for an identifier before it does anything else. What it does around that
may take a lock and is done at once. -/
structure Caching (source : Source) (id : String) (maxAge : Time.Span) (results : List Torrent) where
  lock : Option String
  around : Nat → Work Outcome → Work Outcome
  live : Nat → Work Outcome
  run_eq (attempts : Nat) : source.run attempts id =
    around attempts (answeredBy (cached id source.name maxAge) (live attempts))
  serves (attempts : Nat) (taken : List String) (s : Shared) (hfree : ∀ l ∈ lock, l ∉ taken)
    (hhit : (s.cache.lookupResults id source.name maxAge s.now).1.hit? = some results) :
    ∃ t, Undisturbed s t ∧ ∀ live,
      AtOnce taken (around attempts (answeredBy (cached id source.name maxAge) live)) s (.ok results) t

section

variable {id name : String} {maxAge : Time.Span} {results : List Torrent} {s : Shared}

theorem attains_keep (found : List Torrent) :
    Attains (fun _ t => Filled id name results (.ok found) t) (keep id name found) s := by
  refine .update rfl fun hsame => ?_
  obtain rfl : found = results := Except.ok.inj hsame
  rw [Shared.cache_store]
  exact keeps_storeResults id name found s.cache s.now

theorem attains_answeredBy {live : Work Outcome}
    (hlive : ∀ t, Attains (Filled id name results) live t) :
    Attains (Filled id name results) (answeredBy (cached id name maxAge) live) s := by
  refine leads_answeredBy rfl (fun found hhit hsame => ?_) fun _ => hlive _
  obtain rfl : found = results := Except.ok.inj hsame
  intro value hfind _
  rw [Shared.find?_lookup] at hfind
  exact holds_of_hit hhit value hfind

theorem permits_anything : Permits (Terms.sparing fun _ => ()) () := ⟨fun _ _ _ => rfl, fun _ _ => rfl⟩

theorem lasts_anything : Lasts (Terms.sparing fun _ => ()) () fun _ => True :=
  ⟨fun _ _ => trivial, fun _ _ _ => trivial, fun _ _ => trivial⟩

theorem attains_timed (name' : String) {check : Work Outcome}
    (h : Attains (Filled id name results) check s) :
    Attains (Filled id name results) (timed name' check) s :=
  leads_timed permits_anything (fun _ _ _ hfilled => hfilled) h

end

theorem Stub.attains_checkLive (stub : Stub) (i attempts : Nat) {id : String} {maxAge : Time.Span}
    (hcache : stub.maxAge = some maxAge) (results : List Torrent) (s : Shared) :
    Attains (Filled id stub.name results) (stub.checkLive i attempts id) s := by
  have hpause : Attains (fun _ _ => True) stub.pause s := by
    unfold pause
    split
    · exact .wait fun _ _ => trivial
    · exact .pure trivial
  have hanswer (t : Shared) : Attains (fun _ _ => True) (answer i attempts) t :=
    .look (.change rfl (.done trivial))
  have hkeep (outcome : Outcome) (t : Shared) :
      Attains (fun _ u => Filled id stub.name results outcome u) (stub.keepFound id outcome) t := by
    cases outcome with
    | ok found =>
      unfold keepFound
      rw [hcache]
      exact attains_keep found
    | error e => exact .pure fun hsame => nomatch hsame
  exact hpause.bind fun _ t _ => (hanswer t).bind fun outcome u _ =>
    (hkeep outcome u).bind fun _ v hfilled => .pure hfilled

theorem Stub.run_of_cache (stub : Stub) (i attempts : Nat) {id : String}
    (hid : Text.isBlankText id = false) {maxAge : Time.Span} (hcache : stub.maxAge = some maxAge) :
    (stub.toSource i).run attempts id =
      .change (Shared.changeStub i (·.record id (if stub.supportsRetries then attempts else 1)))
        (Work.bind (answeredBy (cached id stub.name maxAge)
          (stub.checkLive i (if stub.supportsRetries then attempts else 1) id)) (finishing i)) := by
  rw [run_toSource, stub.checkUpTo_eq i _ hid, body, lookUp, hcache]

def Stub.caching (stub : Stub) (i : Nat) {id : String} (hid : Text.isBlankText id = false)
    {maxAge : Time.Span} (hcache : stub.maxAge = some maxAge) (results : List Torrent) :
    Caching (stub.toSource i) id maxAge results where
  lock := none
  around attempts check :=
    .change (Shared.changeStub i (·.record id (if stub.supportsRetries then attempts else 1)))
      (Work.bind check (finishing i))
  live attempts := stub.checkLive i (if stub.supportsRetries then attempts else 1) id
  run_eq attempts := stub.run_of_cache i attempts hid hcache
  serves attempts taken s _ hhit := by
    let recorded :=
      s.changeStub i (·.record id (if stub.supportsRetries then attempts else 1))
    let found := (recorded.lookup id stub.name maxAge).2
    have hhit : (recorded.cache.lookupResults id stub.name maxAge recorded.now).1.hit? = some results :=
      hhit
    have hanswer (live : Work Outcome) : AtOnce taken (answeredBy (cached id stub.name maxAge) live)
        recorded (.ok results) found := atOnce_answeredBy taken hhit live
    refine ⟨found.changeStub i complete, ?_, fun live => ?_⟩
    · have hrecord : Undisturbed s recorded := .changeStub (Stub.unrecorded_record id _) i s
      have hlookup : Undisturbed recorded found := .lookup id stub.name maxAge recorded
      exact (hrecord.trans hlookup).trans (.changeStub Stub.unrecorded_complete i found)
    · exact .change ((hanswer live).bind fun taken => .change (.done taken _ _))

theorem Stub.fills (stub : Stub) (i : Nat) {id : String} (hid : Text.isBlankText id = false)
    {maxAge : Time.Span} (hcache : stub.maxAge = some maxAge) (results : List Torrent) :
    (stub.toSource i).Fills id results := by
  intro attempts s
  rw [stub.run_of_cache i attempts hid hcache]
  let more := if stub.supportsRetries then attempts else 1
  have hanswer (t : Shared) : Attains (Filled id stub.name results)
      (answeredBy (cached id stub.name maxAge) (stub.checkLive i more id)) t :=
    attains_answeredBy (stub.attains_checkLive i more hcache results)
  exact .change rfl ((hanswer _).bind fun outcome t hfilled => .change rfl (.done hfilled))

def Yts.Access.caching (a : Yts.Access) {id : String} (hid : Text.isBlankText id = false)
    (results : List Torrent) : Caching a.toSource id a.maxAge results where
  lock := none
  around _ check := timed name check
  live attempts := a.checkLive attempts id
  run_eq attempts := by
    change a.checkUpTo attempts id = _
    rw [checkUpTo, validateIdentifier_eq_ok_iff.mpr hid]
    rfl
  serves attempts taken s _ hhit :=
    ⟨_, (Undisturbed.lookup id name a.maxAge s).trans (.count _ _),
      fun live => atOnce_timed (atOnce_answeredBy taken hhit live) name⟩

theorem Yts.Access.fills (a : Yts.Access) {id : String} (hid : Text.isBlankText id = false)
    (results : List Torrent) : a.toSource.Fills id results := by
  intro attempts s
  change Attains _ (a.checkUpTo attempts id) s
  rw [checkUpTo, validateIdentifier_eq_ok_iff.mpr hid]
  refine attains_timed name (attains_answeredBy fun t => ?_)
  have hattempt (u : Shared) (_ : True) : Attains (fun _ _ => True ∧ True) (a.attempt id) u := by
    have hget := leads_get permits_anything lasts_anything (R := fun _ => True) (s := u)
      (a.searchUrl id) a.timeout trivial (fun _ => trivial) fun _ _ => trivial
    exact hget.bind fun _ _ _ => .pure ⟨trivial, trivial⟩
  have hattempts := a.leads_attempts (J := fun _ => True) id hattempt (attempts - 1) (s := t) trivial
  refine hattempts.bind fun outcome u _ => ?_
  cases outcome with
  | ok found => exact (attains_keep found).bind fun _ v hfilled => .pure hfilled
  | error e =>
    have hnothing : Attains (fun _ _ => True) (Pure.pure ()) u := .pure trivial
    exact hnothing.bind fun _ v _ => .pure fun hsame => nomatch hsame

def Ibit.Access.caching (a : Ibit.Access) {id : String} (hid : Text.isBlankText id = false)
    (results : List Torrent) : Caching a.toSource id a.maxAge results where
  lock := some name
  around _ check := Work.locked name (timed name check)
  live _ := a.checkLive id
  run_eq _ := by
    change a.check id = _
    rw [check, validateIdentifier_eq_ok_iff.mpr hid]
    rfl
  serves _ taken s hfree hhit :=
    ⟨_, (Undisturbed.lookup id name a.maxAge s).trans (.count _ _),
      fun live => .locked (hfree name rfl) (atOnce_timed (atOnce_answeredBy _ hhit live) name)⟩

theorem Ibit.Access.fills (a : Ibit.Access) {id : String} (hid : Text.isBlankText id = false)
    {results : List Torrent} (hresults : results ≠ []) : a.toSource.Fills id results := by
  intro _ s
  change Attains _ (a.check id) s
  rw [check, validateIdentifier_eq_ok_iff.mpr hid]
  refine .locked fun t _ => attains_timed name (attains_answeredBy fun u => ?_)
  have hget := leads_get permits_anything lasts_anything (R := fun _ => True) (s := u)
    (a.searchUrl id) a.timeout trivial (fun _ => trivial) fun _ _ => trivial
  refine hget.bind fun reply v _ => ?_
  split
  · exact .pure fun hsame => nomatch hsame
  · unfold follow
    split
    · have hcount : Attains (fun _ _ => True)
          (Work.update (Shared.count (·.observeZeroLinkPage name))) v := .update rfl trivial
      exact hcount.bind fun _ _ _ => .pure fun hsame => absurd (Except.ok.inj hsame).symm hresults
    · refine (a.leads_visitAll permits_anything lasts_anything _ trivial).bind fun found w _ => ?_
      exact (attains_keep found).bind fun _ x hfilled => .pure hfilled

end TorrentSearch.Source
