import TorrentSearch.Proofs.Search.Duration
import TorrentSearch.Proofs.Source.Filling

/-!
# How long stubs take

A check of a stub that the cache answers takes no time. Any other one takes the delay of the stub, and
keeps what it found in the cache when that is over.
-/

namespace TorrentSearch.Source

open Search (Shared Work)
open Search.Work (Takes)

/-- The cache has just got the results of a source. -/
def Stored (id name : String) (results : List Torrent) (s : Shared) : Prop :=
  ∃ cache : Cache.Store, s.cache = cache.storeResults id name results s.now

theorem takes_cached (id name : String) (maxAge : Time.Span) (s : Shared) :
    Takes (fun found _ => found = (s.cache.lookupResults id name maxAge s.now).1.hit?)
      (cached id name maxAge) s 0 := by
  have hlookup : (s.lookup id name maxAge).1 = (s.cache.lookupResults id name maxAge s.now).1 := by
    rw [Shared.lookup]
  refine .look (.change (.done ?_))
  rw [hlookup]

namespace Stub

variable (stub : Stub) (id : String)

/-- What the cache answers in place of a stub. -/
def hit? (s : Shared) : Option (List Torrent) :=
  stub.maxAge.bind fun maxAge => (s.cache.lookupResults id stub.name maxAge s.now).1.hit?

/-- The milliseconds that a check of a stub takes from a state on. -/
def millis (s : Shared) : Nat := if (stub.hit? id s).isSome then 0 else stub.delay.getD 0

/-- A stub with a cache that does not answer in its place stored what it found. -/
def Kept (s : Shared) (outcome : Outcome) (t : Shared) : Prop :=
  ∀ results, outcome = .ok results → stub.maxAge.isSome → stub.hit? id s = none →
    Stored id stub.name results t

theorem takes_lookUp (s : Shared) :
    Takes (fun found _ => found = stub.hit? id s) (stub.lookUp id) s 0 := by
  unfold lookUp hit?
  cases stub.maxAge with
  | some maxAge => exact takes_cached id stub.name maxAge s
  | none => exact .pure rfl

theorem takes_pause (s : Shared) :
    Takes (fun _ _ => True) stub.pause s (stub.delay.getD 0) := by
  unfold pause
  cases stub.delay with
  | some millis => exact .pause millis s fun _ => .done trivial
  | none => exact .pure trivial

theorem takes_keepFound (outcome : Outcome) (s t : Shared) :
    Takes (fun _ => stub.Kept id s outcome) (stub.keepFound id outcome) t 0 := by
  cases outcome with
  | error e => exact .pure fun _ hfound => nomatch hfound
  | ok found =>
    cases hcache : stub.maxAge with
    | none =>
      simp only [keepFound, hcache]
      exact .pure fun _ _ hsome => by simp [hcache] at hsome
    | some maxAge =>
      simp only [keepFound, hcache]
      refine .update fun results hfound _ _ => ⟨t.cache, ?_⟩
      cases hfound
      rw [Shared.store]

theorem takes_checkLive (i attempts : Nat) (s t : Shared) :
    Takes (stub.Kept id s) (stub.checkLive i attempts id) t (stub.delay.getD 0) := by
  have hanswer (t : Shared) : Takes (fun _ _ => True) (answer i attempts) t 0 :=
    .look (.change (.done trivial))
  exact (stub.takes_pause t).bind fun _ u _ => (hanswer u).bind fun outcome v _ =>
    (stub.takes_keepFound id outcome s v).bind fun _ w hkept => .pure hkept

/-- A check takes the delay of the stub, unless the cache answers in its place, and stores what it found
right at its end. -/
theorem takes_run (i attempts : Nat) (hid : Text.isBlankText id = false) (s : Shared) :
    Takes (stub.Kept id s) ((stub.toSource i).run attempts id) s (stub.millis id s) := by
  rw [run_toSource, stub.checkUpTo_eq i _ hid]
  let more := if stub.supportsRetries then attempts else 1
  let recorded := s.changeStub i (·.record id more)
  have hbody : Takes (stub.Kept id s) (stub.body i more id) recorded (stub.millis id s) := by
    have hsame : stub.hit? id recorded = stub.hit? id s := rfl
    rw [← Nat.zero_add (stub.millis id s)]
    refine (stub.takes_lookUp id recorded).bind fun found t hfound => ?_
    rw [hfound, hsame]
    unfold millis
    cases hhit : stub.hit? id s with
    | some results => exact .pure fun _ _ _ hnone => by simp [hhit] at hnone
    | none => exact stub.takes_checkLive id i more s t
  have hfinishing (outcome : Outcome) (t : Shared) (hkept : stub.Kept id s outcome t) :
      Takes (stub.Kept id s) (finishing i outcome) t 0 := .change (.done hkept)
  exact .change (hbody.bind hfinishing)

end Stub

end TorrentSearch.Source
