import TorrentSearch.Search.Orderly

/-!
# Sources

A source is asked for the torrents of an identifier. It answers with a list, which may be empty, or
with the cause for which it has no answer. Some sources try again when an attempt fails. The checks of
a source are orderly, so that none keeps others waiting for ever.
-/

namespace TorrentSearch

structure Source where
  name : String
  supportsRetries : Bool
  check : String → Search.Work Source.Outcome
  /-- A check with at most so many attempts. -/
  checkUpTo : Nat → String → Search.Work Source.Outcome
  orderly_check : ∀ id, (check id).Orderly none
  orderly_checkUpTo : ∀ attempts id, (checkUpTo attempts id).Orderly none

namespace Source

open Search (Work Shared)

def once (name : String) (check : String → Work Outcome) (h : ∀ id, (check id).Orderly none) :
    Source :=
  ⟨name, false, check, fun _ => check, h, fun _ => h⟩

def constant (name : String) (outcome : Outcome) : Source :=
  once name (fun _ => .done outcome) fun _ => .done outcome

def broken (name text : String) : Source :=
  once name (fun _ => .crash text) fun _ => .crash text

def run (s : Source) (attempts : Nat) (id : String) : Work Outcome :=
  if s.supportsRetries then s.checkUpTo attempts id else s.check id

theorem orderly_run (s : Source) (attempts : Nat) (id : String) :
    (s.run attempts id).Orderly none := by
  unfold run
  split
  · exact s.orderly_checkUpTo attempts id
  · exact s.orderly_check id

/-- The fresh results that the cache holds for a source. -/
def cached (id name : String) (maxAge : Time.Span) : Work (Option (List Torrent)) := do
  let found ← Work.consult (Shared.lookup id name maxAge)
  return found.hit?

def keep (id name : String) (results : List Torrent) : Work Unit :=
  Work.update (Shared.store id name results)

/-- What the cache answers, or else what a live check brings. -/
def answeredBy (cache : Work (Option (List Torrent))) (live : Work Outcome) : Work Outcome := do
  match ← cache with
  | some results => return .ok results
  | none => live

/-- A check whose success and duration are counted for a source. -/
def timed (name : String) (check : Work Outcome) : Work Outcome := do
  let start ← Work.look fun s => .done s.elapsed
  let outcome ← check
  Work.update fun s =>
    s.count (·.observeCheck name outcome.isOk (s.elapsed - start))
  return outcome

theorem plain_cached (id name : String) (maxAge : Time.Span) : (cached id name maxAge).Plain :=
  (Work.Plain.consult _).bind fun _ => .pure _

theorem plain_keep (id name : String) (results : List Torrent) : (keep id name results).Plain :=
  Work.Plain.update _

theorem plain_answeredBy {cache : Work (Option (List Torrent))} {live : Work Outcome}
    (hcache : cache.Plain) (hlive : live.Plain) : (answeredBy cache live).Plain := by
  refine hcache.bind fun found => ?_
  cases found with
  | some results => exact .pure _
  | none => exact hlive

theorem plain_timed (name : String) {check : Work Outcome} (h : check.Plain) :
    (timed name check).Plain :=
  Work.Plain.bind (.look fun s => .done s.elapsed) fun _ =>
    h.bind fun _ => (Work.Plain.update _).bind fun _ => .pure _

namespace Stub

/-- The stub in a place, as it is now. -/
def read (i : Nat) : Work Stub :=
  .look fun s => .done (s.stubs[i]?.getD { name := "" })

def modify (i : Nat) (f : Stub → Stub) : Work Unit := Work.update (Shared.changeStub i f)

/-- The attempts of a check, with their effect on the stub. -/
def answer (i attempts : Nat) : Work Outcome := do
  let stub ← read i
  let (outcome, stub) := stub.attempts (attempts - 1)
  modify i fun _ => stub
  return outcome

/-- The delay of a stub, if it has one. -/
def pause (stub : Stub) : Work Unit :=
  match stub.delay with
  | some millis => Work.wait millis
  | none => pure ()

/-- What a stub with a cache found is kept there. -/
def keepFound (stub : Stub) (id : String) (outcome : Outcome) : Work Unit :=
  match outcome, stub.maxAge with
  | .ok results, some _ => keep id stub.name results
  | _, _ => pure ()

/-- What the cache of a stub holds, if the stub has one. -/
def lookUp (stub : Stub) (id : String) : Work (Option (List Torrent)) :=
  match stub.maxAge with
  | some maxAge => cached id stub.name maxAge
  | none => pure none

def checkLive (stub : Stub) (i attempts : Nat) (id : String) : Work Outcome := do
  stub.pause
  let outcome ← answer i attempts
  stub.keepFound id outcome
  return outcome

/-- A check of the stub in a place. Its name, its delay and its use of the cache are as they were set up;
its answers and its record are those of the place. -/
def checkUpTo (stub : Stub) (i attempts : Nat) (id : String) : Work Outcome := do
  modify i (·.record id attempts)
  match validateIdentifier id with
  | .error e => return .error e
  | .ok _ =>
    let outcome ← answeredBy (stub.lookUp id) (stub.checkLive i attempts id)
    modify i complete
    return outcome

theorem plain_read (i : Nat) : (read i).Plain := .look fun _ => .done _

theorem plain_modify (i : Nat) (f : Stub → Stub) : (modify i f).Plain := Work.Plain.update _

theorem plain_answer (i attempts : Nat) : (answer i attempts).Plain :=
  (plain_read i).bind fun _ => (plain_modify i _).bind fun _ => .pure _

theorem plain_pause (stub : Stub) : stub.pause.Plain := by
  unfold pause
  split
  · exact .wait _
  · exact .pure ()

theorem plain_keepFound (stub : Stub) (id : String) (outcome : Outcome) :
    (stub.keepFound id outcome).Plain := by
  unfold keepFound
  split
  · exact plain_keep id stub.name _
  · exact .pure ()

theorem plain_lookUp (stub : Stub) (id : String) : (stub.lookUp id).Plain := by
  unfold lookUp
  split
  · exact plain_cached id stub.name _
  · exact .pure none

theorem plain_checkLive (stub : Stub) (i attempts : Nat) (id : String) :
    (stub.checkLive i attempts id).Plain :=
  (plain_pause stub).bind fun _ => (plain_answer i attempts).bind fun outcome =>
    (plain_keepFound stub id outcome).bind fun _ => .pure outcome

theorem plain_checkUpTo (stub : Stub) (i attempts : Nat) (id : String) :
    (stub.checkUpTo i attempts id).Plain := by
  refine (plain_modify i _).bind fun _ => ?_
  split
  · exact .pure _
  · exact (plain_answeredBy (plain_lookUp stub id) (plain_checkLive stub i attempts id)).bind
      fun outcome => (plain_modify i _).bind fun _ => .pure outcome

def toSource (i : Nat) (stub : Stub) : Source where
  name := stub.name
  supportsRetries := stub.supportsRetries
  check := stub.checkUpTo i 1
  checkUpTo attempts := stub.checkUpTo i (if stub.supportsRetries then attempts else 1)
  orderly_check id := (plain_checkUpTo stub i 1 id).orderly
  orderly_checkUpTo _ id := (plain_checkUpTo stub i _ id).orderly

end Stub

end Source

end TorrentSearch
