import TorrentSearch.Counters
import TorrentSearch.Federation.Error
import TorrentSearch.Source.Stub
import TorrentSearch.Torrent

/-!
# Merging answers

What several sources brought, in the order in which they answered, becomes one answer. A failed source
matters only if all of them failed. Of several torrents with one info hash the first is kept.
-/

namespace TorrentSearch.Federation

structure Arrival where
  source : String
  outcome : Source.Outcome
deriving Repr

namespace Arrival

def results? (a : Arrival) : Option (List Torrent) :=
  match a.outcome with
  | .ok results => some results
  | .error _ => none

def failure? (a : Arrival) : Option Failure :=
  match a.outcome with
  | .ok _ => none
  | .error e => some ⟨a.source, e⟩

end Arrival

/-- The lists of the sources that did not fail. -/
def lists (arrivals : List Arrival) : List (List Torrent) :=
  arrivals.filterMap Arrival.results?

def failures (arrivals : List Arrival) : List Failure :=
  arrivals.filterMap Arrival.failure?

/-- Lists in one. Torrents can occur twice only if several lists have some. -/
def mergeLists (ls : List (List Torrent)) : List Torrent :=
  if 1 < ls.countP (!·.isEmpty) then Torrent.dedup ls.flatten else ls.flatten

/-- The answer of all sources together, one of which may be still at work. -/
def conclude (arrivals : List Arrival) (atWork : Option String) :
    Except Error (List Torrent) :=
  match arrivals, atWork with
  | [], some source => .error (.pending source)
  | arrivals, _ =>
    if (lists arrivals).isEmpty then .error (.allSourcesFailed (failures arrivals))
    else .ok (mergeLists (lists arrivals))

/-- How a search with such an answer is counted. -/
def outcomeOf : Except Error (List Torrent) → SearchOutcome
  | .ok [] => .empty
  | .ok _ => .found
  | .error (.pending _) => .pending
  | .error _ => .failed

def observe (answer : Except Error (List Torrent)) (c : Counters) : Counters :=
  c.observeSearch (outcomeOf answer) (answer.toOption.map List.length)

end TorrentSearch.Federation
