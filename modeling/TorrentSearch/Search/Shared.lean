import TorrentSearch.Counters
import TorrentSearch.Http.Network
import TorrentSearch.Source.Stub

/-!
# What all checks share

The cache, the counters and the network are common to all checks, and so are the two clocks: the wall
clock stamps entries of the cache, the other one measures how long things take.
-/

namespace TorrentSearch.Search

structure Shared where
  now : Time.Instant
  elapsed : Nat
  cache : Cache.Store
  counters : Counters
  network : Http.Network
  /-- The URLs that servers were asked for, the latest first. -/
  requests : List String
  stubs : List Source.Stub

namespace Shared

def start (now : Time.Instant) (cache : Cache.Store) (network : Http.Network)
    (stubs : List Source.Stub) : Shared :=
  ⟨now, 0, cache, .zero, network, [], stubs⟩

/-- The cache is asked for the results of a source. -/
def lookup (id source : String) (maxAge : Time.Span) (s : Shared) : Cache.Lookup × Shared :=
  let (found, cache) := s.cache.lookupResults id source maxAge s.now
  (found,
    { s with cache := cache, counters := s.counters.observeLookup source found.outcome })

def store (id source : String) (results : List Torrent) (s : Shared) : Shared :=
  { s with cache := s.cache.storeResults id source results s.now }

def count (f : Counters → Counters) (s : Shared) : Shared :=
  { s with counters := f s.counters }

def changeStub (i : Nat) (f : Source.Stub → Source.Stub) (s : Shared) : Shared :=
  { s with stubs := s.stubs.modify i f }

/-- A URL is requested: what becomes of it within the time limit, and the milliseconds that takes. -/
def request (url : String) (timeout : Nat) (s : Shared) : (Nat × Http.Reply) × Shared :=
  match s.network.deliver s.requests url with
  | some d => (d.within timeout, { s with requests := url :: s.requests })
  | none => ((0, .dropped), s)

@[simp] theorem cache_lookup (id source : String) (maxAge : Time.Span) (s : Shared) :
    (s.lookup id source maxAge).2.cache = (s.cache.lookupResults id source maxAge s.now).2 := by
  rw [lookup]

@[simp] theorem cache_store (id source : String) (results : List Torrent) (s : Shared) :
    (s.store id source results).cache = s.cache.storeResults id source results s.now := by
  rw [store]

@[simp] theorem cache_count (f : Counters → Counters) (s : Shared) :
    (s.count f).cache = s.cache := by
  rw [count]

@[simp] theorem cache_request (url : String) (timeout : Nat) (s : Shared) :
    (s.request url timeout).2.cache = s.cache := by
  unfold request
  split <;> rfl

end Shared

end TorrentSearch.Search
