import TorrentSearch.Cache.Entry
import TorrentSearch.Cache.Store

/-!
# Looking results up

What a source finds in the store for an identifier, and how it leaves its results there. Only a fresh
entry is served.
-/

namespace TorrentSearch.Cache

/-- What the store holds for an identifier and a source. -/
inductive Lookup where
  | hit (results : List Torrent)
  /-- An entry that is older than its limit, by the given span. -/
  | expired (excess : Time.Span)
  | corrupt
  | miss
deriving DecidableEq, Repr

namespace Lookup

inductive Outcome where
  | hit
  | expired
  | corrupt
  | miss
deriving DecidableEq, Repr

def Outcome.label : Outcome → String
  | hit => "hit"
  | expired => "expired"
  | corrupt => "corrupt"
  | miss => "miss"

def outcome : Lookup → Outcome
  | hit _ => .hit
  | expired _ => .expired
  | corrupt => .corrupt
  | miss => .miss

def hit? : Lookup → Option (List Torrent)
  | hit results => some results
  | _ => none

/-- What the bytes under a key amount to at an instant. -/
def judge (data : Option Cbor.Bytes) (maxAge : Time.Span) (now : Time.Instant) : Lookup :=
  match data with
  | none => miss
  | some bytes =>
    match Entry.decode? bytes with
    | none => corrupt
    | some e => if e.isFresh maxAge now then hit e.results else expired (e.age now - maxAge)

end Lookup

namespace Store

def resultsKey (id source : String) : Cbor.Bytes :=
  Text.Utf8.encode (Entry.key id source)

/-- What the store holds for an identifier and a source; the entry counts as used. -/
def lookupResults (s : Store) (id source : String) (maxAge : Time.Span) (now : Time.Instant) :
    Lookup × Store :=
  let (data, s) := s.get (resultsKey id source)
  (Lookup.judge data maxAge now, s)

/-- The store with the results of a source for an identifier, found at the given instant. -/
def storeResults (s : Store) (id source : String) (results : List Torrent) (now : Time.Instant) :
    Store :=
  let key := resultsKey id source
  let data := Entry.encode ⟨now, results⟩
  match s.putRegular? key data with
  | some s => s
  | none => s.put key data

end Store

end TorrentSearch.Cache
