import TorrentSearch.Cbor.Decode
import TorrentSearch.Time.Rfc3339
import TorrentSearch.Torrent

/-!
# Cache entries

What one source found for one identifier, with the instant at which it was found. Entries are stored
as CBOR maps. An entry is fresh as long as its age is below a limit; one from the future is new.
-/

namespace TorrentSearch

/-- The torrents that one source found for one identifier. -/
structure Entry where
  created : Time.Instant
  results : List Torrent
deriving DecidableEq, Repr

/-- A text as an item with its length in front. -/
def Cbor.Item.ofText (s : String) : Item := .text true s

namespace Torrent

open Cbor (Item)

def toItem (t : Torrent) : Item :=
  .map [(.ofText "title", .ofText t.title), (.ofText "quality", .ofText t.quality),
    (.ofText "info_hash", .ofText t.infoHash), (.ofText "magnet_url", .ofText t.magnet)]

/-- The torrent that a map of texts names, where other values may nest up to some levels. -/
def ofItem? (levels : Nat) (item : Item) : Option Torrent := do
  match ← item.record? levels ["title", "quality", "info_hash", "magnet_url"] with
  | [title, quality, infoHash, magnet] =>
    return ⟨← title.anyText?, ← quality.anyText?, ← infoHash.anyText?, ← magnet.anyText?⟩
  | _ => none

end Torrent

namespace Entry

open Cbor (Item)

/-- Arrays, maps and ignored tags within each other are read up to this many levels. -/
def maxLevels : Nat := 256

/-- An entry as a map of an instant's text and a list of torrents. -/
def toItem (e : Entry) : Item :=
  .map [(.ofText "created", .ofText e.created.text),
    (.ofText "results", .array (e.results.map Torrent.toItem))]

/-- The torrents of a list, where other values may nest up to some levels. An empty byte string is an
empty list. -/
def results? (levels : Nat) (item : Item) : Option (List Torrent) :=
  match item.untagged with
  | .array items => items.mapM (Torrent.ofItem? (levels - 1))
  | .bytes _ [] => some []
  | _ => none

def ofItem? (item : Item) : Option Entry := do
  match ← item.record? (maxLevels - 1) ["created", "results"] with
  | [created, results] =>
    return ⟨← Time.Instant.ofText? (← created.shortText?), ← results? (maxLevels - 2) results⟩
  | _ => none

def encode (e : Entry) : Cbor.Bytes :=
  e.toItem.encode

/-- The entry that some bytes begin with; what stands behind it does not matter. -/
def decode? (data : Cbor.Bytes) : Option Entry := do
  let (item, _) ← Item.decode? maxLevels data
  ofItem? item

def age (e : Entry) (now : Time.Instant) : Time.Span :=
  now.spanSince e.created

def isFresh (e : Entry) (maxAge : Time.Span) (now : Time.Instant) : Bool :=
  e.age now < maxAge

/-- The key under which a source keeps its entry for an identifier. -/
def key (id source : String) : String :=
  id ++ "-" ++ source

end Entry

end TorrentSearch
