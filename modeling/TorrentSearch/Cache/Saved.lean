import TorrentSearch.Cache.Entry
import TorrentSearch.Cache.Error
import TorrentSearch.Cache.Store

/-!
# Saved stores

A store as the bytes of a file: an array of pairs of byte strings, the earliest used entry first, so
that putting them into an empty store one after another brings the order of use back. A smaller
budget then leaves the latest used ones.
-/

namespace TorrentSearch.Cache

open Cbor (Bytes Item)

namespace Store

def pairItem (e : Bytes × Bytes) : Item :=
  .array [.bytes true e.1, .bytes true e.2]

/-- A store is saved: the number of entries that are written and the bytes of the file, with the
earliest used entry first; and the store. -/
def persist (s : Store) : (Nat × Bytes) × Store :=
  let items := s.entries.reverse.map pairItem
  ((items.length, (Item.array items).encode), s)

/-- The bytes of the file that a store is saved to. -/
def save (s : Store) : Bytes :=
  s.persist.1.2

/-- The key and the value that an item names. -/
def pair? : Item → Except Flaw (Bytes × Bytes)
  | .array [.bytes _ key, .bytes _ value] => .ok (key, value)
  | .array _ => .error .notByteStrings
  | _ => .error .notAPair

/-- The store after the pairs are put into it, from first to last. -/
def putPairs (s : Store) : List Item → Except Flaw Store
  | [] => .ok s
  | item :: rest =>
    match pair? item with
    | .ok (key, value) => (s.put key value).putPairs rest
    | .error flaw => .error flaw

/-- The store of the given budget that the bytes of a file name. -/
def load (maxBytes : Nat) (data : Bytes) : Except Flaw Store :=
  match Item.decode? Entry.maxLevels data with
  | none => .error .malformed
  | some (item, _) =>
    if item.isPlain Entry.maxLevels then
      match item with
      | .array items => (Store.empty maxBytes).putPairs items
      | _ => .error .notAnArray
    else .error .malformed

end Store

end TorrentSearch.Cache
