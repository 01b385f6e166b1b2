import TorrentSearch.Cbor.Item

/-!
# The byte store

Values under keys, both of them bytes, within a budget for the total length of all keys and values.
The entries stand in the order of their last use, the latest first. When the budget is exceeded, the
entries that were not used for the longest time go. The total length is kept up to date by every
operation.
-/

namespace TorrentSearch.Cache

open Cbor (Bytes)

/-- Values of at most this many bytes are regular. -/
def maxRegularLength : Nat := 65536

structure Store where
  /-- The greatest total length of keys and values. -/
  maxBytes : Nat
  /-- The total length of the keys and values that are held. -/
  bytesUsed : Nat
  /-- Keys with their values, the latest used first. -/
  entries : List (Bytes × Bytes)
deriving Repr, DecidableEq

namespace Store

def entryLength (e : Bytes × Bytes) : Nat :=
  e.1.length + e.2.length

def empty (maxBytes : Nat) : Store :=
  ⟨maxBytes, 0, []⟩

def find? (s : Store) (key : Bytes) : Option Bytes :=
  s.entries.lookup key

def without (entries : List (Bytes × Bytes)) (key : Bytes) : List (Bytes × Bytes) :=
  entries.filter fun e => e.1 != key

/-- The value under a key, and the store in which this key is the latest used. -/
def get (s : Store) (key : Bytes) : Option Bytes × Store :=
  match s.find? key with
  | some value => (some value, { s with entries := (key, value) :: without s.entries key })
  | none => (none, s)

def contains (s : Store) (key : Bytes) : Bool :=
  (s.find? key).isSome

/-- Entries, the earliest used first, without as many from the front as it takes to bring the given
total length down to the budget; and the total length then. -/
def shed (budget : Nat) : Nat → List (Bytes × Bytes) → Nat × List (Bytes × Bytes)
  | used, [] => (used, [])
  | used, e :: rest =>
    if budget < used then shed budget (used - entryLength e) rest else (used, e :: rest)

def evict (s : Store) : Store :=
  if s.maxBytes < s.bytesUsed then
    let (used, kept) := shed s.maxBytes s.bytesUsed s.entries.reverse
    { s with bytesUsed := used, entries := kept.reverse }
  else s

/-- The store with a value of any length under a key, in place of an earlier one. -/
def put (s : Store) (key value : Bytes) : Store :=
  let old :=
    match s.find? key with
    | some old => entryLength (key, old)
    | none => 0
  evict { s with
    bytesUsed := s.bytesUsed - old + entryLength (key, value)
    entries := (key, value) :: without s.entries key }

/-- The store with a regular value under a key; a longer value is refused. -/
def putRegular? (s : Store) (key value : Bytes) : Option Store :=
  if maxRegularLength < value.length then none else some (s.put key value)

/-- Whether there was a value under a key, and the store without it. -/
def remove (s : Store) (key : Bytes) : Bool × Store :=
  match s.find? key with
  | some old =>
    (true, { s with
      bytesUsed := s.bytesUsed - entryLength (key, old)
      entries := without s.entries key })
  | none => (false, s)

def clear (s : Store) : Store :=
  { s with bytesUsed := 0, entries := [] }

def size (s : Store) : Nat :=
  s.entries.length

end Store

end TorrentSearch.Cache
