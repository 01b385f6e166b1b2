import TorrentSearch.Proofs.Cache.Persistence
import TorrentSearch.Proofs.Cache.WrittenEntry
import TorrentSearch.Proofs.Cbor.Extent

/-!
# Truncated entries and files

An entry or a file that was cut off anywhere is refused. Neither is ever taken for a shorter one, although
a reader does not mind what stands behind a complete one.
-/

namespace TorrentSearch

open Cbor (Bytes Item)

theorem Entry.Addressable.decode?_of_truncated {e : Entry} (h : e.Addressable) {front : Bytes}
    (hfront : front <+: e.encode) (hne : front ≠ e.encode) : decode? front = none := by
  have hwhole : Item.decode? maxLevels e.encode = some (e.toItem, []) := by
    have hread := h.item_append []
    rwa [List.append_nil] at hread
  have hnone := Cbor.Stops.eq_none (Item.stops_decode? maxLevels) hwhole hfront hne
  rw [decode?, hnone]
  rfl

namespace Cache.Store

theorem Accurate.load_of_truncated {s : Store} (h : s.Accurate) (hbudget : s.maxBytes < 2 ^ 64)
    {front : Bytes} (hfront : front <+: s.save) (hne : front ≠ s.save) (budget : Nat) :
    load budget front = .error .malformed := by
  have hnone := Cbor.Stops.eq_none (Item.stops_decode? Entry.maxLevels)
    (h.decode?_save hbudget) hfront hne
  rw [load, hnone]

/-- Wherever the bytes of an entry break off, inside a length, inside a text or between two torrents, they
are no entry; and wherever the file of a store breaks off, no budget lets it be loaded. -/
theorem truncation_refused (created : Time.Instant) (results : List Torrent)
    (hlength : results.length < 2 ^ 64)
    (htexts : ∀ t ∈ results, ∀ s ∈ [t.title, t.quality, t.infoHash, t.magnet],
      (Text.Utf8.encode s).length < 2 ^ 64)
    {budget : UInt64} {s : Store} (h : Reachable budget.toNat s) :
    (∀ front : Bytes, front <+: Entry.encode ⟨created, results⟩ →
      front ≠ Entry.encode ⟨created, results⟩ → Entry.decode? front = none) ∧
    ∀ front : Bytes, front <+: s.save → front ≠ s.save →
      ∀ maxBytes : Nat, load maxBytes front = .error .malformed := by
  have haddressable : Entry.Addressable ⟨created, results⟩ := ⟨htexts, hlength⟩
  have hbudget : s.maxBytes < 2 ^ 64 := h.maxBytes_eq ▸ budget.toNat_lt
  exact ⟨fun _ hfront hne => haddressable.decode?_of_truncated hfront hne,
    fun _ hfront hne => h.accurate.load_of_truncated hbudget hfront hne⟩

/-- An entry that breaks off before its torrents, and a file that breaks off between two pairs. -/
theorem truncation_refused_of_fronts :
    let created : Time.Instant := ⟨Time.firstDay, 0, 0, by decide, by decide, by decide, by decide⟩
    let results : List Torrent := [⟨"Some Movie", "720p", "ABCDEF", "magnet:?xt=urn:btih:ABCDEF"⟩]
    let s := ((empty (9 : UInt64).toNat).put [1] [1]).put [2] [2, 2, 2]
    results.length < 2 ^ 64 ∧
      (∀ t ∈ results, ∀ s ∈ [t.title, t.quality, t.infoHash, t.magnet],
        (Text.Utf8.encode s).length < 2 ^ 64) ∧
      Reachable (9 : UInt64).toNat s ∧
      Entry.decode? ((Entry.encode ⟨created, results⟩).take 40) = none ∧
      ∀ maxBytes : Nat, load maxBytes (s.save.take 6) = .error .malformed := by
  intro created results s
  have hlength : results.length < 2 ^ 64 := by decide
  have htexts : ∀ t ∈ results, ∀ s ∈ [t.title, t.quality, t.infoHash, t.magnet],
      (Text.Utf8.encode s).length < 2 ^ 64 := by decide
  have hreach : Reachable (9 : UInt64).toNat s :=
    (Reachable.new.setBig [1] [1]).setBig [2] [2, 2, 2]
  have hrefused := truncation_refused created results hlength htexts hreach
  have hentry : (Entry.encode ⟨created, results⟩).take 40 ≠ Entry.encode ⟨created, results⟩ := by
    decide +kernel
  have hfile : s.save.take 6 ≠ s.save := by decide +kernel
  exact ⟨hlength, htexts, hreach, hrefused.1 _ (List.take_prefix _ _) hentry,
    hrefused.2 _ (List.take_prefix _ _) hfile⟩

end Cache.Store

end TorrentSearch
