import TorrentSearch.Proofs.Cache.Persistence
import TorrentSearch.Proofs.Cache.WrittenEntry

/-!
# What the kept entries have in common

A property of the entries that come into a store holds of each entry that is kept there, across every
operation and across a save with a load. A hit serves the results of an entry that was kept under its
key, so what holds of the entries holds of what is served.
-/

namespace TorrentSearch.Cache

open Cbor (Bytes)

namespace Store

/-- Each value in the store is a written entry that has a property together with its key. -/
structure Kept (P : Bytes → Entry → Prop) (s : Store) : Prop where
  accurate : s.Accurate
  addressable : s.maxBytes < 2 ^ 64
  entries : ∀ pair ∈ s.entries, ∃ e : Entry, pair.2 = e.encode ∧ P pair.1 e

namespace Kept

variable {P Q : Bytes → Entry → Prop} {s : Store}

theorem empty (P : Bytes → Entry → Prop) {budget : Nat} (h : budget < 2 ^ 64) :
    Kept P (Store.empty budget) :=
  ⟨.empty budget, h, fun _ hpair => by cases hpair⟩

theorem of_subset (h : Kept P s) {t : Store} (ht : t.Accurate) (hbudget : t.maxBytes < 2 ^ 64)
    (hentries : ∀ pair ∈ t.entries, pair ∈ s.entries)
    (hweaken : ∀ pair ∈ t.entries, ∀ e, P pair.1 e → Q pair.1 e) : Kept Q t := by
  refine ⟨ht, hbudget, fun pair hpair => ?_⟩
  obtain ⟨e, hvalue, hP⟩ := h.entries pair (hentries pair hpair)
  exact ⟨e, hvalue, hweaken pair hpair e hP⟩

theorem imp (h : Kept P s) (hweaken : ∀ key e, P key e → Q key e) : Kept Q s :=
  h.of_subset h.accurate h.addressable (fun _ => id) fun pair _ => hweaken pair.1

theorem get (h : Kept P s) (key : Bytes) : Kept P (s.get key).2 := by
  refine h.of_subset (h.accurate.get key) (by simpa using h.addressable) (fun pair hpair => ?_)
    fun _ _ _ => id
  unfold Store.get at hpair
  split at hpair
  · rename_i value hfind
    rcases List.mem_cons.mp hpair with rfl | hpair
    · exact mem_of_find? hfind
    · exact (List.mem_filter.mp hpair).1
  · exact hpair

/-- The property may change while an entry is put, if the other keys allow for it. -/
theorem put (h : Kept P s) {key : Bytes} {e : Entry} (hnew : Q key e)
    (hothers : ∀ other e', other ≠ key → P other e' → Q other e') : Kept Q (s.put key e.encode) := by
  refine ⟨h.accurate.put key _, by rw [h.accurate.maxBytes_put]; exact h.addressable, ?_⟩
  rw [h.accurate.put_eq]
  intro pair hpair
  rcases List.mem_cons.mp ((longestWithin_isPrefix _ _).subset hpair) with rfl | hpair
  · exact ⟨e, rfl, hnew⟩
  · obtain ⟨hmem, hne⟩ := List.mem_filter.mp hpair
    obtain ⟨e', hvalue, hP⟩ := h.entries pair hmem
    exact ⟨e', hvalue, hothers pair.1 e' (bne_iff_ne.mp hne) hP⟩

/-- The property may change while an entry is removed, if the other keys allow for it. -/
theorem remove (h : Kept P s) (key : Bytes)
    (hothers : ∀ other e, other ≠ key → P other e → Q other e) : Kept Q (s.remove key).2 := by
  have hentries : (s.remove key).2.entries = without s.entries key := by
    unfold Store.remove
    split
    · rfl
    · rename_i hfind
      exact (without_of_find?_eq_none hfind).symm
  refine h.of_subset (h.accurate.remove key) (by simpa using h.addressable) ?_ ?_
  · rw [hentries]
    exact fun pair hpair => (List.mem_filter.mp hpair).1
  · rw [hentries]
    exact fun pair hpair e => hothers pair.1 e (bne_iff_ne.mp (List.mem_filter.mp hpair).2)

theorem clear (h : Kept P s) (Q : Bytes → Entry → Prop) : Kept Q s.clear :=
  ⟨.clear s, h.addressable, fun _ hpair => by cases hpair⟩

theorem storeResults (h : Kept P s) {id source : String} {results : List Torrent}
    {now : Time.Instant} (hnew : Q (resultsKey id source) ⟨now, results⟩)
    (hothers : ∀ other e, other ≠ resultsKey id source → P other e → Q other e) :
    Kept Q (s.storeResults id source results now) := by
  rw [storeResults_eq_put]
  exact h.put hnew hothers

theorem lookupResults (h : Kept P s) (id source : String) (maxAge : Time.Span)
    (now : Time.Instant) : Kept P (s.lookupResults id source maxAge now).2 :=
  h.get (resultsKey id source)

theorem load_save (h : Kept P s) {budget : Nat} (hbudget : budget < 2 ^ 64) :
    ∃ loaded, load budget s.save = .ok loaded ∧ Kept P loaded := by
  refine ⟨_, h.accurate.load_save h.addressable budget, ?_⟩
  refine h.of_subset (accurate_ofEntries budget h.accurate.distinct) hbudget (fun pair hpair => ?_)
    fun _ _ _ => id
  exact (longestWithin_isPrefix budget s.entries).subset hpair

theorem reopen? {files : List Bytes} {index : Nat} (hfile : files[index]? = some s.save)
    (h : Kept P s) (budget : UInt64) :
    ∃ loaded, Store.reopen? files index budget = some loaded ∧ Kept P loaded := by
  obtain ⟨loaded, hload, hkept⟩ := h.load_save budget.toNat_lt
  refine ⟨loaded, ?_, hkept⟩
  rw [Store.reopen?, hfile, Option.bind_some, hload]
  rfl

theorem decode?_of_mem (h : Kept P s) {key value : Bytes} (hmem : (key, value) ∈ s.entries) :
    ∃ e, Entry.decode? value = some e ∧ P key e := by
  obtain ⟨e, hvalue, hP⟩ := h.entries _ hmem
  have hlength : e.encode.length < 2 ^ 64 := by
    have hentry := entryLength_le_totalLength hmem
    have hused := h.accurate.used
    have hwithin := h.accurate.within
    have hbudget := h.addressable
    unfold entryLength at hentry
    dsimp only at hvalue hentry
    rw [← hvalue]
    omega
  have hread := (Entry.Addressable.of_length_encode hlength).decode?_append []
  rw [List.append_nil, ← hvalue] at hread
  exact ⟨e, hread, hP⟩

/-- The results of a hit are those of an entry that is kept under its key. -/
theorem of_hit (h : Kept P s) {id source : String} {maxAge : Time.Span} {now : Time.Instant}
    {results : List Torrent} (hhit : (s.lookupResults id source maxAge now).1 = .hit results) :
    ∃ e, P (resultsKey id source) e ∧ e.results = results := by
  unfold Store.lookupResults at hhit
  dsimp only at hhit
  unfold Store.get at hhit
  cases hfind : s.find? (resultsKey id source) with
  | none => simp [hfind, Lookup.judge] at hhit
  | some value =>
    obtain ⟨e, hread, hP⟩ := h.decode?_of_mem (mem_of_find? hfind)
    simp only [hfind, Lookup.judge, hread] at hhit
    split at hhit
    · exact ⟨e, hP, by simpa using hhit⟩
    · cases hhit

end Kept

end Store

end TorrentSearch.Cache
