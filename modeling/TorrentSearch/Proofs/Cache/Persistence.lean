import Mathlib.Data.List.Perm.Subperm
import TorrentSearch.Proofs.Cache.Accounting
import TorrentSearch.Proofs.Cbor.Written

/-!
# Saved stores are loaded

A file holds the entries from the earliest used on, and a load puts them into an empty store one after
another, evicting on the way. What it ends with is the same as if all of them had been cut down to the
budget at once: the longest segment of the latest used entries that fits.
-/

namespace TorrentSearch.Cache

open Cbor (Bytes Item)

namespace Store

def shortKeys : List Bytes :=
  [] :: (List.range 256).map fun n => [UInt8.ofNat n]

theorem mem_shortKeys {key : Bytes} (h : key.length ≤ 1) : key ∈ shortKeys := by
  match key, h with
  | [], _ => exact List.mem_cons_self
  | [b], _ =>
    have hbyte : UInt8.ofNat b.toNat = b := UInt8.ofNat_toNat
    refine List.mem_cons_of_mem _ (List.mem_map.mpr ⟨b.toNat, ?_, by rw [hbyte]⟩)
    exact List.mem_range.mpr b.toNat_lt

theorem two_mul_length_le {es : List (Bytes × Bytes)} (hnodup : (es.map Prod.fst).Nodup) :
    2 * es.length ≤ 2 * 257 + totalLength es := by
  -- distinct keys leave room for few short ones, and each of the others adds two bytes to the total
  let isShort (e : Bytes × Bytes) : Bool := e.1.length ≤ 1
  have hshort : (es.filter isShort).length ≤ 257 := by
    have hkeys : ((es.filter isShort).map Prod.fst).Nodup :=
      hnodup.sublist (List.filter_sublist.map Prod.fst)
    have hsubset : (es.filter isShort).map Prod.fst ⊆ shortKeys := by
      intro key hkey
      obtain ⟨e, he, rfl⟩ := List.mem_map.mp hkey
      exact mem_shortKeys (of_decide_eq_true (List.mem_filter.mp he).2)
    have hlength := (List.subperm_of_subset hkeys hsubset).length_le
    simpa [shortKeys] using hlength
  have hlong (es : List (Bytes × Bytes)) :
      2 * es.length ≤ 2 * (es.filter isShort).length + totalLength es := by
    induction es with
    | nil => simp
    | cons e es ih =>
      rw [totalLength_cons, List.length_cons]
      by_cases he : isShort e = true
      · rw [List.filter_cons_of_pos he, List.length_cons]
        omega
      · have hkey : 1 < e.1.length := by simpa [isShort] using he
        rw [List.filter_cons_of_neg he]
        unfold entryLength
        omega
  have htotal := hlong es
  omega

theorem entryLength_le_totalLength {es : List (Bytes × Bytes)} {e : Bytes × Bytes} (h : e ∈ es) :
    entryLength e ≤ totalLength es := by
  obtain ⟨front, back, rfl⟩ := List.append_of_mem h
  rw [totalLength_append, totalLength_cons]
  omega

theorem storable_pairItem {e : Bytes × Bytes} (h : entryLength e < 2 ^ 64) (levels : Nat) :
    (pairItem e).Storable (levels + 1) := by
  unfold entryLength at h
  refine .array (by simp) ?_
  simp only [List.forall_mem_cons]
  exact ⟨.bytes (by omega), .bytes (by omega), by simp⟩

theorem isPlain_pairItems (levels : Nat) (es : List (Bytes × Bytes)) :
    (Item.array (es.map pairItem)).isPlain (levels + 2) = true := by
  have hall : Item.areAllPlain (levels + 1) (es.map pairItem) = true := by
    induction es with
    | nil => rfl
    | cons e es ih =>
      rw [List.map_cons, Item.areAllPlain, ih, Bool.and_true]
      simp [pairItem, Item.isPlain, Item.areAllPlain]
  rw [Item.isPlain, Nat.add_succ_sub_one, hall]
  simp

theorem decode?_save {s : Store} (hlength : s.entries.length < 2 ^ 64)
    (hentries : ∀ e ∈ s.entries, entryLength e < 2 ^ 64) :
    Item.decode? Entry.maxLevels s.save = some (.array (s.entries.reverse.map pairItem), []) := by
  have hstorable : (Item.array (s.entries.reverse.map pairItem)).Storable 256 := by
    refine .array (by simpa using hlength) fun item hitem => ?_
    obtain ⟨e, he, rfl⟩ := List.mem_map.mp hitem
    exact storable_pairItem (hentries e (List.mem_reverse.mp he)) 254
  have hread := hstorable.decode?_encode_append []
  rwa [List.append_nil] at hread

/-- The store of a budget with as many of the entries as fit, the latest used first. -/
def ofEntries (budget : Nat) (es : List (Bytes × Bytes)) : Store :=
  ⟨budget, totalLength (longestWithin budget es), longestWithin budget es⟩

theorem accurate_ofEntries (budget : Nat) {es : List (Bytes × Bytes)}
    (hnodup : (es.map Prod.fst).Nodup) : (ofEntries budget es).Accurate :=
  ⟨rfl, totalLength_longestWithin_le budget es,
    hnodup.sublist ((longestWithin_isPrefix budget es).sublist.map Prod.fst)⟩

theorem put_ofEntries (budget : Nat) {es : List (Bytes × Bytes)} {key : Bytes} (value : Bytes)
    (hnodup : (((key, value) :: es).map Prod.fst).Nodup) :
    (ofEntries budget es).put key value = ofEntries budget ((key, value) :: es) := by
  rw [List.map_cons, List.nodup_cons] at hnodup
  obtain ⟨hnew, hnodup⟩ := hnodup
  have hkept : key ∉ (ofEntries budget es).entries.map Prod.fst := by
    intro hmem
    exact hnew (((longestWithin_isPrefix budget es).map Prod.fst).subset hmem)
  have hall : longestWithin budget ((key, value) :: without (ofEntries budget es).entries key) =
      longestWithin budget ((key, value) :: es) := by
    rw [without_eq_self hkept]
    exact longestWithin_cons_longestWithin budget (key, value) es
  rw [(accurate_ofEntries budget hnodup).put_eq]
  change (⟨budget, totalLength (longestWithin budget ((key, value) :: _)),
    longestWithin budget ((key, value) :: _)⟩ : Store) = _
  rw [hall, ofEntries]

theorem putPairs_ofEntries (budget : Nat) (es pairs : List (Bytes × Bytes))
    (hnodup : ((pairs.reverse ++ es).map Prod.fst).Nodup) :
    (ofEntries budget es).putPairs (pairs.map pairItem) =
      .ok (ofEntries budget (pairs.reverse ++ es)) := by
  induction pairs generalizing es with
  | nil => rfl
  | cons pair pairs ih =>
    obtain ⟨key, value⟩ := pair
    rw [List.reverse_cons, List.append_assoc, List.singleton_append] at hnodup ⊢
    have hfront : (((key, value) :: es).map Prod.fst).Nodup :=
      hnodup.sublist ((List.sublist_append_right _ _).map Prod.fst)
    rw [List.map_cons, putPairs]
    simp only [pairItem, pair?]
    rw [put_ofEntries budget value hfront]
    exact ih ((key, value) :: es) hnodup

theorem Accurate.decode?_save {s : Store} (h : s.Accurate) (hbudget : s.maxBytes < 2 ^ 64) :
    Item.decode? Entry.maxLevels s.save = some (.array (s.entries.reverse.map pairItem), []) := by
  have htotal : totalLength s.entries < 2 ^ 64 := by
    have hused := h.used
    have hwithin := h.within
    omega
  have hlength : s.entries.length < 2 ^ 64 := by
    have hmany := two_mul_length_le h.distinct
    omega
  exact Store.decode?_save hlength fun e he =>
    Nat.lt_of_le_of_lt (entryLength_le_totalLength he) htotal

theorem Accurate.load_save {s : Store} (h : s.Accurate) (hbudget : s.maxBytes < 2 ^ 64)
    (budget : Nat) : load budget s.save = .ok (ofEntries budget s.entries) := by
  have hread := h.decode?_save hbudget
  have hplain : (Item.array (s.entries.reverse.map pairItem)).isPlain Entry.maxLevels = true :=
    isPlain_pairItems 254 _
  -- the file begins with the earliest used entry, so the latest used one is put last, to the front
  have hput := putPairs_ofEntries budget [] s.entries.reverse
    (by simpa using h.distinct)
  rw [List.reverse_reverse, List.append_nil] at hput
  simp only [load, hread, hplain, if_true]
  exact hput

theorem Accurate.ofEntries_eq {s : Store} (h : s.Accurate) : ofEntries s.maxBytes s.entries = s := by
  have hall : longestWithin s.maxBytes s.entries = s.entries :=
    longestWithin_of_le (h.used ▸ h.within)
  rw [ofEntries, hall, ← h.used]

/-- The store of the given budget that the file of an earlier save brings back. The saves are counted
from the latest one back. -/
def reopen? (files : List Bytes) (index : Nat) (budget : UInt64) : Option Store :=
  files[index]?.bind fun file => (load budget.toNat file).toOption

/-- Saving a store writes all its entries, answers their number and leaves the store alone. A load
under some budget brings back the longest segment of the latest used entries that fits, in the order
of their use; under a budget that all of them fit into, it brings back what there was, which is saved
as the same bytes again. -/
theorem persist_load {budget : Nat} (hbudget : budget < 2 ^ 64) {s : Store}
    (h : Reachable budget s) :
    s.persist.2 = s ∧ s.persist.1.1 = s.size ∧
      (∀ m, load m s.persist.1.2 =
        .ok ⟨m, totalLength (longestWithin m s.entries), longestWithin m s.entries⟩) ∧
      ∀ m, s.bytesUsed ≤ m →
        ∃ loaded, load m s.persist.1.2 = .ok loaded ∧ loaded.entries = s.entries ∧
          loaded.bytesUsed = s.bytesUsed ∧ loaded.persist.1.2 = s.persist.1.2 := by
  have haccurate := h.accurate
  have hload (m : Nat) : load m s.persist.1.2 = .ok (ofEntries m s.entries) :=
    haccurate.load_save (h.maxBytes_eq ▸ hbudget) m
  refine ⟨rfl, ?_, hload, fun m hm => ?_⟩
  · simp [persist, size]
  · have hall : longestWithin m s.entries = s.entries := by
      apply longestWithin_of_le
      rwa [← haccurate.used]
    have hentries : (ofEntries m s.entries).entries = s.entries := hall
    have hused : (ofEntries m s.entries).bytesUsed = s.bytesUsed := by
      rw [haccurate.used]
      exact congrArg totalLength hall
    refine ⟨_, hload m, hentries, hused, ?_⟩
    unfold persist
    rw [hentries]

/-- A store of three entries; the one used in between is the longest. -/
theorem persist_load_of_three :
    let s := (((empty 9).put [1] [1]).put [2] [2, 2, 2]).put [3] []
    9 < 2 ^ 64 ∧ Reachable 9 s ∧ s.persist.2 = s ∧ s.persist.1.1 = s.size ∧
      (∀ m, load m s.persist.1.2 =
        .ok ⟨m, totalLength (longestWithin m s.entries), longestWithin m s.entries⟩) ∧
      ∀ m, s.bytesUsed ≤ m →
        ∃ loaded, load m s.persist.1.2 = .ok loaded ∧ loaded.entries = s.entries ∧
          loaded.bytesUsed = s.bytesUsed ∧ loaded.persist.1.2 = s.persist.1.2 := by
  intro s
  have hreach : Reachable 9 s := ((Reachable.new.setBig [1] [1]).setBig [2] [2, 2, 2]).setBig [3] []
  have hbudget : 9 < 2 ^ 64 := by decide
  exact ⟨hbudget, hreach, persist_load hbudget hreach⟩

end Store

end TorrentSearch.Cache
