import TorrentSearch.Cache.Lookup
import TorrentSearch.Cache.Saved
import TorrentSearch.Proofs.Cache.Eviction

/-!
# Accounting

Every operation updates the count of bytes apart from the entries. The two stay in step: in each
store that can be reached, from nothing or from any file, the count is the total length of the
entries, it is within the budget, and no subtraction from it is ever cut off at zero.
-/

namespace TorrentSearch.Cache

open Cbor (Bytes Item)

namespace Store

/-- The count of bytes is right and within the budget, and every key occurs once. -/
structure Accurate (s : Store) : Prop where
  used : s.bytesUsed = totalLength s.entries
  within : s.bytesUsed ≤ s.maxBytes
  distinct : (s.entries.map Prod.fst).Nodup

theorem mem_of_find? {s : Store} {key value : Bytes} (h : s.find? key = some value) :
    (key, value) ∈ s.entries := by
  unfold find? at h
  rw [List.lookup_eq_some_iff] at h
  obtain ⟨front, back, hentries, -⟩ := h
  rw [hentries]
  simp

theorem without_eq_self {es : List (Bytes × Bytes)} {key : Bytes}
    (h : key ∉ es.map Prod.fst) : without es key = es := by
  unfold without
  rw [List.filter_eq_self]
  intro e he
  rw [bne_iff_ne]
  rintro rfl
  exact h (List.mem_map_of_mem he)

theorem not_mem_keys_without (es : List (Bytes × Bytes)) (key : Bytes) :
    key ∉ (without es key).map Prod.fst := by
  intro h
  obtain ⟨e, he, hkey⟩ := List.mem_map.mp h
  have hne := (List.mem_filter.mp he).2
  rw [bne_iff_ne] at hne
  exact hne hkey

theorem nodup_keys_without {es : List (Bytes × Bytes)} (h : (es.map Prod.fst).Nodup)
    (key : Bytes) : ((without es key).map Prod.fst).Nodup :=
  h.sublist (List.filter_sublist.map Prod.fst)

theorem totalLength_without {es : List (Bytes × Bytes)} {key value : Bytes}
    (hnd : (es.map Prod.fst).Nodup) (hmem : (key, value) ∈ es) :
    entryLength (key, value) + totalLength (without es key) = totalLength es := by
  induction es with
  | nil => simp at hmem
  | cons e es ih =>
    rw [List.map_cons, List.nodup_cons] at hnd
    obtain ⟨hnew, hnd⟩ := hnd
    rcases List.mem_cons.mp hmem with rfl | hmem
    · have hself : without ((key, value) :: es) key = es := by
        rw [← without_eq_self hnew]
        simp [without]
      rw [hself, totalLength_cons]
    · have hne : e.1 ≠ key := by
        intro h
        exact hnew (List.mem_map.mpr ⟨_, hmem, h.symm⟩)
      have hkeep : without (e :: es) key = e :: without es key := by
        simp [without, hne]
      have hrest := ih hnd hmem
      rw [hkeep, totalLength_cons, totalLength_cons]
      omega

theorem without_of_find?_eq_none {s : Store} {key : Bytes} (hfind : s.find? key = none) :
    without s.entries key = s.entries := by
  apply without_eq_self
  intro hmem
  obtain ⟨e, he, rfl⟩ := List.mem_map.mp hmem
  have hne := List.lookup_eq_none_iff.mp hfind e he
  simp at hne

namespace Accurate

variable {s : Store}

theorem entryLength_le (h : s.Accurate) {key value : Bytes} (hfind : s.find? key = some value) :
    entryLength (key, value) ≤ s.bytesUsed := by
  have htotal := totalLength_without h.distinct (mem_of_find? hfind)
  have hused := h.used
  omega

theorem used_without (h : s.Accurate) {key value : Bytes} (hfind : s.find? key = some value) :
    s.bytesUsed - entryLength (key, value) = totalLength (without s.entries key) := by
  have htotal := totalLength_without h.distinct (mem_of_find? hfind)
  have hused := h.used
  omega

theorem empty (budget : Nat) : (Store.empty budget).Accurate :=
  ⟨rfl, Nat.zero_le budget, List.nodup_nil⟩

theorem get (h : s.Accurate) (key : Bytes) : (s.get key).2.Accurate := by
  unfold Store.get
  split
  · rename_i value hfind
    have htotal := totalLength_without h.distinct (mem_of_find? hfind)
    refine ⟨?_, h.within, ?_⟩
    · rw [totalLength_cons, htotal, h.used]
    · rw [List.map_cons, List.nodup_cons]
      exact ⟨not_mem_keys_without _ _, nodup_keys_without h.distinct key⟩
  · exact h

theorem put_eq (h : s.Accurate) (key value : Bytes) :
    s.put key value = { s with
      bytesUsed := totalLength
        (longestWithin s.maxBytes ((key, value) :: without s.entries key))
      entries := longestWithin s.maxBytes ((key, value) :: without s.entries key) } := by
  unfold put
  rw [evict_eq]
  rw [totalLength_cons]
  split
  · rename_i old hfind
    rw [h.used_without hfind, Nat.add_comm]
  · rename_i hfind
    rw [without_of_find?_eq_none hfind, Nat.sub_zero, h.used, Nat.add_comm]

theorem put (h : s.Accurate) (key value : Bytes) : (s.put key value).Accurate := by
  rw [h.put_eq]
  refine ⟨rfl, totalLength_longestWithin_le _ _, ?_⟩
  apply List.Nodup.sublist ((longestWithin_isPrefix _ _).sublist.map Prod.fst)
  rw [List.map_cons, List.nodup_cons]
  exact ⟨not_mem_keys_without _ _, nodup_keys_without h.distinct key⟩

theorem remove (h : s.Accurate) (key : Bytes) : (s.remove key).2.Accurate := by
  unfold Store.remove
  split
  · rename_i old hfind
    refine ⟨h.used_without hfind, ?_, nodup_keys_without h.distinct key⟩
    exact Nat.le_trans (Nat.sub_le _ _) h.within
  · exact h

theorem clear (s : Store) : s.clear.Accurate :=
  ⟨rfl, Nat.zero_le s.maxBytes, List.nodup_nil⟩

theorem maxBytes_put (h : s.Accurate) (key value : Bytes) :
    (s.put key value).maxBytes = s.maxBytes := by
  rw [h.put_eq]

end Accurate

theorem storeResults_eq_put (s : Store) (id source : String) (results : List Torrent)
    (now : Time.Instant) :
    s.storeResults id source results now =
      s.put (resultsKey id source) (Entry.encode ⟨now, results⟩) := by
  unfold storeResults putRegular?
  by_cases hlong : maxRegularLength < (Entry.encode ⟨now, results⟩).length <;> simp [hlong]

@[simp] theorem maxBytes_get (s : Store) (key : Bytes) : (s.get key).2.maxBytes = s.maxBytes := by
  unfold get
  split <;> rfl

@[simp] theorem maxBytes_remove (s : Store) (key : Bytes) :
    (s.remove key).2.maxBytes = s.maxBytes := by
  unfold remove
  split <;> rfl

theorem Accurate.putPairs {s t : Store} {items : List Item} (h : s.Accurate)
    (hput : s.putPairs items = .ok t) : t.Accurate ∧ t.maxBytes = s.maxBytes := by
  induction items generalizing s with
  | nil =>
    rw [Store.putPairs, Except.ok.injEq] at hput
    subst hput
    exact ⟨h, rfl⟩
  | cons item items ih =>
    rw [Store.putPairs] at hput
    split at hput
    · rename_i key value _
      have hrest := ih (h.put key value) hput
      rwa [h.maxBytes_put] at hrest
    · simp at hput

theorem load_eq_ok {budget : Nat} {data : Bytes} {s : Store} (h : load budget data = .ok s) :
    ∃ items, (empty budget).putPairs items = .ok s := by
  unfold load at h
  split at h
  · simp at h
  · split at h
    · split at h
      · exact ⟨_, h⟩
      · simp at h
    · simp at h

def difference? (a b : Nat) : Option Nat :=
  if b ≤ a then some (a - b) else none

def shedExactly? (budget : Nat) :
    Nat → List (Bytes × Bytes) → Option (Nat × List (Bytes × Bytes))
  | used, [] => some (used, [])
  | used, e :: rest =>
    if budget < used then
      (difference? used (entryLength e)).bind fun used => shedExactly? budget used rest
    else some (used, e :: rest)

/-- The count without the entry of a key, unless it is below zero. -/
def usedWithout? (s : Store) (key : Bytes) : Option Nat :=
  match s.find? key with
  | some old => difference? s.bytesUsed (entryLength (key, old))
  | none => some s.bytesUsed

/-- `put`, unless the count would go below zero at the overwritten entry or at an evicted one. -/
def putExactly? (s : Store) (key value : Bytes) : Option Store :=
  (s.usedWithout? key).bind fun used =>
    (shedExactly? s.maxBytes (used + entryLength (key, value))
      ((key, value) :: without s.entries key).reverse).map fun (used, kept) =>
        { s with bytesUsed := used, entries := kept.reverse }

/-- `putPairs`, unless one of the puts would take the count below zero. -/
def putPairsExactly? (s : Store) : List Item → Option (Except Flaw Store)
  | [] => some (.ok s)
  | item :: rest =>
    match pair? item with
    | .ok (key, value) => (s.putExactly? key value).bind fun s => s.putPairsExactly? rest
    | .error flaw => some (.error flaw)

def removeExactly? (s : Store) (key : Bytes) : Option (Bool × Store) :=
  match s.find? key with
  | some old =>
    (difference? s.bytesUsed (entryLength (key, old))).map fun used =>
      (true, { s with bytesUsed := used, entries := without s.entries key })
  | none => some (false, s)

theorem difference?_of_le {a b : Nat} (h : b ≤ a) : difference? a b = some (a - b) :=
  if_pos h

theorem shedExactly?_totalLength (budget : Nat) (es : List (Bytes × Bytes)) :
    shedExactly? budget (totalLength es) es = some (shed budget (totalLength es) es) := by
  induction es with
  | nil => rfl
  | cons e es ih =>
    rw [shedExactly?, shed]
    split
    · have hle : entryLength e ≤ totalLength (e :: es) := by
        rw [totalLength_cons]
        omega
      have hrest : totalLength (e :: es) - entryLength e = totalLength es := by
        rw [totalLength_cons]
        omega
      rw [difference?_of_le hle, hrest, ← ih]
      rfl
    · rfl

namespace Accurate

variable {s : Store}

theorem usedWithout?_eq (h : s.Accurate) (key : Bytes) :
    s.usedWithout? key = some (totalLength (without s.entries key)) := by
  unfold usedWithout?
  split
  · rename_i old hfind
    rw [difference?_of_le (h.entryLength_le hfind), h.used_without hfind]
  · rename_i hfind
    rw [without_of_find?_eq_none hfind, h.used]

theorem putExactly?_eq (h : s.Accurate) (key value : Bytes) :
    s.putExactly? key value = some (s.put key value) := by
  have htotal : totalLength (without s.entries key) + entryLength (key, value) =
      totalLength ((key, value) :: without s.entries key).reverse := by
    rw [totalLength_reverse, totalLength_cons, Nat.add_comm]
  unfold putExactly?
  rw [h.usedWithout?_eq, Option.bind_some, htotal, shedExactly?_totalLength,
    totalLength_reverse, shed_reverse, h.put_eq]
  simp

theorem putPairsExactly?_eq (h : s.Accurate) (items : List Item) :
    s.putPairsExactly? items = some (s.putPairs items) := by
  induction items generalizing s with
  | nil => rfl
  | cons item items ih =>
    rw [putPairsExactly?, Store.putPairs]
    cases pair? item with
    | error flaw => rfl
    | ok pair =>
      obtain ⟨key, value⟩ := pair
      dsimp only
      rw [h.putExactly?_eq, Option.bind_some]
      exact ih (h.put key value)

theorem removeExactly?_eq (h : s.Accurate) (key : Bytes) :
    s.removeExactly? key = some (s.remove key) := by
  unfold removeExactly? Store.remove
  cases hfind : s.find? key with
  | none => rfl
  | some old =>
    dsimp only
    rw [difference?_of_le (h.entryLength_le hfind), Option.map_some]

end Accurate

/-- The stores of a budget that a cache comes to hold: an empty one or a loaded file at the beginning,
then whatever the operations make of it. -/
inductive Reachable (budget : Nat) : Store → Prop where
  | new : Reachable budget (empty budget)
  | loaded {s : Store} (data : Bytes) (h : load budget data = .ok s) : Reachable budget s
  | get {s : Store} (h : Reachable budget s) (key : Bytes) : Reachable budget (s.get key).2
  | set {s t : Store} (h : Reachable budget s) (key value : Bytes)
      (hset : s.putRegular? key value = some t) : Reachable budget t
  | setBig {s : Store} (h : Reachable budget s) (key value : Bytes) :
      Reachable budget (s.put key value)
  | remove {s : Store} (h : Reachable budget s) (key : Bytes) : Reachable budget (s.remove key).2
  | clear {s : Store} (h : Reachable budget s) : Reachable budget s.clear
  | store {s : Store} (h : Reachable budget s) (id source : String) (results : List Torrent)
      (now : Time.Instant) : Reachable budget (s.storeResults id source results now)
  | lookup {s : Store} (h : Reachable budget s) (id source : String) (maxAge : Time.Span)
      (now : Time.Instant) : Reachable budget (s.lookupResults id source maxAge now).2

namespace Reachable

variable {budget : Nat} {s : Store}

theorem accurate_and_maxBytes (h : Reachable budget s) : s.Accurate ∧ s.maxBytes = budget := by
  induction h with
  | new => exact ⟨.empty budget, rfl⟩
  | loaded data hload =>
    obtain ⟨items, hput⟩ := load_eq_ok hload
    exact (Accurate.empty budget).putPairs hput
  | get _ key ih => exact ⟨ih.1.get key, by rw [maxBytes_get, ih.2]⟩
  | set _ key value hset ih =>
    unfold putRegular? at hset
    split at hset
    · simp at hset
    · rw [Option.some.injEq] at hset
      subst hset
      exact ⟨ih.1.put key value, by rw [ih.1.maxBytes_put, ih.2]⟩
  | setBig _ key value ih => exact ⟨ih.1.put key value, by rw [ih.1.maxBytes_put, ih.2]⟩
  | remove _ key ih => exact ⟨ih.1.remove key, by rw [maxBytes_remove, ih.2]⟩
  | clear _ ih => exact ⟨.clear _, ih.2⟩
  | store _ id source results now ih =>
    rw [storeResults_eq_put]
    exact ⟨ih.1.put _ _, by rw [ih.1.maxBytes_put, ih.2]⟩
  | lookup _ id source maxAge now ih => exact ⟨ih.1.get _, by rw [← ih.2]; exact maxBytes_get _ _⟩

theorem accurate (h : Reachable budget s) : s.Accurate := h.accurate_and_maxBytes.1

theorem maxBytes_eq (h : Reachable budget s) : s.maxBytes = budget := h.accurate_and_maxBytes.2

end Reachable

/-- The count of bytes never drifts: it is the total length of the entries and within the budget,
every key occurs once, and no subtraction is cut off, neither when an entry is overwritten, evicted or
removed nor while a file is loaded. -/
theorem reachable_accounting {budget : Nat} {s : Store} (h : Reachable budget s) :
    s.bytesUsed = (s.entries.map entryLength).sum ∧ s.bytesUsed ≤ budget ∧
      (s.entries.map Prod.fst).Nodup ∧
      (∀ key value, s.putExactly? key value = some (s.put key value)) ∧
      (∀ key, s.removeExactly? key = some (s.remove key)) ∧
      ∀ items, s.putPairsExactly? items = some (s.putPairs items) := by
  have haccurate := h.accurate
  refine ⟨haccurate.used, ?_, haccurate.distinct, haccurate.putExactly?_eq,
    haccurate.removeExactly?_eq, haccurate.putPairsExactly?_eq⟩
  rw [← h.maxBytes_eq]
  exact haccurate.within

/-- A file with a repeated key that is over the budget, and a longer value in place of one of its
own. -/
theorem reachable_accounting_of_file :
    let file : Bytes := [0x83, 0x82, 0x41, 0x61, 0x42, 1, 2, 0x82, 0x41, 0x62, 0x41, 3,
      0x82, 0x41, 0x61, 0x41, 4]
    let loaded : Store := ⟨4, 4, [([0x61], [4]), ([0x62], [3])]⟩
    let s : Store := ⟨4, 4, [([0x62], [7, 7, 7])]⟩
    load 4 file = .ok loaded ∧ loaded.put [0x62] [7, 7, 7] = s ∧ Reachable 4 s ∧
      s.bytesUsed = (s.entries.map entryLength).sum ∧ s.bytesUsed ≤ 4 ∧
      (s.entries.map Prod.fst).Nodup ∧
      (∀ key value, s.putExactly? key value = some (s.put key value)) ∧
      (∀ key, s.removeExactly? key = some (s.remove key)) ∧
      ∀ items, s.putPairsExactly? items = some (s.putPairs items) := by
  intro file loaded s
  have hload : load 4 file = .ok loaded := by decide +kernel
  have hput : loaded.put [0x62] [7, 7, 7] = s := by decide +kernel
  have hreach : Reachable 4 s := hput ▸ (Reachable.loaded file hload).setBig [0x62] [7, 7, 7]
  exact ⟨hload, hput, hreach, reachable_accounting hreach⟩

end Store

end TorrentSearch.Cache
