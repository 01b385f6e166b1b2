import Mathlib.Algebra.GroupWithZero.Nat
import Mathlib.Data.List.Induction
import Mathlib.Data.Nat.Find
import TorrentSearch.Cache.Store

/-!
# Eviction

Entries leave from the far end of the list, one by one, until the budget is met. What stays is the
longest front segment that fits, whatever the lengths of the entries are.
-/

namespace TorrentSearch.Cache

open Cbor (Bytes)

namespace Store

/-- The total length of the keys and values of entries. -/
def totalLength (es : List (Bytes × Bytes)) : Nat :=
  (es.map entryLength).sum

/-- The longest front segment of entries whose total length is within a budget. -/
def longestWithin (budget : Nat) (es : List (Bytes × Bytes)) : List (Bytes × Bytes) :=
  es.take (Nat.findGreatest (fun n => totalLength (es.take n) ≤ budget) es.length)

@[simp] theorem totalLength_nil : totalLength [] = 0 := rfl

@[simp] theorem totalLength_cons (e : Bytes × Bytes) (es : List (Bytes × Bytes)) :
    totalLength (e :: es) = entryLength e + totalLength es := by
  simp [totalLength]

@[simp] theorem totalLength_append (es fs : List (Bytes × Bytes)) :
    totalLength (es ++ fs) = totalLength es + totalLength fs := by
  simp [totalLength]

theorem totalLength_reverse (es : List (Bytes × Bytes)) :
    totalLength es.reverse = totalLength es := by
  simp [totalLength, List.sum_reverse]

theorem totalLength_longestWithin_le (budget : Nat) (es : List (Bytes × Bytes)) :
    totalLength (longestWithin budget es) ≤ budget :=
  Nat.findGreatest_spec (P := fun n => totalLength (es.take n) ≤ budget) (Nat.zero_le es.length)
    (by simp)

theorem longestWithin_isPrefix (budget : Nat) (es : List (Bytes × Bytes)) :
    longestWithin budget es <+: es :=
  List.take_prefix _ es

theorem longestWithin_of_le {budget : Nat} {es : List (Bytes × Bytes)}
    (h : totalLength es ≤ budget) : longestWithin budget es = es := by
  unfold longestWithin
  rw [Nat.findGreatest_eq (by simpa using h), List.take_length]

theorem totalLength_le_of_isPrefix {front es : List (Bytes × Bytes)} (h : front <+: es) :
    totalLength front ≤ totalLength es := by
  obtain ⟨back, rfl⟩ := h
  rw [totalLength_append]
  omega

theorem isPrefix_longestWithin_iff {budget : Nat} {es front : List (Bytes × Bytes)} :
    front <+: longestWithin budget es ↔ front <+: es ∧ totalLength front ≤ budget := by
  constructor
  · intro h
    have hfits := totalLength_le_of_isPrefix h
    have hbudget := totalLength_longestWithin_le budget es
    exact ⟨h.trans (longestWithin_isPrefix budget es), by omega⟩
  · rintro ⟨hfront, hfits⟩
    have htake : front = es.take front.length := List.prefix_iff_eq_take.mp hfront
    rw [htake] at hfits ⊢
    exact List.take_prefix_take_left (Nat.le_findGreatest hfront.length_le hfits)

theorem longestWithin_cons_longestWithin (budget : Nat) (e : Bytes × Bytes)
    (es : List (Bytes × Bytes)) :
    longestWithin budget (e :: longestWithin budget es) = longestWithin budget (e :: es) := by
  have hleft : longestWithin budget (e :: longestWithin budget es) <+:
      longestWithin budget (e :: es) := by
    refine isPrefix_longestWithin_iff.mpr ⟨?_, totalLength_longestWithin_le _ _⟩
    exact (longestWithin_isPrefix _ _).trans
      (List.prefix_cons_inj e |>.mpr (longestWithin_isPrefix _ _))
  have hright : longestWithin budget (e :: es) <+:
      longestWithin budget (e :: longestWithin budget es) := by
    refine isPrefix_longestWithin_iff.mpr ⟨?_, totalLength_longestWithin_le _ _⟩
    have hfits := totalLength_longestWithin_le budget (e :: es)
    rcases List.prefix_cons_iff.mp (longestWithin_isPrefix budget (e :: es)) with
      hnil | ⟨rest, hcons, hrest⟩
    · rw [hnil]
      exact List.nil_prefix
    · rw [hcons, totalLength_cons] at hfits
      rw [hcons, List.prefix_cons_inj]
      exact isPrefix_longestWithin_iff.mpr ⟨hrest, by omega⟩
  exact hleft.eq_of_length_le hright.length_le

theorem longestWithin_concat_of_lt {budget : Nat} {es : List (Bytes × Bytes)} {e : Bytes × Bytes}
    (h : budget < totalLength (es ++ [e])) :
    longestWithin budget (es ++ [e]) = longestWithin budget es := by
  unfold longestWithin
  have hlast : ¬ totalLength ((es ++ [e]).take (es.length + 1)) ≤ budget := by
    rw [List.take_of_length_le (by simp)]
    omega
  have hfront (n : Nat) (hn : n ≤ es.length) : (es ++ [e]).take n = es.take n :=
    List.take_append_of_le_length hn
  rw [List.length_append, List.length_singleton, Nat.findGreatest_of_not hlast]
  have hgreatest : Nat.findGreatest (fun n => totalLength ((es ++ [e]).take n) ≤ budget) es.length =
      Nat.findGreatest (fun n => totalLength (es.take n) ≤ budget) es.length := by
    apply le_antisymm
    · apply Nat.le_findGreatest (Nat.findGreatest_le _)
      rw [← hfront _ (Nat.findGreatest_le _)]
      exact Nat.findGreatest_spec (P := fun n => totalLength ((es ++ [e]).take n) ≤ budget)
        (Nat.zero_le es.length) (by simp)
    · apply Nat.le_findGreatest (Nat.findGreatest_le _)
      rw [hfront _ (Nat.findGreatest_le _)]
      exact totalLength_longestWithin_le budget es
  rw [hgreatest, hfront _ (Nat.findGreatest_le _)]

theorem shed_reverse (budget : Nat) (es : List (Bytes × Bytes)) :
    shed budget (totalLength es) es.reverse =
      (totalLength (longestWithin budget es), (longestWithin budget es).reverse) := by
  induction es using List.reverseRecOn with
  | nil => simp [shed, longestWithin]
  | append_singleton es e ih =>
    rw [List.reverse_append, List.reverse_singleton, List.singleton_append, shed]
    split
    · rename_i hover
      rw [longestWithin_concat_of_lt hover, ← ih]
      congr 1
      simp only [totalLength_append, totalLength_cons, totalLength_nil]
      omega
    · rename_i hfits
      rw [longestWithin_of_le (Nat.not_lt.mp hfits)]
      simp

theorem evict_eq {s : Store} (h : s.bytesUsed = totalLength s.entries) :
    s.evict = { s with
      bytesUsed := totalLength (longestWithin s.maxBytes s.entries)
      entries := longestWithin s.maxBytes s.entries } := by
  unfold evict
  split
  · rw [h, shed_reverse]
    simp
  · rename_i hfits
    rw [longestWithin_of_le (by omega), ← h]

end Store

end TorrentSearch.Cache
