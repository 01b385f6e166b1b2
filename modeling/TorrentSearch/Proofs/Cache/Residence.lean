import Mathlib.Data.List.Infix
import TorrentSearch.Proofs.Cache.Accounting

/-!
# What stays under a key

Whatever is done with other keys, the value under a key stays the same until it is evicted. Nothing is
asked of the store for this: its total length need not be right, nor its keys distinct.
-/

namespace TorrentSearch.Cache

open Cbor (Bytes)

namespace Store

/-- Under a key, the second store has the value of the first one or nothing. -/
def Thins (key : Bytes) (s t : Store) : Prop :=
  t.find? key = none ∨ t.find? key = s.find? key

variable {key other value : Bytes} {s t u : Store}

theorem Thins.refl (key : Bytes) (s : Store) : Thins key s s := .inr rfl

theorem Thins.of_eq (h : t.find? key = s.find? key) : Thins key s t := .inr h

theorem Thins.trans (h : Thins key s t) (h' : Thins key t u) : Thins key s u := by
  rcases h' with hnone | heq
  · exact .inl hnone
  · unfold Thins
    rw [heq]
    exact h

theorem Thins.find?_eq (h : Thins key s t) (hfind : t.find? key = some value) :
    s.find? key = some value := by
  rcases h with hnone | heq
  · rw [hnone] at hfind
    cases hfind
  · rw [← heq, hfind]

theorem lookup_of_isPrefix {es fs : List (Bytes × Bytes)} (h : es <+: fs) (key : Bytes) :
    es.lookup key = none ∨ es.lookup key = fs.lookup key := by
  obtain ⟨rest, rfl⟩ := h
  rw [List.lookup_append]
  cases es.lookup key with
  | none => exact .inl rfl
  | some value => exact .inr rfl

theorem thins_of_isPrefix (h : t.entries <+: s.entries) (key : Bytes) : Thins key s t :=
  lookup_of_isPrefix h key

theorem shed_isSuffix (budget used : Nat) (es : List (Bytes × Bytes)) :
    (shed budget used es).2 <:+ es := by
  induction es generalizing used with
  | nil => exact List.suffix_refl _
  | cons e es ih =>
    unfold shed
    split
    · exact (ih _).trans (List.suffix_cons e es)
    · exact List.suffix_refl _

theorem entries_evict_isPrefix (s : Store) : s.evict.entries <+: s.entries := by
  unfold evict
  split
  · have h := List.reverse_prefix.mpr (shed_isSuffix s.maxBytes s.bytesUsed s.entries.reverse)
    rwa [List.reverse_reverse] at h
  · exact List.prefix_refl _

theorem lookup_without (es : List (Bytes × Bytes)) (h : other ≠ key) :
    (without es key).lookup other = es.lookup other := by
  induction es with
  | nil => rfl
  | cons e es ih =>
    obtain ⟨k, v⟩ := e
    unfold without at ih ⊢
    by_cases hk : k = key
    · subst hk
      have hne : (other == k) = false := beq_eq_false_iff_ne.mpr h
      rw [List.filter_cons_of_neg (by simp), ih, List.lookup_cons, hne]
    · rw [List.filter_cons_of_pos (by simpa using hk), List.lookup_cons, List.lookup_cons, ih]

@[simp] theorem find?_get (s : Store) (key other : Bytes) :
    (s.get key).2.find? other = s.find? other := by
  unfold get
  split
  · rename_i value hfind
    by_cases h : other = key
    · subst h
      simpa [find?] using hfind.symm
    · have hne : (other == key) = false := beq_eq_false_iff_ne.mpr h
      simp only [find?, List.lookup_cons, hne]
      exact lookup_without s.entries h
  · rfl

theorem thins_put (h : other ≠ key) (s : Store) (value : Bytes) : Thins other s (s.put key value) := by
  have hne : (other == key) = false := beq_eq_false_iff_ne.mpr h
  have hfind : ((key, value) :: without s.entries key).lookup other = s.find? other := by
    rw [List.lookup_cons, hne]
    exact lookup_without s.entries h
  unfold Thins
  rw [← hfind]
  exact lookup_of_isPrefix (entries_evict_isPrefix _) other

theorem find?_put (s : Store) (key value : Bytes) :
    (s.put key value).find? key = none ∨ (s.put key value).find? key = some value := by
  have hfind : ((key, value) :: without s.entries key).lookup key = some value := by simp
  rw [← hfind]
  exact lookup_of_isPrefix (entries_evict_isPrefix _) key

theorem fst_get (s : Store) (key : Bytes) : (s.get key).1 = s.find? key := by
  unfold get
  split
  · rename_i value hfind
    exact hfind.symm
  · rename_i hfind
    exact hfind.symm

theorem fst_lookupResults (s : Store) (id source : String) (maxAge : Time.Span)
    (now : Time.Instant) :
    (s.lookupResults id source maxAge now).1 =
      Lookup.judge (s.find? (resultsKey id source)) maxAge now := by
  unfold lookupResults
  dsimp only
  rw [fst_get]

theorem find?_lookupResults (s : Store) (id source : String) (maxAge : Time.Span)
    (now : Time.Instant) (key : Bytes) :
    (s.lookupResults id source maxAge now).2.find? key = s.find? key :=
  find?_get s _ key

end Store

theorem Lookup.hit?_judge_eq_some_iff {data : Option Bytes} {maxAge : Time.Span} {now : Time.Instant}
    {results : List Torrent} :
    (judge data maxAge now).hit? = some results ↔ ∃ value e, data = some value ∧
      Entry.decode? value = some e ∧ e.isFresh maxAge now = true ∧ e.results = results := by
  cases data with
  | none => simp [judge, hit?]
  | some value =>
    cases hread : Entry.decode? value with
    | none => simp [judge, hit?, hread]
    | some e =>
      by_cases hfresh : e.isFresh maxAge now = true <;> simp [judge, hit?, hread, hfresh]

end TorrentSearch.Cache
