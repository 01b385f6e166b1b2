import TorrentSearch.Proofs.Cache.Residence
import TorrentSearch.Proofs.Cache.WrittenEntry

/-!
# Freshness

Results that were stored are served until their limit has passed, to the nanosecond, and never again
after that. The instant at which they were stored is written as text and read back in between.
-/

namespace TorrentSearch

namespace Time.Instant

/-- The nanoseconds from the start of 1970 to an instant, leap seconds not counted. -/
def epochNanos (i : Instant) : Int :=
  (i.day * 86400 + i.second) * Span.nanosPerSecond + i.nano

instance (i : Instant) : Decidable i.IsPlain :=
  inferInstanceAs (Decidable (i.nano < Span.nanosPerSecond))

variable {i j : Instant}

theorem nanosSince_eq_sub (hi : i.IsPlain) (hj : j.IsPlain) :
    i.nanosSince j = i.epochNanos - j.epochNanos := by
  have hleapi : ¬ Span.nanosPerSecond ≤ i.nano := Nat.not_le.mpr hi
  have hleapj : ¬ Span.nanosPerSecond ≤ j.nano := Nat.not_le.mpr hj
  simp only [nanosSince, hleapi, hleapj, if_false, ite_self]
  simp only [epochNanos, Span.nanosPerSecond]
  omega

theorem nanos_spanSince (hi : i.IsPlain) (hj : j.IsPlain) :
    (i.spanSince j).nanos = (i.epochNanos - j.epochNanos).toNat := by
  rw [spanSince, nanosSince_eq_sub hi hj]

end Time.Instant

namespace Cache

open Cbor (Bytes)
open Time (Instant Span)

theorem Lookup.judge_entry {data : Bytes} {e : Entry} (hread : Entry.decode? data = some e)
    (he : e.created.IsPlain) {now : Instant} (hnow : now.IsPlain) (maxAge : Span) :
    judge (some data) maxAge now =
      if (now.epochNanos - e.created.epochNanos).toNat < maxAge.nanos then .hit e.results
      else .expired ⟨(now.epochNanos - e.created.epochNanos).toNat - maxAge.nanos⟩ := by
  have hage : (e.age now).nanos = (now.epochNanos - e.created.epochNanos).toNat :=
    Instant.nanos_spanSince hnow he
  have hfresh : e.isFresh maxAge now = true ↔
      (now.epochNanos - e.created.epochNanos).toNat < maxAge.nanos := by
    rw [Entry.isFresh, decide_eq_true_iff, Span.lt_iff, hage]
  have hexcess : e.age now - maxAge =
      ⟨(now.epochNanos - e.created.epochNanos).toNat - maxAge.nanos⟩ := by
    rw [← hage]
    rfl
  simp only [judge, hread, hfresh, hexcess]

namespace Store

/-- What a store comes to while everything is done with it but storing under a key or removing it. -/
inductive Onward (key : Bytes) (s : Store) : Store → Prop where
  | here : Onward key s s
  | get {t : Store} (h : Onward key s t) (other : Bytes) : Onward key s (t.get other).2
  | put {t : Store} (h : Onward key s t) {other : Bytes} (hne : key ≠ other) (value : Bytes) :
      Onward key s (t.put other value)
  | remove {t : Store} (h : Onward key s t) {other : Bytes} (hne : key ≠ other) :
      Onward key s (t.remove other).2
  | store {t : Store} (h : Onward key s t) {id source : String} (hne : key ≠ resultsKey id source)
      (results : List Torrent) (now : Instant) : Onward key s (t.storeResults id source results now)
  | lookup {t : Store} (h : Onward key s t) (id source : String) (maxAge : Span) (now : Instant) :
      Onward key s (t.lookupResults id source maxAge now).2

variable {key : Bytes} {s t u : Store}

namespace Onward

theorem trans (h : Onward key s t) (h' : Onward key t u) : Onward key s u := by
  induction h' with
  | here => exact h
  | get _ other ih => exact ih.get other
  | put _ hne value ih => exact ih.put hne value
  | remove _ hne ih => exact ih.remove hne
  | store _ hne results now ih => exact ih.store hne results now
  | lookup _ id source maxAge now ih => exact ih.lookup id source maxAge now

theorem thins (h : Onward key s t) : Thins key s t := by
  induction h with
  | here => exact .refl key s
  | get _ other ih => exact ih.trans (.of_eq (find?_get _ other key))
  | put _ hne value ih => exact ih.trans (thins_put hne _ value)
  | @remove t _ other hne ih =>
    apply ih.trans
    apply Thins.of_eq
    unfold Store.remove
    split
    · exact lookup_without t.entries hne
    · rfl
  | @store t _ id source hne results now ih =>
    rw [storeResults_eq_put]
    exact ih.trans (thins_put hne t _)
  | @lookup t _ id source maxAge now ih =>
    exact ih.trans (.of_eq (find?_lookupResults t id source maxAge now key))

theorem find?_eq (h : Onward key s t) {value : Bytes} (hs : s.find? key = some value)
    (ht : t.contains key = true) : t.find? key = some value := by
  obtain ⟨kept, hkept⟩ := Option.isSome_iff_exists.mp ht
  have hsame := h.thins.find?_eq hkept
  rw [hs] at hsame
  rw [hkept, hsame]

end Onward

/-- A key with its value is kept where it is put if the two fit the budget. -/
theorem Accurate.find?_put (h : s.Accurate) {value : Bytes}
    (hfit : entryLength (key, value) ≤ s.maxBytes) : (s.put key value).find? key = some value := by
  have hfront : [(key, value)] <+: longestWithin s.maxBytes ((key, value) :: without s.entries key) := by
    rw [isPrefix_longestWithin_iff]
    exact ⟨List.prefix_append [(key, value)] _, by simpa using hfit⟩
  obtain ⟨rest, hrest⟩ := hfront
  rw [h.put_eq]
  simp [find?, ← hrest]

/-- Stored results are kept if their key and their bytes fit the budget, and are read back. -/
theorem Accurate.find?_storeResults (h : s.Accurate) {id source : String} {results : List Torrent}
    {now : Instant} (hbudget : s.maxBytes < 2 ^ 64)
    (hfit : entryLength (resultsKey id source, Entry.encode ⟨now, results⟩) ≤ s.maxBytes) :
    (s.storeResults id source results now).find? (resultsKey id source) =
        some (Entry.encode ⟨now, results⟩) ∧
      Entry.decode? (Entry.encode ⟨now, results⟩) = some ⟨now, results⟩ := by
  constructor
  · rw [storeResults_eq_put]
    exact h.find?_put hfit
  · have hlength : (Entry.encode ⟨now, results⟩).length < 2 ^ 64 := by
      simp only [entryLength] at hfit
      omega
    have hread := (Entry.Addressable.of_length_encode hlength).decode?_append []
    rwa [List.append_nil] at hread

/-- Results that are stored at an instant and are still held are served at another one if and only if
less than the limit has passed in between, to the nanosecond; otherwise the lookup says by how much
the limit is exceeded. A clock that was set back counts as one that stood still. So the results are
served before the sum of the instant and the limit and never from then on, however the store has gone
on. -/
theorem served_until_limit {budget : UInt64} (hs : Reachable budget.toNat s) (id source : String)
    (results : List Torrent) {created : Instant} (hcreated : created.IsPlain)
    (hfit : entryLength (resultsKey id source, Entry.encode ⟨created, results⟩) ≤ budget.toNat) :
    (s.storeResults id source results created).contains (resultsKey id source) = true ∧
      ∀ u, Onward (resultsKey id source) (s.storeResults id source results created) u →
        u.contains (resultsKey id source) = true →
        ∀ (maxAge : Span) (now : Instant), now.IsPlain →
          ((u.lookupResults id source maxAge now).1 =
            if (now.epochNanos - created.epochNanos).toNat < maxAge.nanos then .hit results
            else .expired ⟨(now.epochNanos - created.epochNanos).toNat - maxAge.nanos⟩) ∧
          ((u.lookupResults id source maxAge now).1 = .hit results ↔
            0 < maxAge.nanos ∧ now.epochNanos < created.epochNanos + maxAge.nanos) ∧
          ((u.lookupResults id source maxAge now).1 ≠ .hit results →
            ∀ v, Onward (resultsKey id source) (u.lookupResults id source maxAge now).2 v →
              ∀ later : Instant, later.IsPlain → now.epochNanos ≤ later.epochNanos →
                (v.lookupResults id source maxAge later).1.hit? = none) := by
  rw [← hs.maxBytes_eq] at hfit
  have hbudget : s.maxBytes < 2 ^ 64 := hs.maxBytes_eq ▸ budget.toNat_lt
  obtain ⟨hstored, hread⟩ := hs.accurate.find?_storeResults hbudget hfit
  refine ⟨by simp [contains, hstored], fun u honward hheld maxAge now hnow => ?_⟩
  have hanswer (v : Store) (hv : Onward (resultsKey id source)
      (s.storeResults id source results created) v) (hkept : v.contains (resultsKey id source) = true)
      (i : Instant) (hi : i.IsPlain) :
      (v.lookupResults id source maxAge i).1 =
        if (i.epochNanos - created.epochNanos).toNat < maxAge.nanos then .hit results
        else .expired ⟨(i.epochNanos - created.epochNanos).toNat - maxAge.nanos⟩ := by
    rw [fst_lookupResults, hv.find?_eq hstored hkept]
    exact Lookup.judge_entry hread hcreated hi maxAge
  have hhit : (u.lookupResults id source maxAge now).1 = .hit results ↔
      (now.epochNanos - created.epochNanos).toNat < maxAge.nanos := by
    rw [hanswer u honward hheld now hnow]
    split <;> simp [*]
  refine ⟨hanswer u honward hheld now hnow, ?_, ?_⟩
  · rw [hhit]
    omega
  · intro hover v hv later hlater hle
    rw [ne_eq, hhit] at hover
    have hv' := (honward.lookup id source maxAge now).trans hv
    by_cases hkept : v.contains (resultsKey id source) = true
    · rw [hanswer v hv' hkept later hlater, if_neg (by omega)]
      rfl
    · have hnone : v.find? (resultsKey id source) = none := by simpa [contains] using hkept
      rw [fst_lookupResults, hnone]
      rfl

/-- A limit of one minute, looked at a nanosecond before it has passed, when it has passed and with
the clock set back by a day; and a limit of nothing. -/
theorem served_until_limit_of_minute :
    let created : Instant := ⟨20000, 43200, 999999999, by decide, by decide, by decide, by decide⟩
    let before : Instant := ⟨20000, 43260, 999999998, by decide, by decide, by decide, by decide⟩
    let limit : Instant := ⟨20000, 43260, 999999999, by decide, by decide, by decide, by decide⟩
    let yesterday : Instant := ⟨19999, 0, 0, by decide, by decide, by decide, by decide⟩
    let t : Torrent := ⟨"Film", "720p", "AB", "magnet:?"⟩
    let s := (empty 1000).storeResults "tt1" "YTS" [t] created
    created.IsPlain ∧
      entryLength (resultsKey "tt1" "YTS", Entry.encode ⟨created, [t]⟩) ≤ (1000 : UInt64).toNat ∧
      (s.lookupResults "tt1" "YTS" (.ofSeconds 60) before).1 = .hit [t] ∧
      (s.lookupResults "tt1" "YTS" (.ofSeconds 60) limit).1 = .expired ⟨0⟩ ∧
      (s.lookupResults "tt1" "YTS" (.ofSeconds 60) yesterday).1 = .hit [t] ∧
      (s.lookupResults "tt1" "YTS" (.ofSeconds 0) yesterday).1 = .expired ⟨0⟩ := by
  intro created before limit yesterday t s
  have hcreated : created.IsPlain := by decide
  have hfit : entryLength (resultsKey "tt1" "YTS", Entry.encode ⟨created, [t]⟩) ≤
      (1000 : UInt64).toNat := by decide +kernel
  obtain ⟨hheld, hserved⟩ := served_until_limit .new "tt1" "YTS" [t] hcreated hfit
  have hanswer := fun maxAge now hnow => (hserved s .here hheld maxAge now hnow).1
  refine ⟨hcreated, hfit, (hanswer _ before ?_).trans ?_, (hanswer _ limit ?_).trans ?_,
    (hanswer _ yesterday ?_).trans ?_, (hanswer _ yesterday ?_).trans ?_⟩ <;> decide

end Store

end Cache

end TorrentSearch
