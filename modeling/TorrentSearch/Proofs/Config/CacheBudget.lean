import TorrentSearch.Config.Load
import TorrentSearch.Config.Validate
import TorrentSearch.Proofs.Cache.Accounting
import TorrentSearch.Proofs.Cache.Residence

/-!
# Values in a validated budget

A configuration makes sense if its cache can hold one regular value of any length. The budget counts
the key as well, so that a value which is put is only there afterwards if it fits together with its
key. Otherwise it is evicted at once, and every other entry with it.
-/

namespace TorrentSearch

open Cbor (Bytes)

namespace Cache.Store

namespace Accurate

variable {s : Store}

theorem find?_put_of_le (h : s.Accurate) {key value : Bytes}
    (hfits : entryLength (key, value) ≤ s.maxBytes) : (s.put key value).find? key = some value := by
  rw [h.put_eq]
  have hfront : [(key, value)] <+:
      longestWithin s.maxBytes ((key, value) :: without s.entries key) := by
    refine isPrefix_longestWithin_iff.mpr ⟨⟨_, List.singleton_append⟩, ?_⟩
    simpa using hfits
  obtain ⟨rest, hrest⟩ := hfront
  unfold find?
  rw [← hrest]
  simp

theorem entries_put_of_lt (h : s.Accurate) {key value : Bytes}
    (hover : s.maxBytes < entryLength (key, value)) : (s.put key value).entries = [] := by
  rw [h.put_eq]
  -- the new entry stands in front, so that any segment that is kept contains it
  have hkept := totalLength_longestWithin_le s.maxBytes ((key, value) :: without s.entries key)
  rcases List.prefix_cons_iff.mp (longestWithin_isPrefix s.maxBytes _) with hnil | ⟨rest, hcons, -⟩
  · exact hnil
  · rw [hcons, totalLength_cons] at hkept
    omega

theorem fst_get_put (h : s.Accurate) (key value : Bytes) :
    ((s.put key value).get key).1 =
      if entryLength (key, value) ≤ s.maxBytes then some value else none := by
  rw [fst_get]
  by_cases hfits : entryLength (key, value) ≤ s.maxBytes
  · rw [if_pos hfits, h.find?_put_of_le hfits]
  · have hentries := h.entries_put_of_lt (Nat.lt_of_not_le hfits)
    rw [if_neg hfits, find?, hentries, List.lookup_nil]

end Accurate

theorem eq_put_of_putRegular? {s t : Store} {key value : Bytes}
    (h : s.putRegular? key value = some t) :
    t = s.put key value ∧ value.length ≤ maxRegularLength := by
  unfold putRegular? at h
  split at h
  · cases h
  · rename_i hregular
    rw [Option.some.injEq] at h
    exact ⟨h.symm, Nat.le_of_not_lt hregular⟩

end Cache.Store

namespace Config

open Cache Cache.Store

theorem eq_of_orDefault {α : Type} {default a : α} {read? : Toml.Value → Option α} {v : Option Toml.Value}
    (h : orDefault default read? v = some a) : a = default ∨ ∃ w, read? w = some a := by
  cases v with
  | none => exact .inl (Option.some.inj h).symm
  | some w => exact .inr ⟨w, h⟩

theorem le_of_natural? {greatest n : Nat} {v : Toml.Value} (h : natural? greatest v = some n) :
    n ≤ greatest := by
  unfold natural? at h
  split at h
  · split at h
    · rename_i hle
      exact Option.some.inj h ▸ hle
    · cases h
  · cases h

theorem maxBytes_le_of_cache? {v : Toml.Value} {c : CacheSettings} (h : cache? v = some c) :
    c.maxBytes ≤ maxWord64 := by
  unfold cache? at h
  obtain ⟨given, -, h⟩ := Option.bind_eq_some_iff.mp h
  split at h
  · obtain ⟨maxBytes, hmaxBytes, h⟩ := Option.bind_eq_some_iff.mp h
    obtain ⟨maxAge, -, h⟩ := Option.bind_eq_some_iff.mp h
    obtain ⟨path, -, h⟩ := Option.bind_eq_some_iff.mp h
    obtain rfl := Option.some.inj h
    rcases eq_of_orDefault hmaxBytes with rfl | ⟨w, hw⟩
    · exact (by decide : (134217728 : Nat) ≤ maxWord64)
    · exact le_of_natural? hw
  · cases h

theorem maxBytes_le_of_ofEntries? {entries : Toml.Entries} {c : Config} (h : ofEntries? entries = some c) :
    c.cache.maxBytes ≤ maxWord64 := by
  unfold ofEntries? at h
  obtain ⟨given, -, h⟩ := Option.bind_eq_some_iff.mp h
  split at h
  · obtain ⟨cache, hcache, h⟩ := Option.bind_eq_some_iff.mp h
    obtain ⟨federation, -, h⟩ := Option.bind_eq_some_iff.mp h
    obtain ⟨sources, -, h⟩ := Option.bind_eq_some_iff.mp h
    obtain rfl := Option.some.inj h
    rcases eq_of_orDefault hcache with rfl | ⟨w, hw⟩
    · exact (by decide : (134217728 : Nat) ≤ maxWord64)
    · exact maxBytes_le_of_cache? hw
  · cases h

theorem maxBytes_le_of_load {path : String} {file : Option (List UInt8)}
    {environment : List (String × String)} {c : Config} (h : load path file environment = .ok c) :
    c.cache.maxBytes ≤ maxWord64 := by
  cases file with
  | none => cases h
  | some bytes =>
    simp only [load] at h
    split at h
    · rename_i hsome
      obtain rfl := Except.ok.inj h
      obtain ⟨text, -, hsome⟩ := Option.bind_eq_some_iff.mp hsome
      obtain ⟨document, -, hsome⟩ := Option.bind_eq_some_iff.mp hsome
      exact maxBytes_le_of_ofEntries? hsome
    · cases h
@[simp] theorem ensure_eq_ok_iff {condition : Bool} {text : String} :
    ensure condition text = .ok () ↔ condition = true := by
  unfold ensure
  cases condition <;> simp

theorem maxRegularLength_le_of_validate {c : Config} (h : c.validate = .ok ()) :
    maxRegularLength ≤ c.cache.maxBytes := by
  unfold validate at h
  simp only [bind, Except.bind] at h
  -- the budget is checked last, after every other check let the configuration pass
  repeat' split at h
  all_goals first | cases h | simpa using h

/-- In a validated budget a value that was put can be read back if and only if it fits together with its
key. It does if both make up a regular length, or if there is room for the key beside the longest
regular value. A value that does not fit leaves the store empty. -/
theorem get_after_set {c : Config} {s t : Store} {key value : Bytes} (hvalid : c.validate = .ok ())
    (hs : Reachable c.cache.maxBytes s) (hset : s.putRegular? key value = some t) :
    ((t.get key).1 = if key.length + value.length ≤ c.cache.maxBytes then some value else none) ∧
      (key.length + value.length ≤ maxRegularLength → (t.get key).1 = some value) ∧
      (key.length + maxRegularLength ≤ c.cache.maxBytes → (t.get key).1 = some value) ∧
      (c.cache.maxBytes < key.length + value.length → t.entries = []) := by
  obtain ⟨rfl, hregular⟩ := eq_put_of_putRegular? hset
  have hbudget : s.maxBytes = c.cache.maxBytes := hs.maxBytes_eq
  have hleast := maxRegularLength_le_of_validate hvalid
  have hget : ((s.put key value).get key).1 =
      if key.length + value.length ≤ c.cache.maxBytes then some value else none := by
    rw [← hbudget]
    exact hs.accurate.fst_get_put key value
  refine ⟨hget, ?_, ?_, ?_⟩
  · intro hshort
    rw [hget, if_pos (by omega)]
  · intro hroom
    rw [hget, if_pos (by omega)]
  · intro hover
    exact hs.accurate.entries_put_of_lt (by rw [hbudget]; exact hover)

/-- A short value in place of another one, in the least budget that is accepted. -/
theorem get_after_set_of_short :
    let c : Config :=
      { cache := { maxBytes := 65536 }
        sources := { yts := { baseUrl := "http://[::1]" }, ibit := { enabled := false } } }
    let s := (empty 65536).put [107] [1, 2, 3]
    let t := s.put [107] [4, 5]
    c.validate = .ok () ∧ Reachable c.cache.maxBytes s ∧ s.putRegular? [107] [4, 5] = some t ∧
      ((t.get [107]).1 = if 1 + 2 ≤ c.cache.maxBytes then some [4, 5] else none) ∧
      (1 + 2 ≤ maxRegularLength → (t.get [107]).1 = some [4, 5]) ∧
      (1 + maxRegularLength ≤ c.cache.maxBytes → (t.get [107]).1 = some [4, 5]) ∧
      (c.cache.maxBytes < 1 + 2 → t.entries = []) := by
  intro c s t
  have hvalid : c.validate = .ok () := by decide +kernel
  have hs : Reachable c.cache.maxBytes s := .setBig .new [107] [1, 2, 3]
  have hset : s.putRegular? [107] [4, 5] = some t := by decide +kernel
  exact ⟨hvalid, hs, hset, get_after_set hvalid hs hset⟩

/-- The least budget that is accepted, and the longest regular value under a key of one byte. -/
theorem not_get_after_set_of_longest :
    let c : Config :=
      { cache := { maxBytes := 65536 }
        sources := { yts := { baseUrl := "http://[::1]" }, ibit := { enabled := false } } }
    let value : Bytes := List.replicate 65536 0
    c.validate = .ok () ∧ Reachable c.cache.maxBytes (empty 65536) ∧
      ∃ t, (empty 65536).putRegular? [107] value = some t ∧
        (t.get [107]).1 = none ∧ (t.get [107]).1 ≠ some value := by
  intro c value
  have hlength : value.length = 65536 := List.length_replicate
  have hset : (empty 65536).putRegular? [107] value = some ((empty 65536).put [107] value) := by
    unfold putRegular? maxRegularLength
    rw [hlength, if_neg (Nat.lt_irrefl _)]
  have hget := (Accurate.empty 65536).fst_get_put [107] value
  have hover : ¬ entryLength ([107], value) ≤ (empty 65536).maxBytes := by
    unfold entryLength
    rw [hlength]
    decide
  rw [if_neg hover] at hget
  refine ⟨by decide +kernel, .new, _, hset, hget, ?_⟩
  rw [hget]
  exact (Option.some_ne_none value).symm

end Config

end TorrentSearch
