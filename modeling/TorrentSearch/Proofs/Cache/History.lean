import Mathlib.Data.List.Forall2
import TorrentSearch.Proofs.Cache.KeptEntries

/-!
# The cache and its history

Results are stored and looked up, keys are removed, the clock is changed, and the cache is saved and
loaded again, in any order. A lookup that hits serves what was stored last for the identifier and the
source, as far as the history goes that the cache has: a load goes back to the history of the save.
-/

namespace TorrentSearch.Cache

open Cbor (Bytes)
open Store (resultsKey)

/-- The name of a source, without the dash that ends the identifier in a key. -/
structure SourceName where
  text : String
  undashed : '-' ∉ text.toList
deriving DecidableEq, Repr

/-- What may be done with a cache. -/
inductive Action where
  | store (id : String) (source : SourceName) (results : List Torrent)
  | lookup (id : String) (source : SourceName) (maxAge : Time.Span)
  | remove (key : Bytes)
  | clear
  | setClock (now : Time.Instant)
  | save
  /-- The file of an earlier save is loaded; the saves are counted from the latest one back. -/
  | reload (index : Nat) (budget : UInt64)
deriving DecidableEq, Repr

/-- A cache with the clock and with the files it was saved to, the latest first. -/
structure Run where
  cache : Store
  now : Time.Instant
  files : List Bytes

namespace Run

def start (budget : UInt64) (now : Time.Instant) : Run :=
  ⟨.empty budget.toNat, now, []⟩

/-- What the cache holds for an identifier and a source. -/
def lookup (r : Run) (id : String) (source : SourceName) (maxAge : Time.Span) : Lookup :=
  (r.cache.lookupResults id source.text maxAge r.now).1

/-- What is left when something is done. Without a file to load, the cache stays as it is. -/
def act (r : Run) : Action → Run
  | .store id source results =>
    { r with cache := r.cache.storeResults id source.text results r.now }
  | .lookup id source maxAge =>
    { r with cache := (r.cache.lookupResults id source.text maxAge r.now).2 }
  | .remove key => { r with cache := (r.cache.remove key).2 }
  | .clear => { r with cache := r.cache.clear }
  | .setClock now => { r with now := now }
  | .save => { r with cache := r.cache.persist.2, files := r.cache.persist.1.2 :: r.files }
  | .reload index budget =>
    { r with cache := (Store.reopen? r.files index budget).getD r.cache }

end Run

/-- What was done with the cache at hand, the latest first, and what had been done at each save. -/
structure Chronicle where
  past : List Action
  saved : List (List Action)

namespace Chronicle

/-- A save remembers the history, a load goes back to it. -/
def act (c : Chronicle) : Action → Chronicle
  | .save => { c with saved := c.past :: c.saved }
  | .reload index _ => { c with past := c.saved[index]?.getD c.past }
  | action => { c with past := action :: c.past }

end Chronicle

/-- What was stored last for an identifier and a source, unless its key was removed or everything
cleared after that. -/
def latest? (id : String) (source : SourceName) : List Action → Option (List Torrent)
  | [] => none
  | .store id' source' results :: past =>
    if id' = id ∧ source' = source then some results else latest? id source past
  | .remove key :: past =>
    if key = resultsKey id source.text then none else latest? id source past
  | .clear :: _ => none
  | _ :: past => latest? id source past

/-- What stands in front of the last occurrence of an element and what stands behind it. -/
private theorem append_cons_inj {α : Type} {a b c d : List α} {x : α} (hb : x ∉ b) (hd : x ∉ d)
    (h : a ++ x :: b = c ++ x :: d) : a = c ∧ b = d := by
  -- if one front is longer, the element at its end is among what stands behind the other one
  have hshort (l b d : List α) (hb : x ∉ b) (h : x :: b = l ++ x :: d) : l = [] ∧ b = d := by
    cases l with
    | nil => exact ⟨rfl, by simpa using h⟩
    | cons y l =>
      have hrest : b = l ++ x :: d := (List.cons.inj h).2
      exact absurd (hrest ▸ List.mem_append_right l List.mem_cons_self) hb
  rcases List.append_eq_append_iff.mp h with ⟨l, hc, hl⟩ | ⟨l, ha, hl⟩
  · obtain ⟨rfl, hbd⟩ := hshort l b d hb hl
    exact ⟨by simpa using hc.symm, hbd⟩
  · obtain ⟨rfl, hdb⟩ := hshort l d b hd hl
    exact ⟨by simpa using ha, hdb.symm⟩

theorem resultsKey_inj {id id' : String} {source source' : SourceName}
    (h : resultsKey id source.text = resultsKey id' source'.text) : id = id' ∧ source = source' := by
  have hkey : (Entry.key id source.text).toList = (Entry.key id' source'.text).toList :=
    congrArg String.toList (Text.Utf8.encode_injective h)
  have hchars : id.toList ++ '-' :: source.text.toList = id'.toList ++ '-' :: source'.text.toList := by
    simpa [Entry.key, String.toList_append] using hkey
  obtain ⟨hid, hsource⟩ := append_cons_inj source.undashed source'.undashed hchars
  obtain ⟨text, _⟩ := source
  obtain ⟨text', _⟩ := source'
  have htext : text = text' := String.toList_inj.mp hsource
  subst htext
  exact ⟨String.toList_inj.mp hid, rfl⟩

/-- An entry is what was stored last under its key. -/
def IsLatest (past : List Action) (key : Bytes) (e : Entry) : Prop :=
  ∃ id source, key = resultsKey id source.text ∧ latest? id source past = some e.results

variable {past : List Action} {key : Bytes} {e : Entry}

theorem isLatest_stored (past : List Action) (id : String) (source : SourceName)
    (results : List Torrent) (now : Time.Instant) :
    IsLatest (.store id source results :: past) (resultsKey id source.text) ⟨now, results⟩ :=
  ⟨id, source, rfl, by simp [latest?]⟩

theorem IsLatest.store (h : IsLatest past key e) {id : String} {source : SourceName}
    (hkey : key ≠ resultsKey id source.text) (results : List Torrent) :
    IsLatest (.store id source results :: past) key e := by
  obtain ⟨id', source', rfl, hlatest⟩ := h
  refine ⟨id', source', rfl, ?_⟩
  rw [latest?, if_neg, hlatest]
  rintro ⟨rfl, rfl⟩
  exact hkey rfl

theorem IsLatest.remove (h : IsLatest past key e) {other : Bytes} (hkey : key ≠ other) :
    IsLatest (.remove other :: past) key e := by
  obtain ⟨id, source, rfl, hlatest⟩ := h
  refine ⟨id, source, rfl, ?_⟩
  rw [latest?, if_neg (Ne.symm hkey), hlatest]

theorem IsLatest.of_idle (h : IsLatest past key e) {action : Action}
    (haction : ∀ id source, latest? id source (action :: past) = latest? id source past) :
    IsLatest (action :: past) key e := by
  obtain ⟨id, source, rfl, hlatest⟩ := h
  exact ⟨id, source, rfl, (haction id source).trans hlatest⟩

/-- The entries of the cache are the latest of its history, and so are those of the files. -/
structure Faithful (r : Run) (c : Chronicle) : Prop where
  cache : r.cache.Kept (IsLatest c.past)
  files : List.Forall₂ (fun file past => ∃ s : Store, s.Kept (IsLatest past) ∧ file = s.save)
    r.files c.saved

theorem faithful_start (budget : UInt64) (now : Time.Instant) :
    Faithful (.start budget now) ⟨[], []⟩ :=
  ⟨.empty _ budget.toNat_lt, .nil⟩

theorem getElem?_of_forall₂ {α β : Type} {R : α → β → Prop} {as : List α} {bs : List β}
    (h : List.Forall₂ R as bs) (i : Nat) :
    (as[i]? = none ∧ bs[i]? = none) ∨ ∃ a b, as[i]? = some a ∧ bs[i]? = some b ∧ R a b := by
  induction h generalizing i with
  | nil => exact .inl ⟨rfl, rfl⟩
  | cons hhead _ ih =>
    cases i with
    | zero => exact .inr ⟨_, _, rfl, rfl, hhead⟩
    | succ i => simpa using ih i

namespace Faithful

variable {r : Run} {c : Chronicle}

theorem of_cache (h : Faithful r c) {cache : Store} {past : List Action}
    (hcache : cache.Kept (IsLatest past)) (now : Time.Instant) :
    Faithful { r with cache := cache, now := now } { c with past := past } :=
  ⟨hcache, h.files⟩

theorem reload (h : Faithful r c) (index : Nat) (budget : UInt64) :
    Faithful (r.act (.reload index budget)) (c.act (.reload index budget)) := by
  refine h.of_cache ?_ r.now
  rcases getElem?_of_forall₂ h.files index with ⟨hfile, hpast⟩ | ⟨file, past, hfile, hpast, s, hs, rfl⟩
  · have hnothing : Store.reopen? r.files index budget = none := by
      rw [Store.reopen?, hfile]
      rfl
    rw [hnothing, hpast]
    exact h.cache
  · obtain ⟨loaded, hload, hkept⟩ := hs.reopen? hfile budget
    rw [hload, hpast]
    exact hkept

theorem act (h : Faithful r c) (action : Action) : Faithful (r.act action) (c.act action) := by
  cases action with
  | store id source results =>
    have hnew := isLatest_stored c.past id source results r.now
    exact h.of_cache (h.cache.storeResults hnew fun _ _ hne hlatest => hlatest.store hne results) r.now
  | lookup id source maxAge =>
    have hcache := h.cache.lookupResults id source.text maxAge r.now
    refine h.of_cache (hcache.imp fun _ _ hlatest => hlatest.of_idle ?_) r.now
    simp [latest?]
  | remove key =>
    exact h.of_cache (h.cache.remove key fun _ _ hne hlatest => hlatest.remove hne) r.now
  | clear => exact h.of_cache (h.cache.clear _) r.now
  | setClock now =>
    refine h.of_cache (h.cache.imp fun _ _ hlatest => hlatest.of_idle ?_) now
    simp [latest?]
  | save => exact ⟨h.cache, .cons ⟨r.cache, h.cache, rfl⟩ h.files⟩
  | reload index budget => exact h.reload index budget

theorem foldl (h : Faithful r c) (actions : List Action) :
    Faithful (actions.foldl Run.act r) (actions.foldl Chronicle.act c) := by
  induction actions generalizing r c with
  | nil => exact h
  | cons action actions ih => exact ih (h.act action)

end Faithful

/-- After whatever was done, a lookup that hits serves exactly the list that was stored last for the
same identifier and source, and neither was their key removed nor the cache cleared after that. -/
theorem hit_eq_latest (budget : UInt64) (now : Time.Instant) (actions : List Action) (id : String)
    (source : SourceName) (maxAge : Time.Span) {results : List Torrent}
    (hhit : (actions.foldl Run.act (.start budget now)).lookup id source maxAge = .hit results) :
    latest? id source (actions.foldl Chronicle.act ⟨[], []⟩).past = some results := by
  have hfaithful := (faithful_start budget now).foldl actions
  obtain ⟨e, ⟨id', source', hkey, hlatest⟩, hresults⟩ := hfaithful.cache.of_hit hhit
  obtain ⟨rfl, rfl⟩ := resultsKey_inj hkey
  rw [hlatest, hresults]

/-- A save is between two lists for an identifier with a dash; after a load the clock is set back. -/
theorem hit_eq_latest_of_reload :
    let source : SourceName := ⟨"yts", by decide⟩
    let now : Time.Instant := ⟨20000, 0, 0, by decide, by decide, by decide, by decide⟩
    let t : Torrent := ⟨"Film", "720p", "AB", "magnet:?xt=urn:btih:AB&"⟩
    let earlier : Time.Instant := ⟨0, 0, 0, by decide, by decide, by decide, by decide⟩
    let actions : List Action := [.store "tt-1" source [t], .store "tt" source [], .save,
      .store "tt-1" source [t, t], .reload 0 1000, .setClock earlier]
    (actions.foldl Run.act (.start 1000 now)).lookup "tt-1" source (.ofSeconds 60) = .hit [t] ∧
      latest? "tt-1" source (actions.foldl Chronicle.act ⟨[], []⟩).past = some [t] := by
  intro source now t earlier actions
  have hhit : (actions.foldl Run.act (.start 1000 now)).lookup "tt-1" source (.ofSeconds 60) =
      .hit [t] := by decide +kernel
  exact ⟨hhit, hit_eq_latest 1000 now actions "tt-1" source (.ofSeconds 60) hhit⟩

end TorrentSearch.Cache
