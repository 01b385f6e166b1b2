import Mathlib.Data.List.Nodup
import TorrentSearch.Federation.Merge

/-!
# Merged answers

When what the sources brought becomes a list, a failure or nothing yet, and which torrents that list
has. Repeated torrents are told by their places: a torrent stays if no torrent before it has its
info hash.
-/

namespace TorrentSearch

namespace Torrent

/-- The torrents before which no other has their info hash, in the order of the list. -/
def firsts (ts : List Torrent) : List Torrent :=
  (ts.zipIdx.filter fun (t, i) => t.infoHash ∉ (ts.take i).map (·.infoHash)).map Prod.fst

/-- Going through a list with the hashes seen so far keeps what has no predecessor in all of it. -/
private theorem dedupSeen_eq (r : List Torrent) {seen : List String} {front : List Torrent}
    (hseen : ∀ hash, hash ∈ seen ↔ hash ∈ front.map (·.infoHash)) :
    dedupSeen seen r = ((r.zipIdx front.length).filter fun (t, i) =>
      t.infoHash ∉ ((front ++ r).take i).map (·.infoHash)).map Prod.fst := by
  induction r generalizing seen front with
  | nil => simp
  | cons t r ih =>
    have hfront : (front ++ t :: r).take front.length = front := by simp
    have hnext : (front ++ [t]).length = front.length + 1 := by simp
    have happend : front ++ [t] ++ r = front ++ t :: r := by simp
    rw [List.zipIdx_cons]
    by_cases ht : t.infoHash ∈ seen
    · have hmem : t.infoHash ∈ front.map (·.infoHash) := (hseen _).mp ht
      rw [dedupSeen_cons_of_mem ht, List.filter_cons_of_neg (by simpa [hfront] using hmem)]
      have hseen' (hash : String) : hash ∈ seen ↔ hash ∈ (front ++ [t]).map (·.infoHash) := by
        simp only [List.map_append, List.map_cons, List.map_nil, List.mem_append,
          List.mem_singleton, ← hseen]
        exact ⟨.inl, fun h => h.elim id fun h => h ▸ ht⟩
      rw [ih hseen', hnext, happend]
    · have hmem : t.infoHash ∉ front.map (·.infoHash) := fun h => ht ((hseen _).mpr h)
      rw [dedupSeen_cons_of_not_mem ht, List.filter_cons_of_pos (by simpa [hfront] using hmem),
        List.map_cons]
      have hseen' (hash : String) :
          hash ∈ t.infoHash :: seen ↔ hash ∈ (front ++ [t]).map (·.infoHash) := by
        simp only [List.map_append, List.map_cons, List.map_nil, List.mem_append, List.mem_cons,
          List.not_mem_nil, or_false, ← hseen]
        exact or_comm
      rw [ih hseen', hnext, happend]

theorem dedup_eq_firsts (ts : List Torrent) : dedup ts = firsts ts := by
  have hseen (hash : String) :
      hash ∈ ([] : List String) ↔ hash ∈ ([] : List Torrent).map (·.infoHash) := by simp
  exact dedupSeen_eq ts hseen

private theorem dedupSeen_sublist (seen : List String) (ts : List Torrent) :
    (dedupSeen seen ts).Sublist ts := by
  induction ts generalizing seen with
  | nil => simp
  | cons t r ih =>
    by_cases ht : t.infoHash ∈ seen
    · rw [dedupSeen_cons_of_mem ht]
      exact (ih seen).cons t
    · rw [dedupSeen_cons_of_not_mem ht]
      exact (ih _).cons_cons t

private theorem dedupSeen_nodup (seen : List String) (ts : List Torrent) :
    ((dedupSeen seen ts).map (·.infoHash)).Nodup ∧
      ∀ hash ∈ (dedupSeen seen ts).map (·.infoHash), hash ∉ seen := by
  induction ts generalizing seen with
  | nil => simp
  | cons t r ih =>
    by_cases ht : t.infoHash ∈ seen
    · rw [dedupSeen_cons_of_mem ht]
      exact ih seen
    · obtain ⟨hnodup, hnew⟩ := ih (t.infoHash :: seen)
      rw [dedupSeen_cons_of_not_mem ht, List.map_cons]
      refine ⟨List.nodup_cons.mpr ⟨fun h => hnew _ h List.mem_cons_self, hnodup⟩, ?_⟩
      intro hash hmem
      rcases List.mem_cons.mp hmem with rfl | hmem
      · exact ht
      · exact fun h => hnew hash hmem (List.mem_cons_of_mem _ h)

private theorem mem_dedupSeen (seen : List String) (ts : List Torrent) {hash : String}
    (h : hash ∈ ts.map (·.infoHash)) :
    hash ∈ seen ∨ hash ∈ (dedupSeen seen ts).map (·.infoHash) := by
  induction ts generalizing seen with
  | nil => simp at h
  | cons t r ih =>
    rw [List.map_cons, List.mem_cons] at h
    by_cases ht : t.infoHash ∈ seen
    · rw [dedupSeen_cons_of_mem ht]
      rcases h with rfl | h
      · exact .inl ht
      · exact ih seen h
    · rw [dedupSeen_cons_of_not_mem ht, List.map_cons, List.mem_cons]
      rcases h with rfl | h
      · exact .inr (.inl rfl)
      · rcases ih (t.infoHash :: seen) h with h | h
        · rcases List.mem_cons.mp h with h | h
          · exact .inr (.inl h)
          · exact .inl h
        · exact .inr (.inr h)

theorem firsts_sublist (ts : List Torrent) : (firsts ts).Sublist ts :=
  dedup_eq_firsts ts ▸ dedupSeen_sublist [] ts

theorem firsts_hashes_nodup (ts : List Torrent) : ((firsts ts).map (·.infoHash)).Nodup :=
  dedup_eq_firsts ts ▸ (dedupSeen_nodup [] ts).1

theorem hash_mem_firsts {ts : List Torrent} {t : Torrent} (h : t ∈ ts) :
    t.infoHash ∈ (firsts ts).map (·.infoHash) := by
  have hmem := mem_dedupSeen [] ts (List.mem_map.mpr ⟨t, h, rfl⟩)
  exact dedup_eq_firsts ts ▸ hmem.resolve_left List.not_mem_nil

theorem hash_mem_firsts_iff {ts : List Torrent} {hash : String} :
    hash ∈ (firsts ts).map (·.infoHash) ↔ hash ∈ ts.map (·.infoHash) := by
  constructor
  · intro h
    exact ((firsts_sublist ts).map _).subset h
  · intro h
    obtain ⟨t, ht, rfl⟩ := List.mem_map.mp h
    exact hash_mem_firsts ht

end Torrent

namespace Federation

def Failure.arrival (e : Failure) : Arrival := ⟨e.source, .error e.error⟩

theorem lists_eq_nil_iff {arrivals : List Arrival} :
    lists arrivals = [] ↔ ∀ a ∈ arrivals, ∃ e, a.outcome = .error e := by
  rw [lists, List.filterMap_eq_nil_iff]
  refine forall₂_congr fun a _ => ?_
  unfold Arrival.results?
  cases a.outcome <;> simp

theorem lists_map_arrival (es : List Failure) : lists (es.map Failure.arrival) = [] := by
  rw [lists_eq_nil_iff]
  intro a ha
  obtain ⟨e, -, rfl⟩ := List.mem_map.mp ha
  exact ⟨e.error, rfl⟩

theorem failures_map_arrival (es : List Failure) : failures (es.map Failure.arrival) = es := by
  induction es with
  | nil => rfl
  | cons e es ih => simpa [failures, Arrival.failure?, Failure.arrival] using ih

theorem map_arrival_failures {arrivals : List Arrival} (h : lists arrivals = []) :
    (failures arrivals).map Failure.arrival = arrivals := by
  induction arrivals with
  | nil => rfl
  | cons a arrivals ih =>
    rw [lists_eq_nil_iff] at h
    obtain ⟨e, he⟩ := h a List.mem_cons_self
    have hrest := ih (lists_eq_nil_iff.mpr fun b hb => h b (List.mem_cons_of_mem _ hb))
    have hfailure : a.failure? = some ⟨a.source, e⟩ := by simp [Arrival.failure?, he]
    have harrival : Failure.arrival ⟨a.source, e⟩ = a := by
      cases a
      simp only at he
      simp [Failure.arrival, he]
    rw [failures, List.filterMap_cons_some hfailure, List.map_cons, harrival]
    exact congrArg _ hrest

variable {arrivals : List Arrival} {atWork : Option String}

theorem conclude_of_arrived (h : arrivals = [] → atWork = none) :
    conclude arrivals atWork =
      if (lists arrivals).isEmpty then .error (.allSourcesFailed (failures arrivals))
      else .ok (mergeLists (lists arrivals)) := by
  unfold conclude
  split
  · simp at h
  · rfl

theorem conclude_eq_pending_iff {source : String} :
    conclude arrivals atWork = .error (.pending source) ↔
      arrivals = [] ∧ atWork = some source := by
  by_cases h : arrivals = [] → atWork = none
  · rw [conclude_of_arrived h]
    constructor
    · intro heq
      split at heq <;> simp at heq
    · rintro ⟨hnil, hsome⟩
      rw [h hnil] at hsome
      cases hsome
  · simp only [Classical.not_imp, ← ne_eq, Option.ne_none_iff_exists'] at h
    obtain ⟨rfl, name, rfl⟩ := h
    simp [conclude]

theorem conclude_eq_allSourcesFailed_iff {es : List Failure} :
    conclude arrivals atWork = .error (.allSourcesFailed es) ↔
      (arrivals = [] → atWork = none) ∧ arrivals = es.map Failure.arrival := by
  by_cases h : arrivals = [] → atWork = none
  · rw [conclude_of_arrived h]
    constructor
    · intro heq
      split at heq
      · rename_i hempty
        simp only [Except.error.injEq, Error.allSourcesFailed.injEq] at heq
        exact ⟨h, by rw [← heq, map_arrival_failures (List.isEmpty_iff.mp hempty)]⟩
      · simp at heq
    · rintro ⟨-, rfl⟩
      rw [lists_map_arrival, failures_map_arrival]
      rfl
  · simp only [h, false_and, iff_false]
    simp only [Classical.not_imp, ← ne_eq, Option.ne_none_iff_exists'] at h
    obtain ⟨rfl, name, rfl⟩ := h
    simp [conclude]

theorem conclude_eq_ok_iff {found : List Torrent} :
    conclude arrivals atWork = .ok found ↔
      (∃ a ∈ arrivals, a.outcome.isOk = true) ∧ found = mergeLists (lists arrivals) := by
  have hok : lists arrivals = [] ↔ ¬∃ a ∈ arrivals, a.outcome.isOk = true := by
    rw [lists_eq_nil_iff]
    simp only [not_exists, not_and]
    refine forall₂_congr fun a _ => ?_
    cases a.outcome <;> simp [Except.isOk, Except.toBool]
  by_cases h : arrivals = [] → atWork = none
  · rw [conclude_of_arrived h]
    by_cases hempty : lists arrivals = []
    · simp [hempty, hok.mp hempty]
    · have hsome := not_not.mp (mt hok.mpr hempty)
      simp only [List.isEmpty_iff, hempty, if_false, Except.ok.injEq]
      exact ⟨fun heq => ⟨hsome, heq.symm⟩, fun h => h.2.symm⟩
  · simp only [Classical.not_imp, ← ne_eq, Option.ne_none_iff_exists'] at h
    obtain ⟨rfl, name, rfl⟩ := h
    simp [conclude]

theorem mergeLists_eq (found : List (List Torrent)) :
    mergeLists found =
      if 1 < found.countP (!·.isEmpty) then Torrent.firsts found.flatten else found.flatten := by
  rw [mergeLists, Torrent.dedup_eq_firsts]

theorem mem_of_mem_mergeLists {found : List (List Torrent)} {t : Torrent}
    (h : t ∈ mergeLists found) : ∃ l ∈ found, t ∈ l := by
  have hmem : t ∈ found.flatten := by
    rw [mergeLists_eq] at h
    split at h
    · exact (Torrent.firsts_sublist _).subset h
    · exact h
  exact List.mem_flatten.mp hmem

theorem mem_of_conclude {found : List Torrent} (h : conclude arrivals atWork = .ok found)
    {t : Torrent} (ht : t ∈ found) : ∃ a ∈ arrivals, ∃ l, a.outcome = .ok l ∧ t ∈ l := by
  obtain ⟨-, rfl⟩ := conclude_eq_ok_iff.mp h
  obtain ⟨l, hl, htl⟩ := mem_of_mem_mergeLists ht
  obtain ⟨a, ha, hresults⟩ := List.mem_filterMap.mp hl
  refine ⟨a, ha, l, ?_, htl⟩
  unfold Arrival.results? at hresults
  split at hresults
  · rename_i results houtcome
    rw [houtcome, Option.some.inj hresults]
  · cases hresults

end Federation

end TorrentSearch
