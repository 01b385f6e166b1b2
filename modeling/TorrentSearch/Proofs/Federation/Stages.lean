import TorrentSearch.Proofs.Federation.Merge

/-!
# Removing repeated torrents in stages

Lists arrive one after another, and repeated torrents may be removed as they arrive or once at the end.
What is there already stays as it is, and a list that comes later is put behind it, as far as it brings
hashes that are not there yet.
-/

namespace TorrentSearch

namespace Torrent

/-- The torrents of a list whose info hash no known torrent has. -/
def newTo (known ts : List Torrent) : List Torrent :=
  ts.filter fun t => t.infoHash ∉ known.map (·.infoHash)

theorem dedupSeen_congr {seen seen' : List String} (h : ∀ hash, hash ∈ seen ↔ hash ∈ seen')
    (ts : List Torrent) : dedupSeen seen ts = dedupSeen seen' ts := by
  induction ts generalizing seen seen' with
  | nil => rfl
  | cons t r ih =>
    by_cases ht : t.infoHash ∈ seen
    · rw [dedupSeen_cons_of_mem ht, dedupSeen_cons_of_mem ((h _).mp ht)]
      exact ih h
    · have ht' : t.infoHash ∉ seen' := fun hmem => ht ((h _).mpr hmem)
      have hnext (hash : String) : hash ∈ t.infoHash :: seen ↔ hash ∈ t.infoHash :: seen' := by
        rw [List.mem_cons, List.mem_cons, h]
      rw [dedupSeen_cons_of_not_mem ht, dedupSeen_cons_of_not_mem ht', ih hnext]

/-- More hashes that were seen before take away the torrents with these hashes and no others. -/
theorem dedupSeen_append_seen (known seen : List String) (ts : List Torrent) :
    dedupSeen (known ++ seen) ts = (dedupSeen seen ts).filter (·.infoHash ∉ known) := by
  induction ts generalizing seen with
  | nil => rfl
  | cons t r ih =>
    by_cases hseen : t.infoHash ∈ seen
    · rw [dedupSeen_cons_of_mem (List.mem_append_right _ hseen), dedupSeen_cons_of_mem hseen]
      exact ih seen
    · rw [dedupSeen_cons_of_not_mem hseen]
      by_cases hknown : t.infoHash ∈ known
      · have hnext (hash : String) : hash ∈ known ++ seen ↔ hash ∈ known ++ t.infoHash :: seen := by
          simp only [List.mem_append, List.mem_cons]
          constructor
          · exact Or.imp_right .inr
          · rintro (h | rfl | h)
            · exact .inl h
            · exact .inl hknown
            · exact .inr h
        rw [dedupSeen_cons_of_mem (List.mem_append_left _ hknown),
          List.filter_cons_of_neg (by simpa using hknown), dedupSeen_congr hnext, ih]
      · have hnew : t.infoHash ∉ known ++ seen := by simp [hknown, hseen]
        have hnext (hash : String) :
            hash ∈ t.infoHash :: (known ++ seen) ↔ hash ∈ known ++ t.infoHash :: seen := by
          simp only [List.mem_append, List.mem_cons]
          exact or_left_comm
        rw [dedupSeen_cons_of_not_mem hnew, List.filter_cons_of_pos (by simpa using hknown),
          dedupSeen_congr hnext, ih]

theorem dedupSeen_append (seen : List String) (xs ys : List Torrent) :
    dedupSeen seen (xs ++ ys) =
      dedupSeen seen xs ++ dedupSeen (xs.map (·.infoHash) ++ seen) ys := by
  induction xs generalizing seen with
  | nil => rfl
  | cons t r ih =>
    rw [List.cons_append, List.map_cons]
    by_cases ht : t.infoHash ∈ seen
    · have hnext (hash : String) :
          hash ∈ r.map (·.infoHash) ++ seen ↔
            hash ∈ t.infoHash :: r.map (·.infoHash) ++ seen := by
        rw [List.cons_append, List.mem_cons]
        constructor
        · exact .inr
        · rintro (rfl | h)
          · exact List.mem_append_right _ ht
          · exact h
      rw [dedupSeen_cons_of_mem ht, dedupSeen_cons_of_mem ht, ih, dedupSeen_congr hnext]
    · have hnext (hash : String) :
          hash ∈ r.map (·.infoHash) ++ t.infoHash :: seen ↔
            hash ∈ t.infoHash :: r.map (·.infoHash) ++ seen := by
        rw [List.cons_append, List.mem_cons, List.mem_append, List.mem_append, List.mem_cons]
        exact or_left_comm
      rw [dedupSeen_cons_of_not_mem ht, dedupSeen_cons_of_not_mem ht, ih, dedupSeen_congr hnext]
      rfl

/-- What a second list adds are the torrents that stay of it alone and are new to the first. -/
theorem dedup_append (xs ys : List Torrent) :
    dedup (xs ++ ys) = dedup xs ++ newTo xs (dedup ys) := by
  rw [dedup, dedupSeen_append, dedupSeen_append_seen]
  rfl

theorem hashes_dedup_nodup (ts : List Torrent) : ((dedup ts).map (·.infoHash)).Nodup :=
  dedup_eq_firsts ts ▸ firsts_hashes_nodup ts

theorem hash_mem_dedup_iff {ts : List Torrent} {hash : String} :
    hash ∈ (dedup ts).map (·.infoHash) ↔ hash ∈ ts.map (·.infoHash) := by
  rw [dedup_eq_firsts, hash_mem_firsts_iff]

/-- Nothing is removed from a list if and only if it has no hash twice. -/
theorem dedup_eq_self_iff {ts : List Torrent} :
    dedup ts = ts ↔ (ts.map (·.infoHash)).Nodup := by
  constructor
  · intro h
    rw [← h]
    exact hashes_dedup_nodup ts
  · intro h
    induction ts with
    | nil => rfl
    | cons t r ih =>
      rw [List.map_cons, List.nodup_cons] at h
      obtain ⟨ht, hr⟩ := h
      have hnew : newTo [t] r = r := by
        rw [newTo, List.filter_eq_self]
        intro u hu
        have hne : u.infoHash ≠ t.infoHash := fun heq => ht (heq ▸ List.mem_map.mpr ⟨u, hu, rfl⟩)
        simpa using hne
      calc
        dedup (t :: r) = dedup [t] ++ newTo [t] (dedup r) := dedup_append [t] r
        _ = dedup [t] ++ newTo [t] r := by rw [ih hr]
        _ = t :: r := by rw [hnew]; rfl

@[simp] theorem dedup_dedup (ts : List Torrent) : dedup (dedup ts) = dedup ts :=
  dedup_eq_self_iff.mpr (hashes_dedup_nodup ts)

/-- To be new to a list is to be new to what stays of it. -/
theorem newTo_dedup (known ts : List Torrent) : newTo (dedup known) ts = newTo known ts := by
  simp only [newTo, hash_mem_dedup_iff]

theorem dedup_dedup_append (xs ys : List Torrent) : dedup (dedup xs ++ ys) = dedup (xs ++ ys) := by
  rw [dedup_append, dedup_append, dedup_dedup, newTo_dedup]

/-- A list stays in front of what is added to it if and only if it has no hash twice. -/
theorem isPrefix_dedup_append_iff {xs ys : List Torrent} :
    xs <+: dedup (xs ++ ys) ↔ (xs.map (·.infoHash)).Nodup := by
  constructor
  · intro h
    exact (hashes_dedup_nodup (xs ++ ys)).sublist (h.sublist.map _)
  · intro h
    rw [dedup_append, dedup_eq_self_iff.mpr h]
    exact List.prefix_append _ _

/-- Removing repeated torrents is the only function that leaves a torrent alone as it is and goes
through two lists in stages. -/
theorem eq_dedup_iff {f : List Torrent → List Torrent} :
    f = dedup ↔
      (∀ t, f [t] = [t]) ∧ ∀ xs ys, f (xs ++ ys) = f xs ++ newTo xs (f ys) := by
  constructor
  · rintro rfl
    exact ⟨fun t => rfl, dedup_append⟩
  · rintro ⟨hone, happend⟩
    funext ts
    induction ts with
    | nil =>
      have hnil : f [] = f [] ++ f [] := by simpa [newTo] using happend [] []
      exact List.self_eq_append_right.mp hnil
    | cons t r ih =>
      calc
        f (t :: r) = f [t] ++ newTo [t] (f r) := happend [t] r
        _ = dedup [t] ++ newTo [t] (dedup r) := by rw [hone, ih]; rfl
        _ = dedup (t :: r) := (dedup_append [t] r).symm

/-- Repeated torrents can be removed in stages. If they are removed from the first list before the second
one comes, the result is the same. Of the second list come those torrents, in order, that stay of it
alone and are new to the first. So a second removal changes nothing, and what was left of the first list
stays in front as it is. A torrent alone stays. -/
theorem dedup_in_stages (xs ys : List Torrent) :
    dedup (dedup xs ++ ys) = dedup (xs ++ ys) ∧
    dedup (xs ++ ys) = dedup xs ++ newTo xs (dedup ys) ∧
    dedup (dedup xs) = dedup xs ∧
    dedup xs <+: dedup (xs ++ ys) ∧
    ∀ t, dedup [t] = [t] := by
  have hfront : dedup xs <+: dedup (xs ++ ys) := by
    rw [dedup_append]
    exact List.prefix_append _ _
  exact ⟨dedup_dedup_append xs ys, dedup_append xs ys, dedup_dedup xs, hfront, fun t => rfl⟩

/-- What is merged so far may be taken with the torrents that were removed from it. -/
private theorem foldl_dedup_of_dedup (found : List (List Torrent)) (before : List Torrent) :
    found.foldl (fun merged l => dedup (merged ++ l)) (dedup before) =
      dedup (before ++ found.flatten) := by
  induction found generalizing before with
  | nil => rw [List.foldl_nil, List.flatten_nil, List.append_nil]
  | cons l rest ih =>
    rw [List.foldl_cons, dedup_dedup_append, ih, List.flatten_cons, List.append_assoc]

/-- To remove repeated torrents after each list is to remove them once from all lists. -/
theorem foldl_dedup_append (found : List (List Torrent)) :
    found.foldl (fun merged l => dedup (merged ++ l)) [] = dedup found.flatten :=
  foldl_dedup_of_dedup found []

end Torrent

namespace Federation

open Torrent (dedup)

theorem mergeLists_concat_nil (found : List (List Torrent)) :
    mergeLists (found ++ [[]]) = mergeLists found := by
  simp [mergeLists]

theorem mergeLists_concat {found : List (List Torrent)} {late : List Torrent}
    (hfound : mergeLists found ≠ []) (hlate : late ≠ []) :
    mergeLists (found ++ [late]) = dedup (mergeLists found ++ late) := by
  obtain ⟨t, ht⟩ := List.exists_mem_of_ne_nil _ hfound
  obtain ⟨l, hl, htl⟩ := mem_of_mem_mergeLists ht
  have hsome : 0 < found.countP (!·.isEmpty) := by
    rw [List.countP_pos_iff]
    exact ⟨l, hl, by simp [List.ne_nil_of_mem htl]⟩
  have hcount : (found ++ [late]).countP (!·.isEmpty) = found.countP (!·.isEmpty) + 1 := by
    simp [List.countP_append, hlate]
  have hflatten : (found ++ [late]).flatten = found.flatten ++ late := by simp
  rw [mergeLists, hcount, if_pos (by omega), hflatten, mergeLists]
  split
  · rw [Torrent.dedup_dedup_append]
  · rfl

/-- What is merged already stays in front when one more list comes if and only if that list has no
torrents or no hash is there twice: a list that has torrents alone is not searched for repeated ones. -/
theorem mergeLists_isPrefix_concat_iff {found : List (List Torrent)} {late : List Torrent} :
    mergeLists found <+: mergeLists (found ++ [late]) ↔
      late = [] ∨ ((mergeLists found).map (·.infoHash)).Nodup := by
  by_cases hlate : late = []
  · subst hlate
    simp [mergeLists_concat_nil]
  by_cases hfound : mergeLists found = []
  · simp [hfound]
  · rw [mergeLists_concat hfound hlate, Torrent.isPrefix_dedup_append_iff]
    simp only [hlate, false_or]

example :
    let film : Torrent := ⟨"Film", "720p", "AB", "magnet:?xt=urn:btih:AB"⟩
    let other : Torrent := ⟨"Other", "720p", "CD", "magnet:?xt=urn:btih:CD"⟩
    mergeLists [[film, film]] = [film, film] ∧ mergeLists [[film, film], [other]] = [film, other] := by
  decide

/-- With one more source there is still an answer, whatever that source brings. What was found without it
stays in front, unless it has a hash twice and the source has torrents. -/
theorem conclude_concat {arrivals : List Arrival} {atWork : Option String} {found : List Torrent}
    (h : conclude arrivals atWork = .ok found) (late : Arrival) (atWork' : Option String) :
    ∃ all, conclude (arrivals ++ [late]) atWork' = .ok all ∧
      (found <+: all ↔
        late.results?.getD [] = [] ∨ (found.map (·.infoHash)).Nodup) := by
  obtain ⟨⟨a, ha, hok⟩, rfl⟩ := conclude_eq_ok_iff.mp h
  refine ⟨mergeLists (lists (arrivals ++ [late])),
    conclude_eq_ok_iff.mpr ⟨⟨a, List.mem_append_left _ ha, hok⟩, rfl⟩, ?_⟩
  cases hlate : late.results? with
  | none =>
    have hlists : lists (arrivals ++ [late]) = lists arrivals := by simp [lists, hlate]
    simp [hlists]
  | some results =>
    have hlists : lists (arrivals ++ [late]) = lists arrivals ++ [results] := by
      simp [lists, hlate]
    rw [hlists, mergeLists_isPrefix_concat_iff]
    rfl

end Federation

end TorrentSearch
