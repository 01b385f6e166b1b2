import TorrentSearch.Proofs.Federation.Session
import TorrentSearch.Proofs.Search.Company

/-!
# Arrivals of checks in company

What the checks of a search promise each other holds of its arrivals when the waiting is over.
-/

namespace TorrentSearch.Federation

open Search (Pool Shared Terms)
open Search.Work (Leads)

section

variable (f : Federation) (id : String) {s : Session}

/-- The name of the source whose check has a number. -/
def nameOf (s : Session) (n : Nat) : String :=
  ((f.sources.map (·.name))[n - s.pool.fresh]?).getD ""

theorem map_nameOf :
    (List.range' s.pool.fresh f.sources.length).map (f.nameOf s) = f.sources.map (·.name) := by
  apply List.ext_getElem (by simp)
  intro n h h'
  have hn : n < f.sources.length := by simpa using h'
  simp [nameOf, hn]

theorem nameOf_of_mem_zip {n : Nat} {name : String}
    (h : (n, name) ∈
      (List.range' s.pool.fresh f.sources.length).zip (f.sources.map (·.name))) :
    f.nameOf s n = name := by
  obtain ⟨k, hk, heq⟩ := List.mem_iff_getElem.mp h
  rw [List.getElem_zip, Prod.mk.injEq, List.getElem_range', List.getElem_map] at heq
  obtain ⟨rfl, rfl⟩ := heq
  have hlength : k < f.sources.length := by simpa using hk
  simp [nameOf, hlength]

theorem nameOf_of_lookup {n : Nat} {name : String}
    (h : ((f.fastChecks s).zip (f.fast.map (·.name))).lookup n = some name) :
    f.nameOf s n = name := by
  obtain ⟨front, back, hsplit, -⟩ := List.lookup_eq_some_iff.mp h
  refine f.nameOf_of_mem_zip ?_
  rw [sources, List.length_append, List.map_append, ← List.range'_append_1,
    List.zip_append (by simp)]
  refine List.mem_append_left _ ?_
  change _ ∈ (f.fastChecks s).zip _
  rw [hsplit]
  exact List.mem_append_right _ List.mem_cons_self

variable (T : Terms String) (post : String → Source.Outcome → Shared → Prop)

/-- The checks of a search that begins when no other check is under way are together. -/
theorem together_launched (hs : s.Ready) (hidle : s.pool.jobs = [])
    (hnames : (f.sources.map (·.name)).Nodup)
    (hworks : ∀ source ∈ f.sources, ∀ t, T.rely source.name s.pool.shared t →
      Leads T source.name (post source.name) (source.run f.settings.attempts id) t) :
    (f.launched id s).Together T post (f.nameOf s) := by
  refine Pool.Together.spawnAll hidle hs.finished false ?_ fun t ht => ?_
  · rw [List.length_map, map_nameOf]
    exact hnames
  · rw [List.length_map, List.zip_map_right] at ht
    obtain ⟨⟨n, source⟩, hmem, rfl⟩ := List.mem_map.mp ht
    have hname : f.nameOf s n = source.name := by
      refine f.nameOf_of_mem_zip ?_
      rw [List.zip_map_right]
      exact List.mem_map.mpr ⟨_, hmem, rfl⟩
    simp only [Prod.map, id_eq]
    rw [hname]
    exact hworks source (List.of_mem_zip hmem).2

/-- What is asked of the outcomes of all checks holds of the arrivals when the waiting is over. -/
theorem post_of_arrival
    (hstable : ∀ name outcome s t, post name outcome s → T.rely name s t → post name outcome t)
    (hlaunched : (f.launched id s).Together T post (f.nameOf s)) {a : Arrival}
    (ha : a ∈ f.fastArrivals id s ++ (f.slowArrival? id s).toList) :
    post a.source a.outcome (f.afterGrace id s).shared := by
  have hend := hlaunched.reaches hstable (f.reaches_of_launched id s)
  have hpost {n : Nat} {outcome : Source.Outcome} (hmem : (n, outcome) ∈ (f.afterGrace id s).finished) :
      post (f.nameOf s n) outcome (f.afterGrace id s).shared :=
    hend.finished _ hmem _ (T.refl _ _)
  rcases List.mem_append.mp ha with ha | ha
  · obtain ⟨⟨n, outcome⟩, hmem, harrival⟩ := List.mem_filterMap.mp ha
    obtain ⟨name, hname, rfl⟩ := Option.map_eq_some_iff.mp harrival
    obtain ⟨ended, hfinished, -⟩ := Pool.Reaches.continues (f.reaches_afterGrace id s)
    have hnumber : f.nameOf s n = name := f.nameOf_of_lookup hname
    rw [← hnumber]
    refine hpost ?_
    rw [hfinished]
    exact List.mem_append_left _ hmem
  · obtain ⟨source, hslow, harrival⟩ := Option.bind_eq_some_iff.mp (Option.mem_toList.mp ha)
    obtain ⟨outcome, houtcome, rfl⟩ := Option.map_eq_some_iff.mp harrival
    have hnumber : f.nameOf s (f.slowCheck s) = source.name := by
      simp [nameOf, slowCheck, sources, hslow]
    rw [← hnumber]
    exact hpost (Pool.mem_finished_of_outcome? houtcome)

end

end TorrentSearch.Federation
