import Mathlib.Data.List.Forall2
import TorrentSearch.Proofs.Federation.Merge
import TorrentSearch.Proofs.Federation.Session
import TorrentSearch.Proofs.Search.Moments

/-!
# The arrivals of a search

Each fast source arrives once, with something that its check may bring, and in the order in which the
checks end.
-/

namespace TorrentSearch.Federation

open Search (Pool)

/-- The arrivals are those of the sources, each once, in whatever order: under the source's name and
with something that its check may bring. -/
def BroughtBy (sources : List Source) (attempts : Nat) (id : String) (arrived : List Arrival) : Prop :=
  ∃ inOrder : List Arrival, inOrder.Perm arrived ∧
    List.Forall₂ (fun source a => a.source = source.name ∧
      (source.run attempts id).MayBring a.outcome) sources inOrder

variable (f : Federation) (id : String) {s : Session}

private theorem task_launched {c : Nat × Source}
    (h : c ∈ (List.range' s.pool.fresh f.sources.length).zip f.sources) :
    (c.1, c.2.run f.settings.attempts id) ∈ (f.launched id s).tasks := by
  rw [launched, Pool.tasks_spawnAll, List.length_map, List.zip_map_right]
  exact List.mem_append_right _ (List.mem_map.mpr ⟨c, h, rfl⟩)

private theorem zip_sources :
    (List.range' s.pool.fresh f.sources.length).zip f.sources =
      (f.fastChecks s).zip f.fast ++ ([f.slowCheck s]).zip f.slow.toList := by
  cases h : f.slow with
  | none => simp [sources, h, fastChecks]
  | some source =>
    simp only [sources, h, Option.toList, List.length_append, List.length_singleton, fastChecks,
      slowCheck, List.range'_concat, Nat.one_mul]
    rw [List.zip_append (by simp)]

private theorem fst_zip_fast : ((f.fastChecks s).zip f.fast).map Prod.fst = f.fastChecks s :=
  List.map_fst_zip (by simp [fastChecks])

private theorem snd_zip_fast : ((f.fastChecks s).zip f.fast).map Prod.snd = f.fast :=
  List.map_snd_zip (by simp [fastChecks])

theorem mem_sources_of_fast {c : Nat × Source} (h : c ∈ (f.fastChecks s).zip f.fast) :
    c ∈ (List.range' s.pool.fresh f.sources.length).zip f.sources := by
  rw [zip_sources]
  exact List.mem_append_left _ h

/-- What a check of a search brings at its end, under the name of its source. -/
def brought? (s : Session) (c : Nat × Source) : Option Arrival :=
  (((f.launched id s).endOf c.1).outcome? c.1).map fun outcome => ⟨c.2.name, outcome⟩

/-- The fast checks of a search with their sources, each once and in the order in which they end: when one
of them does, those behind it are still under way. -/
structure EndingOrder (s : Session) (order : List (Nat × Source)) : Prop where
  perm : order.Perm ((f.fastChecks s).zip f.fast)
  ends : order.Pairwise fun c d => d.1 ∈ ((f.launched id s).endOf c.1).running

/-- The checks end in one order only. -/
theorem EndingOrder.unique {order order' : List (Nat × Source)} (h : f.EndingOrder id s order)
    (h' : f.EndingOrder id s order') (hs : s.Ready) : order = order' := by
  refine (h.perm.trans h'.perm.symm).eq_of_pairwise ?_ h.ends h'.ends
  exact fun c d _ _ hcd hdc =>
    absurd hdc ((f.sound_launched id hs.sound).not_running_endOf_of_running hcd)

theorem mayBring_of_brought? (h : s.Ready) {c : Nat × Source} {a : Arrival}
    (hc : c ∈ (List.range' s.pool.fresh f.sources.length).zip f.sources)
    (ha : f.brought? id s c = some a) :
    a.source = c.2.name ∧ (c.2.run f.settings.attempts id).MayBring a.outcome := by
  obtain ⟨outcome, houtcome, rfl⟩ := Option.map_eq_some_iff.mp ha
  exact ⟨rfl, Pool.Reaches.brings (Pool.reaches_endOf ..) (f.finished_launched_eq_nil id h)
    (f.nodup_launched id h) (task_launched f id hc) (Pool.mem_finished_of_outcome? houtcome)⟩

theorem passes_afterFast (h : s.Ready) (n : Nat) :
    Pool.Passes n ((f.launched id s).endOf n) (f.afterFast id s) := by
  have hpasses : Pool.Passes n ((f.launched id s).endOf n) (f.launched id s) := .refl _ _
  unfold afterFast awaitFast
  split
  · exact hpasses
  · exact hpasses.runUntil (f.sound_launched id h.sound) _ none

private theorem lookup_map_snd {β γ : Type} (g : β → γ) (l : List (Nat × β)) (n : Nat) :
    (l.map fun e => (e.1, g e.2)).lookup n = (l.lookup n).map g := by
  induction l with
  | nil => rfl
  | cons e l ih =>
    rw [List.map_cons, List.lookup_cons, List.lookup_cons, ih]
    cases n == e.1 <;> rfl

/-- The fast checks with their sources as they ended, one after another. -/
private def endings (s : Session) : List (Nat × Source) :=
  (f.afterFast id s).finished.filterMap fun e =>
    (((f.fastChecks s).zip f.fast).lookup e.1).map fun source => (e.1, source)

section

variable (h : s.Ready)

include h

private theorem nodup_finished_afterFast : ((f.afterFast id s).finished.map Prod.fst).Nodup :=
  (Pool.Reaches.continues (f.reaches_afterFast id s)).nodup_finished
    (f.finished_launched_eq_nil id h) (f.nodup_launched id h)

private theorem exists_outcome_fast {n : Nat} (hn : n ∈ f.fastChecks s) :
    ∃ outcome, (n, outcome) ∈ (f.afterFast id s).finished := by
  have hcontinues := Pool.Reaches.continues (f.reaches_afterFast id s)
  have hended := mt (hcontinues.outcome?_eq_none_iff (f.finished_launched_eq_nil id h)
    (f.nodup_launched id h) (f.fastChecks_subset_launched id hn)).mp (f.fast_ended id h.sound n hn)
  obtain ⟨outcome, heq⟩ := Option.ne_none_iff_exists'.mp hended
  exact ⟨outcome, Pool.mem_finished_of_outcome? heq⟩

private theorem endings_perm : (f.endings id s).Perm ((f.fastChecks s).zip f.fast) := by
  have hkeys : (((f.fastChecks s).zip f.fast).map Prod.fst).Nodup := by
    rw [fst_zip_fast]
    exact List.nodup_range' ..
  have honce : (f.endings id s).Nodup := by
    refine List.pairwise_filterMap.mpr
      ((List.pairwise_map.mp (f.nodup_finished_afterFast id h)).imp ?_)
    rintro e e' hne c hc c' hc' rfl
    obtain ⟨source, -, rfl⟩ := Option.map_eq_some_iff.mp hc
    obtain ⟨source', -, heq⟩ := Option.map_eq_some_iff.mp hc'
    exact hne (congrArg Prod.fst heq).symm
  refine (List.perm_ext_iff_of_nodup honce (List.Nodup.of_map _ hkeys)).mpr fun c => ?_
  rw [endings, List.mem_filterMap]
  constructor
  · rintro ⟨e, -, hc⟩
    obtain ⟨source, hlookup, rfl⟩ := Option.map_eq_some_iff.mp hc
    obtain ⟨front, back, hsplit, -⟩ := List.lookup_eq_some_iff.mp hlookup
    exact hsplit ▸ List.mem_append_right _ List.mem_cons_self
  · intro hc
    obtain ⟨outcome, hend⟩ := f.exists_outcome_fast id h (List.of_mem_zip hc).1
    exact ⟨(c.1, outcome), hend,
      Option.map_eq_some_iff.mpr ⟨c.2, Pool.lookup_of_mem hkeys hc, rfl⟩⟩

/-- The fast sources arrive in the order in which their checks end, each with what its check brings. -/
theorem fastArrivals_inOrder :
    ∃ order, f.EndingOrder id s order ∧
      order.map (f.brought? id s) = (f.fastArrivals id s).map some := by
  obtain ⟨hinOrder, houtcome⟩ := (f.sound_launched id h.sound).endings_in_order
    (f.finished_launched_eq_nil id h) (f.reaches_afterFast id s)
    fun n hn => (f.passes_afterFast id h n).past hn
  refine ⟨f.endings id s, ⟨f.endings_perm id h, ?_⟩, ?_⟩
  · refine List.pairwise_filterMap.mpr (hinOrder.imp ?_)
    rintro e e' hends c hc c' hc'
    obtain ⟨source, -, rfl⟩ := Option.map_eq_some_iff.mp hc
    obtain ⟨source', -, rfl⟩ := Option.map_eq_some_iff.mp hc'
    exact hends
  · unfold endings fastArrivals arrivals
    rw [List.map_filterMap, List.map_filterMap]
    refine List.filterMap_congr fun e he => ?_
    have hnames : ((f.fastChecks s).zip (f.fast.map (·.name))).lookup e.1 =
        (((f.fastChecks s).zip f.fast).lookup e.1).map (·.name) := by
      rw [List.zip_map_right]
      exact lookup_map_snd (fun source : Source => source.name) _ e.1
    cases hlookup : ((f.fastChecks s).zip f.fast).lookup e.1 with
    | none => simp only [hnames, hlookup, Option.map_none]
    | some source => simp only [hnames, hlookup, Option.map_some, brought?, houtcome e he]

end

private theorem forall₂_filterMap {α β γ : Type} {P : β → γ → Prop} {g : α × β → Option γ}
    {l : List (α × β)} (h : ∀ c ∈ l, ∃ a, g c = some a ∧ P c.2 a) :
    List.Forall₂ P (l.map Prod.snd) (l.filterMap g) := by
  induction l with
  | nil => exact .nil
  | cons c l ih =>
    obtain ⟨a, ha, hP⟩ := h c List.mem_cons_self
    rw [List.map_cons, List.filterMap_cons_some ha]
    exact .cons hP (ih fun d hd => h d (List.mem_cons_of_mem _ hd))

theorem fastArrivals_broughtBy (h : s.Ready) :
    BroughtBy f.fast f.settings.attempts id (f.fastArrivals id s) := by
  obtain ⟨order, horder, hbrought⟩ := f.fastArrivals_inOrder id h
  have harrived : order.filterMap (f.brought? id s) = f.fastArrivals id s := by
    have hall := congrArg (List.filterMap fun a => a) hbrought
    simpa [List.filterMap_map] using hall
  have hperm := horder.perm.symm.filterMap (f.brought? id s)
  rw [harrived] at hperm
  refine ⟨_, hperm, ?_⟩
  have hforall : List.Forall₂ (fun source a => a.source = source.name ∧
        (source.run f.settings.attempts id).MayBring a.outcome)
      (((f.fastChecks s).zip f.fast).map Prod.snd)
      (((f.fastChecks s).zip f.fast).filterMap (f.brought? id s)) := by
    refine forall₂_filterMap fun c hc => ?_
    have hmem : f.brought? id s c ∈ (f.fastArrivals id s).map some :=
      hbrought ▸ List.mem_map_of_mem (horder.perm.mem_iff.mpr hc)
    obtain ⟨a, -, ha⟩ := List.mem_map.mp hmem
    exact ⟨a, ha.symm, f.mayBring_of_brought? id h (mem_sources_of_fast f hc) ha.symm⟩
  rwa [snd_zip_fast] at hforall

theorem fastArrivals_eq_nil_iff (h : s.Ready) : f.fastArrivals id s = [] ↔ f.fast = [] := by
  obtain ⟨inOrder, hperm, hforall⟩ := f.fastArrivals_broughtBy id h
  have hlength : (f.fastArrivals id s).length = f.fast.length :=
    hperm.length_eq.symm.trans hforall.length_eq.symm
  rw [← List.length_eq_zero_iff, hlength, List.length_eq_zero_iff]

end TorrentSearch.Federation
