import TorrentSearch.Proofs.Federation.Asking

/-!
# Sessions

Whatever is done with a session, between two calls all its checks wait in order and nothing that
ended checks brought is left over for a later call.
-/

namespace TorrentSearch.Federation

open Search (Pool)

namespace Session

/-- The sessions that calls lead to, whatever changes meanwhile in what is shared. -/
inductive Reachable : Session → Prop where
  | start (shared : Search.Shared) : Reachable (start shared)
  | change {s : Session} (h : Reachable s) (f : Search.Shared → Search.Shared) :
      Reachable (s.change f)
  | find {s : Session} (h : Reachable s) (f : Federation) (id : String) : Reachable (f.find id s).2
  | checkAll {s : Session} (h : Reachable s) (works : List (Search.Work Source.Outcome))
      (hworks : ∀ work ∈ works, work.Orderly none) : Reachable (s.checkAll works).2
  | sleep {s : Session} (h : Reachable s) (millis : Nat) : Reachable (s.sleep millis)
  | settle {s : Session} (h : Reachable s) : Reachable s.settle.2

/-- All checks wait in order, and what ended checks brought is forgotten. -/
structure Ready (s : Session) : Prop where
  sound : s.pool.Sound
  finished : s.pool.finished = []

/-- Neither what is shared nor what ended checks brought matters for the order of the others. -/
theorem ready_of_sound {p : Pool} (h : p.Sound) (shared : Search.Shared)
    (background : List (String × Nat)) :
    Ready { pool := { p with shared := shared, finished := [] }, background := background } := by
  obtain ⟨grip, h⟩ := h
  exact ⟨⟨grip, { h with }⟩, rfl⟩

theorem ready_start (shared : Search.Shared) : (start shared).Ready :=
  ⟨Pool.sound_idle shared, rfl⟩

variable {s : Session}

theorem Ready.change (h : s.Ready) (f : Search.Shared → Search.Shared) : (s.change f).Ready := by
  obtain ⟨⟨grip, hsound⟩, hfinished⟩ := h
  exact ⟨⟨grip, { hsound with }⟩, hfinished⟩

theorem Ready.checkAll (h : s.Ready) {works : List (Search.Work Source.Outcome)}
    (hworks : ∀ work ∈ works, work.Orderly none) : (s.checkAll works).2.Ready :=
  ready_of_sound ((Pool.reaches_runUntil _ _ _).sound (Pool.sound_spawnAll true hworks h.sound)) _ _

theorem Ready.sleep (h : s.Ready) (millis : Nat) : (s.sleep millis).Ready :=
  ready_of_sound ((Pool.reaches_runUntil _ _ _).sound h.sound) _ _

theorem snd_settle (s : Session) :
    s.settle.2 = Session.forget
      ⟨s.pool.runUntil (fun p => s.background.all fun b => !p.isRunning b.2) none, []⟩ :=
  rfl

theorem Ready.settle (h : s.Ready) : s.settle.2.Ready :=
  ready_of_sound ((Pool.reaches_runUntil _ _ _).sound h.sound) _ _

theorem Ready.find (h : s.Ready) (f : Federation) (id : String) : (f.find id s).2.Ready := by
  unfold Federation.find
  split
  · exact h
  · split
    · exact h
    · obtain ⟨count, heq⟩ := f.snd_ask id s
      rw [heq]
      exact ready_of_sound (f.sound_afterGrace id h.sound) _ _

theorem Reachable.ready (h : s.Reachable) : s.Ready := by
  induction h with
  | start shared => exact ready_start shared
  | change _ f ih => exact ih.change f
  | find _ f id ih => exact ih.find f id
  | checkAll _ works hworks ih => exact ih.checkAll hworks
  | sleep _ millis ih => exact ih.sleep millis
  | settle _ ih => exact ih.settle

end Session

variable (f : Federation) (id : String) {s : Session}

theorem nodup_launched (h : s.Ready) : (f.launched id s).running.Nodup :=
  (f.sound_launched id h.sound).nodup

theorem finished_launched_eq_nil (h : s.Ready) : (f.launched id s).finished = [] := by
  rw [finished_launched, h.finished]

theorem slowCheck_mem_launched {source : Source} (hslow : f.slow = some source) :
    f.slowCheck s ∈ (f.launched id s).running := by
  rw [running_launched]
  refine List.mem_append_right _ ?_
  simp [slowCheck, sources, hslow, List.mem_range'_1]

theorem fastChecks_subset_launched : f.fastChecks s ⊆ (f.launched id s).running := by
  intro n hn
  rw [running_launched]
  refine List.mem_append_right _ ?_
  simp only [fastChecks, List.mem_range'_1, sources, List.length_append] at hn ⊢
  omega

/-- The slow source brought nothing in time if and only if its check is still under way. -/
theorem slowArrival?_eq_none_iff (h : s.Ready) {source : Source} (hslow : f.slow = some source) :
    f.slowArrival? id s = none ↔ f.slowCheck s ∈ (f.afterGrace id s).running := by
  have hcontinues := Pool.Reaches.continues (f.reaches_of_launched id s)
  rw [← hcontinues.outcome?_eq_none_iff (f.finished_launched_eq_nil id h) (f.nodup_launched id h)
    (f.slowCheck_mem_launched id hslow)]
  simp [slowArrival?, hslow]

end TorrentSearch.Federation
