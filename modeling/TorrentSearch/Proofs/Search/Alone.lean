import TorrentSearch.Proofs.Search.Progress
import TorrentSearch.Search.Orderly

/-!
# Work by itself

What some work does if nothing else happens meanwhile than that time goes by. In a pool, work that has
nothing to do with locks does the same from one wait to the next.
-/

namespace TorrentSearch.Search

namespace Shared

/-- Time went by between two states, and nothing else happened. The wall clock may have been set. -/
def Meanwhile (s t : Shared) : Prop := t = { s with now := t.now, elapsed := t.elapsed }

variable {s t u : Shared}

theorem Meanwhile.refl (s : Shared) : s.Meanwhile s := rfl

theorem Meanwhile.trans (h : s.Meanwhile t) (h' : t.Meanwhile u) : s.Meanwhile u := by
  unfold Meanwhile at h h' ⊢
  rw [h', h]

theorem meanwhile_elapsed (s : Shared) (elapsed : Nat) :
    s.Meanwhile { s with elapsed := elapsed } := rfl

theorem Meanwhile.cache_eq (h : s.Meanwhile t) : t.cache = s.cache := by
  rw [h]

theorem Meanwhile.requests_eq (h : s.Meanwhile t) : t.requests = s.requests := by
  rw [h]

theorem Meanwhile.network_eq (h : s.Meanwhile t) : t.network = s.network := by
  rw [h]

end Shared

namespace Work

variable {α β : Type}

/-- The work leads by itself from the first state to an answer and the second state. -/
inductive Alone : Work α → Shared → α → Shared → Prop where
  | done (a : α) (s : Shared) : Alone (.done a) s a s
  | look {next : Shared → Work α} {s t : Shared} {a : α} (h : Alone (next s) s a t) :
      Alone (.look next) s a t
  | change {f : Shared → Shared} {next : Work α} {s t : Shared} {a : α} (h : Alone next (f s) a t) :
      Alone (.change f next) s a t
  | pause (millis : Nat) {next : Work α} {s s' t : Shared} {a : α} (hs : s.Meanwhile s')
      (h : Alone next s' a t) : Alone (.pause millis next) s a t
  | request {url : String} {timeout : Nat} {next : Http.Reply → Work α} {s s' t : Shared} {a : α}
      (hs : (s.request url timeout).2.Meanwhile s')
      (h : Alone (next (s.request url timeout).1.2) s' a t) :
      Alone (.request url timeout next) s a t
  | acquire (lock : String) {next : Work α} {s t : Shared} {a : α} (h : Alone next s a t) :
      Alone (.acquire lock next) s a t
  | release (lock : String) {next : Work α} {s t : Shared} {a : α} (h : Alone next s a t) :
      Alone (.release lock next) s a t

namespace Alone

theorem bind {w : Work α} {f : α → Work β} {s t u : Shared} {a : α} {b : β} (hw : Alone w s a t)
    (hf : Alone (f a) t b u) : Alone (w >>= f) s b u := by
  change Alone (Work.bind w f) s b u
  induction hw with
  | done a s => exact hf
  | look _ ih => exact .look (ih hf)
  | change _ ih => exact .change (ih hf)
  | pause millis hs _ ih => exact .pause millis hs (ih hf)
  | request hs _ ih => exact .request hs (ih hf)
  | acquire lock _ ih => exact .acquire lock (ih hf)
  | release lock _ ih => exact .release lock (ih hf)

theorem of_bind {w : Work α} {f : α → Work β} {s u : Shared} {b : β}
    (h : Alone (w >>= f) s b u) : ∃ a t, Alone w s a t ∧ Alone (f a) t b u := by
  change Alone (Work.bind w f) s b u at h
  induction w generalizing s with
  | done a => exact ⟨a, s, .done a s, h⟩
  | crash text => cases h
  | look next ih =>
    cases h with
    | look h =>
      obtain ⟨a, t, hw, hf⟩ := ih s h
      exact ⟨a, t, .look hw, hf⟩
  | change f next ih =>
    cases h with
    | change h =>
      obtain ⟨a, t, hw, hf⟩ := ih h
      exact ⟨a, t, .change hw, hf⟩
  | pause millis next ih =>
    cases h with
    | pause _ hs h =>
      obtain ⟨a, t, hw, hf⟩ := ih h
      exact ⟨a, t, .pause millis hs hw, hf⟩
  | request url timeout next ih =>
    cases h with
    | request hs h =>
      obtain ⟨a, t, hw, hf⟩ := ih _ h
      exact ⟨a, t, .request hs hw, hf⟩
  | acquire lock next ih =>
    cases h with
    | acquire _ h =>
      obtain ⟨a, t, hw, hf⟩ := ih h
      exact ⟨a, t, .acquire lock hw, hf⟩
  | release lock next ih =>
    cases h with
    | release _ h =>
      obtain ⟨a, t, hw, hf⟩ := ih h
      exact ⟨a, t, .release lock hw, hf⟩

theorem of_pure {a b : α} {s t : Shared} (h : Alone (pure a) s b t) : b = a ∧ t = s := by
  cases h with
  | done a s => exact ⟨rfl, rfl⟩

theorem of_update {f : Shared → Shared} {s t : Shared} {a : Unit} (h : Alone (update f) s a t) :
    t = f s := by
  cases h with
  | change h =>
    cases h with
    | done a s => rfl

theorem of_consult {f : Shared → α × Shared} {s t : Shared} {a : α} (h : Alone (consult f) s a t) :
    a = (f s).1 ∧ t = (f s).2 := by
  cases h with
  | look h =>
    cases h with
    | change h =>
      cases h with
      | done a s => exact ⟨rfl, rfl⟩

theorem of_wait {millis : Nat} {s t : Shared} {a : Unit} (h : Alone (wait millis) s a t) :
    s.Meanwhile t := by
  cases h with
  | pause _ hs h =>
    cases h with
    | done a s => exact hs

theorem of_locked {lock : String} {w : Work α} {s t : Shared} {a : α}
    (h : Alone (locked lock w) s a t) : Alone w s a t := by
  cases h with
  | acquire _ h =>
    obtain ⟨b, u, hw, hback⟩ := of_bind h
    cases hback with
    | release _ hdone =>
      cases hdone with
      | done a s => exact hw

theorem locked {w : Work α} {s t : Shared} {a : α} (lock : String) (h : Alone w s a t) :
    Alone (Work.locked lock w) s a t :=
  .acquire lock (h.bind (.release lock (.done a t)))

end Alone

end Work

namespace Pool

open Work (Alone)

variable {α : Type}

/-- What becomes of a pool when the check in place `i` goes on with some work that has more work behind
it: the work comes to its end, or the check waits with a part of it. The check does what the work does
by itself. -/
inductive Stretch (p q : Pool) (i : Nat) (w : Work α) (next : α → Work Source.Outcome) : Prop where
  | ends {a : α} {t : Shared} (halone : Alone w p.shared a t)
      (hq : q = run i (next a) { p with shared := t })
  | waits {v : Work α} {s : Shared} {phase : Nat → Phase} (hplain : v.Plain)
      (hphase : ∀ turn, ∃ moment, phase turn = .due moment turn)
      (halone : ∀ s' a t, s.Meanwhile s' → Alone v s' a t → Alone w p.shared a t)
      (hq : q = park { p with shared := s } i phase (Work.bind v next))

theorem stretch_run {w : Work α} (hw : w.Plain) (next : α → Work Source.Outcome) (p : Pool) (i : Nat) :
    Stretch p (p.run i (Work.bind w next)) i w next := by
  induction hw generalizing p with
  | done a => exact .ends (.done a p.shared) rfl
  | @look rest _ ih =>
    cases ih p.shared p with
    | ends halone hq => exact .ends (.look halone) hq
    | waits hplain hphase halone hq =>
      exact .waits hplain hphase (fun s' a t hs h => .look (halone s' a t hs h)) hq
  | change f _ ih =>
    cases ih { p with shared := f p.shared } with
    | ends halone hq => exact .ends (.change halone) hq
    | waits hplain hphase halone hq =>
      exact .waits hplain hphase (fun s' a t hs h => .change (halone s' a t hs h)) hq
  | pause millis hnext ih =>
    simp only [Work.bind, run]
    split
    · cases ih p with
      | ends halone hq => exact .ends (.pause millis (.refl _) halone) hq
      | waits hplain hphase halone hq =>
        exact .waits hplain hphase
          (fun s' a t hs h => .pause millis (.refl _) (halone s' a t hs h)) hq
    · exact .waits hnext (fun turn => ⟨_, rfl⟩) (fun s' a t hs h => .pause millis hs h) rfl
  | request url timeout hnext ih =>
    exact .waits (hnext _) (fun turn => ⟨_, rfl⟩) (fun s' a t hs h => .request hs h) rfl

end Pool

end TorrentSearch.Search
