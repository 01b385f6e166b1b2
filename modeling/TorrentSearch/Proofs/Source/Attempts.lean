import Mathlib.Data.ENat.Lattice
import TorrentSearch.Proofs.Source.CheckPaths

/-!
# Attempts

A check fetches until a fetch succeeds or the attempts are used up, not once more and not once less.
It looks into the cache once, before the first fetch, and changes it only after a success.
-/

namespace TorrentSearch.Source.Yts

open Search (Act Pool Shared)
open Search.Work (Path)

/-- The place, counted from one, of the first success in a sequence of outcomes; infinite if none of them
is a success. -/
noncomputable def firstSuccess (f : ℕ → Outcome) : ℕ∞ :=
  open Classical in if h : ∃ i, (f i).isOk = true then ((Nat.find h + 1 : ℕ) : ℕ∞) else ⊤

theorem firstSuccess_of_ok {f : ℕ → Outcome} (h : (f 0).isOk = true) : firstSuccess f = 1 := by
  have hsome : ∃ i, (f i).isOk = true := ⟨0, h⟩
  have hfirst : Nat.find hsome = 0 := (Nat.find_eq_zero hsome).mpr h
  simp [firstSuccess, hsome, hfirst]

theorem firstSuccess_of_error {f : ℕ → Outcome} (h : ¬ (f 0).isOk = true) :
    firstSuccess f = firstSuccess (fun i => f (i + 1)) + 1 := by
  unfold firstSuccess
  by_cases hlater : ∃ i, (f (i + 1)).isOk = true
  · have hsome : ∃ i, (f i).isOk = true := by
      obtain ⟨i, hi⟩ := hlater
      exact ⟨i + 1, hi⟩
    have hnext : Nat.find hsome = Nat.find hlater + 1 := Nat.find_comp_succ hsome hlater h
    rw [dif_pos hsome, dif_pos hlater, hnext]
    rfl
  · have hnone : ¬ ∃ i, (f i).isOk = true := by
      rintro ⟨i, hi⟩
      cases i with
      | zero => exact h hi
      | succ i => exact hlater ⟨i, hi⟩
    rw [dif_neg hnone, dif_neg hlater]
    rfl

theorem one_le_firstSuccess (f : ℕ → Outcome) : 1 ≤ firstSuccess f := by
  unfold firstSuccess
  split <;> simp

namespace Access

variable {acts : List Act}

theorem Tries.ne_nil {fetch : List Act → Outcome → Prop} {more : Nat}
    {fetches : List (List Act × Outcome)} {outcome : Outcome} (h : Tries fetch more fetches outcome) :
    fetches ≠ [] := by
  cases h <;> simp

/-- Tries stop at the first success, or when they are used up, and bring what the last fetch brought. -/
theorem Tries.length_eq {fetch : List Act → Outcome → Prop} {more : Nat}
    {fetches : List (List Act × Outcome)} {outcome : Outcome} (h : Tries fetch more fetches outcome)
    {f : ℕ → Outcome} (hf : ∀ i e, fetches[i]? = some e → e.2 = f i) :
    (fetches.length : ℕ∞) = min (firstSuccess f) (more + 1 : ℕ) ∧
      outcome = f (fetches.length - 1) ∧
      (outcome.isOk = true ↔ firstSuccess f ≤ (more + 1 : ℕ)) := by
  induction h generalizing f with
  | @succeeds more acts results h =>
    have hfirst : .ok results = f 0 := hf 0 _ rfl
    have hone : firstSuccess f = 1 := firstSuccess_of_ok (by rw [← hfirst]; rfl)
    exact ⟨by simp [hone], hfirst, by simp [hone, Except.isOk, Except.toBool]⟩
  | @givesUp acts e h =>
    have hfirst : .error e = f 0 := hf 0 _ rfl
    have hlater := firstSuccess_of_error (f := f) (by rw [← hfirst]; exact Bool.false_ne_true)
    have hmore := one_le_firstSuccess fun i => f (i + 1)
    rw [hlater]
    cases hk : firstSuccess fun i => f (i + 1) with
    | top => exact ⟨by simp, hfirst, by simp [Except.isOk, Except.toBool]⟩
    | coe k =>
      rw [hk] at hmore
      norm_cast at hmore ⊢
      refine ⟨by simp, hfirst, ?_⟩
      simp only [Except.isOk, Except.toBool, Bool.false_eq_true, false_iff]
      omega
  | @again more acts e rest outcome h hrest ih =>
    have hfirst : .error e = f 0 := hf 0 _ rfl
    have hlater := firstSuccess_of_error (f := f) (by rw [← hfirst]; exact Bool.false_ne_true)
    obtain ⟨hlength, hlast, hok⟩ := ih fun i e he => hf (i + 1) e (by simpa using he)
    have hnext : outcome = f (rest.length - 1 + 1) := hlast
    rw [Nat.sub_add_cancel (List.length_pos_of_ne_nil hrest.ne_nil)] at hnext
    refine ⟨?_, hnext, ?_⟩
    · rw [hlater, List.length_cons, Nat.cast_succ, hlength, Nat.cast_succ (more + 1), min_add_add_right]
    · rw [hok, hlater, Nat.cast_succ (more + 1)]
      exact (ENat.add_le_add_iff_right ENat.one_ne_top).symm

theorem path_checkUpTo {E : Shared → Shared → Prop} {a : Access} {count : Nat} {id : String}
    (hid : Text.isBlankText id = false) {s t : Shared} {outcome : Outcome}
    (h : Path E (a.checkUpTo count id) s acts outcome t) :
    Path E (timed name (answeredBy (cached id name a.maxAge) (a.checkLive count id))) s acts outcome t := by
  rwa [checkUpTo, validateIdentifier_eq_ok_iff.mpr hid] at h

/-- A check of a text that is no blank comes to its end in every pool, whatever the network and the other
checks do. It looks into the cache once, before anything else, and a fresh entry is its answer; then it
fetches nothing. Otherwise it fetches as often as it takes to succeed, but at most as often as it may,
and at least once. Its answer is that of the last fetch, and the cache is changed once after a success,
and never else. -/
theorem checkUpTo_fetches (a : Access) (count : Nat) {id : String} (hid : Text.isBlankText id = false)
    {p : Pool} (hp : p.Sound) (hnew : p.fresh ∉ p.finished.map Prod.fst) (foreground : Bool) :
    (∃ acts outcome, p.Brings foreground (a.checkUpTo count id) acts outcome
      (p.spawn foreground (a.checkUpTo count id)).1.atEnd) ∧
    ∀ acts outcome q, p.Brings foreground (a.checkUpTo count id) acts outcome q →
      ∃ s middle t duration,
        acts = .changed s (s.lookup id name a.maxAge).2 ::
          (middle ++ [.changed t (t.count (·.observeCheck name outcome.isOk duration))]) ∧
        match (s.lookup id name a.maxAge).1.hit? with
        | some results => outcome = .ok results ∧ middle = []
        | none => ∃ (fetches : List (List Act × Outcome)) (u : Shared),
          middle = fetches.flatMap Prod.fst ++ storing id u outcome ∧
          (∀ fetch ∈ fetches, a.Fetch id fetch.1 fetch.2 ∧
            ∃ reply, fetch.1 = (requested? (a.searchUrl id)).toList.map fun url => .requested url reply) ∧
          ∀ f : ℕ → Outcome, (∀ i fetch, fetches[i]? = some fetch → fetch.2 = f i) →
            (fetches.length : ℕ∞) = min (firstSuccess f) (max count 1 : ℕ) ∧
            (∀ k : ℕ, firstSuccess f = k → k ≤ max count 1 →
              ∃ results, f (k - 1) = .ok results ∧ outcome = .ok results) ∧
            ((max count 1 : ℕ) < firstSuccess f →
              ∃ e, f (max count 1 - 1) = .error e ∧ outcome = .error e) := by
  have hplain := a.plain_checkUpTo count id
  refine ⟨hp.brings hnew hplain.sturdy hplain.orderly foreground, fun acts outcome q hq => ?_⟩
  obtain ⟨s, t, -, hpath, -⟩ := hq.path hp hnew hplain.sturdy hplain.orderly (Pool.around_any _ _)
  obtain ⟨middle, u, duration, hanswered, rfl, rfl⟩ := path_check (path_checkUpTo hid hpath)
  refine ⟨s, middle, u, duration, rfl, ?_⟩
  cases hanswered with
  | served hhit =>
    rw [hhit]
    exact ⟨rfl, rfl⟩
  | live hmiss hlive =>
    rw [hmiss]
    obtain ⟨fetches, v, htries, rfl, -⟩ := path_checkLive hlive
    refine ⟨fetches, v, rfl, fun fetch hfetch => ?_, fun f hf => ?_⟩
    · have h := htries.forall_fetch fetch hfetch
      exact ⟨h, h.requests⟩
    · obtain ⟨hlength, hlast, hok⟩ := htries.length_eq hf
      have hcount : count - 1 + 1 = max count 1 := by omega
      rw [hcount] at hlength hok
      refine ⟨hlength, fun k hk hle => ?_, fun hlt => ?_⟩
      · have hcast : firstSuccess f ≤ (max count 1 : ℕ) := hk ▸ Nat.cast_le.mpr hle
        rw [min_eq_left hcast, hk, Nat.cast_inj] at hlength
        rw [hlength] at hlast
        cases outcome with
        | ok results => exact ⟨results, hlast.symm, rfl⟩
        | error e => exact absurd (hok.mpr hcast) Bool.false_ne_true
      · rw [min_eq_right hlt.le, Nat.cast_inj] at hlength
        rw [hlength] at hlast
        cases outcome with
        | ok results => exact absurd (hok.mp rfl) (not_le.mpr hlt)
        | error e => exact ⟨e, hlast.symm, rfl⟩

/-- The first of three fetches is dropped, the second one brings a response without films. -/
theorem checkUpTo_fetches_of_second :
    let empty := "\x7b\"status\":\"ok\",\"data\":\x7b\"movie_count\":0\x7d\x7d"
    let network : Http.Network := ⟨fun earlier _ => some ⟨some 5,
      if earlier.isEmpty then .dropped else .response (.ofBody 200 (Text.Utf8.encode empty))⟩⟩
    let a : Access := ⟨"http://[::1]".toList, 1000, .ofSeconds 60⟩
    let p := Pool.idle (.start .epoch (.empty 1000) network [])
    let q := (p.spawn true (a.checkUpTo 3 "tt")).1.atEnd
    Text.isBlankText "tt" = false ∧ p.Sound ∧ p.fresh ∉ p.finished.map Prod.fst ∧
      q.shared.requests.length = 2 ∧ q.finished = [(0, .ok [])] ∧
      ∃ acts, p.Brings true (a.checkUpTo 3 "tt") acts (.ok []) q ∧
        ∃ (s t : Shared) (middle : List Act) (duration : Nat),
          acts = .changed s (s.lookup "tt" name a.maxAge).2 ::
            (middle ++ [.changed t (t.count (·.observeCheck name true duration))]) := by
  intro empty network a p q
  have hid : Text.isBlankText "tt" = false := by decide
  have hnew : p.fresh ∉ p.finished.map Prod.fst := List.not_mem_nil
  have hend : ((p.spawn true (a.checkUpTo 3 "tt")).1.runWithin (fun _ => false) none 10).map
      (fun q => (q.shared.requests.length, q.finished)) = some (2, [(0, .ok [])]) := by
    decide +kernel
  obtain ⟨q', hrun, heq⟩ := Option.map_eq_some_iff.mp hend
  obtain rfl : q = q' := Pool.runUntil_of_runWithin hrun
  obtain ⟨hrequests, hfinished⟩ := Prod.mk.inj heq
  obtain ⟨⟨acts, outcome, hbrings⟩, hall⟩ :=
    checkUpTo_fetches a 3 hid (Pool.sound_idle _) hnew true (p := p)
  have hmem : (0, outcome) ∈ q.finished := hbrings.2
  rw [hfinished, List.mem_singleton] at hmem
  obtain rfl : outcome = .ok [] := (Prod.mk.inj hmem).2
  obtain ⟨s, middle, t, duration, hacts, -⟩ := hall acts _ q hbrings
  exact ⟨hid, Pool.sound_idle _, hnew, hrequests, hfinished, acts, hbrings, s, t, middle, duration,
    hacts⟩

end Access

end TorrentSearch.Source.Yts
