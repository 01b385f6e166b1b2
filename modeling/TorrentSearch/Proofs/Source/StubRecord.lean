import TorrentSearch.Proofs.Search.Sparing
import TorrentSearch.Proofs.Source.Remembered

/-!
# Records of stubs

A stub records each check when it begins and counts it when it comes to its end. Whatever happens in
between, every check that was asked for is recorded or has yet to begin, and every recorded one is
counted or still under way.
-/

namespace TorrentSearch.Source

open Search (Shared Terms Work Pool)
open Search.Work (Leads Spares)

/-- What the stubs recorded and counted, in the order of their places. -/
def records (s : Shared) : List (List (String × Nat) × Nat) :=
  s.stubs.map fun stub => (stub.checks, stub.completed)

theorem records_changeStub {i : Nat} {f : Stub → Stub}
    {g : List (String × Nat) × Nat → List (String × Nat) × Nat}
    (h : ∀ stub, ((f stub).checks, (f stub).completed) = g (stub.checks, stub.completed))
    (s : Shared) : records (s.changeStub i f) = (records s).modify i g := by
  unfold records Shared.changeStub
  apply List.ext_getElem?
  intro n
  simp only [List.getElem?_map, List.getElem?_modify]
  split <;> simp [h, Option.map_map, Function.comp_def]

theorem records_lookup (id name : String) (maxAge : Time.Span) (s : Shared) :
    records (s.lookup id name maxAge).2 = records s := by
  rw [records, Shared.lookup, records]

theorem records_store (id name : String) (results : List Torrent) (s : Shared) :
    records (s.store id name results) = records s := by
  rw [records, Shared.store, records]

namespace Stub

theorem attempt_record (stub : Stub) :
    stub.attempt.2.checks = stub.checks ∧ stub.attempt.2.completed = stub.completed := by
  unfold attempt
  split <;> exact ⟨rfl, rfl⟩

theorem attempts_record (stub : Stub) (more : Nat) :
    (stub.attempts more).2.checks = stub.checks ∧
      (stub.attempts more).2.completed = stub.completed := by
  induction more generalizing stub with
  | zero => exact stub.attempt_record
  | succ more ih =>
    obtain ⟨hchecks, hcompleted⟩ := stub.attempt_record
    unfold attempts
    split
    · rename_i results s hattempt
      rw [hattempt] at hchecks hcompleted
      exact ⟨hchecks, hcompleted⟩
    · rename_i e s hattempt
      rw [hattempt] at hchecks hcompleted
      obtain ⟨hchecks', hcompleted'⟩ := ih s
      exact ⟨hchecks'.trans hchecks, hcompleted'.trans hcompleted⟩

theorem records_answer (s : Shared) (i more : Nat) :
    records (s.changeStub i fun _ => ((s.stubs[i]?.getD { name := "" }).attempts more).2) =
      records s := by
  unfold records Shared.changeStub
  apply List.ext_getElem?
  intro n
  simp only [List.getElem?_map, List.getElem?_modify]
  split
  · rename_i hn
    subst hn
    cases hstub : s.stubs[i]? with
    | none => rfl
    | some stub =>
      obtain ⟨hchecks, hcompleted⟩ := stub.attempts_record more
      simp [hchecks, hcompleted]
  · cases s.stubs[n]? <;> rfl

/-- The part of a check between its record and its count. -/
def body (stub : Stub) (i attempts : Nat) (id : String) : Work Outcome :=
  answeredBy (stub.lookUp id) (stub.checkLive i attempts id)

/-- A check, once it is recorded, comes to its end after so much work. -/
def finishing (i : Nat) (outcome : Outcome) : Work Outcome :=
  .change (Shared.changeStub i complete) (.done outcome)

theorem checkUpTo_eq (stub : Stub) (i attempts : Nat) {id : String}
    (hid : Text.isBlankText id = false) :
    stub.checkUpTo i attempts id = .change (Shared.changeStub i (·.record id attempts))
      (Work.bind (stub.body i attempts id) (finishing i)) := by
  unfold checkUpTo
  rw [validateIdentifier_eq_ok_iff.mpr hid]
  rfl

theorem spares_lookUp (stub : Stub) (id : String) (s : Shared) :
    Spares records (fun _ _ => True) (stub.lookUp id) s := by
  unfold lookUp
  split
  · have hconsult : Spares records (fun _ _ => True)
        (Work.consult (Shared.lookup id stub.name ‹_›)) s := .consult (records_lookup ..) trivial
    exact hconsult.bind fun _ _ _ => .pure trivial
  · exact .pure trivial

theorem spares_checkLive (stub : Stub) (i attempts : Nat) (id : String) (s : Shared) :
    Spares records (fun _ _ => True) (stub.checkLive i attempts id) s := by
  have hpause : Spares records (fun _ _ => True) stub.pause s := by
    unfold pause
    split
    · exact .wait fun _ _ => trivial
    · exact .pure trivial
  have hkeep (outcome : Outcome) (t : Shared) :
      Spares records (fun _ _ => True) (stub.keepFound id outcome) t := by
    unfold keepFound
    split
    · exact .update (records_store ..) trivial
    · exact .pure trivial
  have hanswer (t : Shared) : Spares records (fun _ _ => True) (answer i attempts) t := by
    exact .look (.change (records_answer t i (attempts - 1)) (.done trivial))
  exact hpause.bind fun _ t _ => (hanswer t).bind fun outcome u _ =>
    (hkeep outcome u).bind fun _ _ _ => .pure trivial

theorem spares_body (stub : Stub) (i attempts : Nat) (id : String) (s : Shared) :
    Spares records (fun _ _ => True) (stub.body i attempts id) s := by
  refine (stub.spares_lookUp id s).bind fun found t _ => ?_
  cases found with
  | some results => exact .pure trivial
  | none => exact stub.spares_checkLive i attempts id t

theorem run_toSource (stub : Stub) (i attempts : Nat) (id : String) :
    (stub.toSource i).run attempts id =
      stub.checkUpTo i (if stub.supportsRetries then attempts else 1) id := by
  unfold Source.run toSource
  by_cases hretries : stub.supportsRetries = true <;> simp [hretries]

end Stub

/-- A check that a stub is asked for: its place, the identifier with the attempts, and whether it has
begun. -/
structure Errand where
  place : Nat
  check : String × Nat
  begun : Bool
deriving DecidableEq, Repr

namespace Errand

/-- What is asked of the stub in a place. -/
def checksAt (i : Nat) (es : List Errand) : List (String × Nat) :=
  (es.filter (·.place = i)).map (·.check)

/-- The work that an errand has still to do. -/
inductive Does : Errand → Work Outcome → Prop where
  | waiting (stub : Stub) (i attempts : Nat) {id : String} (hid : Text.isBlankText id = false) :
      Does ⟨i, (id, attempts), false⟩ (stub.checkUpTo i attempts id)
  | working (i : Nat) (check : String × Nat) {rest : Work Outcome}
      (hrest : ∀ s, Spares records (fun _ _ => True) rest s) :
      Does ⟨i, check, true⟩ (rest.bind (Stub.finishing i))

variable {i j : Nat} {e : Errand} {es fs : List Errand}

@[simp] theorem checksAt_nil (i : Nat) : checksAt i [] = [] := rfl

@[simp] theorem checksAt_append (i : Nat) (es fs : List Errand) :
    checksAt i (es ++ fs) = checksAt i es ++ checksAt i fs := by
  simp [checksAt]

theorem checksAt_cons_self (h : e.place = i) : checksAt i (e :: es) = e.check :: checksAt i es := by
  simp [checksAt, h]

theorem checksAt_cons_of_ne (h : e.place ≠ i) : checksAt i (e :: es) = checksAt i es := by
  simp [checksAt, h]

theorem checksAt_perm (h : es.Perm fs) (i : Nat) : (checksAt i es).Perm (checksAt i fs) :=
  (h.filter _).map _

end Errand

open Errand (checksAt)

/-- What each of so many stubs recorded, with what it has yet to begin, is what it was asked for; and all
that it recorded came to its end but for what is under way. -/
structure Balanced (places : Nat) (asked es : List Errand)
    (records : List (List (String × Nat) × Nat)) : Prop where
  length : records.length = places
  recorded : ∀ i r, records[i]? = some r →
    (r.1 ++ checksAt i (es.filter (!·.begun))).Perm (checksAt i asked)
  completed : ∀ i r, records[i]? = some r →
    r.1.length = r.2 + (checksAt i (es.filter (·.begun))).length

namespace Balanced

variable {places : Nat} {asked es fs : List Errand} {i : Nat} {check : String × Nat}
  {rs : List (List (String × Nat) × Nat)}

theorem perm (h : Balanced places asked es rs) (hperm : es.Perm fs) :
    Balanced places asked fs rs := by
  refine ⟨h.length, fun i r hr => ?_, fun i r hr => ?_⟩
  · have hsame := Errand.checksAt_perm (hperm.filter (!·.begun)) i
    exact (hsame.symm.append_left _).trans (h.recorded i r hr)
  · have hsame := Errand.checksAt_perm (hperm.filter (·.begun)) i
    rw [← hsame.length_eq]
    exact h.completed i r hr

private theorem of_modify {α : Type} {l : List α} {g : α → α} {i n : Nat} {r : α}
    (h : (l.modify i g)[n]? = some r) : ∃ r', l[n]? = some r' ∧ r = if i = n then g r' else r' := by
  rw [List.getElem?_modify] at h
  obtain ⟨r', hr', heq⟩ := Option.map_eq_some_iff.mp h
  refine ⟨r', hr', ?_⟩
  split at heq <;> simp_all

theorem ask (h : Balanced places asked es rs) (hnew : ∀ e ∈ fs, e.begun = false) :
    Balanced places (asked ++ fs) (es ++ fs) rs := by
  have hwaiting : fs.filter (!·.begun) = fs := List.filter_eq_self.mpr fun e he => by simp [hnew e he]
  have hnone : fs.filter (·.begun) = [] := List.filter_eq_nil_iff.mpr fun e he => by simp [hnew e he]
  refine ⟨h.length, fun i r hr => ?_, fun i r hr => ?_⟩
  · rw [List.filter_append, hwaiting, Errand.checksAt_append, Errand.checksAt_append,
      ← List.append_assoc]
    exact (h.recorded i r hr).append_right _
  · rw [List.filter_append, hnone, List.append_nil]
    exact h.completed i r hr

theorem record (h : Balanced places asked (⟨i, check, false⟩ :: es) rs) :
    Balanced places asked (⟨i, check, true⟩ :: es)
      (rs.modify i fun r => (check :: r.1, r.2)) := by
  refine ⟨(List.length_modify ..).trans h.length, fun n r hr => ?_, fun n r hr => ?_⟩
  · obtain ⟨r', hr', rfl⟩ := of_modify hr
    have hbefore := h.recorded n r' hr'
    rw [List.filter_cons_of_pos (by simp)] at hbefore
    rw [List.filter_cons_of_neg (by simp)]
    by_cases hn : i = n
    · -- the check goes over from what has yet to begin to what is recorded
      rw [if_pos hn]
      rw [Errand.checksAt_cons_self hn] at hbefore
      exact List.perm_middle.symm.trans hbefore
    · rw [if_neg hn]
      rwa [Errand.checksAt_cons_of_ne hn] at hbefore
  · obtain ⟨r', hr', rfl⟩ := of_modify hr
    have hbefore := h.completed n r' hr'
    rw [List.filter_cons_of_neg (by simp)] at hbefore
    rw [List.filter_cons_of_pos (by simp)]
    by_cases hn : i = n
    · rw [if_pos hn, Errand.checksAt_cons_self hn, List.length_cons, List.length_cons, hbefore]
      omega
    · rw [if_neg hn, Errand.checksAt_cons_of_ne hn, hbefore]

theorem complete (h : Balanced places asked (⟨i, check, true⟩ :: es) rs) :
    Balanced places asked es (rs.modify i fun r => (r.1, r.2 + 1)) := by
  refine ⟨(List.length_modify ..).trans h.length, fun n r hr => ?_, fun n r hr => ?_⟩
  · obtain ⟨r', hr', rfl⟩ := of_modify hr
    have hbefore := h.recorded n r' hr'
    rw [List.filter_cons_of_neg (by simp)] at hbefore
    split <;> exact hbefore
  · obtain ⟨r', hr', rfl⟩ := of_modify hr
    have hbefore := h.completed n r' hr'
    rw [List.filter_cons_of_pos (by simp)] at hbefore
    by_cases hn : i = n
    · rw [if_pos hn]
      rw [Errand.checksAt_cons_self hn, List.length_cons] at hbefore
      dsimp only
      omega
    · rw [if_neg hn]
      rwa [Errand.checksAt_cons_of_ne hn] at hbefore

end Balanced

end TorrentSearch.Source
