import TorrentSearch.Proofs.Search.Turn
import TorrentSearch.Proofs.Source.StubRecord

/-!
# Checks that leave the clock alone

No check of a stub or of a site sets the clock.
-/

namespace TorrentSearch.Source

open Search (Shared Work)
open Search.Work (Timeless)

theorem elapsed_lookup (id name : String) (maxAge : Time.Span) (s : Shared) :
    (s.lookup id name maxAge).2.elapsed = s.elapsed := by
  rw [Shared.lookup]

theorem elapsed_store (id name : String) (results : List Torrent) (s : Shared) :
    (s.store id name results).elapsed = s.elapsed := by
  rw [Shared.store]

theorem timeless_cached (id name : String) (maxAge : Time.Span) : (cached id name maxAge).Timeless :=
  (Timeless.consult (elapsed_lookup id name maxAge)).bind fun _ => .pure _

theorem timeless_keep (id name : String) (results : List Torrent) : (keep id name results).Timeless :=
  .update (elapsed_store id name results)

theorem timeless_count (f : Shared → Counters → Counters) :
    (Work.update fun s => s.count (f s)).Timeless :=
  .update fun _ => rfl

theorem timeless_answeredBy {cache : Work (Option (List Torrent))} {live : Work Outcome}
    (hcache : cache.Timeless) (hlive : live.Timeless) : (answeredBy cache live).Timeless := by
  refine hcache.bind fun found => ?_
  cases found with
  | some results => exact .pure _
  | none => exact hlive

theorem timeless_timed (name : String) {check : Work Outcome} (h : check.Timeless) :
    (timed name check).Timeless :=
  Timeless.bind (.look fun s => .done s.elapsed) fun _ =>
    h.bind fun _ => (timeless_count _).bind fun _ => .pure _

theorem timeless_get (url : String) (timeout : Nat) : (get url timeout).Timeless := by
  unfold get
  split
  · exact .done _
  · dsimp only
    split
    · exact .request _ _ fun _ => .done _
    · exact .done _

theorem Stub.timeless_run (stub : Stub) (i attempts : Nat) (id : String) :
    ((stub.toSource i).run attempts id).Timeless := by
  have hlookUp : (stub.lookUp id).Timeless := by
    unfold lookUp
    split
    · exact timeless_cached id stub.name _
    · exact .pure none
  have hpause : stub.pause.Timeless := by
    unfold pause
    split
    · exact .pause _ (.done ())
    · exact .pure ()
  have hkeep (outcome : Outcome) : (stub.keepFound id outcome).Timeless := by
    unfold keepFound
    split
    · exact timeless_keep id stub.name _
    · exact .pure ()
  have hmodify (f : Stub → Stub) : (modify i f).Timeless := .update fun _ => rfl
  have hanswer (attempts : Nat) : (answer i attempts).Timeless :=
    Timeless.bind (.look fun _ => .done _) fun _ => (hmodify _).bind fun _ => .pure _
  rw [run_toSource]
  refine (hmodify _).bind fun _ => ?_
  split
  · exact .pure _
  · have hlive (attempts : Nat) : (stub.checkLive i attempts id).Timeless :=
      hpause.bind fun _ => (hanswer attempts).bind fun outcome => (hkeep outcome).bind fun _ => .pure _
    exact (timeless_answeredBy hlookUp (hlive _)).bind fun _ => (hmodify _).bind fun _ => .pure _

theorem Yts.Access.timeless_run (a : Yts.Access) (attempts : Nat) (id : String) :
    (a.toSource.run attempts id).Timeless := by
  have hattempt : (a.attempt id).Timeless := (timeless_get _ _).bind fun _ => .pure _
  have hattempts (more : Nat) : (a.attempts id more).Timeless := by
    induction more with
    | zero => exact hattempt
    | succ more ih =>
      refine hattempt.bind fun outcome => ?_
      cases outcome with
      | ok results => exact .pure _
      | error e => exact ih
  change (a.checkUpTo attempts id).Timeless
  unfold checkUpTo
  split
  · exact .done _
  · refine timeless_timed name (timeless_answeredBy (timeless_cached id name _) ?_)
    refine (hattempts _).bind fun outcome => ?_
    cases outcome with
    | ok results => exact (timeless_keep id name results).bind fun _ => .pure _
    | error e => exact (Timeless.pure ()).bind fun _ => .pure _

theorem Ibit.Access.timeless_run (a : Ibit.Access) (attempts : Nat) (id : String) :
    (a.toSource.run attempts id).Timeless := by
  have hvisit (href : String) : (a.visit href).Timeless := by
    unfold visit
    split
    · exact .done _
    · exact (timeless_get _ _).bind fun _ => .pure _
  have hvisitAll (hrefs : List String) : (a.visitAll hrefs).Timeless := by
    induction hrefs with
    | nil => exact .pure []
    | cons href hrefs ih =>
      refine Timeless.bind (.pause _ (.done ())) fun _ => (hvisit href).bind fun found => ?_
      cases found with
      | ok torrent => exact ih.bind fun _ => .pure _
      | error reason => exact (timeless_count fun _ => _).bind fun _ => ih
  have hlive : (a.checkLive id).Timeless := by
    refine (timeless_get _ _).bind fun reply => ?_
    split
    · exact .pure _
    · unfold follow
      split
      · exact (timeless_count fun _ => _).bind fun _ => .pure _
      · exact (hvisitAll _).bind fun _ => (timeless_keep id name _).bind fun _ => .pure _
  change (a.check id).Timeless
  unfold check
  split
  · exact .done _
  · have hcheck := timeless_timed name (timeless_answeredBy (timeless_cached id name a.maxAge) hlive)
    exact .acquire name (hcheck.bind fun outcome => .release name (.done outcome))

end TorrentSearch.Source
