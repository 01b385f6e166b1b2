import TorrentSearch.Proofs.Search.Uncounted
import TorrentSearch.Proofs.Source.StubRecord

/-!
# Checks that take no notice of the counters

The checks of stubs and of sites count what they do, but none of them acts on what was counted.
-/

namespace TorrentSearch.Source

open Search (Shared Work)
open Search.Work (Uncounted)

theorem uncounted_cached (id name : String) (maxAge : Time.Span) : (cached id name maxAge).Uncounted :=
  (Uncounted.consult (fun _ _ => rfl) fun _ _ => ⟨_, rfl⟩).bind fun _ => .pure _

theorem uncounted_keep (id name : String) (results : List Torrent) :
    (keep id name results).Uncounted :=
  .update fun s c => ⟨c, by rw [Shared.store, Shared.store]⟩

theorem uncounted_answeredBy {cache : Work (Option (List Torrent))} {live : Work Outcome}
    (hcache : cache.Uncounted) (hlive : live.Uncounted) : (answeredBy cache live).Uncounted := by
  refine hcache.bind fun found => ?_
  cases found with
  | some results => exact .pure _
  | none => exact hlive

theorem uncounted_timed (name : String) {check : Work Outcome} (h : check.Uncounted) :
    (timed name check).Uncounted :=
  Uncounted.bind (.look (fun _ _ => rfl) fun s => .done s.elapsed) fun _ =>
    h.bind fun _ => (Uncounted.update fun _ _ => ⟨_, rfl⟩).bind fun _ => .pure _

theorem uncounted_get (url : String) (timeout : Nat) : (get url timeout).Uncounted := by
  unfold get
  split
  · exact .done _
  · dsimp only
    split
    · exact .request _ _ fun _ => .done _
    · exact .done _

theorem Stub.uncounted_run (stub : Stub) (i attempts : Nat) (id : String) :
    ((stub.toSource i).run attempts id).Uncounted := by
  have hlookUp : (stub.lookUp id).Uncounted := by
    unfold lookUp
    split
    · exact uncounted_cached id stub.name _
    · exact .pure none
  have hpause : stub.pause.Uncounted := by
    unfold pause
    split
    · exact .pause _ (.done ())
    · exact .pure ()
  have hkeep (outcome : Outcome) : (stub.keepFound id outcome).Uncounted := by
    unfold keepFound
    split
    · exact uncounted_keep id stub.name _
    · exact .pure ()
  have hmodify (f : Stub → Stub) : (modify i f).Uncounted := .update fun _ c => ⟨c, rfl⟩
  have hanswer (attempts : Nat) : (answer i attempts).Uncounted :=
    Uncounted.bind (.look (fun _ _ => rfl) fun _ => .done _) fun _ => (hmodify _).bind fun _ => .pure _
  rw [run_toSource]
  refine (hmodify _).bind fun _ => ?_
  split
  · exact .pure _
  · have hlive (attempts : Nat) : (stub.checkLive i attempts id).Uncounted :=
      hpause.bind fun _ => (hanswer attempts).bind fun outcome => (hkeep outcome).bind fun _ => .pure _
    exact (uncounted_answeredBy hlookUp (hlive _)).bind fun _ => (hmodify _).bind fun _ => .pure _

theorem Yts.Access.uncounted_run (a : Yts.Access) (attempts : Nat) (id : String) :
    (a.toSource.run attempts id).Uncounted := by
  have hattempt : (a.attempt id).Uncounted := (uncounted_get _ _).bind fun _ => .pure _
  have hattempts (more : Nat) : (a.attempts id more).Uncounted := by
    induction more with
    | zero => exact hattempt
    | succ more ih =>
      refine hattempt.bind fun outcome => ?_
      cases outcome with
      | ok results => exact .pure _
      | error e => exact ih
  change (a.checkUpTo attempts id).Uncounted
  unfold checkUpTo
  split
  · exact .done _
  · refine uncounted_timed name (uncounted_answeredBy (uncounted_cached id name _) ?_)
    refine (hattempts _).bind fun outcome => ?_
    cases outcome with
    | ok results => exact (uncounted_keep id name results).bind fun _ => .pure _
    | error e => exact (Uncounted.pure ()).bind fun _ => .pure _

theorem Ibit.Access.uncounted_run (a : Ibit.Access) (attempts : Nat) (id : String) :
    (a.toSource.run attempts id).Uncounted := by
  have hcount (f : Counters → Counters) : (Work.update (Shared.count f)).Uncounted :=
    .update fun _ _ => ⟨_, rfl⟩
  have hvisit (href : String) : (a.visit href).Uncounted := by
    unfold visit
    split
    · exact .done _
    · exact (uncounted_get _ _).bind fun _ => .pure _
  have hvisitAll (hrefs : List String) : (a.visitAll hrefs).Uncounted := by
    induction hrefs with
    | nil => exact .pure []
    | cons href hrefs ih =>
      refine Uncounted.bind (.pause _ (.done ())) fun _ => (hvisit href).bind fun found => ?_
      cases found with
      | ok torrent => exact ih.bind fun _ => .pure _
      | error reason => exact (hcount _).bind fun _ => ih
  have hlive : (a.checkLive id).Uncounted := by
    refine (uncounted_get _ _).bind fun reply => ?_
    split
    · exact .pure _
    · unfold follow
      split
      · exact (hcount _).bind fun _ => .pure _
      · exact (hvisitAll _).bind fun _ => (uncounted_keep id name _).bind fun _ => .pure _
  change (a.check id).Uncounted
  unfold check
  split
  · exact .done _
  · have hcheck := uncounted_timed name (uncounted_answeredBy (uncounted_cached id name a.maxAge) hlive)
    exact .acquire name (hcheck.bind fun outcome => .release name (.done outcome))

end TorrentSearch.Source
