import TorrentSearch.Proofs.Cache.Freshness
import TorrentSearch.Proofs.Federation.Lifetime
import TorrentSearch.Proofs.Source.CheckPaths
import TorrentSearch.Proofs.Source.Remembered

/-!
# What a check leaves in the cache

A live check that brings a list leaves this list in the cache, under its identifier and its site. A check
that brings an error, one that a fresh entry answers and one that finds a page without links leave the
cache as it was.
-/

namespace TorrentSearch

namespace Search.Shared

variable {id name : String} {maxAge : Time.Span} {s : Shared}

@[simp] theorem now_lookup : (s.lookup id name maxAge).2.now = s.now := by
  rw [lookup]

@[simp] theorem now_store (results : List Torrent) : (s.store id name results).now = s.now := by
  rw [store]

@[simp] theorem now_request (url : String) (timeout : Nat) : (s.request url timeout).2.now = s.now := by
  unfold request
  split <;> rfl

end Search.Shared

namespace Cache.Store

/-- Under a key, the store holds the bytes of an entry. -/
def Names (s : Store) (key : Cbor.Bytes) (e : Entry) : Prop :=
  ∃ value, s.find? key = some value ∧ Entry.decode? value = some e

/-- A key and an entry fit the budget of the store. -/
def HasRoom (s : Store) (key : Cbor.Bytes) (e : Entry) : Prop :=
  ∃ budget : UInt64, Reachable budget.toNat s ∧ entryLength (key, e.encode) ≤ budget.toNat

theorem HasRoom.names {s : Store} {id source : String} {results : List Torrent} {now : Time.Instant}
    (h : s.HasRoom (resultsKey id source) ⟨now, results⟩) :
    (s.storeResults id source results now).Names (resultsKey id source) ⟨now, results⟩ := by
  obtain ⟨budget, hreach, hfit⟩ := h
  have hbudget : s.maxBytes < 2 ^ 64 := hreach.maxBytes_eq ▸ budget.toNat_lt
  rw [← hreach.maxBytes_eq] at hfit
  obtain ⟨hfind, hread⟩ := hreach.accurate.find?_storeResults hbudget hfit
  exact ⟨_, hfind, hread⟩

theorem HasRoom.lookup {s : Store} {key : Cbor.Bytes} {e : Entry} (h : s.HasRoom key e)
    (id source : String) (maxAge : Time.Span) (now : Time.Instant) :
    (s.lookupResults id source maxAge now).2.HasRoom key e := by
  obtain ⟨budget, hreach, hfit⟩ := h
  exact ⟨budget, hreach.lookup id source maxAge now, hfit⟩

end Cache.Store

theorem Cache.Lookup.hit?_eq_some_iff {found : Cache.Lookup} {results : List Torrent} :
    found.hit? = some results ↔ found = .hit results := by
  cases found <;> simp [Cache.Lookup.hit?]

namespace Federation

open Cache (Store)
open Search (Act Pool Shared Work)
open Search.Work (Path)
open Source (Answered Outcome)

variable {E : Shared → Shared → Prop} {s t : Shared} {acts : List Act} {outcome : Outcome}

def Site.name : Site → String
  | .yts _ => Source.Yts.name
  | .ibit _ => Source.Ibit.name

def Site.maxAge : Site → Time.Span
  | .yts a => a.maxAge
  | .ibit a => a.maxAge

namespace Question

def live (q : Question) : Work Outcome :=
  match q.site with
  | .yts a => a.checkLive (q.attempts.getD 1) q.id
  | .ibit a => a.checkLive q.id

/-- A check either is refused, or, maybe after waiting, it looks into the cache and goes on from there. -/
theorem cases_path (hE : ∀ s, E s s) {q : Question} (h : Path E q.work s acts outcome t) :
    (Text.isBlankText q.id = true ∧ acts = [] ∧ t = s ∧ ∃ e, outcome = .error e) ∨
      Text.isBlankText q.id = false ∧ ∃ s₀ middle u duration, E s s₀ ∧
        Answered E (s₀.lookup q.id q.site.name q.site.maxAge).1 q.live
          (s₀.lookup q.id q.site.name q.site.maxAge).2 middle outcome u ∧
        t = u.count (·.observeCheck q.site.name outcome.isOk duration) ∧
        acts = .changed s₀ (s₀.lookup q.id q.site.name q.site.maxAge).2 ::
          (middle ++ [.changed u t]) := by
  obtain ⟨site, id, attempts⟩ := q
  cases hid : Text.isBlankText id with
  | true =>
    have hrefused : Source.validateIdentifier id = .error (.invalidIdentifier id) := by
      simp [Source.validateIdentifier, hid]
    left
    cases site <;> cases attempts <;>
      simp only [work, Site.toSource, Source.Yts.Access.toSource, Source.Yts.Access.checkUpTo,
        Source.Ibit.Access.toSource, Source.once, Source.Ibit.Access.check, hrefused] at h <;>
      cases h <;> exact ⟨rfl, rfl, rfl, _, rfl⟩
  | false =>
    have hvalid := Source.validateIdentifier_eq_ok_iff.mpr hid
    refine .inr ⟨rfl, ?_⟩
    cases site with
    | yts a =>
      have hpath : Path E (Source.timed Source.Yts.name (Source.answeredBy
          (Source.cached id Source.Yts.name a.maxAge) (a.checkLive (attempts.getD 1) id))) s acts
          outcome t := by
        cases attempts <;>
          simpa only [work, Site.toSource, Source.Yts.Access.toSource, Source.Yts.Access.checkUpTo,
            hvalid, Option.getD_none, Option.getD_some] using h
      obtain ⟨middle, u, duration, hanswered, ht, hacts⟩ := Source.path_check hpath
      exact ⟨s, middle, u, duration, hE s, hanswered, ht, hacts⟩
    | ibit a =>
      have hpath : Path E (Work.locked Source.Ibit.name (Source.timed Source.Ibit.name
          (Source.answeredBy (Source.cached id Source.Ibit.name a.maxAge) (a.checkLive id)))) s acts
          outcome t := by
        cases attempts <;>
          simpa only [work, Site.toSource, Source.Ibit.Access.toSource, Source.once,
            Source.Ibit.Access.check, hvalid] using h
      obtain ⟨s₀, hs, hcheck⟩ := hpath.of_locked
      obtain ⟨middle, u, duration, hanswered, ht, hacts⟩ := Source.path_check hcheck
      exact ⟨s₀, middle, u, duration, hs, hanswered, ht, hacts⟩

/-- A fresh entry was found when the check looked into the cache. -/
def Served (q : Question) : List Act → Prop
  | .changed before _ :: _ =>
    ∃ results, (before.lookup q.id q.site.name q.site.maxAge).1 = .hit results
  | _ => False

/-- After the look into the cache a result page without links came. -/
def Linkless (q : Question) (acts : List Act) : Prop :=
  match q.site, acts with
  | .ibit a, _ :: .requested _ (.response r) :: _ =>
    ∃ page, Source.Ibit.Access.pageOf (a.searchUrl q.id) (.ok r) = .ok page ∧
      (Page.Links.ofPage page).hrefs = []
  | _, _ => False

/-- A live check found a list, and not because a page had no links. -/
def Finds (q : Question) (acts : List Act) (outcome : Outcome) : Prop :=
  outcome.isOk = true ∧ ¬ q.Served acts ∧ ¬ q.Linkless acts

/-- What a live check changes of the cache: nothing, or at its end it stores what it brings. -/
theorem cases_live {q : Question} (h : Path E q.live s acts outcome t) (look : Act) (u v : Shared) :
    ((∀ act ∈ acts, act.Keeps fun s => (s.cache, s.now)) ∧
      (outcome.isOk = true → q.Linkless (look :: (acts ++ [.changed u v]))) ∧
      (q.Linkless (look :: (acts ++ [.changed u v])) → outcome = .ok [])) ∨
    ∃ results before w, outcome = .ok results ∧
      acts = before ++ [.changed w (w.store q.id q.site.name results)] ∧
      (∀ act ∈ before, act.Keeps fun s => (s.cache, s.now)) ∧
      ¬ q.Linkless (look :: (acts ++ [.changed u v])) := by
  obtain ⟨site, id, attempts⟩ := q
  cases site with
  | yts a =>
    obtain ⟨fetches, w, htries, rfl, -⟩ := Source.Yts.Access.path_checkLive h
    have hfetches (act : Act) (hact : act ∈ fetches.flatMap Prod.fst) :
        act.Keeps fun s => (s.cache, s.now) := by
      obtain ⟨url, reply, rfl⟩ := htries.requested act hact
      trivial
    cases outcome with
    | ok results => exact .inr ⟨results, _, w, rfl, rfl, hfetches, fun h => h⟩
    | error e =>
      refine .inl ⟨?_, fun hok => absurd hok Bool.false_ne_true, False.elim⟩
      simpa [Source.Yts.storing] using hfetches
  | ibit a =>
    cases Source.Ibit.Access.path_checkLive h with
    | unsent e => exact .inl ⟨by simp, fun hok => absurd hok Bool.false_ne_true, False.elim⟩
    | @failed url reply e _ hpage =>
      refine .inl ⟨by simp [Act.Keeps], fun hok => absurd hok Bool.false_ne_true, fun hlinkless => ?_⟩
      cases reply with
      | response r =>
        obtain ⟨page, hpage', -⟩ := hlinkless
        cases (hpage r rfl).symm.trans hpage'
      | dropped => exact hlinkless.elim
      | late => exact hlinkless.elim
    | linkless t hpage hlinks =>
      exact .inl ⟨by simp [Act.Keeps, Shared.count], fun _ => ⟨_, hpage, hlinks⟩, fun _ => rfl⟩
    | @scraped url page r s' t' visits torrents hpage hlinks hvisits =>
      refine .inr ⟨torrents, .requested url (.response r) :: visits, _, rfl, rfl, ?_, ?_⟩
      · refine List.forall_mem_cons.mpr ⟨trivial, fun act hact => ?_⟩
        cases Source.Ibit.Access.path_visitAll hvisits act hact with
        | requested => trivial
        | skipped => rfl
      · rintro ⟨page', hpage', hnone⟩
        rw [hpage, Except.ok.injEq] at hpage'
        subst hpage'
        exact hlinks hnone

/-- A check that finds something looks into the cache, and stores it at the end; every other check leaves
all keys and values as they are. -/
theorem kept_or_stored (hE : ∀ s, E s s) {q : Question} (h : Path E q.work s acts outcome t) :
    (q.Linkless acts → outcome = .ok []) ∧
    (¬ q.Finds acts outcome → ∀ act ∈ acts, act.Keeps fun s => s.cache.find?) ∧
    (q.Finds acts outcome → ∃ results s₀ before w after, outcome = .ok results ∧
      acts = .changed s₀ (s₀.lookup q.id q.site.name q.site.maxAge).2 ::
        (before ++ .changed w (w.store q.id q.site.name results) :: after) ∧
      ∀ act ∈ before ++ after, act.Keeps fun s => (s.cache, s.now)) := by
  have hbare : ¬ q.Linkless [] := by
    obtain ⟨site, id, attempts⟩ := q
    cases site <;> exact fun h => h
  rcases cases_path hE h with ⟨-, rfl, -, e, rfl⟩ |
    ⟨-, s₀, middle, u, duration, -, hanswered, rfl, rfl⟩
  · exact ⟨fun h => absurd h hbare, by simp, fun hfinds => absurd hfinds.1 Bool.false_ne_true⟩
  have hlooked : (Act.changed s₀ (s₀.lookup q.id q.site.name q.site.maxAge).2).Keeps
      fun s => s.cache.find? := funext fun key => Shared.find?_lookup key
  have hcounted : (Act.changed u (u.count (·.observeCheck q.site.name outcome.isOk duration))).Keeps
      fun s => (s.cache, s.now) := rfl
  have hfind {act : Act} (h : act.Keeps fun s => (s.cache, s.now)) :
      act.Keeps fun s => s.cache.find? := by
    cases act with
    | changed before after => exact congrArg (fun v : Store × Time.Instant => v.1.find?) h
    | requested => trivial
  have hquiet (hmiddle : ∀ act ∈ middle, act.Keeps fun s => (s.cache, s.now)) :
      ∀ act ∈ Act.changed s₀ (s₀.lookup q.id q.site.name q.site.maxAge).2 ::
        (middle ++ [.changed u (u.count (·.observeCheck q.site.name outcome.isOk duration))]),
        act.Keeps fun s => s.cache.find? := by
    refine List.forall_mem_cons.mpr ⟨hlooked, List.forall_mem_append.mpr ⟨?_, ?_⟩⟩
    · exact fun act hact => hfind (hmiddle act hact)
    · exact List.forall_mem_singleton.mpr (hfind hcounted)
  cases hanswered with
  | @served results hhit =>
    refine ⟨fun h => ?_, fun _ => hquiet (by simp), fun hfinds => absurd ?_ hfinds.2.1⟩
    · obtain ⟨site, id, attempts⟩ := q
      cases site <;> cases h
    · exact ⟨results, Cache.Lookup.hit?_eq_some_iff.mp hhit⟩
  | live hmiss hlive =>
    rcases cases_live hlive (.changed s₀ (s₀.lookup q.id q.site.name q.site.maxAge).2) u
      (u.count (·.observeCheck q.site.name outcome.isOk duration)) with
      ⟨hkeeps, hlinkless, hempty⟩ | ⟨results, before, w, rfl, rfl, hbefore, hlinks⟩
    · exact ⟨hempty, fun _ => hquiet hkeeps, fun hfinds => absurd (hlinkless hfinds.1) hfinds.2.2⟩
    · have hserved : ¬ q.Served (Act.changed s₀ (s₀.lookup q.id q.site.name q.site.maxAge).2 ::
          (before ++ [.changed w (w.store q.id q.site.name results)] ++
            [.changed u (u.count (·.observeCheck q.site.name true duration))])) := by
        rintro ⟨found, hfound⟩
        rw [hfound] at hmiss
        cases hmiss
      refine ⟨fun h => absurd h hlinks, fun hnot => absurd ⟨rfl, hserved, hlinks⟩ hnot, fun _ => ?_⟩
      refine ⟨results, s₀, before, w, _, rfl, by rw [List.append_assoc]; rfl, ?_⟩
      exact List.forall_mem_append.mpr ⟨hbefore, List.forall_mem_singleton.mpr hcounted⟩

theorem sturdy_work (q : Question) : q.work.Sturdy := by
  obtain ⟨site, id, attempts⟩ := q
  cases site with
  | yts a => cases attempts <;> exact (a.plain_checkUpTo _ id).sturdy
  | ibit a => cases attempts <;> exact a.sturdy_check id

theorem orderly_work (q : Question) : q.work.Orderly none := by
  obtain ⟨site, id, attempts⟩ := q
  cases attempts with
  | none => exact site.toSource.orderly_check id
  | some count => exact site.toSource.orderly_checkUpTo count id

end Question

/-- The acts change no key and no value of the cache. -/
def Untouched (acts : List Act) : Prop :=
  ∀ before after, .changed before after ∈ acts → ∀ key, after.cache.find? key = before.cache.find? key

/-- Acts that follow each other lead to the cache after one look into it and one list stored in it, if they
change nothing else. -/
theorem cache_of_linked {id name : String} {maxAge : Time.Span} {results : List Torrent}
    {before after : List Act} {s w : Shared} {first last : Store} {now later : Time.Instant}
    (h : Act.Linked (fun s => (s.cache, s.now)) (first, now)
      (.changed s (s.lookup id name maxAge).2 ::
        (before ++ .changed w (w.store id name results) :: after)) (last, later))
    (hquiet : ∀ act ∈ before ++ after, act.Keeps fun s => (s.cache, s.now)) :
    last = (first.lookupResults id name maxAge now).2.storeResults id name results later := by
  obtain ⟨hbefore, hafter⟩ := List.forall_mem_append.mp hquiet
  obtain ⟨hlook, hrest⟩ := h
  obtain ⟨v, hfront, hstore, hback⟩ := hrest.append
  have hw := hstore.trans (hfront.eq_of_keeps hbefore)
  have hend := hback.eq_of_keeps hafter
  simp only [Prod.mk.injEq, Shared.cache_lookup, Shared.now_lookup, Shared.cache_store,
    Shared.now_store] at hlook hw hend
  obtain ⟨hcache, hnow⟩ := hlook
  rw [hend.1, hend.2, hw.1, hcache, hnow]

/-- Every check of a site comes to its end in every pool, whatever servers send and whatever other checks
do. If it finds a list with a live check, it stores this list, stamped with the time at which it does so,
and changes no other key or value. In all other cases it changes none at all: when it brings an error,
when a fresh entry answers it, and when a result page has no links, for which it brings an empty list. By
itself it leaves the cache as it was but for the order of use, and with the list under its key if it found
one. -/
theorem check_keeps_what_it_found (question : Question) {p : Pool} (hp : p.Sound)
    (hnew : p.fresh ∉ p.finished.map Prod.fst) (foreground : Bool) :
    let id := question.id
    let name := question.site.name
    let key := Store.resultsKey id name
    (∃ acts outcome, p.Brings foreground question.work acts outcome
      (p.spawn foreground question.work).1.atEnd) ∧
    ∀ acts outcome q, p.Brings foreground question.work acts outcome q →
      (question.Linkless acts → outcome = .ok []) ∧
      (¬ question.Finds acts outcome → Untouched acts ∧
        (p.jobs = [] → ∀ k, q.shared.cache.find? k = p.shared.cache.find? k)) ∧
      (question.Finds acts outcome → ∃ results before w after, outcome = .ok results ∧
        acts = before ++ .changed w (w.store id name results) :: after ∧
        Untouched (before ++ after) ∧
        (w.cache.HasRoom key ⟨w.now, results⟩ →
          (w.store id name results).cache.Names key ⟨w.now, results⟩) ∧
        (p.jobs = [] →
          q.shared.cache = (p.shared.cache.lookupResults id name question.site.maxAge
            p.shared.now).2.storeResults id name results q.shared.now ∧
          (p.shared.cache.HasRoom key ⟨q.shared.now, results⟩ →
            q.shared.cache.Names key ⟨q.shared.now, results⟩))) := by
  intro id name key
  have hsturdy := question.sturdy_work
  have horderly := question.orderly_work
  refine ⟨hp.brings hnew hsturdy horderly foreground, fun acts outcome q hq => ?_⟩
  obtain ⟨s, t, -, hpath, -⟩ := hq.path hp hnew hsturdy horderly (Pool.around_any _ _)
  obtain ⟨hlinkless, hkept, hstored⟩ := Question.kept_or_stored (fun _ => trivial) hpath
  have hlinked {γ : Type} (view : Shared → γ)
      (helapse : ∀ s elapsed, view { s with elapsed := elapsed } = view s)
      (hrequest : ∀ url timeout s, view (s.request url timeout).2 = view s) (hjobs : p.jobs = []) :
      Act.Linked view (view p.shared) acts (view q.shared) :=
    hq.linked hp hnew hsturdy horderly hjobs view helapse hrequest
  refine ⟨hlinkless, fun hnot => ⟨fun b c hmem k => ?_, fun hjobs k => ?_⟩, fun hfinds => ?_⟩
  · exact congrFun (hkept hnot _ hmem) k
  · have hsame := hlinked (fun s => s.cache.find?) (fun _ _ => rfl) (by simp) hjobs
    exact congrFun (hsame.eq_of_keeps (hkept hnot)) k
  · obtain ⟨results, s₀, before, w, after, rfl, rfl, hquiet⟩ := hstored hfinds
    refine ⟨results, _ :: before, w, after, rfl, rfl, fun b c hmem k => ?_, fun hroom => ?_,
      fun hjobs => ?_⟩
    · rcases List.mem_cons.mp hmem with heq | hmem
      · cases heq
        exact Shared.find?_lookup k
      · have hsame := hquiet _ hmem
        exact congrArg (fun v : Store × Time.Instant => v.1.find? k) hsame
    · rw [Shared.cache_store]
      exact hroom.names
    · have heq := cache_of_linked (hlinked (fun s => (s.cache, s.now)) (fun _ _ => rfl) (by simp) hjobs)
        hquiet
      refine ⟨heq, fun hroom => ?_⟩
      rw [heq]
      exact (hroom.lookup id name _ _).names

/-- A page with one link, to a torrent that is kept. -/
theorem check_keeps_what_it_found_of_film :
    let search := "<table class=torrents><tr><td><a href=/1>Film</a></table>"
    let detail := "<div id=extra-info><h2><a>Film</a></h2></div>" ++
      "<script>'magnet:?xt=urn:btih:AB&dn=720p'</script>"
    let network : Http.Network := ⟨fun _ url => some ⟨some 5, .response (.ofBody 200
      (Text.Utf8.encode (if url = "http://[::1]/1" then detail else search)))⟩⟩
    let found : List Torrent := [⟨"Film", "720p", "AB", "magnet:?xt=urn:btih:AB&dn=720p"⟩]
    let question : Question := ⟨.ibit ⟨"http://[::1]".toList, 1000, .ofSeconds 60, 10⟩, "tt", none⟩
    let p := Pool.idle (.start .epoch (.empty 1000) network [])
    let q := (p.spawn true question.work).1.atEnd
    p.Sound ∧ p.fresh ∉ p.finished.map Prod.fst ∧
      (∃ acts, p.Brings true question.work acts (.ok found) q ∧ question.Finds acts (.ok found)) ∧
      q.shared.cache.Names (Store.resultsKey "tt" "ibit") ⟨.epoch, found⟩ := by
  intro search detail network found question p q
  have hnew : p.fresh ∉ p.finished.map Prod.fst := List.not_mem_nil
  have hend : ((p.spawn true question.work).1.runWithin (fun _ => false) none 20).map
      (fun q => (q.finished, (q.shared.cache.find? (Store.resultsKey "tt" "ibit")).isSome,
        q.shared.now)) = some ([(0, .ok found)], true, .epoch) := by
    decide +kernel
  obtain ⟨q', hrun, heq⟩ := Option.map_eq_some_iff.mp hend
  obtain rfl : q = q' := Pool.runUntil_of_runWithin hrun
  simp only [Prod.mk.injEq] at heq
  obtain ⟨hfinished, hheld, hnow⟩ := heq
  obtain ⟨⟨acts, outcome, hbrings⟩, hall⟩ :=
    check_keeps_what_it_found question (Pool.sound_idle _) hnew true (p := p)
  have hmem : (0, outcome) ∈ q.finished := hbrings.2
  rw [hfinished, List.mem_singleton] at hmem
  obtain rfl : outcome = .ok found := (Prod.mk.inj hmem).2
  obtain ⟨-, hnot, hfinds⟩ := hall acts _ q hbrings
  have hfound : question.Finds acts (.ok found) := by
    by_contra h
    have hsame := (hnot h).2 rfl (Store.resultsKey "tt" "ibit")
    rw [hsame] at hheld
    cases hheld
  obtain ⟨results, before, w, after, hresults, -, -, -, halone⟩ := hfinds hfound
  obtain rfl : found = results := Except.ok.inj hresults
  obtain ⟨-, hnames⟩ := halone rfl
  rw [hnow] at hnames
  refine ⟨Pool.sound_idle _, hnew, ⟨acts, hbrings, hfound⟩, hnames ⟨1000, .new, ?_⟩⟩
  decide +kernel

end Federation

end TorrentSearch
