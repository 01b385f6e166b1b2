import TorrentSearch.Proofs.Source.Remembered

/-!
# Checks that no server answers

When no server has anything to say, a check brings what the cache has fresh for it, or it fails. Either
way it leaves all entries as they are.
-/

namespace TorrentSearch.Source

open Cache (Store)
open Cache.Store (resultsKey)
open Search (Shared Terms Work)
open Search.Work (Leads)

/-- The status of every response is that of an unknown URL. -/
def KnowsNothing (n : Http.Network) : Prop :=
  ∀ earlier url d, n.deliver earlier url = some d → ∃ r, d.reply = .response r ∧ r.status = 404

theorem reply_of_knowsNothing {s : Shared} (h : KnowsNothing s.network) (url : String)
    (timeout : Nat) {r : Http.Response} (hr : (s.request url timeout).1.2 = .response r) :
    r.status = 404 := by
  unfold Shared.request at hr
  split at hr
  · rename_i d hdeliver
    obtain ⟨r', hreply, hstatus⟩ := h _ _ d hdeliver
    unfold Http.Delivery.within at hr
    split at hr
    · split at hr
      · rw [hreply, Http.Reply.response.injEq] at hr
        rw [← hr, hstatus]
      · cases hr
    · cases hr
  · cases hr

/-- No response, or one with the status of an unknown URL. -/
def Missing (reply : Except Error Http.Response) : Prop := ∀ r, reply = .ok r → r.status = 404

theorem missing_received {s : Shared} (h : KnowsNothing s.network) (url shown u : String)
    (timeout : Nat) : Missing (received url shown (s.request u timeout).1.2) := by
  intro r hr
  cases hreply : (s.request u timeout).1.2 with
  | response r' =>
    rw [hreply] at hr
    cases hr
    exact reply_of_knowsNothing h u timeout hreply
  | dropped =>
    rw [hreply] at hr
    cases hr
  | late =>
    rw [hreply] at hr
    cases hr

theorem Missing.outcomeOf_eq_error {reply : Except Error Http.Response} (h : Missing reply) (url : String) :
    ∃ e, Yts.Access.outcomeOf url reply = .error e := by
  cases reply with
  | error e => exact ⟨e, rfl⟩
  | ok r =>
    have hfailed : r.isSuccess = false := by
      rw [Http.Response.isSuccess, h r rfl]
      rfl
    refine ⟨.badStatus url r.status, ?_⟩
    rw [Yts.Access.outcomeOf, hfailed]
    rfl

theorem Missing.pageOf_eq_error {reply : Except Error Http.Response} (h : Missing reply) (url : String) :
    ∃ e, Ibit.Access.pageOf url reply = .error e := by
  cases reply with
  | error e => exact ⟨e, rfl⟩
  | ok r =>
    have hfailed : r.status ≠ 200 := by
      rw [h r rfl]
      decide
    refine ⟨.badStatus url r.status, ?_⟩
    rw [Ibit.Access.pageOf, if_pos hfailed]

/-- Each source relies on its entry for an identifier to stay as it is, and promises to leave all entries
as they are. -/
def leaving (id : String) : Terms String where
  rely name s t := t.now = s.now ∧ t.network = s.network ∧
    t.cache.find? (resultsKey id name) = s.cache.find? (resultsKey id name)
  promise _ s t := t.now = s.now ∧ t.network = s.network ∧
    ∀ key, t.cache.find? key = s.cache.find? key
  refl _ _ := ⟨rfl, rfl, rfl⟩
  trans h h' := ⟨h'.1.trans h.1, h'.2.1.trans h.2.1, h'.2.2.trans h.2.2⟩
  elapse _ _ _ := ⟨rfl, rfl, rfl⟩
  enough _ h := ⟨h.1, h.2.1, h.2.2 _⟩

/-- The outcome is what a cache has fresh for it, or a failure. -/
def Repeats (id name : String) (maxAge : Time.Span) (now : Time.Instant) (cache : Store)
    (outcome : Outcome) : Prop :=
  match (cache.lookupResults id name maxAge now).1.hit? with
  | some results => outcome = .ok results
  | none => ∃ e, outcome = .error e

/-- Nobody has anything to say, and the entry for an identifier is the one of a cache. -/
structure Untouched (id name : String) (now : Time.Instant) (cache : Store) (s : Shared) : Prop where
  now : s.now = now
  network : KnowsNothing s.network
  entry : s.cache.find? (resultsKey id name) = cache.find? (resultsKey id name)

theorem permits_leaving (id name : String) : Permits (leaving id) name := by
  constructor
  · intro s url timeout
    refine ⟨(steady_request url timeout s).now, (steady_request url timeout s).network, fun key => ?_⟩
    rw [Shared.cache_request]
  · intro s f
    exact ⟨rfl, rfl, fun _ => rfl⟩

section

variable {id name : String} {maxAge : Time.Span} {now : Time.Instant} {cache : Store} {s : Shared}

theorem lasts_untouched : Lasts (leaving id) name (Untouched id name now cache) := by
  constructor
  · rintro s t hs ⟨hnow, hnetwork, hentry⟩
    exact ⟨hnow.trans hs.now, by rw [hnetwork]; exact hs.network, hentry.trans hs.entry⟩
  · intro s url timeout hs
    have hsteady := steady_request url timeout s
    refine ⟨hsteady.now.trans hs.now, by rw [hsteady.network]; exact hs.network, ?_⟩
    rw [Shared.cache_request]
    exact hs.entry
  · intro s f hs
    exact ⟨hs.now, hs.network, hs.entry⟩

theorem leads_repeats {live : Work Outcome} (hs : Untouched id name now cache s)
    (hlive : ∀ t, Untouched id name now cache t →
      Leads (leaving id) name (fun outcome _ => ∃ e, outcome = .error e) live t) :
    Leads (leaving id) name (fun outcome _ => Repeats id name maxAge now cache outcome)
      (timed name (answeredBy (cached id name maxAge) live)) s := by
  have hfound : (s.cache.lookupResults id name maxAge s.now).1 =
      (cache.lookupResults id name maxAge now).1 := by
    rw [Store.fst_lookupResults, Store.fst_lookupResults, hs.entry, hs.now]
  have hsteady := steady_lookup id name maxAge s
  refine leads_timed (permits_leaving id name) (fun _ _ _ h => h)
    (leads_answeredBy ⟨hsteady.now, hsteady.network, Shared.find?_lookup⟩ (fun results hhit => ?_) fun hmiss => ?_)
  · rw [hfound] at hhit
    unfold Repeats
    rw [hhit]
  · rw [hfound] at hmiss
    have ht : Untouched id name now cache (s.lookup id name maxAge).2 :=
      ⟨hsteady.now.trans hs.now, by rw [hsteady.network]; exact hs.network, (Shared.find?_lookup _).trans hs.entry⟩
    refine (hlive _ ht).imp fun outcome _ herror => ?_
    unfold Repeats
    rw [hmiss]
    exact herror

theorem leads_get_missing (hs : Untouched id name now cache s) (url : String) (timeout : Nat) :
    Leads (leaving id) name (fun reply t => Missing reply ∧ Untouched id name now cache t)
      (get url timeout) s :=
  leads_get (permits_leaving id name) lasts_untouched url timeout hs (fun e r hr => by cases hr)
    fun u shown => missing_received hs.network url shown u timeout

theorem Yts.Access.leads_checkUpTo_again (a : Yts.Access) (count : Nat)
    (hid : Text.isBlankText id = false) (hs : Untouched id Yts.name now cache s) :
    Leads (leaving id) Yts.name (fun outcome _ => Repeats id Yts.name a.maxAge now cache outcome)
      (a.checkUpTo count id) s := by
  unfold checkUpTo
  rw [validateIdentifier_eq_ok_iff.mpr hid]
  refine leads_repeats hs fun t ht => ?_
  have hattempt (u : Shared) (hu : Untouched id Yts.name now cache u) :
      Leads (leaving id) Yts.name
        (fun outcome v => (∃ e, outcome = .error e) ∧ Untouched id Yts.name now cache v)
        (a.attempt id) u := by
    have hget := leads_get_missing hu (a.searchUrl id) a.timeout
    exact hget.bind fun reply v ⟨hmissing, hv⟩ => .pure ⟨hmissing.outcomeOf_eq_error _, hv⟩
  refine (a.leads_attempts id hattempt (count - 1) ht).bind fun outcome u ⟨herror, _⟩ => ?_
  obtain ⟨e, rfl⟩ := herror
  have hnothing : Leads (leaving id) Yts.name (fun _ _ => True) (Pure.pure () : Work Unit) u :=
    .pure trivial
  exact hnothing.bind fun _ v _ => .pure ⟨e, rfl⟩

theorem Ibit.Access.leads_check_again (a : Ibit.Access) (hid : Text.isBlankText id = false)
    (hs : Untouched id Ibit.name now cache s) :
    Leads (leaving id) Ibit.name (fun outcome _ => Repeats id Ibit.name a.maxAge now cache outcome)
      (a.check id) s := by
  unfold check
  rw [validateIdentifier_eq_ok_iff.mpr hid]
  refine .locked fun t ht => leads_repeats (lasts_untouched.rely hs ht) fun u hu => ?_
  have hget := leads_get_missing hu (a.searchUrl id) a.timeout
  refine hget.bind fun reply v ⟨hmissing, _⟩ => ?_
  obtain ⟨e, he⟩ := hmissing.pageOf_eq_error (a.searchUrl id)
  rw [he]
  exact .pure ⟨e, rfl⟩

end

end TorrentSearch.Source
