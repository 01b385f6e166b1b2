import TorrentSearch.Proofs.Source.CarriedHash
import TorrentSearch.Proofs.Source.Remembered

/-!
# Spellings of info hashes

A hash may be written with dashes and in letters of either case. It is read from the field of a release,
from a plain link and from one in a script, and all three take the same spellings for the same torrent.
-/

namespace TorrentSearch

open Magnet (Strategy)

theorem Text.eqIgnoringCase_iff {s t : List Char} :
    eqIgnoringCase s t = true ↔ s.map Char.toUpper = t.map Char.toUpper := by
  have hlower (u : List Char) : u.map Char.toLower = (u.map Char.toUpper).map Char.toLower := by
    simp [Function.comp_def]
  have hupper (u : List Char) : u.map Char.toUpper = (u.map Char.toLower).map Char.toUpper := by
    simp [Function.comp_def]
  -- texts in small letters are compared, and each case of a text makes out the other one
  rw [eqIgnoringCase, beq_iff_eq]
  constructor
  · intro h
    rw [hupper s, h, ← hupper]
  · intro h
    rw [hlower s, h, ← hlower]

/-- The two spellings differ at most in their dashes and in the case of letters. -/
def Magnet.sameHash (raw raw' : List Char) : Bool :=
  Text.eqIgnoringCase (raw.filter (· ≠ '-')) (raw'.filter (· ≠ '-'))

theorem Magnet.eq_iff_sameHash {raw raw' hash hash' : List Char}
    (h : canonicalHash? raw = some hash) (h' : canonicalHash? raw' = some hash') :
    hash = hash' ↔ sameHash raw raw' = true := by
  rw [sameHash, Text.eqIgnoringCase_iff, map_of_canonicalHash? h, map_of_canonicalHash? h']

namespace Torrent

/-- The torrent has its hash from this spelling, which stands in the field of a release with no blanks
around it, or in a link in the form that a strategy reads. -/
inductive SpelledBy : List Char → Torrent → Prop where
  | field {r : Source.Yts.Release} {title : String} {t : Torrent} (h : r.torrent? title = some t) :
      SpelledBy (Text.trim r.hash).toList t
  | link {s : Strategy} {magnet title : String} {raw : List Char} {found : Magnet.Extracted}
      (hraw : s.rawHash? magnet.toList = some raw) (h : s.extract? magnet title = some found)
      (quality : String) : SpelledBy raw ⟨title, quality, found.infoHash, found.magnet⟩

variable {raw raw' : List Char} {t u : Torrent}

theorem SpelledBy.canonicalHash? (h : SpelledBy raw t) :
    Magnet.canonicalHash? raw = some t.infoHash.toList := by
  cases h with
  | field h =>
    unfold Source.Yts.Release.torrent? at h
    simp only [Option.bind_eq_bind, Option.bind_eq_some_iff] at h
    obtain ⟨quality, -, hash, hhash, ht⟩ := h
    cases ht
    rw [hhash, String.toList_ofList]
  | @link s magnet title _ found hraw h quality =>
    unfold Strategy.extract? at h
    rw [hraw, Option.bind_some] at h
    cases hhash : Magnet.canonicalHash? raw with
    | none =>
      rw [hhash] at h
      cases h
    | some hash =>
      rw [hhash] at h
      have hfound : found.infoHash = String.ofList hash := by
        cases s with
        | plain =>
          cases h
          rfl
        | escaped =>
          obtain ⟨tail, -, rfl⟩ := Option.map_eq_some_iff.mp h
          rfl
      rw [hfound, String.toList_ofList]

/-- Two spellings name the same torrent if and only if they are the same but for dashes and case,
wherever each of them stands. -/
theorem SpelledBy.infoHash_eq_iff (h : SpelledBy raw t) (h' : SpelledBy raw' u) :
    t.infoHash = u.infoHash ↔ Magnet.sameHash raw raw' = true := by
  rw [← Magnet.eq_iff_sameHash h.canonicalHash? h'.canonicalHash?, String.toList_inj]

theorem exists_spelledBy_of_body {body : Option (List UInt8)} {results : List Torrent}
    (h : Source.Yts.outcomeOfBody body = .ok results) (ht : t ∈ results) : ∃ raw, SpelledBy raw t := by
  obtain ⟨answer, hanswer⟩ := Source.Yts.exists_answer_of_ok h
  obtain ⟨film, -, htorrent⟩ := Source.Yts.mem_of_outcome hanswer ht
  obtain ⟨release, -, hrelease⟩ := List.mem_filterMap.mp htorrent
  exact ⟨_, .field hrelease⟩

theorem exists_spelledBy_of_page {strategies : List Strategy} {page : String}
    (h : Page.torrent strategies page = .ok t) : ∃ raw, SpelledBy raw t := by
  unfold Page.torrent at h
  obtain ⟨magnet, -, h⟩ := Page.elim_throw_bind_eq_ok h
  obtain ⟨title, -, h⟩ := Page.elim_throw_bind_eq_ok h
  obtain ⟨quality, -, h⟩ := Page.elim_throw_bind_eq_ok h
  obtain ⟨found, hfound, h⟩ := Page.elim_throw_bind_eq_ok h
  obtain ⟨strategy, -, hstrategy⟩ := List.exists_of_findSome?_eq_some hfound
  cases h
  cases hraw : strategy.rawHash? magnet.toList with
  | none => simp [Strategy.extract?, hraw] at hstrategy
  | some raw => exact ⟨raw, .link hraw hstrategy quality.text⟩

end Torrent

namespace Source

open Search (Shared)
open Search.Work (Leads)

/-- Each torrent of a list comes from a spelling. -/
def Spelled (outcome : Outcome) : Prop :=
  ∀ results, outcome = .ok results → ∀ t ∈ results, ∃ raw, Torrent.SpelledBy raw t

theorem spelled_error (e : Error) : Spelled (.error e) := fun _ h => by cases h

theorem Yts.Access.spelled_outcomeOf (url : String) (reply : Except Error Http.Response) :
    Spelled (outcomeOf url reply) := by
  cases reply with
  | error e => exact spelled_error e
  | ok r =>
    simp only [outcomeOf]
    split
    · exact fun _ h _ ht => Torrent.exists_spelledBy_of_body h ht
    · exact spelled_error _

/-- What YTS lists if there is nothing fresh in the cache is read from a response. -/
theorem Yts.Access.leads_checkUpTo_spelled (a : Yts.Access) (count : Nat) {id : String}
    {now : Time.Instant} {s : Shared} (hid : Text.isBlankText id = false) (hs : Sturdy now s)
    (hstale : Stale id Yts.name a.maxAge now s.cache) :
    Leads (keeping id) Yts.name (fun outcome _ => Spelled outcome) (a.checkUpTo count id) s := by
  have hT := permits_keeping id Yts.name
  have hJ := lasts_stale id Yts.name a.maxAge now
  let J (t : Shared) : Prop := Sturdy now t ∧ Stale id Yts.name a.maxAge now t.cache
  have hattempt (t : Shared) (ht : J t) :
      Leads (keeping id) Yts.name (fun outcome u => Spelled outcome ∧ J u) (a.attempt id) t := by
    have hget := leads_get hT hJ (R := fun _ => True) (a.searchUrl id) a.timeout ht
      (fun _ => trivial) fun _ _ => trivial
    exact hget.bind fun reply u hu => .pure ⟨spelled_outcomeOf _ reply, hu.2⟩
  unfold checkUpTo
  rw [validateIdentifier_eq_ok_iff.mpr hid]
  refine leads_timed hT (fun _ _ _ h => h)
    (leads_answeredBy (promise_lookup id Yts.name a.maxAge s) (fun results hhit => ?_) fun _ => ?_)
  · rw [hs.now, hstale] at hhit
    cases hhit
  · have hlooked : J (s.lookup id Yts.name a.maxAge).2 :=
      ⟨hs.steady (steady_lookup ..), hstale.thins (thins_lookup ..)⟩
    refine (a.leads_attempts id hattempt (count - 1) hlooked).bind fun outcome t ⟨houtcome, _⟩ => ?_
    cases outcome with
    | ok results =>
      have hkeep : Leads (keeping id) Yts.name (fun _ _ => True) (keep id Yts.name results) t :=
        .update (promise_store id Yts.name results t) trivial
      exact hkeep.bind fun _ _ _ => .pure houtcome
    | error e =>
      have hnothing : Leads (keeping id) Yts.name (fun _ _ => True) (Pure.pure ()) t := .pure trivial
      exact hnothing.bind fun _ _ _ => .pure houtcome

end Source

end TorrentSearch
