import TorrentSearch.Proofs.Federation.Reload
import TorrentSearch.Proofs.Source.Spelling

/-!
# One torrent on two sources

A torrent that both the fast and the slow source list is found once, as the fast source has it, however
its hash is spelled in each of the places.
-/

namespace TorrentSearch

namespace Torrent

private theorem filter_dedupSeen (seen : List String) (ts : List Torrent) (hash : String) :
    (dedupSeen seen ts).filter (·.infoHash = hash) =
      if hash ∈ seen then [] else (ts.find? (·.infoHash = hash)).toList := by
  induction ts generalizing seen with
  | nil => simp
  | cons t ts ih =>
    by_cases hseen : t.infoHash ∈ seen
    · rw [dedupSeen_cons_of_mem hseen, ih]
      by_cases hhash : hash ∈ seen
      · rw [if_pos hhash, if_pos hhash]
      · have hne : t.infoHash ≠ hash := fun heq => hhash (heq ▸ hseen)
        rw [if_neg hhash, if_neg hhash, List.find?_cons_of_neg (by simpa using hne)]
    · rw [dedupSeen_cons_of_not_mem hseen]
      by_cases heq : t.infoHash = hash
      · subst heq
        rw [List.filter_cons_of_pos (by simp), ih, if_pos List.mem_cons_self, if_neg hseen,
          List.find?_cons_of_pos (by simp)]
        rfl
      · have hmem : hash ∈ t.infoHash :: seen ↔ hash ∈ seen := by simp [Ne.symm heq]
        rw [List.filter_cons_of_neg (by simpa using heq), ih,
          List.find?_cons_of_neg (by simpa using heq)]
        simp only [hmem]

theorem filter_firsts (ts : List Torrent) (hash : String) :
    (firsts ts).filter (·.infoHash = hash) = (ts.find? (·.infoHash = hash)).toList := by
  rw [← dedup_eq_firsts, dedup, filter_dedupSeen, if_neg List.not_mem_nil]

end Torrent

namespace Federation

open Magnet (sameHash)
open Search (Pool)
open Torrent (SpelledBy)

/-- A torrent that two lists have in common stays once, as the first list has it. -/
theorem filter_mergeLists_pair {listed scraped : List Torrent} {t u : Torrent} (ht : t ∈ listed)
    (hu : u ∈ scraped) :
    ∃ first, listed.find? (·.infoHash = t.infoHash) = some first ∧
      (mergeLists [listed, scraped]).filter (·.infoHash = t.infoHash) = [first] := by
  have hsome : (listed.find? (·.infoHash = t.infoHash)).isSome := by
    rw [List.find?_isSome]
    exact ⟨t, ht, by simp⟩
  obtain ⟨first, hfirst⟩ := Option.isSome_iff_exists.mp hsome
  have hlisted : listed.isEmpty = false := List.isEmpty_eq_false_iff.mpr (List.ne_nil_of_mem ht)
  have hscraped : scraped.isEmpty = false := List.isEmpty_eq_false_iff.mpr (List.ne_nil_of_mem hu)
  have hboth : 1 < [listed, scraped].countP (!·.isEmpty) := by
    simp [hlisted, hscraped]
  refine ⟨first, hfirst, ?_⟩
  rw [mergeLists_eq, if_pos hboth, Torrent.filter_firsts]
  simp [List.find?_append, hfirst]

def ofBoth (yts : Source.Yts.Access) (ibit : Source.Ibit.Access) (settings : Config.FederationSettings) :
    Federation :=
  ⟨[yts.toSource], some ibit.toSource, settings⟩

section

variable (yts : Source.Yts.Access) (ibit : Source.Ibit.Access) (settings : Config.FederationSettings)
  (id : String) {s : Session}

theorem fastArrivals_ofBoth (hs : s.Reachable) {listed : List Torrent}
    (h : ⟨Source.Yts.name, .ok listed⟩ ∈ (ofBoth yts ibit settings).fastArrivals id s) :
    Text.isBlankText id = false ∧
      (ofBoth yts ibit settings).fastArrivals id s = [⟨Source.Yts.name, .ok listed⟩] := by
  obtain ⟨inOrder, hperm, hforall⟩ := (ofBoth yts ibit settings).fastArrivals_broughtBy id hs.ready
  cases hforall with
  | @cons _ a _ _ hbrought hnone =>
    cases hnone
    have hsingle := hperm.singleton_eq
    rw [← hsingle, List.mem_singleton] at h
    subst h
    refine ⟨?_, hsingle.symm⟩
    by_contra hblank
    have hrun : (yts.toSource.run settings.attempts id).ending? =
        some (.error (.invalidIdentifier id)) := by
      change (yts.checkUpTo settings.attempts id).ending? = _
      simp only [Bool.not_eq_false] at hblank
      simp only [Source.Yts.Access.checkUpTo, Source.validateIdentifier, hblank, if_true]
      rfl
    cases hbrought.2.eq_of_ending? hrun

/-- What the fast source lists has spellings, if no check is under way and nothing fresh is in the cache. -/
theorem spelled_of_fastArrival (hs : s.Ready) (hidle : s.pool.jobs = [])
    (hid : Text.isBlankText id = false) (hsturdy : Source.Sturdy s.pool.shared.now s.pool.shared)
    (hstale : Source.Stale id Source.Yts.name yts.maxAge s.pool.shared.now s.pool.shared.cache)
    {a : Arrival} (ha : a ∈ (ofBoth yts ibit settings).fastArrivals id s) : Source.Spelled a.outcome := by
  let post (name : String) (outcome : Source.Outcome) (_ : Search.Shared) : Prop :=
    name = Source.Yts.name → Source.Spelled outcome
  have hlaunched := (ofBoth yts ibit settings).together_launched id (Source.keeping id) post hs hidle
    (show [Source.Yts.name, Source.Ibit.name].Nodup by decide) fun source hsource t ht => by
      rcases List.mem_pair.mp hsource with rfl | rfl
      · exact (yts.leads_checkUpTo_spelled settings.attempts hid (hsturdy.steady ht.1)
          (hstale.thins ht.2)).imp fun _ _ h _ => h
      · exact (ibit.leads_check hid (hsturdy.steady ht.1)).imp fun _ _ _ hname =>
          absurd hname (show Source.Ibit.name ≠ Source.Yts.name by decide)
  have hname : a.source = Source.Yts.name := by
    obtain ⟨inOrder, hperm, hforall⟩ := (ofBoth yts ibit settings).fastArrivals_broughtBy id hs
    cases hforall with
    | cons hbrought hnone =>
      cases hnone
      rw [← hperm.singleton_eq, List.mem_singleton] at ha
      exact ha ▸ hbrought.1
  exact (ofBoth yts ibit settings).post_of_arrival id (Source.keeping id) post (fun _ _ _ _ h _ => h)
    hlaunched (List.mem_append_left _ ha) hname

/-- A hash is the same torrent's in whatever spelling and wherever it stands: two spellings that are
accepted name the same torrent if and only if they are the same but for dashes and case. Every torrent
of a response or of a page comes from a spelling. A torrent that the fast source lists and that the slow
source lists in time is found exactly once, and it is the first one that the fast source has. -/
theorem find_once_however_spelled (hs : s.Reachable) :
    (∀ raw raw' t u, SpelledBy raw t → SpelledBy raw' u →
      (t.infoHash = u.infoHash ↔ sameHash raw raw' = true)) ∧
    (∀ body results, Source.Yts.outcomeOfBody body = .ok results →
      ∀ t ∈ results, ∃ raw, SpelledBy raw t) ∧
    (∀ strategies page t, Page.torrent strategies page = .ok t → ∃ raw, SpelledBy raw t) ∧
    ∀ listed scraped,
      ⟨Source.Yts.name, .ok listed⟩ ∈ (ofBoth yts ibit settings).fastArrivals id s →
      (ofBoth yts ibit settings).slowArrival? id s = some ⟨Source.Ibit.name, .ok scraped⟩ →
      ∀ t ∈ listed, ∀ u ∈ scraped, ∀ raw raw', SpelledBy raw t → SpelledBy raw' u →
        sameHash raw raw' = true →
        ∃ found first, ((ofBoth yts ibit settings).find id s).1 = .ok found ∧
          listed.find? (·.infoHash = t.infoHash) = some first ∧
          found.filter (·.infoHash = t.infoHash) = [first] ∧ u.infoHash = t.infoHash := by
  refine ⟨fun _ _ _ _ h h' => h.infoHash_eq_iff h',
    fun _ _ h _ ht => Torrent.exists_spelledBy_of_body h ht,
    fun _ _ _ h => Torrent.exists_spelledBy_of_page h, ?_⟩
  intro listed scraped hlisted hscraped t ht u hu raw raw' hspelled hspelled' hsame
  obtain ⟨hid, hfast⟩ := fastArrivals_ofBoth yts ibit settings id hs hlisted
  have hhash : t.infoHash = u.infoHash := (hspelled.infoHash_eq_iff hspelled').mpr hsame
  obtain ⟨first, hfirst, honce⟩ := filter_mergeLists_pair ht hu
  have hasked : (ofBoth yts ibit settings).sources ≠ [] := List.cons_ne_nil _ _
  refine ⟨_, first, ?_, hfirst, honce, hhash.symm⟩
  rw [find_of_asked _ id s hid hasked, fst_ask, hfast, hscraped]
  exact conclude_eq_ok_iff.mpr ⟨⟨_, List.mem_cons_self, rfl⟩, rfl⟩

end

/-- A release with small letters, and a page whose link stands in a script. -/
theorem find_once_however_spelled_of_film :
    let f := ofBoth (.ofBase "http://[::1]" 5000 (.ofSeconds 60))
      (.ofBase "http://[::1]" 5000 (.ofSeconds 60)) {}
    let film := "\x7b\"title_long\":\"Film\",\"torrents\":[\x7b\"hash\":\" a-b \",\"quality\":\"720p\"\x7d]\x7d"
    let body := "\x7b\"status\":\"ok\",\"data\":\x7b\"movie_count\":1,\"movies\":[" ++ film ++ "]\x7d\x7d"
    let search := "<table class=torrents><tr><td><a href=/1>Film</a></table>"
    let link := "magnet:?xt=urn:btih:A-B\\x26dn=1080p\\x26tr=udp"
    let detail := "<div id=extra-info><h2><a>Film</a></h2></div><script>'" ++ link ++ "'</script>"
    let network : Http.Network := ⟨fun _ url => some ⟨some 5, .response (.ofBody 200
      (Text.Utf8.encode (if url = "http://[::1]/torrent-search/tt" then search
        else if url = "http://[::1]/1" then detail else body)))⟩⟩
    let s := Session.start (.start .epoch (.empty 4) network [])
    s.Reachable ∧ ∃ found first, (f.find "tt" s).1 = .ok found ∧ first.quality = "720p" ∧
      found.filter (·.infoHash = "AB") = [first] := by
  intro f film body search link detail network s
  let found : Magnet.Extracted := ⟨"AB", "magnet:?xt=urn:btih:AB&dn=Film&tr=udp"⟩
  let u : Torrent := ⟨"Film", "1080p", found.infoHash, found.magnet⟩
  -- the magnet of the release has all trackers, so it is not read here
  let seen (a : Arrival) : String × Option (List (String × String)) :=
    (a.source, a.outcome.toOption.map (List.map fun t => (t.infoHash, t.quality)))
  have hruns : ((f.waitedWithin "tt" s 20).any fun (p, q) => decide <|
      (arrivals ((f.fastChecks s).zip (f.fast.map (·.name))) p).map seen =
        [(Source.Yts.name, some [("AB", "720p")])] ∧
      q.outcome? (f.slowCheck s) = some (.ok [u])) = true := by decide +kernel
  obtain ⟨⟨p, q⟩, hwaited, hruns⟩ := (Option.any_eq_true _ _).mp hruns
  obtain ⟨hlisted, hscraped⟩ := of_decide_eq_true hruns
  obtain ⟨hfast, hgrace⟩ := waited_of_waitedWithin f "tt" s 20 (List.cons_ne_nil _ _) rfl hwaited
  have hs : s.Reachable := .start _
  obtain ⟨⟨name, outcome⟩, harrivals, ha⟩ := List.map_eq_singleton_iff.mp hlisted
  obtain ⟨rfl, hseen⟩ := Prod.mk.inj ha
  obtain ⟨results, houtcome, hresults⟩ := Option.map_eq_some_iff.mp hseen
  obtain rfl : outcome = .ok results := eq_ok_of_toOption houtcome
  obtain ⟨t, rfl, ht⟩ := List.map_eq_singleton_iff.mp hresults
  obtain ⟨hhash, hquality⟩ := Prod.mk.inj ht
  have harrived : ⟨Source.Yts.name, .ok [t]⟩ ∈ f.fastArrivals "tt" s := by
    rw [fastArrivals, hfast, harrivals]
    exact List.mem_cons_self
  have hintime : f.slowArrival? "tt" s = some ⟨Source.Ibit.name, .ok [u]⟩ := by
    rw [slowArrival?, hgrace, hscraped]
    rfl
  obtain ⟨raw, hfield⟩ := spelled_of_fastArrival _ _ _ _ hs.ready rfl (by decide)
    ⟨rfl, .empty 4, by decide⟩ rfl harrived _ rfl t List.mem_cons_self
  have hraw : Magnet.Strategy.escaped.rawHash? link.toList = some ['A', '-', 'B'] := by decide +kernel
  have hextract : Magnet.Strategy.escaped.extract? link "Film" = some found := by decide +kernel
  have hlink : SpelledBy ['A', '-', 'B'] u := .link hraw hextract "1080p"
  obtain ⟨hsame, -, -, honce⟩ := find_once_however_spelled
    (.ofBase "http://[::1]" 5000 (.ofSeconds 60)) (.ofBase "http://[::1]" 5000 (.ofSeconds 60)) {} "tt" hs
  obtain ⟨merged, first, hfind, hfirst, hfilter, -⟩ := honce [t] [u] harrived hintime t
    List.mem_cons_self u List.mem_cons_self _ _ hfield hlink ((hsame _ _ _ _ hfield hlink).mp hhash)
  obtain rfl : first = t := by simpa using (List.mem_of_find?_eq_some hfirst)
  rw [hhash] at hfilter
  exact ⟨hs, merged, first, hfind, hquality, hfilter⟩

end Federation

end TorrentSearch
