import Mathlib
import TorrentSearch.Proofs.Source.WellFormed

/-!
# Hashes in magnet links

A magnet link names its torrent by the hash in it. Links that are put together from a hash carry just
that hash. A plain link of a page is handed out as it stands: its hash may be split by dashes, and the
info hash of the torrent then does not occur in it.
-/

namespace TorrentSearch

namespace Text

theorem stretchTo?_isPrefix {stop s stretch : List Char} (h : stretchTo? stop s = some stretch) :
    stretch ++ stop <+: s := by
  induction s generalizing stretch with
  | nil =>
    simp only [stretchTo?] at h
    split at h
    · rename_i hstop
      cases h
      simp [List.isEmpty_iff.mp hstop]
    · cases h
  | cons c r ih =>
    simp only [stretchTo?] at h
    split at h
    · rename_i hhere
      cases h
      simpa using List.isPrefixOf_iff_prefix.mp hhere
    · split at h
      · cases h
      · obtain ⟨rest, hrest, rfl⟩ := Option.map_eq_some_iff.mp h
        rw [List.cons_append, List.prefix_cons_inj]
        exact ih hrest

theorem nonemptyStretchTo?_isPrefix {stop s stretch : List Char}
    (h : nonemptyStretchTo? stop s = some stretch) : stretch ++ stop <+: s := by
  cases s with
  | nil => cases h
  | cons c r =>
    simp only [nonemptyStretchTo?] at h
    split at h
    · cases h
    · obtain ⟨rest, hrest, rfl⟩ := Option.map_eq_some_iff.mp h
      rw [List.cons_append, List.prefix_cons_inj]
      exact stretchTo?_isPrefix hrest

theorem lazyCapture?_isInfix {lead stop s stretch : List Char}
    (h : lazyCapture? lead stop s = some stretch) : lead ++ stretch ++ stop <:+: s := by
  induction s with
  | nil => cases h
  | cons c r ih =>
    simp only [lazyCapture?] at h
    split at h
    · rename_i found hhere
      cases h
      split at hhere
      · rename_i hlead
        obtain ⟨rest, hrest⟩ := List.isPrefixOf_iff_prefix.mp hlead
        rw [← hrest, List.drop_left] at hhere
        have hstretch := nonemptyStretchTo?_isPrefix hhere
        rw [← hrest, List.append_assoc]
        exact ((List.prefix_append_right_inj lead).mpr hstretch).isInfix
      · cases hhere
    · exact (ih h).trans (List.suffix_cons c r).isInfix

end Text

namespace Magnet

theorem map_of_canonicalHash? {raw hash : List Char} (h : canonicalHash? raw = some hash) :
    (raw.filter (· ≠ '-')).map Char.toUpper = hash := by
  unfold canonicalHash? at h
  dsimp only at h
  split at h
  · cases h
  · exact Option.some.inj h

end Magnet

namespace Torrent

/-- The lead of a hash and the info hash stand in the magnet link, in letters of either case. -/
def CarriesHash (t : Torrent) : Prop :=
  (Magnet.hashLead ++ t.infoHash.toList).map Char.toLower <:+: t.magnet.toList.map Char.toLower

instance (t : Torrent) : Decidable t.CarriesHash :=
  inferInstanceAs (Decidable (_ <:+: _))

variable {t : Torrent}

theorem carriesHash_of_isInfix {written : List Char}
    (hwritten : Magnet.hashLead ++ written <:+: t.magnet.toList)
    (hhash : written.map Char.toUpper = t.infoHash.toList) : t.CarriesHash := by
  have hlower : t.infoHash.toList.map Char.toLower = written.map Char.toLower := by
    rw [← hhash, List.map_map]
    apply List.map_congr_left
    intro c _
    exact Char.toLower_toUpper_eq_toLower c
  unfold CarriesHash
  rw [List.map_append, hlower, ← List.map_append]
  exact hwritten.map Char.toLower

theorem WellFormed.exists_rawHash (h : t.WellFormed) :
    ∃ raw, Magnet.Strategy.plain.rawHash? t.magnet.toList = some raw ∧
      Magnet.hashLead ++ raw ++ ['&'] <:+: t.magnet.toList ∧
      (raw.filter (· ≠ '-')).map Char.toUpper = t.infoHash.toList := by
  have hextract := h.magnet ""
  unfold Magnet.Strategy.extract? at hextract
  split at hextract
  · cases hextract
  · rename_i hash hhash
    obtain ⟨raw, hraw, hcanonical⟩ := Option.bind_eq_some_iff.mp hhash
    simp only [Option.some.injEq, Magnet.Extracted.mk.injEq, and_true] at hextract
    refine ⟨raw, hraw, Text.lazyCapture?_isInfix hraw, ?_⟩
    rw [← hextract, String.toList_ofList]
    exact Magnet.map_of_canonicalHash? hcanonical

theorem carriesHash_of_undashed {raw : List Char} (hdash : '-' ∉ raw)
    (hstands : Magnet.hashLead ++ raw ++ ['&'] <:+: t.magnet.toList)
    (hhash : (raw.filter (· ≠ '-')).map Char.toUpper = t.infoHash.toList) : t.CarriesHash := by
  have hall : raw.filter (· ≠ '-') = raw := by
    rw [List.filter_eq_self]
    intro c hc
    exact decide_eq_true fun heq => hdash (heq ▸ hc)
  rw [hall] at hhash
  have hfront : Magnet.hashLead ++ raw <:+: t.magnet.toList :=
    (List.prefix_append _ _).isInfix.trans hstands
  exact carriesHash_of_isInfix hfront hhash

theorem carriesHash_of_build {hash title tail : List Char} (hcanonical : Magnet.IsCanonical hash)
    (hhash : t.infoHash = String.ofList hash) (hmagnet : t.magnet = Magnet.build hash title tail) :
    t.CarriesHash := by
  have hlist : t.infoHash.toList = hash := by rw [hhash, String.toList_ofList]
  have hraw : Magnet.Strategy.plain.rawHash? t.magnet.toList = some hash := by
    rw [hmagnet]
    exact hcanonical.rawHash?_build title tail
  apply carriesHash_of_undashed (hcanonical.not_mem (by decide)) (Text.lazyCapture?_isInfix hraw)
  have hsame := hcanonical.canonicalHash?_eq
  rw [Magnet.map_of_canonicalHash? hsame, hlist]

end Torrent

namespace Source.Yts

theorem exists_answer_of_ok {body : Option (List UInt8)} {results : List Torrent}
    (h : outcomeOfBody body = .ok results) : ∃ answer : Answer, answer.outcome = .ok results := by
  unfold outcomeOfBody at h
  split at h
  · split at h
    · rename_i answer _
      exact ⟨answer, h⟩
    · cases h
  · cases h

theorem mem_of_outcome {answer : Answer} {results : List Torrent} {t : Torrent}
    (h : answer.outcome = .ok results) (ht : t ∈ results) :
    ∃ film ∈ answer.films, t ∈ film.torrents := by
  unfold Answer.outcome at h
  split at h
  · cases h
  · split at h
    · cases h
      cases ht
    · cases h
      exact List.mem_flatMap.mp ht

end Source.Yts

theorem Source.Yts.Release.carriesHash_torrent {r : Release} {title : String} {t : Torrent}
    (h : r.torrent? title = some t) : t.CarriesHash := by
  unfold Release.torrent? at h
  simp only [Option.bind_eq_bind, Option.bind_eq_some_iff] at h
  obtain ⟨quality, -, hash, hhash, ht⟩ := h
  have hcanonical := Magnet.isCanonical_of_canonicalHash? hhash
  cases ht
  exact Torrent.carriesHash_of_build hcanonical rfl rfl

/-- The link of a torrent is the one of its page, or it is put together from the hash. -/
theorem Page.magnet?_or_build {strategies : List Magnet.Strategy} {page : String} {t : Torrent}
    (h : torrent strategies page = .ok t) :
    magnet? page = some t.magnet ∨ ∃ hash title tail, Magnet.IsCanonical hash ∧
      t.magnet = Magnet.build hash title tail := by
  unfold torrent at h
  obtain ⟨magnet, hmagnet, h⟩ := elim_throw_bind_eq_ok h
  obtain ⟨title, -, h⟩ := elim_throw_bind_eq_ok h
  obtain ⟨quality, -, h⟩ := elim_throw_bind_eq_ok h
  obtain ⟨found, hfound, h⟩ := elim_throw_bind_eq_ok h
  obtain ⟨strategy, -, hstrategy⟩ := List.exists_of_findSome?_eq_some hfound
  cases h
  unfold Magnet.Strategy.extract? at hstrategy
  split at hstrategy
  · cases hstrategy
  · rename_i hash hhash
    obtain ⟨raw, -, hraw⟩ := Option.bind_eq_some_iff.mp hhash
    have hcanonical := Magnet.isCanonical_of_canonicalHash? hraw
    cases strategy with
    | plain =>
      cases hstrategy
      exact .inl hmagnet
    | escaped =>
      obtain ⟨tail, -, rfl⟩ := Option.map_eq_some_iff.mp hstrategy
      exact .inr ⟨hash, _, _, hcanonical, rfl⟩

/-- Torrents of releases carry their hashes. In the link of a torrent of a page stands a hash that
names the info hash once its dashes are left out. The link carries the info hash if there are none, and
there are some only in a link that the page has just so. -/
theorem carriesHash_unless_dashed (t : Torrent) :
    (∀ body results, Source.Yts.outcomeOfBody body = .ok results → t ∈ results → t.CarriesHash) ∧
      ∀ strategies page, Page.torrent strategies page = .ok t →
        ∃ raw, Magnet.Strategy.plain.rawHash? t.magnet.toList = some raw ∧
          Magnet.hashLead ++ raw ++ ['&'] <:+: t.magnet.toList ∧
          (raw.filter (· ≠ '-')).map Char.toUpper = t.infoHash.toList ∧
          ('-' ∉ raw → t.CarriesHash) ∧
          ('-' ∈ raw → Page.magnet? page = some t.magnet) := by
  constructor
  · intro body results hbody ht
    obtain ⟨answer, hanswer⟩ := Source.Yts.exists_answer_of_ok hbody
    obtain ⟨film, -, htorrent⟩ := Source.Yts.mem_of_outcome hanswer ht
    obtain ⟨release, -, hrelease⟩ := List.mem_filterMap.mp htorrent
    exact release.carriesHash_torrent hrelease
  · intro strategies page h
    obtain ⟨raw, hraw, hstands, hhash⟩ := (Page.wellFormed_torrent h).exists_rawHash
    have hcarries (hdash : '-' ∉ raw) : t.CarriesHash :=
      Torrent.carriesHash_of_undashed hdash hstands hhash
    refine ⟨raw, hraw, hstands, hhash, hcarries, ?_⟩
    intro hdash
    rcases Page.magnet?_or_build h with hpage | ⟨hash, title, tail, hcanonical, hbuild⟩
    · exact hpage
    · have hbuilt := hcanonical.rawHash?_build title tail
      rw [← hbuild, hraw, Option.some.injEq] at hbuilt
      subst hbuilt
      exact absurd hdash (hcanonical.not_mem (by decide))

/-- A release, and a page whose link stands in a script, both with a dash in the hash. -/
theorem carriesHash_unless_dashed_of_release_and_script :
    let film := "\x7b\"title_long\":\"&\",\"torrents\":[\x7b\"hash\":\"a-b\",\"quality\":\"720P\"\x7d]\x7d"
    let body := "\x7b\"status\":\"ok\",\"data\":\x7b\"movie_count\":1,\"movies\":[" ++ film ++ "]\x7d\x7d"
    let page :=
      "<div id=extra-info><h2><a>Film</a></h2></div>'magnet:?xt=urn:btih:a-b\\x26dn=720p\\x26tr=udp'"
    (∃ t, Source.Yts.outcomeOfBody (some (Text.Utf8.encode body)) = .ok [t] ∧
      t.infoHash = "AB" ∧ t.CarriesHash) ∧
      ∃ t, Page.torrent Magnet.defaultStrategies page = .ok t ∧ t.infoHash = "AB" ∧
        t.CarriesHash := by
  intro film body page
  constructor
  · have hhashes : (Source.Yts.outcomeOfBody (some (Text.Utf8.encode body))).toOption.map
        (List.map Torrent.infoHash) = some ["AB"] := by decide +kernel
    obtain ⟨results, hresults, hhash⟩ := Option.map_eq_some_iff.mp hhashes
    obtain ⟨t, rfl, hab⟩ := List.map_eq_singleton_iff.mp hhash
    have hbody : Source.Yts.outcomeOfBody (some (Text.Utf8.encode body)) = .ok [t] := by
      cases houtcome : Source.Yts.outcomeOfBody (some (Text.Utf8.encode body)) with
      | ok found =>
        rw [houtcome] at hresults
        exact congrArg Except.ok (Option.some.inj hresults)
      | error e =>
        rw [houtcome] at hresults
        cases hresults
    obtain ⟨hreleases, -⟩ := carriesHash_unless_dashed t
    exact ⟨t, hbody, hab, hreleases _ _ hbody List.mem_cons_self⟩
  · let t : Torrent := ⟨"Film", "720p", "AB", "magnet:?xt=urn:btih:AB&dn=Film&tr=udp"⟩
    have hpage : Page.torrent Magnet.defaultStrategies page = .ok t := by decide +kernel
    have hwritten : Magnet.Strategy.plain.rawHash? t.magnet.toList = some ['A', 'B'] := by
      decide +kernel
    obtain ⟨-, hpages⟩ := carriesHash_unless_dashed t
    obtain ⟨raw, hraw, -, -, hcarries, -⟩ := hpages _ _ hpage
    rw [hwritten, Option.some.injEq] at hraw
    subst hraw
    exact ⟨t, hpage, rfl, hcarries (by decide)⟩

/-- The hash of a plain link stays split by its dashes, and the info hash is not found in the link. -/
theorem not_carriesHash_of_dashed :
    let page := "<div id=extra-info><h2><a>Film</a></h2></div>" ++
      "<script>'magnet:?xt=urn:btih:ab-cd&dn=720p'</script>"
    let t : Torrent := ⟨"Film", "720p", "ABCD", "magnet:?xt=urn:btih:ab-cd&dn=720p"⟩
    Page.torrent Magnet.defaultStrategies page = .ok t ∧ ¬ t.CarriesHash := by
  decide +kernel

end TorrentSearch
