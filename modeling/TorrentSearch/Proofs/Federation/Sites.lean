import TorrentSearch.Config.Validate
import TorrentSearch.Proofs.Federation.Lifetime
import TorrentSearch.Proofs.Source.SearchUrl

/-!
# Sites of a configuration

A configuration that makes sense has base URLs of web pages. What its sources request is put together
from the same texts, and leads to the same hosts. The exception is a base URL with a control character
or a space right behind its host: it is accepted, and every request of it fails.
-/

namespace TorrentSearch

open Source (requested? withoutUser isRequestable)

namespace Config

theorem exists_url_of_validateBaseUrl {name url : String} (h : validateBaseUrl name url = .ok ()) :
    ∃ u, Url.ofText url = .ok u ∧ u.isHttp = true := by
  unfold validateBaseUrl at h
  split at h
  · cases h
  · rename_i u hu
    unfold ensure at h
    split at h
    · exact ⟨u, hu, ‹_›⟩
    · cases h

theorem validateBaseUrl_of_validate {c : Config} (h : c.validate = .ok ()) :
    (c.sources.yts.enabled = true →
      validateBaseUrl "sources.yts.base_url" c.sources.yts.baseUrl = .ok ()) ∧
    (c.sources.ibit.enabled = true →
      validateBaseUrl "sources.ibit.base_url" c.sources.ibit.baseUrl = .ok ()) := by
  unfold validate at h
  obtain ⟨-, -, h⟩ := Url.exists_of_bind_eq_ok h
  obtain ⟨-, -, h⟩ := Url.exists_of_bind_eq_ok h
  dsimp only at h
  split at h
  · obtain ⟨⟨⟩, hyts, h⟩ := Url.exists_of_bind_eq_ok h
    split at h
    · obtain ⟨⟨⟩, hibit, -⟩ := Url.exists_of_bind_eq_ok h
      exact ⟨fun _ => hyts, fun _ => hibit⟩
    · exact ⟨fun _ => hyts, fun hibit => absurd hibit ‹_›⟩
  · split at h
    · obtain ⟨⟨⟩, hibit, -⟩ := Url.exists_of_bind_eq_ok h
      exact ⟨fun hyts => absurd hyts ‹_›, fun _ => hibit⟩
    · exact ⟨fun hyts => absurd hyts ‹_›, fun hibit => absurd hibit ‹_›⟩

end Config

namespace Federation

/-- The URL that is requested first for an identifier, as the site puts it together. -/
def Site.searchUrl : Site → String → String
  | .yts access => access.searchUrl
  | .ibit access => access.searchUrl

/-- The enabled sites of a configuration, in the order of its sources, with their base URLs. -/
def sitesOf (c : Config) : List (String × Site) :=
  (if c.sources.yts.enabled then
    [(c.sources.yts.baseUrl,
      .yts (.ofBase c.sources.yts.baseUrl c.sources.timeout.ceilMillis c.cache.maxAge))]
  else []) ++
  (if c.sources.ibit.enabled then
    [(c.sources.ibit.baseUrl,
      .ibit (.ofBase c.sources.ibit.baseUrl c.sources.timeout.ceilMillis c.cache.maxAge
        c.sources.ibit.pageDelayMs))]
  else [])

theorem sources_ofConfig (c : Config) :
    (ofConfig c).sources = (sitesOf c).map fun s => s.2.toSource := by
  unfold sources ofConfig sitesOf
  by_cases hyts : c.sources.yts.enabled = true <;> by_cases hibit : c.sources.ibit.enabled = true
  all_goals
    simp only [hyts, hibit, if_true, Bool.false_eq_true, if_false]
    rfl

theorem mem_sitesOf {c : Config} {base : String} {site : Site} (h : (base, site) ∈ sitesOf c) :
    (c.sources.yts.enabled = true ∧ base = c.sources.yts.baseUrl ∧
      ∃ timeout maxAge, site = .yts (.ofBase base timeout maxAge)) ∨
    (c.sources.ibit.enabled = true ∧ base = c.sources.ibit.baseUrl ∧
      ∃ timeout maxAge pageDelay, site = .ibit (.ofBase base timeout maxAge pageDelay)) := by
  rcases List.mem_append.mp h with h | h <;> split at h
  · rename_i hyts
    cases List.mem_singleton.mp h
    exact .inl ⟨hyts, rfl, _, _, rfl⟩
  · cases h
  · rename_i hibit
    cases List.mem_singleton.mp h
    exact .inr ⟨hibit, rfl, _, _, _, rfl⟩
  · cases h

theorem exists_searchUrl_eq {c : Config} {base : String} {site : Site}
    (hsite : (base, site) ∈ sitesOf c) (id : String) :
    ∃ rest, site.searchUrl id = String.ofList (Page.trimBase base ++ '/' :: rest) := by
  rcases mem_sitesOf hsite with ⟨-, -, _, _, rfl⟩ | ⟨-, -, _, _, _, rfl⟩
  · exact ⟨_, Source.Yts.Access.searchUrl_ofBase ..⟩
  · exact ⟨_, Source.Ibit.Access.searchUrl_ofBase ..⟩

theorem exists_url_of_validate {c : Config} (h : c.validate = .ok ()) {base : String} {site : Site}
    (hsite : (base, site) ∈ sitesOf c) : ∃ u, Url.ofText base = .ok u ∧ u.isHttp = true := by
  obtain ⟨hyts, hibit⟩ := Config.validateBaseUrl_of_validate h
  rcases mem_sitesOf hsite with ⟨henabled, rfl, -⟩ | ⟨henabled, rfl, -⟩
  · exact Config.exists_url_of_validateBaseUrl (hyts henabled)
  · exact Config.exists_url_of_validateBaseUrl (hibit henabled)

/-- Under a configuration that makes sense, each source searches behind its base URL. It requests
nothing but the scheme, the host and the port of that URL, whatever the identifier, unless a control
character or a space stands right behind the host: then the text is no URL, and all requests fail. -/
theorem searchUrl_stays_on_site {c : Config} (h : c.validate = .ok ()) :
    (ofConfig c).sources = ((sitesOf c).map fun s => s.2.toSource) ∧
    ∀ base site, (base, site) ∈ sitesOf c → ∀ id,
      ∃ u, Url.ofText base = .ok u ∧ u.isHttp = true ∧
        (Url.endsLoosely base.toList = false → ∃ v, Url.ofText (site.searchUrl id) = .ok v ∧
          v.isHttp = true ∧ v.scheme = u.scheme ∧ v.authority = u.authority ∧
          requested? (site.searchUrl id) =
            if isRequestable (withoutUser v) then some (String.ofList (withoutUser v).renderRequest)
            else none) ∧
        (Url.endsLoosely base.toList = true → (∃ e, Url.ofText (site.searchUrl id) = .error e) ∧
          ∀ timeout, Source.get (site.searchUrl id) timeout =
            .done (.error (.request (site.searchUrl id) "builder error"))) := by
  refine ⟨sources_ofConfig c, fun base site hsite id => ?_⟩
  obtain ⟨u, hbase, hhttp⟩ := exists_url_of_validate h hsite
  obtain ⟨rest, hsearch⟩ := exists_searchUrl_eq hsite id
  have hparse : Url.ofText (site.searchUrl id) = Url.parse (Page.trimBase base ++ '/' :: rest) := by
    rw [hsearch, Url.ofText, String.toList_ofList]
  refine ⟨u, hbase, hhttp, ?_⟩
  rcases Url.parse_behind hbase hhttp with
    ⟨hloose, herror⟩ | ⟨hfirm, own, a, behind, front, -, hu, -, -, hok⟩
  · refine ⟨fun hfirm => absurd (hloose.symm.trans hfirm) Bool.noConfusion, fun _ => ?_⟩
    obtain ⟨e, he⟩ := herror rest
    have hread : Url.ofText (site.searchUrl id) = .error e := hparse.trans he
    exact ⟨⟨e, hread⟩, fun timeout => by rw [Source.get, hread]⟩
  · refine ⟨fun _ => ?_, fun hloose => absurd (hfirm.symm.trans hloose) Bool.noConfusion⟩
    have hread := hparse.trans (hok rest)
    have hauthority : u.authority = some a := by rw [hu]; rfl
    exact ⟨_, hread, hhttp, rfl, hauthority.symm, by rw [requested?, hread]⟩

/-- Behind a proxy with a port. -/
theorem searchUrl_stays_on_site_of_proxy :
    let c : Config :=
      { sources := { yts := { enabled := false }, ibit := { baseUrl := "http://ibit.test:81/x/" } } }
    let site : Site := .ibit (.ofBase "http://ibit.test:81/x/" 5000 (.ofSeconds 86400) 150)
    c.validate = .ok () ∧ ("http://ibit.test:81/x/", site) ∈ sitesOf c ∧
      ∃ v, Url.ofText (site.searchUrl "//evil.test") = .ok v ∧ v.scheme = "http".toList ∧
        v.authority = some ⟨[], .name "ibit.test".toList, some 81⟩ := by
  intro c site
  have hvalid : c.validate = .ok () := by decide +kernel
  have hsite : ("http://ibit.test:81/x/", site) ∈ sitesOf c := by decide +kernel
  have hbase : Url.ofText "http://ibit.test:81/x/" =
      .ok ⟨"http".toList, some ⟨[], .name "ibit.test".toList, some 81⟩, "/x/".toList, none, none⟩ := by
    decide +kernel
  obtain ⟨u, hu, -, hfirm, -⟩ := (searchUrl_stays_on_site hvalid).2 _ _ hsite "//evil.test"
  cases hbase.symm.trans hu
  obtain ⟨v, hv, -, hscheme, hauthority, -⟩ := hfirm (by decide +kernel)
  exact ⟨hvalid, hsite, v, hv, hscheme, hauthority⟩

/-- A base URL with a space at its end makes sense, and is no URL once something stands behind it. -/
theorem not_searchUrl_stays_on_site_of_blank :
    let c : Config :=
      { sources := { yts := { baseUrl := "http://yts.test " }, ibit := { enabled := false } } }
    let site : Site := .yts (.ofBase "http://yts.test " 5000 (.ofSeconds 86400))
    c.validate = .ok () ∧ sitesOf c = [("http://yts.test ", site)] ∧
      Text.isBlankText "tt1" = false ∧
      Url.ofText (site.searchUrl "tt1") = .error .invalidHostName := by
  decide +kernel

end Federation

end TorrentSearch
