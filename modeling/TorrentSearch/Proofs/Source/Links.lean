import TorrentSearch.Proofs.Source.Visits
import TorrentSearch.Proofs.Url.Paths

/-!
# Where links lead

Links of scraped pages are arbitrary texts. Whatever they are, the URL that one leads to is the base URL
without slashes at its end, with a slash and something more behind it. So no page makes a visit leave
the site.
-/

namespace TorrentSearch

open Source (requested? withoutUser isRequestable)
open Source.Ibit (Access)

namespace Page

theorem trimBase_trimBase (base : String) :
    trimBase (String.ofList (trimBase base)) = trimBase base := by
  rw [trimBase, String.toList_ofList]
  exact List.rdropWhile_idempotent _ _

theorem resolveLink_trimBase (href base : String) :
    resolveLink href (String.ofList (trimBase base)) = resolveLink href base := by
  simp only [resolveLink, replaceBase, trimBase_trimBase]

theorem isHttp_of_isFullLink {href : String} {u : Url} (hfull : isFullLink href = true)
    (h : Url.ofText href = .ok u) : u.isHttp = true := by
  simp only [isFullLink, Bool.or_eq_true, List.isPrefixOf_iff_prefix] at hfull
  unfold Url.ofText at h
  rcases hfull with ⟨rest, hhref⟩ | ⟨rest, hhref⟩ <;> rw [← hhref] at h
  · have hscheme : u.scheme = "http".toList.map Char.toLower :=
      Url.scheme_of_parse_append (by decide) (List.all_eq_true.mp (by decide)) rfl h
    simp [Url.isHttp, hscheme]
  · have hscheme : u.scheme = "https".toList.map Char.toLower :=
      Url.scheme_of_parse_append (by decide) (List.all_eq_true.mp (by decide)) rfl h
    simp [Url.isHttp, hscheme]

theorem resolveLink_cases (href base : String) :
    (∃ text, resolveLink href base = .error (.parse text)) ∨
      ∃ rest, resolveLink href base = .ok (String.ofList (trimBase base ++ '/' :: rest)) := by
  unfold resolveLink
  split
  · rename_i hfull
    unfold replaceBase
    split
    · rename_i u hu
      obtain ⟨rest, hrest⟩ := Url.exists_pathAndQuery_eq_cons hu (isHttp_of_isFullLink hfull hu)
      exact .inr ⟨rest, by rw [hrest]⟩
    · exact .inl ⟨_, rfl⟩
  · right
    cases hhref : href.toList with
    | nil => exact ⟨[], rfl⟩
    | cons c rest =>
      by_cases hc : c = '/'
      · exact ⟨rest, by simp [hc]⟩
      · exact ⟨c :: rest, by simp [hc]⟩

end Page

namespace Source

theorem exists_of_requested? {text url : String} (h : requested? text = some url) :
    ∃ v, Url.ofText text = .ok v ∧ url = String.ofList (withoutUser v).renderRequest := by
  unfold requested? at h
  split at h
  · cases h
  · rename_i v hv
    dsimp only at h
    split at h
    · cases h
      exact ⟨v, hv, rfl⟩
    · cases h

theorem pageUrl?_ofBase (href base : String) (timeout : Nat) (maxAge : Time.Span) (pageDelay : Nat) :
    (Access.ofBase base timeout maxAge pageDelay).pageUrl? href =
      (Page.resolveLink href base).toOption.bind requested? := by
  have hbase : (Access.ofBase base timeout maxAge pageDelay).base = Page.trimBase base := rfl
  rw [← Page.resolveLink_trimBase, Ibit.Access.pageUrl?, hbase]
  cases Page.resolveLink href (String.ofList (Page.trimBase base)) <;> rfl

end Source

namespace Page

/-- Whatever a link of a page says, it leads nowhere, or to a path behind the base URL, with the same
scheme, host and port. A visit of it requests nothing from another host. -/
theorem resolveLink_stays_on_site {base : String} {u : Url} (hbase : Url.ofText base = .ok u)
    (hhttp : u.isHttp = true) (href : String) :
    ((∃ text, resolveLink href base = .error (.parse text)) ∨
      ∃ rest, resolveLink href base = .ok (String.ofList (trimBase base ++ '/' :: rest)) ∧
        ∀ v, Url.ofText (String.ofList (trimBase base ++ '/' :: rest)) = .ok v →
          v.scheme = u.scheme ∧ v.authority = u.authority) ∧
    ∀ (timeout : Nat) (maxAge : Time.Span) (pageDelay : Nat) (url : String),
      (Access.ofBase base timeout maxAge pageDelay).pageUrl? href = some url →
        ∃ v : Url, url = String.ofList v.renderRequest ∧ v.scheme = u.scheme ∧
          v.authority = u.authority.map fun a => { a with userinfo := [] } := by
  have hstays (rest : List Char) {v : Url}
      (hv : Url.ofText (String.ofList (trimBase base ++ '/' :: rest)) = .ok v) :
      v.scheme = u.scheme ∧ v.authority = u.authority := by
    rw [Url.ofText, String.toList_ofList] at hv
    rcases Url.parse_behind hbase hhttp with ⟨-, herror⟩ | ⟨-, own, a, behind, front, -, hu, -, -, hok⟩
    · obtain ⟨e, he⟩ := herror rest
      cases hv.symm.trans he
    · cases hv.symm.trans (hok rest)
      rw [hu]
      exact ⟨rfl, rfl⟩
  refine ⟨?_, ?_⟩
  · rcases resolveLink_cases href base with herror | ⟨rest, hrest⟩
    · exact .inl herror
    · exact .inr ⟨rest, hrest, fun v hv => hstays rest hv⟩
  · intro timeout maxAge pageDelay url hurl
    rw [Source.pageUrl?_ofBase] at hurl
    obtain ⟨link, hlink, hrequested⟩ := Option.bind_eq_some_iff.mp hurl
    rcases resolveLink_cases href base with ⟨text, herror⟩ | ⟨rest, hrest⟩
    · rw [herror] at hlink
      cases hlink
    · rw [hrest] at hlink
      obtain rfl := Option.some.inj hlink
      obtain ⟨v, hv, rfl⟩ := Source.exists_of_requested? hrequested
      obtain ⟨hscheme, hauthority⟩ := hstays rest hv
      exact ⟨withoutUser v, rfl, hscheme, by rw [← hauthority]; rfl⟩

/-- A link that names a user and another host, behind a base URL with a port and a path. -/
theorem resolveLink_stays_on_site_of_user :
    Url.ofText "http://ibit.test:8080/proxy/" =
        .ok ⟨"http".toList, some ⟨[], .name "ibit.test".toList, some 8080⟩, "/proxy/".toList, none,
          none⟩ ∧
      resolveLink "https://ibit.test@evil.test/x?y" "http://ibit.test:8080/proxy/" =
        .ok "http://ibit.test:8080/proxy/x?y" ∧
      (((∃ text, resolveLink "https://ibit.test@evil.test/x?y" "http://ibit.test:8080/proxy/" =
            .error (.parse text)) ∨
          ∃ rest, resolveLink "https://ibit.test@evil.test/x?y" "http://ibit.test:8080/proxy/" =
              .ok (String.ofList (trimBase "http://ibit.test:8080/proxy/" ++ '/' :: rest)) ∧
            ∀ v, Url.ofText (String.ofList (trimBase "http://ibit.test:8080/proxy/" ++ '/' :: rest)) =
              .ok v → v.scheme = "http".toList ∧
                v.authority = some ⟨[], .name "ibit.test".toList, some 8080⟩) ∧
        ∀ (timeout : Nat) (maxAge : Time.Span) (pageDelay : Nat) (url : String),
          (Access.ofBase "http://ibit.test:8080/proxy/" timeout maxAge pageDelay).pageUrl?
              "https://ibit.test@evil.test/x?y" = some url →
            ∃ v : Url, url = String.ofList v.renderRequest ∧ v.scheme = "http".toList ∧
              v.authority = some ⟨[], .name "ibit.test".toList, some 8080⟩) :=
  ⟨by decide +kernel, by decide +kernel,
    resolveLink_stays_on_site (by decide +kernel :
      Url.ofText "http://ibit.test:8080/proxy/" =
        .ok ⟨"http".toList, some ⟨[], .name "ibit.test".toList, some 8080⟩, "/proxy/".toList, none,
          none⟩) (by decide) _⟩

end Page

end TorrentSearch
