import TorrentSearch.Proofs.Source.CarriedHash
import TorrentSearch.Proofs.Text.Occurrences
import TorrentSearch.Proofs.Text.Percent

/-!
# Links in scripts

A link in a script is rebuilt from its hash, the title of the page and its trackers, whatever else stands
in it. The plain form is looked for first. Where an `&` follows somewhere, it finds a stretch, but one
with a backslash, which is no hash.
-/

namespace TorrentSearch

theorem Text.lazyCapture?_eq_none {lead stop s : List Char} {c : Char} (hstop : c ∈ stop) (hs : c ∉ s) :
    lazyCapture? lead stop s = none := by
  cases hcapture : lazyCapture? lead stop s with
  | none => rfl
  | some stretch =>
    have hin : c ∈ s := (lazyCapture?_isInfix hcapture).subset (List.mem_append_right _ hstop)
    exact absurd hin hs

namespace Magnet

/-- A link as scripts write it: a hash, which may be split by dashes, the name of a release, which may be
followed by more parameters, and trackers. -/
def escapedLink (dashed release trackers : String) : String :=
  "magnet:?xt=urn:btih:" ++ dashed ++ "\\x26dn=" ++ release ++ "\\x26tr=" ++ trackers

theorem toList_escapedLink (dashed release trackers : String) :
    (escapedLink dashed release trackers).toList =
      "magnet:?xt=urn:".toList ++ (hashLead ++ (dashed.toList ++ (escapedNameLead ++
        (release.toList ++ (escapedTrackerLead ++ trackers.toList))))) := by
  have hstart : "magnet:?xt=urn:btih:".toList = "magnet:?xt=urn:".toList ++ hashLead := by decide
  unfold escapedLink escapedNameLead escapedTrackerLead
  rw [String.toList_append, String.toList_append, String.toList_append, String.toList_append,
    String.toList_append, hstart, List.append_assoc, List.append_assoc, List.append_assoc,
    List.append_assoc, List.append_assoc]

/-- The spelling consists of hexadecimal digits and dashes, and there are some digits. -/
structure IsDashed (raw : List Char) : Prop where
  nonempty : raw.filter (· ≠ '-') ≠ []
  digits : ∀ c ∈ raw.filter (· ≠ '-'), Text.isHexDigit c = true

namespace IsDashed

variable {raw : List Char} (h : IsDashed raw)

include h

theorem ne_nil : raw ≠ [] := by
  rintro rfl
  exact h.nonempty rfl

theorem not_mem {c : Char} (hc : Text.isHexDigit c = false) (hdash : c ≠ '-') : c ∉ raw := by
  intro hmem
  have hdigit := h.digits c (List.mem_filter.mpr ⟨hmem, decide_eq_true hdash⟩)
  rw [hc] at hdigit
  cases hdigit

theorem canonicalHash?_eq :
    canonicalHash? raw = some ((raw.filter (· ≠ '-')).map Char.toUpper) := by
  have hsome : (raw.filter (· ≠ '-')).isEmpty = false := List.isEmpty_eq_false_iff.mpr h.nonempty
  have hdigits : (raw.filter (· ≠ '-')).all Text.isHexDigit = true := List.all_eq_true.mpr h.digits
  simp only [canonicalHash?, hsome, hdigits]
  rfl

end IsDashed

theorem canonicalHash?_of_mem {raw : List Char} {c : Char} (hmem : c ∈ raw)
    (hc : Text.isHexDigit c = false) (hdash : c ≠ '-') : canonicalHash? raw = none := by
  have hdigits : (raw.filter (· ≠ '-')).all Text.isHexDigit = false := by
    rw [List.all_eq_false]
    exact ⟨c, List.mem_filter.mpr ⟨hmem, decide_eq_true hdash⟩, by simp [hc]⟩
  simp only [canonicalHash?, hdigits]
  simp

section

variable {dashed release trackers : String} (h : IsDashed dashed.toList)

include h

/-- Where the plain strategy finds a stretch at all, the stretch begins with the hash and the backslash
that ends it here. -/
theorem extract?_plain_escapedLink (hrelease : '\n' ∉ release.toList)
    (htrackers : '\n' ∉ trackers.toList) (title : String) :
    Strategy.plain.extract? (escapedLink dashed release trackers) title = none := by
  obtain ⟨rest, hrest⟩ : ∃ rest, escapedNameLead ++ (release.toList ++ (escapedTrackerLead ++
      trackers.toList)) = '\\' :: rest := ⟨_, rfl⟩
  have hline : '\n' ∉ '\\' :: rest := by
    simp only [← hrest, List.mem_append, not_or]
    exact ⟨by decide, hrelease, by decide, htrackers⟩
  have hnewline : '\n' ∉ dashed.toList := h.not_mem (by decide) (by decide)
  have hamp : '&' ∉ dashed.toList := h.not_mem (by decide) (by decide)
  have hlead : hashLead = 'b' :: "tih:".toList := by decide
  have hnone : ((Strategy.plain.rawHash? (escapedLink dashed release trackers).toList).bind
      canonicalHash?) = none := by
    rw [toList_escapedLink, hrest, Strategy.rawHash?, hlead, Text.lazyCapture?_append (by decide)]
    by_cases hmem : '&' ∈ rest
    · obtain ⟨front, back, rfl, hfront⟩ := List.eq_append_cons_of_mem hmem
      simp only [List.mem_cons, List.mem_append, not_or] at hline
      have hstretch : Text.nonemptyStretchTo? ['&'] ((dashed.toList ++ '\\' :: front) ++ '&' :: back) =
          some (dashed.toList ++ '\\' :: front) :=
        Text.nonemptyStretchTo?_append (by simp) (by simp [hamp, hfront])
          (by simp [hnewline, hline.2.1]) back
      rw [List.append_assoc, List.cons_append] at hstretch
      rw [Text.lazyCapture?_lead hstretch, Option.bind_some]
      exact canonicalHash?_of_mem (c := '\\') (by simp) (by decide) (by decide)
    · rw [Text.lazyCapture?_eq_none (c := '&') (by decide) (by simp [hamp, hmem])]
      rfl
  rw [Strategy.extract?, hnone]

theorem rawHash?_escapedLink (release trackers : String) :
    Strategy.escaped.rawHash? (escapedLink dashed release trackers).toList = some dashed.toList := by
  have hlead : hashLead = 'b' :: "tih:".toList := by decide
  have hend : escapedNameLead = '\\' :: "x26dn=".toList := by decide
  have hstretch := Text.nonemptyStretchTo?_append_stop h.ne_nil
    (h.not_mem (c := '\\') (by decide) (by decide)) (h.not_mem (by decide) (by decide))
    "x26dn=".toList (release.toList ++ (escapedTrackerLead ++ trackers.toList))
  rw [toList_escapedLink, Strategy.rawHash?, hlead, Text.lazyCapture?_append (by decide), hend]
  exact Text.lazyCapture?_lead hstretch

/-- Neither the hash nor what ends it leads a list of trackers, and no lead reaches from the release into
the next one. -/
theorem fromFirst?_escapedLink (hfirst : ¬ escapedTrackerLead <:+: release.toList) (trackers : String) :
    Text.fromFirst? escapedTrackerLead (escapedLink dashed release trackers).toList =
      some (escapedTrackerLead ++ trackers.toList) := by
  have hlead : escapedTrackerLead = '\\' :: "x26tr=".toList := by decide
  have hend : escapedNameLead = '\\' :: "x26dn=".toList := by decide
  have hfront : ¬ escapedTrackerLead <:+: "magnet:?xt=urn:".toList ++ (hashLead ++ (dashed.toList ++
      (escapedNameLead ++ release.toList))) := by
    intro hmem
    rw [hlead] at hmem hfirst
    have hmem := Text.isInfix_of_append (by decide) hmem
    have hmem := Text.isInfix_of_append (by decide) hmem
    have hmem := Text.isInfix_of_append (h.not_mem (by decide) (by decide)) hmem
    rw [hend, List.cons_append, List.infix_cons_iff, List.cons_prefix_cons] at hmem
    rcases hmem with ⟨-, hhere⟩ | hlater
    · simp at hhere
    · exact hfirst (Text.isInfix_of_append (by decide) hlater)
  have hfound : Text.fromFirst? escapedTrackerLead ("magnet:?xt=urn:".toList ++ (hashLead ++
      (dashed.toList ++ (escapedNameLead ++ release.toList))) ++
        (escapedTrackerLead ++ trackers.toList)) = some (escapedTrackerLead ++ trackers.toList) := by
    rw [hlead] at hfront ⊢
    exact Text.fromFirst?_append (by decide) hfront trackers.toList
  rw [toList_escapedLink]
  simpa only [List.append_assoc] using hfound

end

theorem replaceAll_trackers (trackers : List Char) :
    Text.replaceAll escapedAmp ['&'] (escapedTrackerLead ++ trackers) =
      "&tr=".toList ++ Text.replaceAll escapedAmp ['&'] trackers := by
  have hlead : escapedTrackerLead = escapedAmp ++ "tr=".toList := by decide
  have hamp : escapedAmp = '\\' :: "x26".toList := by decide
  have hskip : Text.replaceAll escapedAmp ['&'] ("tr=".toList ++ trackers) =
      "tr=".toList ++ Text.replaceAll escapedAmp ['&'] trackers := by
    rw [hamp]
    exact Text.replaceAll_append (by decide) ['&'] trackers
  rw [hlead, List.append_assoc, Text.replaceAll_append_self (by decide), hskip]
  rfl

theorem build_trackers (hash trackers : List Char) (title : String) :
    build hash title.toList ("&tr=".toList ++ trackers) =
      "magnet:?xt=urn:btih:" ++ String.ofList hash ++ "&dn=" ++ Text.Percent.encodeValue title ++
        "&tr=" ++ String.ofList trackers := by
  apply String.toList_inj.mp
  unfold Text.Percent.encodeValue
  rw [toList_build]
  simp only [String.toList_append, String.toList_ofList, List.append_assoc]

theorem IsCanonical.not_isInfix_build {hash tail : List Char} (h : IsCanonical hash)
    (htail : ¬ escapedAmp <:+: tail) (title : List Char) :
    ¬ escapedAmp <:+: (build hash title tail).toList := by
  have hdigits : ∀ n < 16, '\\' ≠ Text.upperHexDigit n := by decide
  have htitle : '\\' ∉ Text.Percent.encode Text.Percent.isUnreserved title := by
    intro hmem
    rcases Text.Percent.of_mem_encode hmem with hkept | hpercent | ⟨n, hn, hdigit⟩
    · exact absurd hkept (by decide)
    · exact absurd hpercent (by decide)
    · exact hdigits n hn hdigit
  have hhash : '\\' ∉ hash := h.not_mem (by decide)
  have hfront : '\\' ∉ "magnet:?xt=urn:btih:".toList ++ hash ++ "&dn=".toList ++
      Text.Percent.encode Text.Percent.isUnreserved title := by
    simp only [List.mem_append, not_or]
    exact ⟨⟨⟨by decide, hhash⟩, by decide⟩, htitle⟩
  intro hmem
  rw [toList_build] at hmem
  exact htail (Text.isInfix_of_append hfront hmem)

/-- From a link in a script with a hexadecimal hash, in letters of either case and split by dashes anywhere,
the default strategies recover the hash and rebuild the link from the hash, the title and what stands from
the first lead of trackers on. Every escape of an amp there is replaced, and none is left in the link. The
name of the release is not looked at, nor are the trackers, even if an amp, the lead of a hash or the lead
of a name stand in them. -/
theorem escapedLink_rebuilt {hash dashed release trackers : String} (hne : hash ≠ "")
    (hdigits : ∀ c ∈ hash.toList, Text.isHexDigit c = true)
    (hdashed : dashed.toList.filter (· ≠ '-') = hash.toList) (hrelease : '\n' ∉ release.toList)
    (htrackers : '\n' ∉ trackers.toList) (hfirst : ¬ escapedTrackerLead <:+: release.toList)
    (title : String) :
    let upper := String.ofList (hash.toList.map Char.toUpper)
    let replaced := Text.replaceAll escapedAmp ['&'] trackers.toList
    let link := "magnet:?xt=urn:btih:" ++ upper ++ "&dn=" ++ Text.Percent.encodeValue title ++ "&tr=" ++
      String.ofList replaced
    extract? defaultStrategies (escapedLink dashed release trackers) title = some ⟨upper, link⟩ ∧
      ¬ escapedAmp <:+: link.toList ∧
      ∃ piece pieces, (∀ p ∈ piece :: pieces, ¬ escapedAmp <:+: p) ∧
        escapedAmp.intercalate (piece :: pieces) = trackers.toList ∧
        ['&'].intercalate (piece :: pieces) = replaced := by
  intro upper replaced link
  have hsome : hash.toList ≠ [] := fun hnil => hne (String.toList_eq_nil_iff.mp hnil)
  have h : IsDashed dashed.toList := ⟨hdashed ▸ hsome, hdashed ▸ hdigits⟩
  have hcanonical : canonicalHash? dashed.toList = some (hash.toList.map Char.toUpper) :=
    hdashed ▸ h.canonicalHash?_eq
  have hlink : build (hash.toList.map Char.toUpper) title.toList ("&tr=".toList ++ replaced) = link :=
    build_trackers _ _ title
  have hplain := extract?_plain_escapedLink h hrelease htrackers title
  have hescaped : Strategy.escaped.extract? (escapedLink dashed release trackers) title =
      some ⟨upper, link⟩ := by
    simp only [Strategy.extract?, rawHash?_escapedLink h, Option.bind_some, hcanonical,
      fromFirst?_escapedLink h hfirst, Option.map_some, replaceAll_trackers]
    rw [hlink]
  refine ⟨?_, ?_, Text.exists_pieces_replaceAll (by decide) ['&'] trackers.toList⟩
  · simp only [extract?, defaultStrategies, List.findSome?_cons, hplain, hescaped]
  · have htail : ¬ escapedAmp <:+: "&tr=".toList ++ replaced := by
      rw [← replaceAll_trackers]
      exact Text.not_isInfix_replaceAll (by decide) (by decide) _
    rw [← hlink]
    exact (isCanonical_of_canonicalHash? hcanonical).not_isInfix_build htail _

/-- The release has an amp, another hash and another name in it, and the trackers have an escape, the half
of one and an amp. -/
theorem escapedLink_rebuilt_of_film :
    let hash := "aB12"
    let dashed := "-a-B1-2"
    let release := "Film &a=btih:ff\\x26dn=Film\\x26t"
    let trackers := "udp://a\\x26tr=udp://b\\x2&tr=btih:00"
    let link := "magnet:?xt=urn:btih:AB12&dn=A%20%26%20B&tr=udp://a&tr=udp://b\\x2&tr=btih:00"
    hash ≠ "" ∧ (∀ c ∈ hash.toList, Text.isHexDigit c = true) ∧
      dashed.toList.filter (· ≠ '-') = hash.toList ∧ '\n' ∉ release.toList ∧ '\n' ∉ trackers.toList ∧
      ¬ escapedTrackerLead <:+: release.toList ∧
      extract? defaultStrategies (escapedLink dashed release trackers) "A & B" =
        some ⟨"AB12", link⟩ ∧
      ¬ escapedAmp <:+: link.toList := by
  intro hash dashed release trackers link
  have hne : hash ≠ "" := by decide
  have hdigits : ∀ c ∈ hash.toList, Text.isHexDigit c = true := List.all_eq_true.mp (by decide)
  have hdashed : dashed.toList.filter (· ≠ '-') = hash.toList := by decide
  have hrelease : '\n' ∉ release.toList := by decide
  have htrackers : '\n' ∉ trackers.toList := by decide
  have hfirst : ¬ escapedTrackerLead <:+: release.toList := by decide +kernel
  have hupper : String.ofList (hash.toList.map Char.toUpper) = "AB12" := by decide +kernel
  have hlink : "magnet:?xt=urn:btih:" ++ "AB12" ++ "&dn=" ++ Text.Percent.encodeValue "A & B" ++
      "&tr=" ++ String.ofList (Text.replaceAll escapedAmp ['&'] trackers.toList) = link := by
    decide +kernel
  obtain ⟨hextract, hnone, -⟩ :=
    escapedLink_rebuilt hne hdigits hdashed hrelease htrackers hfirst "A & B"
  rw [hupper, hlink] at hextract hnone
  exact ⟨hne, hdigits, hdashed, hrelease, htrackers, hfirst, hextract, hnone⟩

end Magnet

end TorrentSearch
