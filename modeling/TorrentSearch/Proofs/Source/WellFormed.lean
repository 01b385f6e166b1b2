import TorrentSearch.Page.Detail
import TorrentSearch.Source.Yts

/-!
# Well-formed torrents

Each torrent that is made of what a server sends can be used: its info hash is canonical, its quality
is a known one, and its hash is recovered from its magnet link. This holds of links that are handed
out as they stand and of those that are put together from a hash, whatever the title and the trackers
are.
-/

namespace TorrentSearch

namespace Text

/-- The shortest stretch is all that stands in front of where its end begins for the first time. -/
theorem stretchTo?_append_stop {first : Char} {s : List Char} (hfirst : first ∉ s) (hline : '\n' ∉ s)
    (stop rest : List Char) : stretchTo? (first :: stop) (s ++ (first :: stop ++ rest)) = some s := by
  induction s with
  | nil => simp [stretchTo?]
  | cons c s ih =>
    simp only [List.mem_cons, not_or] at hfirst hline
    have hs := ih hfirst.2 hline.2
    simp only [List.cons_append] at hs ⊢
    simp [stretchTo?, hs, hfirst.1, Ne.symm hline.1]

theorem nonemptyStretchTo?_append_stop {first : Char} {s : List Char} (hne : s ≠ [])
    (hfirst : first ∉ s) (hline : '\n' ∉ s) (stop rest : List Char) :
    nonemptyStretchTo? (first :: stop) (s ++ (first :: stop ++ rest)) = some s := by
  cases s with
  | nil => exact absurd rfl hne
  | cons c s =>
    simp only [List.mem_cons, not_or] at hfirst hline
    have hs := stretchTo?_append_stop hfirst.2 hline.2 stop rest
    simp only [List.cons_append] at hs ⊢
    simp [nonemptyStretchTo?, hs, Ne.symm hline.1]

/-- The shortest stretch up to a character is all that stands in front of its first occurrence. -/
theorem nonemptyStretchTo?_append {stop : Char} {s : List Char} (hne : s ≠ []) (hstop : stop ∉ s)
    (hline : '\n' ∉ s) (rest : List Char) :
    nonemptyStretchTo? [stop] (s ++ stop :: rest) = some s :=
  nonemptyStretchTo?_append_stop hne hstop hline [] rest

theorem lazyCapture?_append {first : Char} {front : List Char} (hfront : first ∉ front)
    (lead stop s : List Char) :
    lazyCapture? (first :: lead) stop (front ++ s) = lazyCapture? (first :: lead) stop s := by
  induction front with
  | nil => rfl
  | cons c front ih =>
    simp only [List.mem_cons, not_or] at hfront
    have hrest := ih hfront.2
    simp [lazyCapture?, hfront.1, hrest]

theorem lazyCapture?_lead {first : Char} {lead stop s stretch : List Char}
    (h : nonemptyStretchTo? stop s = some stretch) :
    lazyCapture? (first :: lead) stop (first :: lead ++ s) = some stretch := by
  have hprefix : (first :: lead).isPrefixOf (first :: (lead ++ s)) = true := by
    rw [List.isPrefixOf_iff_prefix]
    exact List.prefix_append (first :: lead) s
  have hdrop : (first :: (lead ++ s)).drop (first :: lead).length = s := by
    rw [← List.cons_append]
    exact List.drop_left
  simp only [List.cons_append, lazyCapture?, hprefix, if_true, hdrop, h]

end Text

namespace Magnet

theorem toList_build (hash title tail : List Char) :
    (build hash title tail).toList = "magnet:?xt=urn:btih:".toList ++ hash ++ "&dn=".toList ++
      Text.Percent.encode Text.Percent.isUnreserved title ++ tail :=
  String.toList_ofList

/-- A digit from 0 to 9 or from A to F. -/
def IsCanonicalDigit (c : Char) : Prop :=
  ('0' ≤ c ∧ c ≤ '9') ∨ ('A' ≤ c ∧ c ≤ 'F')

/-- A hash that is not empty and has only upper-case hexadecimal digits. -/
structure IsCanonical (hash : List Char) : Prop where
  ne_nil : hash ≠ []
  digits : ∀ c ∈ hash, IsCanonicalDigit c

variable {c : Char} {raw hash : List Char}

theorem isCanonicalDigit_iff :
    IsCanonicalDigit c ↔ (48 ≤ c.toNat ∧ c.toNat ≤ 57) ∨ (65 ≤ c.toNat ∧ c.toNat ≤ 70) :=
  Iff.rfl

theorem toNat_toUpper (c : Char) :
    c.toUpper.toNat = if 97 ≤ c.toNat ∧ c.toNat ≤ 122 then c.toNat - 32 else c.toNat := by
  unfold Char.toUpper
  split
  · rename_i hlower
    have hrange : 97 ≤ c.toNat ∧ c.toNat ≤ 122 := hlower
    have hshift : ('A'.val - 'a'.val).toNat = 2 ^ 32 - 32 := by decide
    rw [if_pos hrange]
    change (c.val + ('A'.val - 'a'.val)).toNat = c.toNat - 32
    rw [UInt32.toNat_add, hshift, Char.toNat_val]
    omega
  · rename_i hlower
    have hrange : ¬(97 ≤ c.toNat ∧ c.toNat ≤ 122) := hlower
    rw [if_neg hrange]

theorem isCanonicalDigit_toUpper (h : Text.isHexDigit c = true) : IsCanonicalDigit c.toUpper := by
  simp only [Text.isHexDigit, Bool.or_eq_true, Bool.and_eq_true, decide_eq_true_eq] at h
  change ((48 ≤ c.toNat ∧ c.toNat ≤ 57) ∨ (97 ≤ c.toNat ∧ c.toNat ≤ 102)) ∨
    (65 ≤ c.toNat ∧ c.toNat ≤ 70) at h
  rw [isCanonicalDigit_iff, toNat_toUpper]
  split <;> omega

theorem IsCanonicalDigit.isHexDigit (h : IsCanonicalDigit c) : Text.isHexDigit c = true := by
  unfold IsCanonicalDigit at h
  simp only [Text.isHexDigit, Bool.or_eq_true, Bool.and_eq_true, decide_eq_true_eq]
  rcases h with h | h
  · exact .inl (.inl h)
  · exact .inr h

theorem IsCanonicalDigit.toUpper_eq (h : IsCanonicalDigit c) : c.toUpper = c := by
  rw [isCanonicalDigit_iff] at h
  apply Char.toNat_inj.mp
  rw [toNat_toUpper, if_neg]
  omega

theorem IsCanonicalDigit.ne (h : IsCanonicalDigit c) {d : Char}
    (hd : Text.isHexDigit d = false) : c ≠ d := by
  rintro rfl
  rw [h.isHexDigit] at hd
  cases hd

theorem isCanonical_of_canonicalHash? (h : canonicalHash? raw = some hash) : IsCanonical hash := by
  unfold canonicalHash? at h
  dsimp only at h
  split at h
  · cases h
  · rename_i hvalid
    simp only [Bool.or_eq_true, not_or, Bool.not_eq_true, Bool.not_eq_false', List.isEmpty_iff] at hvalid
    obtain ⟨hne, hdigits⟩ := hvalid
    rw [Option.some.injEq] at h
    subst h
    refine ⟨by simpa using hne, fun c hc => ?_⟩
    obtain ⟨d, hd, rfl⟩ := List.mem_map.mp hc
    exact isCanonicalDigit_toUpper (List.all_eq_true.mp hdigits d hd)

namespace IsCanonical

variable (h : IsCanonical hash)

include h

theorem not_mem {d : Char} (hd : Text.isHexDigit d = false) : d ∉ hash := by
  intro hmem
  exact (h.digits d hmem).ne hd rfl

theorem canonicalHash?_eq : canonicalHash? hash = some hash := by
  have hdashes : hash.filter (· ≠ '-') = hash := by
    rw [List.filter_eq_self]
    exact fun c hc => decide_eq_true ((h.digits c hc).ne (by decide))
  have hdigits : hash.all Text.isHexDigit = true :=
    List.all_eq_true.mpr fun c hc => (h.digits c hc).isHexDigit
  have hupper : hash.map Char.toUpper = hash := by
    have hsame : hash.map Char.toUpper = hash.map id :=
      List.map_congr_left fun c hc => (h.digits c hc).toUpper_eq
    rw [hsame, List.map_id]
  have hne : hash.isEmpty = false := List.isEmpty_eq_false_iff.mpr h.ne_nil
  simp only [canonicalHash?, hdashes, hdigits, hupper, hne]
  rfl

theorem rawHash?_build (title tail : List Char) :
    Strategy.plain.rawHash? (build hash title tail).toList = some hash := by
  have hstretch := Text.nonemptyStretchTo?_append h.ne_nil (h.not_mem (d := '&') (by decide))
    (h.not_mem (by decide))
    ("dn=".toList ++ (Text.Percent.encode Text.Percent.isUnreserved title ++ tail))
  have hlead : hashLead = 'b' :: "tih:".toList := by decide
  have hstart : "magnet:?xt=urn:btih:".toList = "magnet:?xt=urn:".toList ++ hashLead := by decide
  have hname : "&dn=".toList = '&' :: "dn=".toList := by decide
  -- the lead cannot begin before its place, and the stretch ends with the hash, which has no '&';
  -- so neither the title nor the trackers, whatever they hold, are looked at
  rw [toList_build, hstart, hname, List.append_assoc, List.append_assoc, List.append_assoc,
    List.append_assoc, List.cons_append, Strategy.rawHash?, hlead,
    Text.lazyCapture?_append (by decide)]
  exact Text.lazyCapture?_lead hstretch

theorem extract?_build (title tail : List Char) (shown : String) :
    Strategy.plain.extract? (build hash title tail) shown =
      some ⟨String.ofList hash, build hash title tail⟩ := by
  rw [Strategy.extract?, h.rawHash?_build, Option.bind_some, h.canonicalHash?_eq]

end IsCanonical

/-- What a strategy extracts has a canonical hash, and the plain strategy extracts the same from the
link that is handed out. -/
theorem Strategy.extract?_again {s : Strategy} {magnet title : String} {found : Extracted}
    (h : s.extract? magnet title = some found) :
    IsCanonical found.infoHash.toList ∧
      ∀ shown, Strategy.plain.extract? found.magnet shown = some found := by
  unfold Strategy.extract? at h
  split at h
  · cases h
  · rename_i hash hhash
    obtain ⟨raw, -, hraw⟩ := Option.bind_eq_some_iff.mp hhash
    have hcanonical := isCanonical_of_canonicalHash? hraw
    cases s with
    | plain =>
      rw [Option.some.injEq] at h
      subst h
      refine ⟨by simpa using hcanonical, fun shown => ?_⟩
      simp only [Strategy.extract?, hhash]
    | escaped =>
      obtain ⟨tail, -, rfl⟩ := Option.map_eq_some_iff.mp h
      exact ⟨by simpa using hcanonical, hcanonical.extract?_build _ _⟩

end Magnet

/-- The hash is canonical, the quality is a resolution with its marks, and the plain strategy recovers
the hash with the same link, whatever the title is. -/
structure Torrent.WellFormed (t : Torrent) : Prop where
  infoHash : Magnet.IsCanonical t.infoHash.toList
  quality : ∃ resolution ∈ ["720p", "1080p", "2160p"], ∃ tenBit ∈ ["", " 10bit"],
    ∃ cam ∈ ["", Quality.camMark], t.quality = resolution ++ tenBit ++ cam
  magnet : ∀ title, Magnet.Strategy.plain.extract? t.magnet title = some ⟨t.infoHash, t.magnet⟩

theorem Quality.text_parts (q : Quality) :
    ∃ resolution ∈ ["720p", "1080p", "2160p"], ∃ tenBit ∈ ["", " 10bit"],
      ∃ cam ∈ ["", Quality.camMark], q.text = resolution ++ tenBit ++ cam := by
  refine ⟨q.resolution.text, ?_, _, ?_, _, ?_, rfl⟩
  · cases q.resolution <;> simp [Resolution.text]
  · split <;> simp
  · split <;> simp

theorem Page.elim_throw_bind_eq_ok {ε α β : Type} {x : Option α} {e : ε} {f : α → Except ε β}
    {b : β} (h : (x.elim (throw e) pure >>= f) = .ok b) : ∃ a, x = some a ∧ f a = .ok b := by
  cases x with
  | none => cases h
  | some a => exact ⟨a, rfl, h⟩

theorem Page.wellFormed_torrent {strategies : List Magnet.Strategy} {page : String} {t : Torrent}
    (h : torrent strategies page = .ok t) : t.WellFormed := by
  unfold torrent at h
  obtain ⟨magnet, -, h⟩ := elim_throw_bind_eq_ok h
  obtain ⟨title, -, h⟩ := elim_throw_bind_eq_ok h
  obtain ⟨quality, -, h⟩ := elim_throw_bind_eq_ok h
  obtain ⟨found, hfound, h⟩ := elim_throw_bind_eq_ok h
  obtain ⟨strategy, -, hstrategy⟩ := List.exists_of_findSome?_eq_some hfound
  obtain ⟨hcanonical, hagain⟩ := Magnet.Strategy.extract?_again hstrategy
  cases h
  exact ⟨hcanonical, quality.text_parts, hagain⟩

theorem Source.Yts.Release.wellFormed_torrent {r : Release} {title : String} {t : Torrent}
    (h : r.torrent? title = some t) : t.WellFormed := by
  unfold Release.torrent? at h
  simp only [Option.bind_eq_bind, Option.bind_eq_some_iff] at h
  obtain ⟨quality, -, hash, hhash, ht⟩ := h
  have hcanonical := Magnet.isCanonical_of_canonicalHash? hhash
  cases ht
  exact ⟨by simpa using hcanonical, quality.text_parts, hcanonical.extract?_build _ _⟩

end TorrentSearch
