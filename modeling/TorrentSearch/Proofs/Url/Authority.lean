import TorrentSearch.Proofs.Text.Normalization
import TorrentSearch.Proofs.Text.Percent
import TorrentSearch.Proofs.Text.Splitting
import TorrentSearch.Url.Parse

/-!
# Authorities

No host and no port has a control character or a space: such a character comes through every step of
reading a host name, and is refused in the end. So no authority ends in one. An authority without
backslashes is read to its end, whatever stands behind it.
-/

namespace TorrentSearch.Url

namespace HostName

theorem exists_mem_of_mapM {α β : Type} {f : α → Option β} {s : List α} {t : List β} {a : α}
    (h : s.mapM f = some t) (ha : a ∈ s) : ∃ b ∈ t, f a = some b := by
  induction s generalizing t with
  | nil => cases ha
  | cons c s ih =>
    rw [List.mapM_cons] at h
    obtain ⟨d, hd, h⟩ := Option.bind_eq_some_iff.mp h
    obtain ⟨rest, hrest, h⟩ := Option.bind_eq_some_iff.mp h
    cases h
    rcases List.mem_cons.mp ha with rfl | ha
    · exact ⟨d, List.mem_cons_self .., hd⟩
    · obtain ⟨b, hb, hab⟩ := ih hrest ha
      exact ⟨b, List.mem_cons_of_mem _ hb, hab⟩

theorem mappingOf_of_invisible {x : Nat} (hx : x ≤ 0x20) : mappingOf x = .valid := by
  rw [mappingOf, if_pos (by omega), if_neg (by omega)]

theorem mem_of_mapChars? {x : Nat} (hx : x ≤ 0x20) {s mapped : List Nat}
    (h : mapChars? s = some mapped) (hmem : x ∈ s) : x ∈ mapped := by
  obtain ⟨parts, hparts, rfl⟩ := Option.map_eq_some_iff.mp h
  obtain ⟨part, hpart, hxpart⟩ := exists_mem_of_mapM hparts hmem
  rw [mappingOf_of_invisible hx] at hxpart
  cases hxpart
  exact List.mem_flatten.mpr ⟨_, hpart, List.mem_singleton_self x⟩

theorem mem_encode_of_ascii {c : Char} (hc : c.toNat < 0x80) {label : List Char} (h : c ∈ label) :
    c ∈ Text.Punycode.encode label := by
  have hbasic : c ∈ label.filter (·.toNat < 0x80) := List.mem_filter.mpr ⟨h, decide_eq_true hc⟩
  unfold Text.Punycode.encode
  exact List.mem_append_left _ (List.mem_append_left _ hbasic)

theorem mem_of_labelToAscii? {c : Char} (hc : c.toNat < 0x80) {label codes : List Nat}
    {ascii : List Char} (h : labelToAscii? label = some (codes, ascii)) (hmem : c.toNat ∈ label) :
    c ∈ ascii := by
  have hchars : c ∈ toChars label := List.mem_map.mpr ⟨_, hmem, Char.ofNat_toNat c⟩
  unfold labelToAscii? at h
  dsimp only at h
  split at h
  · split at h
    · cases h
    · obtain ⟨_, -, h⟩ := Option.bind_eq_some_iff.mp h
      split at h
      · cases h
        exact hchars
      · cases h
  · split at h
    · cases h
      split
      · exact hchars
      · exact List.mem_append_right _ (mem_encode_of_ascii hc hchars)
    · cases h

theorem mem_joinLabels {c : Char} {label : List Char} {labels : List (List Char)}
    (hlabel : label ∈ labels) (hc : c ∈ label) : c ∈ joinLabels labels := by
  induction labels with
  | nil => cases hlabel
  | cons first labels ih =>
    cases labels with
    | nil => exact List.mem_singleton.mp hlabel ▸ hc
    | cons second labels =>
      rw [joinLabels, List.mem_append, List.mem_cons]
      · rcases List.mem_cons.mp hlabel with rfl | hlabel
        · exact .inl hc
        · exact .inr (.inr (ih hlabel))
      · exact fun h => List.cons_ne_nil _ _ h

theorem toAscii?_of_invisible {c : Char} (hc : c.toNat ≤ 0x20) {bytes : List UInt8}
    (hmem : UInt8.ofNat c.toNat ∈ bytes) : toAscii? bytes = none := by
  by_contra hsome
  obtain ⟨ascii, hascii⟩ := Option.ne_none_iff_exists'.mp hsome
  unfold toAscii? at hascii
  obtain ⟨text, htext, hascii⟩ := Option.bind_eq_some_iff.mp hascii
  obtain ⟨mapped, hmapped, hascii⟩ := Option.bind_eq_some_iff.mp hascii
  obtain ⟨labels, hlabels, hascii⟩ := Option.bind_eq_some_iff.mp hascii
  have hchar : c ∈ text.toList := by
    rw [← Text.Utf8.mem_encode_iff (by omega), Text.Utf8.encode_of_decode? htext]
    exact hmem
  have hcode : c.toNat ∈ Text.Normalization.compose mapped :=
    Text.Normalization.mem_compose hc (mem_of_mapChars? hc hmapped (List.mem_map_of_mem hchar))
  obtain ⟨label, hlabel, hcodelabel⟩ :=
    Text.exists_mem_splitAtEach (x := 0x2e) (by omega) hcode
  obtain ⟨⟨codes, name⟩, hname, htoAscii⟩ := exists_mem_of_mapM hlabels hlabel
  have hjoined : c ∈ joinLabels (labels.map (·.2)) :=
    mem_joinLabels (List.mem_map_of_mem hname) (mem_of_labelToAscii? (by omega) htoAscii hcodelabel)
  dsimp only at hascii
  split at hascii
  · cases hascii
  · rw [if_pos (List.any_eq_true.mpr ⟨c, hjoined, by simp [isForbidden, hc]⟩)] at hascii
    cases hascii

end HostName

theorem hexValue?_of_invisible {c : Char} (hc : c.toNat ≤ 0x20) : Text.hexValue? c = none := by
  have hle (d : Char) : d ≤ c ↔ d.toNat ≤ c.toNat := Iff.rfl
  unfold Text.hexValue?
  simp only [hle]
  rw [if_neg, if_neg, if_neg] <;> exact fun h => absurd (h.1.trans hc) (by decide)

theorem mem_decode_of_invisible {c : Char} (hc : c.toNat ≤ 0x20) {s : List Char} (h : c ∈ s) :
    UInt8.ofNat c.toNat ∈ Text.Percent.decode (Text.Utf8.encode (String.ofList s)) := by
  have hbyte : (UInt8.ofNat c.toNat).toNat = c.toNat := by
    rw [UInt8.toNat_ofNat']
    omega
  refine Text.Percent.mem_decode_of_mem ?_ ?_ ?_
  · rw [← UInt8.toNat_inj.ne, hbyte]
    exact fun h => absurd (h ▸ hc) (by decide)
  · rw [hbyte, Char.ofNat_toNat]
    exact hexValue?_of_invisible hc
  · rw [Text.Utf8.mem_encode_iff (by omega), String.toList_ofList]
    exact h

theorem Host.parse_append_invisible {c : Char} (hc : c.toNat ≤ 0x20) (s : List Char) :
    ∃ e, Host.parse (s ++ [c]) = .error e := by
  unfold Host.parse
  split
  · rename_i r hs
    have hlast : ('[' :: r).getLast? ≠ some ']' := by
      rw [← hs, List.getLast?_concat]
      rintro ⟨⟩
      exact absurd hc (by decide)
    have hlast : r.getLast? ≠ some ']' := by
      cases r with
      | nil => simp
      | cons d r => exact hlast
    rw [if_neg hlast]
    exact ⟨_, rfl⟩
  · rw [HostName.toAscii?_of_invisible hc (mem_decode_of_invisible hc (by simp))]
    exact ⟨_, rfl⟩

theorem port?_append_invisible {c : Char} (hc : c.toNat ≤ 0x20) (own : Option Nat) (s : List Char) :
    ∃ e, port? own (s ++ [c]) = .error e := by
  have hnone : Text.readDigits? 10 (s ++ [c]) = none := by
    unfold Text.readDigits?
    rw [if_neg (by simp), List.foldlM_append]
    simp [Text.digitValue?, hexValue?_of_invisible hc]
  unfold port?
  rw [if_neg (by simp), hnone]
  exact ⟨_, rfl⟩

theorem splitAtLast?_eq_some {x : Char} {s before after : List Char}
    (h : splitAtLast? x s = some (before, after)) : s = before ++ x :: after := by
  induction s generalizing before with
  | nil => cases h
  | cons c s ih =>
    rw [splitAtLast?] at h
    split at h
    · rename_i front behind hrest
      cases h
      rw [ih hrest, List.cons_append]
    · split at h
      · rename_i hc
        cases h
        rw [hc, List.nil_append]
      · cases h

theorem drop_hostLength (inBrackets : Bool) (s : List Char) :
    s.drop (hostLength inBrackets s) = [] ∨
      ∃ behind, s.drop (hostLength inBrackets s) = ':' :: behind := by
  induction s generalizing inBrackets with
  | nil => exact .inl rfl
  | cons c s ih =>
    rw [hostLength]
    split
    · rename_i hcolon
      exact .inr ⟨s, by rw [List.drop_zero, hcolon.1]⟩
    · exact ih _

theorem hostLength_le (inBrackets : Bool) (s : List Char) : hostLength inBrackets s ≤ s.length := by
  induction s generalizing inBrackets with
  | nil => exact Nat.le_refl _
  | cons c s ih =>
    rw [hostLength]
    split
    · exact Nat.zero_le _
    · exact Nat.succ_le_succ (ih _)

theorem exists_behind_eq_append {c x : Char} (hc : c ≠ x) {s before behind : List Char}
    (h : s ++ [c] = before ++ x :: behind) : ∃ rest, behind = rest ++ [c] ∧ rest ⊆ s := by
  rcases List.eq_nil_or_concat' behind with rfl | ⟨rest, d, rfl⟩
  · exact absurd (List.append_inj_right' h rfl) (by simpa using hc)
  · rw [← List.cons_append, ← List.append_assoc] at h
    obtain ⟨rfl, hcd⟩ := List.append_inj' h rfl
    exact ⟨rest, by rw [hcd], fun d hd => List.mem_append_right _ (List.mem_cons_of_mem _ hd)⟩

theorem userinfo?_append {c : Char} (hc : c ≠ '@') (s : List Char) (isLast : Bool) :
    ∃ info rest, userinfo? (s ++ [c]) isLast = .ok (info, rest ++ [c]) ∧ rest ⊆ s := by
  unfold userinfo?
  cases hsplit : splitAtLast? '@' (s ++ [c]) with
  | none => exact ⟨[], s, rfl, List.Subset.refl s⟩
  | some parts =>
    obtain ⟨info, behind⟩ := parts
    obtain ⟨rest, rfl, hrest⟩ := exists_behind_eq_append hc (splitAtLast?_eq_some hsplit)
    cases info with
    | nil =>
      refine ⟨[], rest, ?_, hrest⟩
      simp
    | cons => exact ⟨_, rest, rfl, hrest⟩

theorem suffix_of_userinfo? {text info rest : List Char} {isLast : Bool}
    (h : userinfo? text isLast = .ok (info, rest)) : rest <:+ text := by
  have hsuffix {front behind : List Char} (hsplit : splitAtLast? '@' text = some (front, behind)) :
      behind <:+ text :=
    ⟨front ++ ['@'], by rw [splitAtLast?_eq_some hsplit, List.append_assoc, List.singleton_append]⟩
  unfold userinfo? at h
  split at h
  · cases h
    exact List.suffix_refl _
  · rename_i hsplit
    split at h <;> cases h
    exact hsuffix hsplit
  · rename_i hsplit
    cases h
    exact hsuffix hsplit

theorem exists_of_bind_eq_ok {ε α β : Type} {x : Except ε α} {f : α → Except ε β} {b : β}
    (h : (x >>= f) = .ok b) : ∃ a, x = .ok a ∧ f a = .ok b := by
  cases x with
  | error e => cases h
  | ok a => exact ⟨a, rfl, h⟩

theorem hostOf_network (own : Nat) (text : List Char) :
    hostOf (.network own) text = if text.isEmpty then .error .emptyHost else Host.parse text :=
  rfl

/-- An authority that is read has a host and perhaps a port behind a colon, and what is left over
begins with a backslash. -/
theorem parts_of_authority? {kind : SchemeKind} {text more : List Char} {isLast : Bool}
    {a : Authority} (h : authority? kind text isLast = .ok (a, more)) :
    ∃ info hostText behind, userinfo? text isLast = .ok (info, hostText ++ behind) ∧
      hostOf kind hostText = .ok a.host ∧
      (behind = [] ∨ ∃ port, behind = ':' :: port ∧
        port? kind.ownPort? (port.takeWhile (· ≠ '\\')) = .ok a.port) ∧
      more = (behind.drop 1).dropWhile (· ≠ '\\') := by
  obtain ⟨⟨info, rest⟩, hinfo, h⟩ := exists_of_bind_eq_ok h
  obtain ⟨host, hhost, h⟩ := exists_of_bind_eq_ok h
  split at h
  · cases h
  obtain ⟨port, hport, h⟩ := exists_of_bind_eq_ok h
  split at h
  · cases h
  cases h
  have hlength := List.length_take_of_le (hostLength_le false rest)
  refine ⟨info, rest.take (hostLength false rest), rest.drop (hostLength false rest),
    by rwa [List.take_append_drop], hhost, ?_, ?_⟩
  · rcases drop_hostLength false rest with hnil | ⟨behind, hbehind⟩
    · exact .inl hnil
    · rw [hlength, hbehind] at hport
      exact .inr ⟨behind, hbehind, hport⟩
  · rw [hlength, Text.drop_length_takeWhile]

/-- An authority of a scheme with looked up hosts does not end in a control character or a space. -/
theorem authority?_append_invisible {c : Char} (hc : c.toNat ≤ 0x20) (own : Nat) {s : List Char}
    (hs : '\\' ∉ s) (isLast : Bool) :
    ∃ e, authority? (.network own) (s ++ [c]) isLast = .error e := by
  have hne {d : Char} (hd : 0x20 < d.toNat) : c ≠ d := by
    rintro rfl
    omega
  cases hread : authority? (.network own) (s ++ [c]) isLast with
  | error e => exact ⟨e, rfl⟩
  | ok result =>
    obtain ⟨a, more⟩ := result
    exfalso
    obtain ⟨info, hostText, behind, hinfo, hhost, hbehind, -⟩ := parts_of_authority? hread
    obtain ⟨info', rest, hinfo', hrest⟩ := userinfo?_append (hne (by decide)) s isLast
    have htext : rest ++ [c] = hostText ++ behind :=
      congrArg Prod.snd (Except.ok.inj (hinfo'.symm.trans hinfo))
    rcases hbehind with rfl | ⟨port, rfl, hport⟩
    · obtain ⟨e, he⟩ := Host.parse_append_invisible hc rest
      rw [List.append_nil] at htext
      rw [← htext, hostOf_network, if_neg (by simp), he] at hhost
      cases hhost
    · obtain ⟨digits, rfl, hdigits⟩ := exists_behind_eq_append (hne (by decide)) htext
      have hno : ∀ d ∈ digits ++ [c], decide (d ≠ '\\') = true := by
        intro d hd
        rw [decide_eq_true_eq]
        rintro rfl
        rcases List.mem_append.mp hd with hd | hd
        · exact hs (hrest (hdigits hd))
        · exact hne (by decide) (List.mem_singleton.mp hd).symm
      obtain ⟨e, he⟩ := port?_append_invisible hc (SchemeKind.network own).ownPort? digits
      rw [List.takeWhile_eq_self_iff.mpr hno, he] at hport
      cases hport

/-- For a scheme with looked up hosts it makes no difference what stands behind the authority. -/
theorem authority?_isLast (own : Nat) (text : List Char) (isLast : Bool) :
    authority? (.network own) text isLast = authority? (.network own) text true := by
  unfold authority? userinfo?
  split
  · rfl
  · rename_i rest _
    cases rest with
    | nil => cases isLast <;> rfl
    | cons => rfl
  · rfl

theorem rest_of_authority? {own : Nat} {text more : List Char} {isLast : Bool} {a : Authority}
    (htext : '\\' ∉ text) (h : authority? (.network own) text isLast = .ok (a, more)) :
    more = [] := by
  obtain ⟨info, hostText, behind, hinfo, -, -, rfl⟩ := parts_of_authority? h
  refine List.dropWhile_eq_nil_iff.mpr fun c hc => ?_
  rw [decide_eq_true_eq]
  rintro rfl
  exact htext ((suffix_of_userinfo? hinfo).subset
    (List.mem_append_right _ (List.mem_of_mem_drop hc)))

theorem ne_nil_of_authority? {own : Nat} {text more : List Char} {isLast : Bool} {a : Authority}
    (h : authority? (.network own) text isLast = .ok (a, more)) : text ≠ [] := by
  rintro rfl
  cases isLast <;> cases h

end TorrentSearch.Url
