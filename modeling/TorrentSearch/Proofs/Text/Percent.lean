import Mathlib.Tactic.IntervalCases
import TorrentSearch.Text.Percent
import TorrentSearch.Text.Utf8

/-!
# Escapes are read back

Reading the escapes of a text that was written with escapes gives the bytes of the text, as long as
no `%` stands for itself. So different texts are written differently. What is no `%` and no
hexadecimal digit is never taken for a part of an escape.
-/

namespace TorrentSearch.Text

namespace Utf8

theorem encode_ofList (s : List Char) :
    encode (String.ofList s) = s.flatMap String.utf8EncodeChar := by
  simp [encode, List.utf8Encode]

theorem utf8EncodeChar_of_ascii {c : Char} (hc : c.toNat < 0x80) :
    String.utf8EncodeChar c = [UInt8.ofNat c.toNat] := by
  unfold String.utf8EncodeChar
  exact if_pos (show c.val.toNat ≤ 127 from Nat.le_of_lt_succ hc)

theorem eq_of_mem_utf8EncodeChar {c : Char} {b : UInt8} (hmem : b ∈ String.utf8EncodeChar c)
    (hb : b.toNat < 0x80) : c.toNat = b.toNat := by
  have hlow (n : Nat) : (UInt8.ofNat n).toNat = n % 256 := UInt8.toNat_ofNat'
  change c.val.toNat = b.toNat
  simp only [String.utf8EncodeChar] at hmem
  split_ifs at hmem
  all_goals
    simp only [List.mem_cons, List.not_mem_nil, or_false] at hmem
    rcases hmem with rfl | rfl | rfl | rfl
  all_goals
    rw [hlow] at hb ⊢
    omega

/-- The bytes of a text have a character's byte where the text has the character, if it is one of
ASCII. -/
theorem mem_encode_iff {s : String} {c : Char} (hc : c.toNat < 0x80) :
    UInt8.ofNat c.toNat ∈ encode s ↔ c ∈ s.toList := by
  have hbyte : (UInt8.ofNat c.toNat).toNat = c.toNat := by
    rw [UInt8.toNat_ofNat']
    omega
  obtain ⟨l, rfl⟩ : ∃ l, s = String.ofList l := ⟨s.toList, s.ofList_toList.symm⟩
  rw [encode_ofList, List.mem_flatMap, String.toList_ofList]
  constructor
  · rintro ⟨d, hd, hmem⟩
    have hdc := eq_of_mem_utf8EncodeChar hmem (hbyte.symm ▸ hc)
    rw [hbyte, Char.toNat_inj] at hdc
    exact hdc ▸ hd
  · intro hmem
    exact ⟨c, hmem, by rw [utf8EncodeChar_of_ascii hc]; exact List.mem_singleton_self _⟩

theorem encode_of_decode? {bytes : List UInt8} {s : String} (h : decode? bytes = some s) :
    encode s = bytes := by
  unfold decode? String.fromUTF8? at h
  split at h
  · cases h
    simp [encode, String.fromUTF8]
  · cases h

end Utf8

theorem upperHexDigit_readable {n : Nat} (hn : n < 16) :
    (upperHexDigit n).toNat < 0x80 ∧
      hexValue? (Char.ofNat (UInt8.ofNat (upperHexDigit n).toNat).toNat) = some n := by
  interval_cases n <;> exact ⟨by decide, rfl⟩

namespace Percent

theorem decode_cons_of_ne {b : UInt8} (hb : b ≠ 0x25) (r : List UInt8) :
    decode (b :: r) = b :: decode r := by
  rw [decode]
  exact fun _ _ _ h => absurd h hb

theorem decode_append_of_forall_ne {front : List UInt8} (h : ∀ b ∈ front, b ≠ 0x25)
    (r : List UInt8) : decode (front ++ r) = front ++ decode r := by
  induction front with
  | nil => rfl
  | cons b front ih =>
    rw [List.cons_append, decode_cons_of_ne (h b (List.mem_cons_self ..)),
      ih fun d hd => h d (List.mem_cons_of_mem _ hd), List.cons_append]

theorem mem_decode_of_mem {b : UInt8} (hb : b ≠ 0x25)
    (hdigit : hexValue? (Char.ofNat b.toNat) = none) {s : List UInt8} (hmem : b ∈ s) :
    b ∈ decode s := by
  induction s using decode.induct with
  | case1 h l r low high hlow hhigh ih =>
    rw [decode, hlow, hhigh]
    have hr : b ∈ r := by
      rcases List.mem_cons.mp hmem with rfl | hmem
      · exact absurd rfl hb
      rcases List.mem_cons.mp hmem with rfl | hmem
      · cases hdigit.symm.trans hhigh
      rcases List.mem_cons.mp hmem with rfl | hmem
      · cases hdigit.symm.trans hlow
      exact hmem
    exact List.mem_cons_of_mem _ (ih hr)
  | case2 h l r hdigits ih =>
    have hstep : decode (0x25 :: h :: l :: r) = 0x25 :: decode (h :: l :: r) := by
      rw [decode]
      split
      · rename_i x y hx hy
        exact absurd hy (hdigits x y hx)
      · rfl
    rw [hstep]
    exact List.mem_cons_of_mem _ (ih ((List.mem_cons.mp hmem).resolve_left hb))
  | case3 d r hd ih =>
    rw [decode]
    · rcases List.mem_cons.mp hmem with rfl | hmem
      · exact List.mem_cons_self ..
      · exact List.mem_cons_of_mem _ (ih hmem)
    · exact hd
  | case4 => cases hmem

theorem decode_escapeByte (b : UInt8) (r : List UInt8) :
    decode ((escapeByte b).flatMap String.utf8EncodeChar ++ r) = b :: decode r := by
  have hb : b.toNat < 256 := b.toNat_lt
  have hhigh := upperHexDigit_readable (show b.toNat / 16 < 16 by omega)
  have hlow := upperHexDigit_readable (show b.toNat % 16 < 16 by omega)
  have hbytes : (escapeByte b).flatMap String.utf8EncodeChar =
      [0x25, UInt8.ofNat (upperHexDigit (b.toNat / 16)).toNat,
        UInt8.ofNat (upperHexDigit (b.toNat % 16)).toNat] := by
    simp only [escapeByte, List.flatMap_cons, List.flatMap_nil,
      Utf8.utf8EncodeChar_of_ascii hhigh.1, Utf8.utf8EncodeChar_of_ascii hlow.1]
    rfl
  rw [hbytes, List.cons_append, List.cons_append, List.cons_append, List.nil_append, decode,
    hhigh.2, hlow.2]
  have hvalue : b.toNat / 16 * 16 + b.toNat % 16 = b.toNat := by omega
  simp only [hvalue, UInt8.ofNat_toNat]

theorem decode_escapeChar (c : Char) (r : List UInt8) :
    decode ((escapeChar c).flatMap String.utf8EncodeChar ++ r) =
      String.utf8EncodeChar c ++ decode r := by
  unfold escapeChar
  induction String.utf8EncodeChar c with
  | nil => rfl
  | cons b bytes ih =>
    rw [List.flatMap_cons, List.flatMap_append, List.append_assoc, decode_escapeByte, ih]
    rfl

theorem decode_encode {keep : Char → Bool} {s : List Char}
    (h : ∀ c ∈ s, keep c = true → c ≠ '%') :
    decode (Utf8.encode (String.ofList (encode keep s))) = Utf8.encode (String.ofList s) := by
  rw [Utf8.encode_ofList, Utf8.encode_ofList]
  induction s with
  | nil => rfl
  | cons c s ih =>
    have ih := ih fun d hd => h d (List.mem_cons_of_mem _ hd)
    rw [encode, List.flatMap_cons, List.flatMap_append, List.flatMap_cons, ← encode]
    by_cases hkeep : keep c = true
    · rw [if_pos hkeep, List.flatMap_singleton, decode_append_of_forall_ne _, ih]
      rintro b hmem rfl
      exact h c (List.mem_cons_self ..) hkeep
        (Char.toNat_inj.mp (Utf8.eq_of_mem_utf8EncodeChar hmem (by decide)))
    · rw [if_neg hkeep, decode_escapeChar, ih]

theorem encode_of_forall {keep : Char → Bool} {s : List Char} (h : ∀ c ∈ s, keep c = true) :
    encode keep s = s := by
  induction s with
  | nil => rfl
  | cons c s ih =>
    rw [encode, List.flatMap_cons, ← encode, ih fun d hd => h d (List.mem_cons_of_mem _ hd),
      if_pos (h c (List.mem_cons_self ..)), List.singleton_append]

/-- What is written is a character that is kept, or a part of an escape. -/
theorem of_mem_encode {keep : Char → Bool} {s : List Char} {c : Char} (h : c ∈ encode keep s) :
    keep c = true ∨ c = '%' ∨ ∃ n < 16, c = upperHexDigit n := by
  obtain ⟨d, -, hd⟩ := List.mem_flatMap.mp h
  split at hd
  · rename_i hkeep
    exact .inl (List.mem_singleton.mp hd ▸ hkeep)
  · obtain ⟨b, -, hb⟩ := List.mem_flatMap.mp hd
    have hlt : b.toNat < 256 := b.toNat_lt
    simp only [escapeByte, List.mem_cons, List.not_mem_nil, or_false] at hb
    rcases hb with rfl | rfl | rfl
    · exact .inr (.inl rfl)
    · exact .inr (.inr ⟨b.toNat / 16, by omega, rfl⟩)
    · exact .inr (.inr ⟨b.toNat % 16, by omega, rfl⟩)

/-- Texts without a `%` that stands for itself are told apart by what is written for them. -/
theorem encode_inj {keep : Char → Bool} {s t : List Char}
    (hs : ∀ c ∈ s, keep c = true → c ≠ '%') (ht : ∀ c ∈ t, keep c = true → c ≠ '%') :
    encode keep s = encode keep t ↔ s = t := by
  refine ⟨fun h => ?_, congrArg _⟩
  have hbytes : Utf8.encode (String.ofList s) = Utf8.encode (String.ofList t) := by
    rw [← decode_encode hs, ← decode_encode ht, h]
  exact String.ofList_injective (Utf8.encode_injective hbytes)

end Percent

end TorrentSearch.Text
