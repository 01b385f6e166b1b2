import Mathlib.Algebra.GroupWithZero.Nat
import TorrentSearch.Text.Ascii

/-!
# Decimal numbers

The digits that a number is written with name this number, whether zeros stand in front of them or
not.
-/

namespace TorrentSearch.Text

theorem digitValue?_of_isDigit {c : Char} (h : c.isDigit = true) :
    digitValue? 10 c = some (c.toNat - 0x30) := by
  obtain ⟨hlow, hhigh⟩ := Char.isDigit_iff_toNat.mp h
  have hrange : '0' ≤ c ∧ c ≤ '9' := by
    rw [Char.le_def, Char.le_def, UInt32.le_iff_toNat_le, UInt32.le_iff_toNat_le]
    exact ⟨hlow, hhigh⟩
  have hsmall : c.toNat - 0x30 < 10 := by
    change c.toNat ≤ 57 at hhigh
    omega
  simp [digitValue?, hexValue?, hrange, hsmall]

private theorem foldlM_digits {s : List Char} (h : ∀ c ∈ s, c.isDigit = true) (start : Nat) :
    s.foldlM (fun n c => (digitValue? 10 c).map (n * 10 + ·)) start =
      some (Nat.ofDigitChars 10 s start) := by
  induction s generalizing start with
  | nil => rfl
  | cons c s ih =>
    have hc := digitValue?_of_isDigit (h c List.mem_cons_self)
    have hs := ih fun d hd => h d (List.mem_cons_of_mem c hd)
    rw [List.foldlM_cons, hc, Option.map_some, Option.bind_eq_bind, Option.bind_some, hs,
      Nat.ofDigitChars_cons, Nat.mul_comm]
    rfl

theorem readDigits?_of_isDigit {s : List Char} (hne : s ≠ []) (h : ∀ c ∈ s, c.isDigit = true) :
    readDigits? 10 s = some (Nat.ofDigitChars 10 s 0) := by
  unfold readDigits?
  rw [if_neg (by simpa using hne)]
  exact foldlM_digits h 0

theorem isDigit_of_mem_paddedDecimal {width n : Nat} {c : Char} (h : c ∈ paddedDecimal width n) :
    c.isDigit = true := by
  rw [paddedDecimal, Nat.toList_repr, List.mem_append] at h
  rcases h with h | h
  · rw [List.eq_of_mem_replicate h]
    rfl
  · exact Nat.isDigit_of_mem_toDigits (by decide) (by decide) h

theorem paddedDecimal_ne_nil (width n : Nat) : paddedDecimal width n ≠ [] := by
  simp [paddedDecimal, Nat.toList_repr]

theorem readDigits?_paddedDecimal (width n : Nat) :
    readDigits? 10 (paddedDecimal width n) = some n := by
  rw [readDigits?_of_isDigit (paddedDecimal_ne_nil width n) fun c hc =>
    isDigit_of_mem_paddedDecimal hc]
  rw [paddedDecimal, Nat.toList_repr, Nat.ofDigitChars_append, Nat.ofDigitChars_replicate_zero,
    Nat.mul_zero, Nat.ofDigitChars_ten_toDigits]

theorem length_paddedDecimal_le {width limit n : Nat} (hpos : 0 < limit) (hwidth : width ≤ limit)
    (hn : n < 10 ^ limit) : (paddedDecimal width n).length ≤ limit := by
  have hfits := (Nat.length_toDigits_le_iff (by decide) hpos).mpr hn
  rw [paddedDecimal, Nat.toList_repr, List.length_append, List.length_replicate]
  omega

theorem length_paddedDecimal {width n : Nat} (hwidth : 0 < width) (hn : n < 10 ^ width) :
    (paddedDecimal width n).length = width := by
  have hle := length_paddedDecimal_le hwidth (Nat.le_refl width) hn
  have hge : width ≤ (paddedDecimal width n).length := by
    rw [paddedDecimal, List.length_append, List.length_replicate]
    omega
  exact Nat.le_antisymm hle hge

end TorrentSearch.Text
