import TorrentSearch.Proofs.Text.Decimal
import TorrentSearch.Proofs.Time.Calendar
import TorrentSearch.Time.Rfc3339

/-!
# Written instants

Every instant is read back from its text: in each year and to the nanosecond, and leap seconds as leap
seconds. The text of an instant is short.
-/

namespace TorrentSearch.Time

open Text (paddedDecimal isBlank)

namespace Rfc3339

theorem isBlank_of_isDigit {c : Char} (h : c.isDigit = true) : isBlank c = false := by
  obtain ⟨hlow, hhigh⟩ := Char.isDigit_iff_toNat.mp h
  change 48 ≤ c.toNat at hlow
  change c.toNat ≤ 57 at hhigh
  simp only [isBlank, Bool.or_eq_false_iff, Bool.and_eq_false_iff, decide_eq_false_iff_not]
  omega

theorem skipBlanks_cons {c : Char} (h : isBlank c = false) (r : List Char) :
    skipBlanks (c :: r) = c :: r := by
  simp [skipBlanks, h]

theorem exists_digit_cons (width n : Nat) :
    ∃ c ds, paddedDecimal width n = c :: ds ∧ c.isDigit = true := by
  obtain ⟨c, ds, h⟩ := List.exists_cons_of_ne_nil (Text.paddedDecimal_ne_nil width n)
  have hmem : c ∈ paddedDecimal width n := by simp [h]
  exact ⟨c, ds, h, Text.isDigit_of_mem_paddedDecimal hmem⟩

theorem skipBlanks_paddedDecimal (width n : Nat) (r : List Char) :
    skipBlanks (paddedDecimal width n ++ r) = paddedDecimal width n ++ r := by
  obtain ⟨c, ds, h, hc⟩ := exists_digit_cons width n
  rw [h, List.cons_append]
  exact skipBlanks_cons (isBlank_of_isDigit hc) _

theorem takeWhile_paddedDecimal (width n : Nat) {c : Char} (hc : c.isDigit = false)
    (r : List Char) :
    (paddedDecimal width n ++ c :: r).takeWhile Char.isDigit = paddedDecimal width n := by
  rw [List.takeWhile_append_of_pos fun d hd => Text.isDigit_of_mem_paddedDecimal hd,
    List.takeWhile_cons_of_neg (by simp [hc]), List.append_nil]

theorem digits?_paddedDecimal {limit width n : Nat} (hlimit : (paddedDecimal width n).length ≤ limit)
    {c : Char} (hc : c.isDigit = false) (r : List Char) :
    digits? limit (paddedDecimal width n ++ c :: r) = some (n, c :: r) := by
  have hfront : ((paddedDecimal width n ++ c :: r).take limit).takeWhile Char.isDigit =
      paddedDecimal width n := by
    rw [List.take_append, List.take_of_length_le hlimit]
    cases hrest : limit - (paddedDecimal width n).length with
    | zero =>
      rw [List.take_zero, List.append_nil]
      rw [← List.append_nil (paddedDecimal width n),
        List.takeWhile_append_of_pos fun d hd => Text.isDigit_of_mem_paddedDecimal hd]
      rfl
    | succ k =>
      rw [List.take_succ_cons]
      exact takeWhile_paddedDecimal width n hc _
  dsimp only [digits?]
  rw [hfront, Text.readDigits?_paddedDecimal, Option.map_some, List.drop_left]

theorem short?_paddedDecimal {n : Nat} (hn : n < 100) {c : Char} (hc : c.isDigit = false)
    (r : List Char) : short? (paddedDecimal 2 n ++ c :: r) = some (n, c :: r) := by
  have hlength : (paddedDecimal 2 n).length = 2 := Text.length_paddedDecimal (by decide) hn
  unfold short?
  rw [skipBlanks_paddedDecimal]
  exact digits?_paddedDecimal (Nat.le_of_eq hlength) hc r

theorem mark?_cons {c : Char} (h : isBlank c = false) (r : List Char) :
    mark? c (c :: r) = some r := by
  simp [mark?, skipBlanks_cons h]

theorem year?_yearText (year : Int) {c : Char} (hc : c.isDigit = false) (r : List Char) :
    year? (yearText year ++ c :: r) = some (year, c :: r) := by
  have hlong (n : Nat) : longDigits? (paddedDecimal 4 n ++ c :: r) = some (n, c :: r) := by
    apply digits?_paddedDecimal _ hc
    simp
  cases year with
  | negSucc n =>
    have hskip := skipBlanks_cons (c := '-') rfl (paddedDecimal 4 (n + 1) ++ c :: r)
    simp only [yearText, year?, List.cons_append, hskip, hlong, Option.map_some]
    rfl
  | ofNat n =>
    by_cases hn : n ≤ 9999
    · have hlength : (paddedDecimal 4 n).length = 4 :=
        Text.length_paddedDecimal (by decide) (by omega)
      have hdigits := digits?_paddedDecimal (Nat.le_of_eq hlength) hc r
      obtain ⟨d, ds, hcons, hd⟩ := exists_digit_cons 4 n
      have hminus : d ≠ '-' := by
        rintro rfl
        cases hd
      have hplus : d ≠ '+' := by
        rintro rfl
        cases hd
      simp only [yearText, hn, if_true, year?, skipBlanks_paddedDecimal]
      rw [hcons, List.cons_append] at hdigits ⊢
      split
      · rename_i heq
        exact absurd (List.cons.inj heq).1 hminus
      · rename_i heq
        exact absurd (List.cons.inj heq).1 hplus
      · rw [hdigits]
        rfl
    · have hskip := skipBlanks_cons (c := '+') rfl (paddedDecimal 4 n ++ c :: r)
      simp only [yearText, hn, if_false, year?, List.cons_append, hskip, hlong, Option.map_some]
      rfl

theorem date?_text {d : Date} (h : d.IsValid) {c : Char} (hc : c.isDigit = false)
    (r : List Char) : date? (d.text ++ c :: r) = some (d, c :: r) := by
  obtain ⟨hmonth, hday⟩ := h.two_digits
  have hdash : ('-' : Char).isDigit = false := rfl
  simp only [Date.text, List.append_assoc, List.cons_append, date?, year?_yearText _ hdash,
    mark?_cons (c := '-') rfl, short?_paddedDecimal hmonth hdash,
    short?_paddedDecimal hday hc, Option.bind_eq_bind, Option.bind_some]
  rfl

theorem fraction?_point {width n : Nat} (hwidth : 0 < width) (hnine : width ≤ 9)
    (hn : n < 10 ^ width) {c : Char} (hc : c.isDigit = false) (r : List Char) :
    fraction? ('.' :: (paddedDecimal width n ++ c :: r)) =
      some (n * 10 ^ (9 - width), c :: r) := by
  have hlength := Text.length_paddedDecimal hwidth hn
  have hfront : (paddedDecimal width n).take 9 = paddedDecimal width n :=
    List.take_of_length_le (by omega)
  simp only [fraction?, takeWhile_paddedDecimal width n hc r, hfront,
    Text.readDigits?_paddedDecimal, Option.map_some, hlength, List.drop_left' hlength]
  rfl

theorem fraction?_fractionText {nano : Nat} (hnano : nano < Span.nanosPerSecond) (r : List Char) :
    fraction? (fractionText nano ++ 'Z' :: r) = some (nano, 'Z' :: r) := by
  have hZ : ('Z' : Char).isDigit = false := rfl
  unfold Span.nanosPerSecond at hnano
  unfold fractionText
  split
  · rename_i hzero
    rw [hzero]
    rfl
  · split
    · have hwhole : nano / 1000000 * 10 ^ (9 - 3) = nano := by omega
      rw [List.cons_append, fraction?_point (by decide) (by decide) (by omega) hZ, hwhole]
    · split
      · have hwhole : nano / 1000 * 10 ^ (9 - 6) = nano := by omega
        rw [List.cons_append, fraction?_point (by decide) (by decide) (by omega) hZ, hwhole]
      · have hwhole : nano * 10 ^ (9 - 9) = nano := by omega
        rw [List.cons_append, fraction?_point (by decide) (by decide) (by omega) hZ, hwhole]

/-- The second that is written tells the second of the minute and whether it is a leap second. -/
theorem written_second (i : Instant) :
    let second := i.second % 60 + if Span.nanosPerSecond ≤ i.nano then 1 else 0
    second ≤ 60 ∧ (if second = 60 then 59 else second) = i.second % 60 ∧
      (i.nano % Span.nanosPerSecond + if second = 60 then Span.nanosPerSecond else 0) = i.nano := by
  intro second
  have hnano := i.nano_lt
  by_cases hleap : Span.nanosPerSecond ≤ i.nano
  · have hlast : i.second % 60 = 59 := i.leap_only_last hleap
    have hsecond : second = 60 := by simp [second, hleap, hlast]
    rw [if_pos hsecond, if_pos hsecond, hlast]
    refine ⟨Nat.le_of_eq hsecond, rfl, ?_⟩
    unfold Span.nanosPerSecond at hnano hleap ⊢
    omega
  · have hsecond : second = i.second % 60 := by simp [second, hleap]
    have hne : second ≠ 60 := by omega
    rw [if_neg hne, if_neg hne, Nat.mod_eq_of_lt (Nat.not_le.mp hleap)]
    exact ⟨by omega, hsecond, rfl⟩

theorem assemble?_parts (i : Instant) :
    assemble? (Date.ofDay i.day) (i.second / 3600) (i.second / 60 % 60)
      (i.second % 60 + if Span.nanosPerSecond ≤ i.nano then 1 else 0)
      (i.nano % Span.nanosPerSecond) 0 = some i := by
  have hday := i.second_lt
  have hwritten := written_second i
  dsimp only at hwritten
  generalize (i.second % 60 + if Span.nanosPerSecond ≤ i.nano then 1 else 0) = second at *
  obtain ⟨hle, hsecond, hnano⟩ := hwritten
  have hvalid : (Date.ofDay i.day).IsValid ∧
      (firstDay ≤ (Date.ofDay i.day).toDay ∧ (Date.ofDay i.day).toDay ≤ lastDay) ∧
      i.second / 3600 < 24 ∧ i.second / 60 % 60 < 60 ∧ second ≤ 60 ∧
      -86400 < (0 : Int) ∧ (0 : Int) < 86400 := by
    rw [Date.toDay_ofDay]
    exact ⟨Date.isValid_ofDay i.day, i.day_range, by omega, by omega, hle, by decide, by decide⟩
  have hclock : ((i.second / 3600 : Nat) : Int) * 3600 + ((i.second / 60 % 60 : Nat) : Int) * 60 +
      (i.second % 60 : Nat) - 0 = i.second := by omega
  have hwhole : (i.second : Int) / 86400 = 0 := by omega
  have hrest : ((i.second : Int) % 86400).toNat = i.second := by omega
  unfold assemble?
  dsimp only
  rw [if_pos hvalid, hsecond, hclock, hwhole, hrest, hnano, Date.toDay_ofDay, Int.add_zero]
  exact Instant.ofParts?_parts i

theorem instant?_chars (i : Instant) : instant? i.chars = some i := by
  have hhour : i.second / 3600 < 100 := by
    have hlt := i.second_lt
    omega
  have hminute : i.second / 60 % 60 < 100 := by omega
  have hsecond : (i.second % 60 + if Span.nanosPerSecond ≤ i.nano then 1 else 0) < 100 := by
    obtain ⟨hle, -, -⟩ := written_second i
    omega
  have hfraction := fraction?_fractionText
    (Nat.mod_lt i.nano (show 0 < Span.nanosPerSecond by decide)) []
  have hbehind : ∃ c r, fractionText (i.nano % Span.nanosPerSecond) ++ ['Z'] = c :: r ∧
      c.isDigit = false := by
    unfold fractionText
    split
    · exact ⟨_, _, rfl, rfl⟩
    · split
      · exact ⟨_, _, rfl, rfl⟩
      · split <;> exact ⟨_, _, rfl, rfl⟩
  obtain ⟨c, r, hrest, hc⟩ := hbehind
  rw [hrest] at hfraction
  have hdate := date?_text (Date.isValid_ofDay i.day) (c := 'T') rfl
  have hcolon : (':' : Char).isDigit = false := rfl
  simp only [Instant.chars, List.append_assoc, List.cons_append, hrest, instant?, hdate,
    separator?, short?_paddedDecimal hhour hcolon, mark?_cons (c := ':') rfl,
    short?_paddedDecimal hminute hcolon, short?_paddedDecimal hsecond hc, hfraction,
    Option.bind_eq_bind, Option.bind_some]
  exact assemble?_parts i

end Rfc3339

namespace Instant

theorem ofText?_text (i : Instant) : ofText? i.text = some i := by
  unfold ofText? text
  rw [String.toList_ofList]
  exact Rfc3339.instant?_chars i

theorem year_range (i : Instant) :
    -1000000 < (Date.ofDay i.day).year ∧ (Date.ofDay i.day).year < 1000000 := by
  have hrange := Date.inRange_ofDay i.day
  have hparts := Date.day_eq_parts i.day
  have hday := i.day_range
  have hyear := Date.ofMarch_cases (Date.Place.ofDay i.day).year hrange.dayOfYear
  rw [← Date.ofDay_eq_ofMarch] at hyear
  obtain ⟨hcentury, hgroup, hyearOfGroup, hdayOfYear, -⟩ := hrange
  unfold Date.Place.year at hyear
  unfold firstDay lastDay at hday
  unfold Date.epochOffset at hparts
  dsimp only at hparts
  obtain ⟨m, -, ⟨-, h⟩ | ⟨-, -, h⟩⟩ := hyear <;> rw [h] <;> dsimp only <;> omega

theorem length_yearText_le {year : Int} (h : -1000000 < year ∧ year < 1000000) :
    (yearText year).length ≤ 7 := by
  cases year with
  | ofNat n =>
    rw [Int.ofNat_eq_natCast] at h
    have hdigits : (Text.paddedDecimal 4 n).length ≤ 6 :=
      Text.length_paddedDecimal_le (by decide) (by decide) (by omega)
    unfold yearText
    dsimp only
    split
    · omega
    · rw [List.length_cons]
      omega
  | negSucc n =>
    have hdigits : (Text.paddedDecimal 4 (n + 1)).length ≤ 6 :=
      Text.length_paddedDecimal_le (by decide) (by decide) (by omega)
    rw [yearText, List.length_cons]
    omega

theorem length_fractionText_le {nano : Nat} (h : nano < Span.nanosPerSecond) :
    (fractionText nano).length ≤ 10 := by
  unfold Span.nanosPerSecond at h
  have hthree : (Text.paddedDecimal 3 (nano / 1000000)).length = 3 :=
    Text.length_paddedDecimal (by decide) (by omega)
  have hsix : (Text.paddedDecimal 6 (nano / 1000)).length = 6 :=
    Text.length_paddedDecimal (by decide) (by omega)
  have hnine : (Text.paddedDecimal 9 nano).length = 9 := Text.length_paddedDecimal (by decide) h
  unfold fractionText
  split
  · exact Nat.zero_le _
  · split
    · rw [List.length_cons]
      omega
    · split
      · rw [List.length_cons]
        omega
      · rw [List.length_cons]
        omega

theorem length_chars_le (i : Instant) : i.chars.length ≤ 33 := by
  have hyear := length_yearText_le i.year_range
  have hfraction := length_fractionText_le
    (Nat.mod_lt i.nano (show 0 < Span.nanosPerSecond by decide))
  obtain ⟨hmonth, hdate⟩ := (Date.isValid_ofDay i.day).two_digits
  have hsecond := (Rfc3339.written_second i).1
  have hday := i.second_lt
  have htwo {n : Nat} (hn : n < 100) : (Text.paddedDecimal 2 n).length = 2 :=
    Text.length_paddedDecimal (by decide) hn
  simp only [chars, Date.text, List.length_append, List.length_cons, List.length_nil]
  rw [htwo hmonth, htwo hdate, htwo (n := i.second / 3600) (by omega),
    htwo (n := i.second / 60 % 60) (by omega), htwo (by omega)]
  omega

end Instant

end TorrentSearch.Time
