import TorrentSearch.Time.Calendar

/-!
# Days and dates

The date of a numbered day exists in the calendar and has the number of that day.
-/

namespace TorrentSearch.Time.Date

/-- The date of a day of a year that begins in March. -/
def ofMarch (year : Int) (dayOfYear : Nat) : Date :=
  let monthFromMarch := (5 * dayOfYear + 2) / 153
  let month := if monthFromMarch < 10 then monthFromMarch + 3 else monthFromMarch - 9
  { year := if month ≤ 2 then year + 1 else year
    month := month
    day := dayOfYear - daysBeforeMonth monthFromMarch + 1 }

/-- A day as its year, which begins in March, and its place in that year. -/
structure Place where
  cycle : Int
  century : Nat
  group : Nat
  yearOfGroup : Nat
  dayOfYear : Nat

def Place.ofDay (n : Int) : Place :=
  let n := n + epochOffset
  let dayOfCycle := (n % 146097).toNat
  let century := min 3 (dayOfCycle / 36524)
  let dayOfCentury := dayOfCycle - century * 36524
  let dayOfGroup := dayOfCentury % 1461
  let yearOfGroup := min 3 (dayOfGroup / 365)
  { cycle := n / 146097
    century := century
    group := dayOfCentury / 1461
    yearOfGroup := yearOfGroup
    dayOfYear := dayOfGroup - yearOfGroup * 365 }

def Place.year (p : Place) : Int :=
  p.cycle * 400 + (p.century * 100 + p.group * 4 + p.yearOfGroup : Nat)

/-- The parts of a place are in their ranges; the leap day comes only where there is one. -/
structure Place.InRange (p : Place) : Prop where
  century : p.century ≤ 3
  group : p.group ≤ 24
  yearOfGroup : p.yearOfGroup ≤ 3
  dayOfYear : p.dayOfYear ≤ 365
  leapDay : p.dayOfYear = 365 → p.yearOfGroup = 3 ∧ (p.group = 24 → p.century = 3)

theorem ofDay_eq_ofMarch (n : Int) :
    ofDay n = ofMarch (Place.ofDay n).year (Place.ofDay n).dayOfYear := rfl

theorem inRange_ofDay (n : Int) : (Place.ofDay n).InRange := by
  have hlow := Int.emod_nonneg (n + epochOffset) (show (146097 : Int) ≠ 0 by decide)
  have hhigh := Int.emod_lt_of_pos (n + epochOffset) (show (0 : Int) < 146097 by decide)
  constructor <;> dsimp only [Place.ofDay] <;> omega

theorem day_eq_parts (n : Int) :
    let p := Place.ofDay n
    n + epochOffset = p.cycle * 146097 +
      (p.century * 36524 + p.group * 1461 + p.yearOfGroup * 365 + p.dayOfYear : Nat) := by
  have hlow := Int.emod_nonneg (n + epochOffset) (show (146097 : Int) ≠ 0 by decide)
  have hsplit := Int.mul_ediv_add_emod (n + epochOffset) 146097
  dsimp only [Place.ofDay]
  omega

/-- The months from March to December belong to the year itself, January and February to the next. -/
theorem ofMarch_cases (year : Int) {d : Nat} (hd : d ≤ 365) :
    ∃ m, (5 * d + 2) / 153 = m ∧
      ((m < 10 ∧ ofMarch year d = ⟨year, m + 3, d - daysBeforeMonth m + 1⟩) ∨
        (10 ≤ m ∧ m ≤ 11 ∧ ofMarch year d = ⟨year + 1, m - 9, d - daysBeforeMonth m + 1⟩)) := by
  refine ⟨_, rfl, ?_⟩
  by_cases hm : (5 * d + 2) / 153 < 10
  · refine .inl ⟨hm, ?_⟩
    have hlate : ¬ (5 * d + 2) / 153 + 3 ≤ 2 := by omega
    simp [ofMarch, hm, hlate]
  · refine .inr ⟨by omega, by omega, ?_⟩
    have hearly : (5 * d + 2) / 153 - 9 ≤ 2 := by omega
    simp [ofMarch, hm, hearly]

theorem toDay_ofMarch (year : Int) {d : Nat} (hd : d ≤ 365) :
    (ofMarch year d).toDay = year / 400 * 146097 +
      (year % 400 * 365 + year % 400 / 4 - year % 400 / 100 + d) - epochOffset := by
  obtain ⟨m, hm, h⟩ := ofMarch_cases year hd
  have hday : daysBeforeMonth m + (d - daysBeforeMonth m + 1 - 1) = d := by
    unfold daysBeforeMonth
    omega
  rcases h with ⟨hlt, h⟩ | ⟨hle, hlt, h⟩
  · have hlate : ¬ m + 3 ≤ 2 := by omega
    have hmonth : (m + 3 + 9) % 12 = m := by omega
    rw [h]
    simp only [toDay, hlate, if_false, hmonth, hday]
  · have hearly : m - 9 ≤ 2 := by omega
    have hmonth : (m - 9 + 9) % 12 = m := by omega
    have hyear : year + 1 - 1 = year := by omega
    rw [h]
    simp only [toDay, hearly, if_true, hmonth, hday, hyear]

theorem toDay_ofDay (n : Int) : (ofDay n).toDay = n := by
  have hrange := inRange_ofDay n
  have hparts := day_eq_parts n
  dsimp only at hparts
  rw [ofDay_eq_ofMarch, toDay_ofMarch _ hrange.dayOfYear]
  generalize Place.ofDay n = p at hrange hparts ⊢
  obtain ⟨hcentury, hgroup, hyear, -, -⟩ := hrange
  have hcycle : p.year / 400 = p.cycle := by
    unfold Place.year
    omega
  have hrest : p.year % 400 = (p.century * 100 + p.group * 4 + p.yearOfGroup : Nat) := by
    unfold Place.year
    omega
  rw [hcycle, hrest]
  omega

theorem isLeapYear_succ {p : Place} (h : p.InRange) (hleap : p.dayOfYear = 365) :
    isLeapYear (p.year + 1) = true := by
  obtain ⟨hcentury, hgroup, -, -, hday⟩ := h
  obtain ⟨hyear, hlast⟩ := hday hleap
  have hfour : (p.year + 1) % 4 = 0 := by
    unfold Place.year
    omega
  have hhundred : (p.year + 1) % 100 ≠ 0 ∨ (p.year + 1) % 400 = 0 := by
    unfold Place.year
    by_cases hend : p.group = 24
    · have hcycle := hlast hend
      omega
    · omega
  simp only [isLeapYear, Bool.and_eq_true, Bool.or_eq_true, decide_eq_true_eq]
  exact ⟨hfour, hhundred⟩

theorem isValid_ofMarch {year : Int} {d : Nat} (hd : d ≤ 365)
    (hleap : d = 365 → isLeapYear (year + 1) = true) : (ofMarch year d).IsValid := by
  obtain ⟨m, hm, h⟩ := ofMarch_cases year hd
  rcases h with ⟨hlt, h⟩ | ⟨hle, hlt, h⟩
  · have hlength : d - daysBeforeMonth m + 1 ≤ monthLength year (m + 3) := by
      unfold daysBeforeMonth monthLength
      rw [if_neg (by omega)]
      split <;> omega
    rw [h]
    exact ⟨by dsimp only; omega, by dsimp only; omega, Nat.le_add_left 1 _, hlength⟩
  · have hlength : d - daysBeforeMonth m + 1 ≤ monthLength (year + 1) (m - 9) := by
      unfold daysBeforeMonth monthLength
      split
      · -- February, the last month of a year that begins in March
        split
        · omega
        · rename_i hcommon
          have hnot : d ≠ 365 := fun h => hcommon (hleap h)
          omega
      · split <;> omega
    rw [h]
    exact ⟨by dsimp only; omega, by dsimp only; omega, Nat.le_add_left 1 _, hlength⟩

theorem isValid_ofDay (n : Int) : (ofDay n).IsValid := by
  have hrange := inRange_ofDay n
  rw [ofDay_eq_ofMarch]
  exact isValid_ofMarch hrange.dayOfYear (isLeapYear_succ hrange)

theorem IsValid.two_digits {d : Date} (h : d.IsValid) : d.month < 100 ∧ d.day < 100 := by
  obtain ⟨-, hmonth, -, hday⟩ := h
  have hlength : monthLength d.year d.month ≤ 31 := by
    unfold monthLength
    split
    · split <;> decide
    · split <;> decide
  omega

end TorrentSearch.Time.Date
