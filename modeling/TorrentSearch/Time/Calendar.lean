/-!
# The calendar

Days counted from 1970-01-01 and dates of the Gregorian calendar, extended without end in both
directions. A year is taken to begin in March, so that the leap day is its last day; 400 such years
are one cycle of 146097 days.
-/

namespace TorrentSearch.Time

structure Date where
  year : Int
  month : Nat
  day : Nat
deriving DecidableEq, Repr

namespace Date

def isLeapYear (year : Int) : Bool :=
  year % 4 = 0 && (year % 100 ≠ 0 || year % 400 = 0)

def monthLength (year : Int) (month : Nat) : Nat :=
  if month = 2 then (if isLeapYear year then 29 else 28)
  else if month = 4 ∨ month = 6 ∨ month = 9 ∨ month = 11 then 30 else 31

def IsValid (d : Date) : Prop :=
  1 ≤ d.month ∧ d.month ≤ 12 ∧ 1 ≤ d.day ∧ d.day ≤ monthLength d.year d.month

instance (d : Date) : Decidable d.IsValid := by unfold IsValid; infer_instance

/-- The days before a month that is counted from March as zero. -/
def daysBeforeMonth (monthFromMarch : Nat) : Nat :=
  (153 * monthFromMarch + 2) / 5

/-- The days from 0000-03-01 to 1970-01-01. -/
def epochOffset : Int := 719468

/-- The number of the day, with 1970-01-01 as zero. -/
def toDay (d : Date) : Int :=
  let year : Int := if d.month ≤ 2 then d.year - 1 else d.year
  let cycle := year / 400
  let yearOfCycle := year % 400
  let dayOfYear := daysBeforeMonth ((d.month + 9) % 12) + (d.day - 1)
  cycle * 146097 + (yearOfCycle * 365 + yearOfCycle / 4 - yearOfCycle / 100 + dayOfYear) -
    epochOffset

/-- The date of a numbered day. Within a cycle come up to three centuries of 36524 days and one that
is longer, within a century groups of four years of 1461 days, and within a group up to three years
of 365 days and one that is longer. -/
def ofDay (n : Int) : Date :=
  let n := n + epochOffset
  let cycle := n / 146097
  let dayOfCycle := (n % 146097).toNat
  let century := min 3 (dayOfCycle / 36524)
  let dayOfCentury := dayOfCycle - century * 36524
  let group := dayOfCentury / 1461
  let dayOfGroup := dayOfCentury % 1461
  let yearOfGroup := min 3 (dayOfGroup / 365)
  let dayOfYear := dayOfGroup - yearOfGroup * 365
  let monthFromMarch := (5 * dayOfYear + 2) / 153
  let month := if monthFromMarch < 10 then monthFromMarch + 3 else monthFromMarch - 9
  let year : Int := cycle * 400 + (century * 100 + group * 4 + yearOfGroup : Nat)
  { year := if month ≤ 2 then year + 1 else year
    month := month
    day := dayOfYear - daysBeforeMonth monthFromMarch + 1 }

end Date

end TorrentSearch.Time
