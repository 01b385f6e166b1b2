import TorrentSearch.Time.Calendar

/-!
# Instants and spans

Instants of universal time to the nanosecond, leap seconds included, within the years from -262143 to
262142, and spans of time that are never negative.
-/

namespace TorrentSearch.Time

structure Span where
  nanos : Nat
deriving DecidableEq, Repr, Inhabited

namespace Span

def nanosPerSecond : Nat := 1000000000

def ofSeconds (seconds : Nat) (nanos : Nat := 0) : Span :=
  ⟨seconds * nanosPerSecond + nanos⟩

def ofMillis (millis : Nat) : Span :=
  ⟨millis * 1000000⟩

def seconds (s : Span) : Nat :=
  s.nanos / nanosPerSecond

/-- The nanoseconds of a span beyond its whole seconds. -/
def subsecond (s : Span) : Nat :=
  s.nanos % nanosPerSecond

/-- The milliseconds of a span, a part of one counted as one. -/
def ceilMillis (s : Span) : Nat :=
  (s.nanos + 999999) / 1000000

instance : LT Span := ⟨fun a b => a.nanos < b.nanos⟩

instance (a b : Span) : Decidable (a < b) :=
  inferInstanceAs (Decidable (a.nanos < b.nanos))

/-- What is left of a span after another one, at least nothing. -/
instance : Sub Span := ⟨fun a b => ⟨a.nanos - b.nanos⟩⟩

theorem lt_iff {a b : Span} : a < b ↔ a.nanos < b.nanos := Iff.rfl

@[simp] theorem sub_nanos {a b : Span} : (a - b).nanos = a.nanos - b.nanos := rfl

end Span

/-- The first day that instants reach, -262143-01-01. -/
def firstDay : Int := -96465292

/-- The last day that instants reach, 262142-12-31. -/
def lastDay : Int := 95026236

/-- An instant of universal time. Within a leap second the nanoseconds go on from those of the second
before it, up to two thousand million. -/
structure Instant where
  /-- The number of the day, with 1970-01-01 as zero. -/
  day : Int
  second : Nat
  nano : Nat
  day_range : firstDay ≤ day ∧ day ≤ lastDay
  second_lt : second < 86400
  nano_lt : nano < 2 * Span.nanosPerSecond
  leap_only_last : Span.nanosPerSecond ≤ nano → second % 60 = 59
deriving DecidableEq, Repr

namespace Instant

def epoch : Instant where
  day := 0
  second := 0
  nano := 0
  day_range := by decide
  second_lt := by decide
  nano_lt := by decide
  leap_only_last := by decide

instance : Inhabited Instant := ⟨epoch⟩

/-- The instant with these parts, if there is one. -/
def ofParts? (day : Int) (second nano : Nat) : Option Instant :=
  if h : (firstDay ≤ day ∧ day ≤ lastDay) ∧ second < 86400 ∧ nano < 2 * Span.nanosPerSecond ∧
      (Span.nanosPerSecond ≤ nano → second % 60 = 59) then
    some ⟨day, second, nano, h.1, h.2.1, h.2.2.1, h.2.2.2⟩
  else none

/-- The instant that is some nanoseconds from the start of 1970, leap seconds not counted. -/
def ofEpochNanos? (nanos : Int) : Option Instant :=
  let seconds := nanos / Span.nanosPerSecond
  ofParts? (seconds / 86400) (seconds % 86400).toNat (nanos % Span.nanosPerSecond).toNat

/-- An instant that is not within a leap second. -/
def IsPlain (i : Instant) : Prop := i.nano < Span.nanosPerSecond

/-- The nanoseconds from one instant to another. A leap second counts as one second if the earlier
time of day lies within it and the later one behind it; no other leap second counts. -/
def nanosSince (later earlier : Instant) : Int :=
  let leap : Int :=
    if earlier.second < later.second then (if Span.nanosPerSecond ≤ earlier.nano then 1 else 0)
    else if later.second < earlier.second then
      (if Span.nanosPerSecond ≤ later.nano then -1 else 0)
    else 0
  let seconds := (later.day - earlier.day) * 86400 + ((later.second : Int) - earlier.second) + leap
  seconds * Span.nanosPerSecond + ((later.nano : Int) - earlier.nano)

/-- The span from one instant to another, nothing if the other one is not later. -/
def spanSince (later earlier : Instant) : Span :=
  ⟨(later.nanosSince earlier).toNat⟩

theorem ofParts?_parts (i : Instant) : ofParts? i.day i.second i.nano = some i := by
  unfold ofParts?
  rw [dif_pos ⟨i.day_range, i.second_lt, i.nano_lt, i.leap_only_last⟩]

end Instant

end TorrentSearch.Time
