import TorrentSearch.Text.Ascii
import TorrentSearch.Text.Blank
import TorrentSearch.Time.Instant

/-!
# Instants as text

Instants in the form of RFC 3339. They are written in one way: in universal time, with the fewest of
0, 3, 6 or 9 digits of a second that are exact, with a signed year outside 0 to 9999, and with 60 for
a leap second. They are read more freely: blanks around the parts, short numbers, a blank for the `T`
and offsets from universal time are understood.
-/

namespace TorrentSearch.Time

def yearText (year : Int) : List Char :=
  match year with
  | .ofNat n => if n ≤ 9999 then Text.paddedDecimal 4 n else '+' :: Text.paddedDecimal 4 n
  | .negSucc n => '-' :: Text.paddedDecimal 4 (n + 1)

def Date.text (d : Date) : List Char :=
  yearText d.year ++ '-' :: Text.paddedDecimal 2 d.month ++ '-' :: Text.paddedDecimal 2 d.day

/-- The digits after the point of a second, with the point; nothing for a whole second. -/
def fractionText (nano : Nat) : List Char :=
  if nano = 0 then []
  else if nano % 1000000 = 0 then '.' :: Text.paddedDecimal 3 (nano / 1000000)
  else if nano % 1000 = 0 then '.' :: Text.paddedDecimal 6 (nano / 1000)
  else '.' :: Text.paddedDecimal 9 nano

def Instant.chars (i : Instant) : List Char :=
  let leap := Span.nanosPerSecond ≤ i.nano
  (Date.ofDay i.day).text ++ 'T' :: Text.paddedDecimal 2 (i.second / 3600) ++
    ':' :: Text.paddedDecimal 2 (i.second / 60 % 60) ++
    ':' :: Text.paddedDecimal 2 (i.second % 60 + if leap then 1 else 0) ++
    fractionText (i.nano % Span.nanosPerSecond) ++ ['Z']

def Instant.text (i : Instant) : String :=
  String.ofList i.chars

namespace Rfc3339

def skipBlanks (s : List Char) : List Char :=
  s.dropWhile Text.isBlank

/-- A number of at least one and at most `width` digits, and the rest. -/
def digits? (width : Nat) (s : List Char) : Option (Nat × List Char) :=
  let front := (s.take width).takeWhile Char.isDigit
  (Text.readDigits? 10 front).map fun n => (n, s.drop front.length)

def longDigits? (s : List Char) : Option (Nat × List Char) :=
  digits? s.length s

/-- Blanks, a number of one or two digits, and the rest. -/
def short? (s : List Char) : Option (Nat × List Char) :=
  digits? 2 (skipBlanks s)

/-- Blanks, a year of up to four digits or a signed year of any length, and the rest. -/
def year? (s : List Char) : Option (Int × List Char) :=
  match skipBlanks s with
  | '-' :: r => (longDigits? r).map fun (n, r) => (-(n : Int), r)
  | '+' :: r => (longDigits? r).map fun (n, r) => ((n : Int), r)
  | r => (digits? 4 r).map fun (n, r) => ((n : Int), r)

def mark? (c : Char) (s : List Char) : Option (List Char) :=
  match skipBlanks s with
  | d :: r => if d = c then some r else none
  | [] => none

def date? (s : List Char) : Option (Date × List Char) := do
  let (year, s) ← year? s
  let (month, s) ← short? (← mark? '-' s)
  let (day, s) ← short? (← mark? '-' s)
  return (⟨year, month, day⟩, s)

def separator? : List Char → Option (List Char)
  | 't' :: r | 'T' :: r | ' ' :: r => some r
  | _ => none

/-- The nanoseconds behind a point, of which nine digits count, and the rest. -/
def fraction? : List Char → Option (Nat × List Char)
  | '.' :: r =>
    let all := r.takeWhile Char.isDigit
    let front := all.take 9
    (Text.readDigits? 10 front).map fun n => (n * Nat.pow 10 (9 - front.length), r.drop all.length)
  | r => some (0, r)

def digit? : List Char → Option (Nat × List Char)
  | c :: r => if c.isDigit then some (c.toNat - 0x30, r) else none
  | [] => none

def twoDigits? (s : List Char) : Option (Nat × List Char) := do
  let (tens, s) ← digit? s
  let (ones, s) ← digit? s
  return (tens * 10 + ones, s)

/-- Hours, colons or blanks, and minutes of an offset, as seconds, and the rest. -/
def offsetSeconds? (s : List Char) : Option (Nat × List Char) := do
  let (hours, s) ← twoDigits? s
  let (minutes, s) ← twoDigits? (s.dropWhile fun c => c = ':' || Text.isBlank c)
  if minutes < 60 then return (hours * 3600 + minutes * 60, s) else none

/-- An offset from universal time in seconds, and the rest. -/
def offset? (s : List Char) : Option (Int × List Char) :=
  if Text.eqIgnoringCase (s.take 3) "utc".toList then some (0, s.drop 3)
  else
    match s with
    | 'Z' :: r | 'z' :: r => some (0, r)
    | '+' :: r => (offsetSeconds? r).map fun (n, r) => ((n : Int), r)
    | '-' :: r | '\u2212' :: r => (offsetSeconds? r).map fun (n, r) => (-(n : Int), r)
    | _ => none

/-- The instant of a local date and time. The second 60 is a leap second. -/
def assemble? (date : Date) (hour minute second nano : Nat) (offset : Int) : Option Instant :=
  let day := date.toDay
  if date.IsValid ∧ (firstDay ≤ day ∧ day ≤ lastDay) ∧ hour < 24 ∧ minute < 60 ∧ second ≤ 60 ∧
      -86400 < offset ∧ offset < 86400 then
    let leap := second = 60
    let clock : Int := hour * 3600 + minute * 60 + (if leap then 59 else second) - offset
    Instant.ofParts? (day + clock / 86400) (clock % 86400).toNat
      (nano + if leap then Span.nanosPerSecond else 0)
  else none

def instant? (s : List Char) : Option Instant := do
  let (date, s) ← date? s
  let (hour, s) ← short? (← separator? s)
  let (minute, s) ← short? (← mark? ':' s)
  let (second, s) ← short? (← mark? ':' s)
  let (nano, s) ← fraction? s
  let (offset, s) ← offset? (skipBlanks s)
  if (skipBlanks s).isEmpty then assemble? date hour minute second nano offset else none

end Rfc3339

/-- The instant that a text names, if it names one. -/
def Instant.ofText? (s : String) : Option Instant :=
  Rfc3339.instant? s.toList

end TorrentSearch.Time
