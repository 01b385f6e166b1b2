import TorrentSearch.Text.Ascii

/-!
# Punycode

The letters-and-digits form of labels with other characters (RFC 3492). The ASCII characters come
first; behind them stand, as numbers in a base of 36 with a varying weight, the distances from one
inserted character to the next.
-/

namespace TorrentSearch.Text.Punycode

def digit (n : Nat) : Char :=
  if n < 26 then Char.ofNat (0x61 + n) else Char.ofNat (0x30 + (n - 26))

def digitValue? (c : Char) : Option Nat :=
  if 'a' ≤ c ∧ c ≤ 'z' then some (c.toNat - 0x61)
  else if 'A' ≤ c ∧ c ≤ 'Z' then some (c.toNat - 0x41)
  else if '0' ≤ c ∧ c ≤ '9' then some (c.toNat - 0x30 + 26)
  else none

/-- The threshold of a digit at a position, which is a multiple of 36. -/
def threshold (position bias : Nat) : Nat :=
  if position ≤ bias then 1 else min 26 (position - bias)

/-- Divides a distance down to the range of the last digits; the divisions count 36 each. -/
def scaleDown (delta k : Nat) : Nat × Nat :=
  if h : 455 < delta then scaleDown (delta / 35) (k + 36) else (delta, k)
termination_by delta

/-- The bias after a distance, given the number of characters so far. -/
def adapt (delta count : Nat) (first : Bool) : Nat :=
  let delta := if first then delta / 700 else delta / 2
  let (delta, k) := scaleDown (delta + delta / count) 0
  k + 36 * delta / (delta + 38)

/-- The digits of a distance. The first number bounds them. -/
def writeNumber (bias : Nat) : Nat → Nat → Nat → List Char
  | 0, _, _ => []
  | fuel + 1, position, q =>
    let t := threshold position bias
    if q < t then [digit q]
    else digit (t + (q - t) % (36 - t)) :: writeNumber bias fuel (position + 36) ((q - t) / (36 - t))

/-- The state of the writer: the character inserted last, the distance since the last number, the
bias, and the count of characters written. -/
structure Writer where
  last : Nat
  delta : Nat
  bias : Nat
  written : Nat

/-- Writes the occurrences of one character in the label. -/
def writeOccurrences (basic current : Nat) : Writer → List Nat → Writer × List Char
  | w, [] => (w, [])
  | w, c :: rest =>
    if c < current then writeOccurrences basic current { w with delta := w.delta + 1 } rest
    else if c = current then
      let text := writeNumber w.bias (w.delta + 1) 36 w.delta
      let w := { w with
        delta := 0
        bias := adapt w.delta (w.written + 1) (w.written = basic)
        written := w.written + 1 }
      let (w, more) := writeOccurrences basic current w rest
      (w, text ++ more)
    else writeOccurrences basic current w rest

/-- Writes the characters of a label from the lowest one to the highest. -/
def writeAll (label : List Nat) (basic : Nat) : Writer → List Nat → List Char
  | _, [] => []
  | w, current :: rest =>
    let w := { w with delta := w.delta + (current - w.last) * (w.written + 1), last := current }
    let (w, text) := writeOccurrences basic current w label
    text ++ writeAll label basic { w with delta := w.delta + 1, last := current + 1 } rest

def encode (label : List Char) : List Char :=
  let basic := label.filter (·.toNat < 0x80)
  let codes := label.map Char.toNat
  let others := ((codes.filter (0x80 ≤ ·)).mergeSort (· ≤ ·)).eraseDups
  basic ++ (if basic.isEmpty then [] else ['-']) ++
    writeAll codes basic.length ⟨0x80, 0, 72, basic.length⟩ others

/-- A number at the front of some digits: its value and the rest. -/
def readNumber? (bias : Nat) : Nat → Nat → Nat → List Char → Option (Nat × List Char)
  | _, _, _, [] => none
  | position, weight, value, c :: rest =>
    match digitValue? c with
    | none => none
    | some d =>
      let value := value + d * weight
      let t := threshold position bias
      if 0x7fffffff < value then none
      else if d < t then some (value, rest)
      else readNumber? bias (position + 36) (weight * (36 - t)) value rest

/-- Inserts the characters that the numbers name. The first number bounds them. -/
def readAll? : Nat → Nat → Nat → Nat → List Char → List Char → Option (List Char)
  | _, _, _, _, out, [] => some out
  | 0, _, _, _, _, _ :: _ => none
  | fuel + 1, code, index, bias, out, c :: s => do
    let (delta, rest) ← readNumber? bias 36 1 0 (c :: s)
    let count := out.length + 1
    let code := code + (index + delta) / count
    let position := (index + delta) % count
    if 0x10ffff < code ∨ (0xd800 ≤ code ∧ code ≤ 0xdfff) then none
    else
      let out := out.take position ++ Char.ofNat code :: out.drop position
      readAll? fuel code (position + 1) (adapt delta count (index = 0)) out rest

/-- The label that letters and digits name. The last hyphen ends the ASCII characters. -/
def decode? (s : List Char) : Option (List Char) :=
  let tail := (s.reverse.takeWhile (· ≠ '-')).reverse
  let head := s.take (s.length - tail.length)
  let basic := head.dropLast
  if head.length = 1 ∨ !s.all (·.toNat < 0x80) then none
  else readAll? tail.length 0x80 0 72 basic tail

end TorrentSearch.Text.Punycode
