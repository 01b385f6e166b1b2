import TorrentSearch.Text.Ascii

/-!
# Tables over code points

Values of ranges of numbers. A table lists the first number of each range with the range's value, in
ascending order; a range ends where the next one begins.
-/

namespace TorrentSearch.Text

/-- The words of a text, between spaces and line breaks. -/
def words (s : String) : List (List Char) :=
  (s.toList.splitBy fun a b => (a = ' ' || a = '\n') = (b = ' ' || b = '\n')).filter fun w =>
    w.all fun c => c ≠ ' ' && c ≠ '\n'

/-- The parts of a list between the occurrences of an element. -/
def splitAtEach {α : Type} [DecidableEq α] (x : α) : List α → List (List α)
  | [] => [[]]
  | y :: ys =>
    if y = x then [] :: splitAtEach x ys
    else
      match splitAtEach x ys with
      | part :: parts => (y :: part) :: parts
      | [] => [[y]]

/-- The number that hexadecimal digits name, and zero for anything else. -/
def hexNumber (s : List Char) : Nat :=
  (readDigits? 16 s).getD 0

structure RangeTable (α : Type) where
  rows : Array (Nat × α)

namespace RangeTable

variable {α : Type}

/-- The index of the last row from `low` on, and before `high`, that begins at or before `n`. The
first number bounds the steps. -/
def search (rows : Array (Nat × α)) (n : Nat) : Nat → Nat → Nat → Nat
  | 0, low, _ => low
  | fuel + 1, low, high =>
    if high ≤ low + 1 then low
    else
      let middle := (low + high) / 2
      match rows[middle]? with
      | some (start, _) =>
        if start ≤ n then search rows n fuel middle high else search rows n fuel low middle
      | none => low

/-- The value of the range that a number lies in. -/
def find? (t : RangeTable α) (n : Nat) : Option α :=
  match t.rows[search t.rows n 32 0 t.rows.size]? with
  | some (start, value) => if start ≤ n then some value else none
  | none => none

end RangeTable

end TorrentSearch.Text
