import Std.Data.HashMap
import TorrentSearch.Text.NormalizationTable

/-!
# Canonical composition

The normal form of texts in which characters and their marks are composed wherever one character
stands for both (Unicode Normalization Form C). Hangul syllables are composed by a rule, all others by
table. Texts of ASCII are composed as they are.
-/

namespace TorrentSearch.Text.Normalization

def partsTable : Std.HashMap Nat (List Nat) :=
  decompositions.foldl (fun m d => m.insert d.code d.parts) {}

def composites : Std.HashMap (Nat × Nat) Nat :=
  decompositions.foldl (fun m d =>
    match d.composes, d.parts with
    | true, [a, b] => m.insert (a, b) d.code
    | _, _ => m) {}

/-- The combining class of a character. Characters of ASCII are no marks. -/
def combiningClass (c : Nat) : Nat :=
  if c < 0x80 then 0 else (combiningClasses.find? c).getD 0

def hangulParts? (c : Nat) : Option (List Nat) :=
  if 0xac00 ≤ c ∧ c < 0xac00 + 11172 then
    let s := c - 0xac00
    let trail := s % 28
    some ([0x1100 + s / 588, 0x1161 + s % 588 / 28] ++ if trail = 0 then [] else [0x11a7 + trail])
  else none

def hangulComposite? (a b : Nat) : Option Nat :=
  if 0x1100 ≤ a ∧ a < 0x1113 ∧ 0x1161 ≤ b ∧ b < 0x1176 then
    some (0xac00 + ((a - 0x1100) * 21 + (b - 0x1161)) * 28)
  else if 0xac00 ≤ a ∧ a < 0xac00 + 11172 ∧ (a - 0xac00) % 28 = 0 ∧ 0x11a7 < b ∧ b < 0x11c3 then
    some (a + (b - 0x11a7))
  else none

/-- A character in its last parts. Parts have parts up to a depth. -/
def decompose : Nat → Nat → List Nat
  | 0, c => [c]
  | depth + 1, c =>
    match (hangulParts? c).or partsTable[c]? with
    | some parts => parts.flatMap (decompose depth)
    | none => [c]

/-- Puts a character with a class among the marks before it, which are in reverse order. -/
def insertMark (c k : Nat) : List (Nat × Nat) → List (Nat × Nat)
  | (d, j) :: rest => if k < j ∧ k ≠ 0 then (d, j) :: insertMark c k rest else (c, k) :: (d, j) :: rest
  | [] => [(c, k)]

/-- Characters with their classes, runs of marks ordered by class. -/
def orderMarks (s : List Nat) : List (Nat × Nat) :=
  (s.foldl (fun out c => insertMark c (combiningClass c) out) []).reverse

/-- The state of the composer: the text so far in reverse, the latest character without a class, and
what followed it, in reverse. -/
structure Composer where
  done : List Nat
  starter : Option Nat
  marks : List (Nat × Nat)

/-- One character more. It is composed with the latest character without a class unless something
between them blocks it. -/
def composeStep (s : Composer) (next : Nat × Nat) : Composer :=
  let (c, k) := next
  match s.starter with
  | none => if k = 0 then ⟨s.done, some c, []⟩ else ⟨c :: s.done, none, []⟩
  | some a =>
    let blocked :=
      match s.marks with
      | [] => false
      | (_, j) :: _ => k ≤ j
    match (if blocked then none else (hangulComposite? a c).or composites[(a, c)]?) with
    | some composite => { s with starter := some composite }
    | none =>
      if k = 0 then ⟨s.marks.map (·.1) ++ a :: s.done, some c, []⟩
      else { s with marks := (c, k) :: s.marks }

/-- The text, parted into all its marks, in composed form. -/
def composeMarks (s : List Nat) : List Nat :=
  let ordered := orderMarks (s.flatMap (decompose 8))
  let last := ordered.foldl composeStep ⟨[], none, []⟩
  (last.marks.map (·.1) ++ last.starter.toList ++ last.done).reverse

def compose (s : List Nat) : List Nat :=
  if s.all (· < 0x80) then s else composeMarks s

end TorrentSearch.Text.Normalization
