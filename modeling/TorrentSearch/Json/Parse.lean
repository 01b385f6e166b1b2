import TorrentSearch.Json.Value
import TorrentSearch.Text.Utf8

/-!
# Reading JSON

The value that bytes name. Readers take the bytes, each as the character of its number, and give a value
with the rest; the number that some of them take bounds the bytes that they can use up. A text may hold
any bytes: whether they are UTF-8 only matters to those who ask for it.
-/

namespace TorrentSearch.Json

def isBlank (c : Char) : Bool :=
  c = ' ' || c = '\n' || c = '\t' || c = '\r'

def skipBlank (s : List Char) : List Char := s.dropWhile isBlank

/-- A part of a text between quotes. -/
inductive Piece where
  | byte (b : Char)
  | char (c : Char)
  | half
deriving DecidableEq, Repr

def fourDigits? : List Char → Option (Nat × List Char)
  | a :: b :: c :: d :: r => (Text.readDigits? 16 [a, b, c, d]).map fun n => (n, r)
  | _ => none

def lowHalf? : List Char → Option (Nat × List Char)
  | '\\' :: 'u' :: r => (fourDigits? r).filter fun (n, _) => 0xdc00 ≤ n && n ≤ 0xdfff
  | _ => none

def letterEscape? (c : Char) : Option Char :=
  match c with
  | '"' => some '"'
  | '\\' => some '\\'
  | '/' => some '/'
  | 'b' => some '\x08'
  | 'f' => some '\x0c'
  | 'n' => some '\n'
  | 'r' => some '\r'
  | 't' => some '\t'
  | _ => none

def escape? : List Char → Option (Piece × List Char)
  | 'u' :: r => do
    let (n, r) ← fourDigits? r
    if n < 0xd800 ∨ 0xdfff < n then return (.char (Char.ofNat n), r)
    else if n ≤ 0xdbff then
      match lowHalf? r with
      | some (low, r) =>
        return (.char (Char.ofNat (0x10000 + (n - 0xd800) * 0x400 + (low - 0xdc00))), r)
      | none => return (.half, r)
    else return (.half, r)
  | c :: r => (letterEscape? c).map fun c => (.char c, r)
  | [] => none

/-- The text behind an opening quote up to the closing one. -/
def pieces? : Nat → List Char → Option (List Piece × List Char)
  | 0, _ => none
  | _, [] => none
  | fuel + 1, c :: r =>
    if c = '"' then some ([], r)
    else if c = '\\' then do
      let (piece, r) ← escape? r
      let (rest, r) ← pieces? fuel r
      return (piece :: rest, r)
    else if c.toNat < 0x20 then none
    else do
      let (rest, r) ← pieces? fuel r
      return (.byte c :: rest, r)

def Piece.bytes? : Piece → Option (List UInt8)
  | .byte b => some [UInt8.ofNat b.toNat]
  | .char c => some (Text.Utf8.encode (String.singleton c))
  | .half => none

/-- The text behind an opening quote, if a string can hold it. -/
def textBehind? (fuel : Nat) (s : List Char) : Option (Option String × List Char) := do
  let (pieces, r) ← pieces? fuel s
  return ((pieces.mapM Piece.bytes?).bind fun bytes => Text.Utf8.decode? bytes.flatten, r)

def objectOf (members : List (Option String × Value)) : Value :=
  match members.mapM fun m => m.1.map fun name => (name, m.2) with
  | some members => .object members
  | none => .broken

def digits? (s : List Char) : Option (List Char × List Char) :=
  let digits := s.takeWhile Char.isDigit
  if digits.isEmpty then none else some (digits, s.drop digits.length)

/-- The whole part of a number: no zero stands in front of other digits. -/
def wholePart? (s : List Char) : Option (List Char × List Char) :=
  match s with
  | '0' :: r => if r.head?.any Char.isDigit then none else some (['0'], r)
  | _ => digits? s

/-- The fraction of a number, if there is one. -/
def fraction? (s : List Char) : Option (List Char × List Char) :=
  match s with
  | '.' :: r => (digits? r).map fun (d, r) => ('.' :: d, r)
  | _ => some ([], s)

/-- The exponent of a number, if there is one. -/
def exponent? (s : List Char) : Option (List Char × List Char) :=
  match s with
  | 'e' :: sign :: r | 'E' :: sign :: r =>
    if sign = '+' ∨ sign = '-' then (digits? r).map fun (d, r) => ('e' :: sign :: d, r)
    else (digits? (sign :: r)).map fun (d, r) => ('e' :: d, r)
  | ['e'] | ['E'] => none
  | _ => some ([], s)

def number? (s : List Char) : Option (Value × List Char) := do
  let (sign, s) := if s.head? = some '-' then (['-'], s.drop 1) else ([], s)
  let (whole, s) ← wholePart? s
  let (fraction, s) ← fraction? s
  let (exponent, s) ← exponent? s
  return (.number (String.ofList (sign ++ whole ++ fraction ++ exponent)), s)

def word? (word : String) (value : Value) (s : List Char) : Option (Value × List Char) :=
  if word.toList.isPrefixOf s then some (value, s.drop word.length) else none

mutual

def value? : Nat → List Char → Option (Value × List Char)
  | 0, _ => none
  | fuel + 1, s =>
    match skipBlank s with
    | '"' :: r => (textBehind? fuel r).map fun (s, r) => (s.elim .broken .text, r)
    | '[' :: r =>
      match skipBlank r with
      | ']' :: r => some (.array [], r)
      | r => (items? fuel r).map fun (items, r) => (.array items, r)
    | '\x7b' :: r =>
      match skipBlank r with
      | '\x7d' :: r => some (.object [], r)
      | r => (members? fuel r).map fun (members, r) => (objectOf members, r)
    | 'n' :: r => word? "null" .null ('n' :: r)
    | 't' :: r => word? "true" (.bool true) ('t' :: r)
    | 'f' :: r => word? "false" (.bool false) ('f' :: r)
    | s => number? s

/-- The values of an array up to its end. -/
def items? : Nat → List Char → Option (List Value × List Char)
  | 0, _ => none
  | fuel + 1, s => do
    let (v, r) ← value? fuel s
    match skipBlank r with
    | ',' :: r => do
      let (rest, r) ← items? fuel r
      return (v :: rest, r)
    | ']' :: r => return ([v], r)
    | _ => none

/-- The named values of an object up to its end. -/
def members? : Nat → List Char → Option (List (Option String × Value) × List Char)
  | 0, _ => none
  | fuel + 1, s =>
    match skipBlank s with
    | '"' :: r => do
      let (name, r) ← textBehind? fuel r
      match skipBlank r with
      | ':' :: r => do
        let (v, r) ← value? fuel r
        match skipBlank r with
        | ',' :: r => do
          let (rest, r) ← members? fuel r
          return ((name, v) :: rest, r)
        | '\x7d' :: r => return ([(name, v)], r)
        | _ => none
      | _ => none
    | _ => none

end

def parse? (bytes : List UInt8) : Option Value :=
  let s := bytes.map fun b => Char.ofNat b.toNat
  match value? (2 * s.length + 2) s with
  | some (v, r) => if (skipBlank r).isEmpty then some v else none
  | none => none

namespace Value

/-- The values of the named fields of a record, in the order of the names, where a field that is
missing has none. A record is an object, in which no name of a field occurs twice and other names do
not matter, or an array that lists the values of the first fields. -/
def fields? (names : List String) : Value → Option (List (Option Value))
  | object members =>
    if names.any fun name => 1 < members.countP fun m => m.1 = name then none
    else some (names.map fun name => members.lookup name)
  | array items =>
    if names.length < items.length then none
    else some ((List.range names.length).map fun i => items[i]?)
  | _ => none

def text? : Value → Option String
  | text s => some s
  | _ => none

/-- A whole number of 32 bits that is written with digits only. -/
def word? : Value → Option Nat
  | number literal =>
    (Text.readDigits? 10 literal.toList).filter (· < 4294967296)
  | _ => none

def optional? {α : Type} (f : Value → Option α) : Value → Option (Option α)
  | null => some none
  | v => (f v).map some

def list? {α : Type} (f : Value → Option α) : Value → Option (List α)
  | array items => items.mapM f
  | _ => none

end Value

end TorrentSearch.Json
