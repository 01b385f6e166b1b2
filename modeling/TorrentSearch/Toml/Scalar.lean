import TorrentSearch.Text.Ascii
import TorrentSearch.Time.Calendar
import TorrentSearch.Toml.Value

/-!
# Texts, numbers and dates of TOML

Readers for the values that hold no other values. Each reader takes a text and gives a value with the
rest of the text.
-/

namespace TorrentSearch.Toml

/-- A reader of something at the front of a text. -/
abbrev Reader (α : Type) := List Char → Option (α × List Char)

def isSpace (c : Char) : Bool :=
  c = ' ' || c = '\t'

/-- The text without the spaces and tabs at its front. -/
def skipSpace (s : List Char) : List Char :=
  s.dropWhile isSpace

def newline? : List Char → Option (List Char)
  | '\n' :: r => some r
  | '\r' :: '\n' :: r => some r
  | _ => none

/-- A character that a comment or a text may hold as it is: no control character but the tab. -/
def isPlain (c : Char) : Bool :=
  c = '\t' || (0x20 ≤ c.toNat && c ≠ '\x7f')

/-- The character of a number in hexadecimal digits, if it is one. -/
def codePoint? (digits : List Char) : Option Char :=
  (Text.readDigits? 16 digits).bind fun n =>
    if n < 0xd800 ∨ (0xdfff < n ∧ n ≤ 0x10ffff) then some (Char.ofNat n) else none

/-- The character that a backslash and the text behind it stand for. -/
def escape? : Reader Char
  | 'b' :: r => some ('\x08', r)
  | 't' :: r => some ('\t', r)
  | 'n' :: r => some ('\n', r)
  | 'f' :: r => some ('\x0c', r)
  | 'r' :: r => some ('\r', r)
  | '"' :: r => some ('"', r)
  | '\\' :: r => some ('\\', r)
  | 'u' :: a :: b :: c :: d :: r => (codePoint? [a, b, c, d]).map fun ch => (ch, r)
  | 'U' :: a :: b :: c :: d :: e :: f :: g :: h :: r =>
    (codePoint? [a, b, c, d, e, f, g, h]).map fun ch => (ch, r)
  | _ => none

/-- What becomes of the text behind a backslash at the end of a line: blanks and line breaks up to
the next other character are left out. -/
def continueLine? (s : List Char) : Option (List Char) :=
  match newline? (skipSpace s) with
  | some r => some (r.dropWhile fun c => isSpace c || c = '\n' || c = '\r')
  | none => none

/-- The characters of a text up to its closing quotes, the latest first. Texts over several lines
close with three quotes. The first number bounds the characters. -/
def textBody? (quote : Char) (multiline : Bool) : Nat → List Char → Reader (List Char)
  | 0, _, _ => none
  | _ + 1, _, [] => none
  | fuel + 1, done, c :: r =>
    if c = quote then
      if multiline then
        let run := (r.takeWhile (· = quote)).length
        if run < 2 then
          textBody? quote true fuel (List.replicate (run + 1) quote ++ done) (r.drop run)
        else
          let extra := min (run - 2) 2
          some (List.replicate extra quote ++ done, r.drop (extra + 2))
      else some (done, r)
    else if c = '\\' ∧ quote = '"' then
      match (if multiline then continueLine? r else none) with
      | some rest => textBody? quote multiline fuel done rest
      | none => do
        let (ch, rest) ← escape? r
        textBody? quote multiline fuel (ch :: done) rest
    else if isPlain c then textBody? quote multiline fuel (c :: done) r
    else if multiline then do
      let rest ← newline? (c :: r)
      textBody? quote multiline fuel ('\n' :: done) rest
    else none

/-- A text behind its opening quotes. A line break right behind three quotes is left out. -/
def quotedText? (quote : Char) (multiline : Bool) : Reader String := fun s =>
  let s := if multiline then (newline? s).getD s else s
  (textBody? quote multiline (s.length + 1) [] s).map fun (chars, r) =>
    (String.ofList chars.reverse, r)

def singleLineText? : Reader String
  | '"' :: r => quotedText? '"' false r
  | '\'' :: r => quotedText? '\'' false r
  | _ => none

def text? : Reader String
  | '"' :: '"' :: '"' :: r => quotedText? '"' true r
  | '\'' :: '\'' :: '\'' :: r => quotedText? '\'' true r
  | s => singleLineText? s

/-- Digits with single underscores between them, and the rest. The underscores are left out. -/
def digitRun (isDigit : Char → Bool) : List Char → List Char × List Char
  | c :: r =>
    if isDigit c then
      let (digits, rest) := digitRun isDigit r
      (c :: digits, rest)
    else
      match c, r with
      | '_', d :: _ =>
        if isDigit d then
          let (digits, rest) := digitRun isDigit r
          (digits, rest)
        else ([], c :: r)
      | _, _ => ([], c :: r)
  | [] => ([], [])

/-- At least one digit, with single underscores between digits. -/
def digits? (isDigit : Char → Bool) : Reader (List Char)
  | c :: r => if isDigit c then some (digitRun isDigit (c :: r)) else none
  | [] => none

def sign : List Char → Bool × List Char
  | '-' :: r => (true, r)
  | '+' :: r => (false, r)
  | r => (false, r)

/-- The digits of a decimal number, which begins with zero only if it is zero. -/
def decimalDigits? : Reader (List Char)
  | '0' :: r => some (['0'], r)
  | r => digits? Char.isDigit r

/-- Digits of another base behind `0x`, `0o` or `0b`. -/
def based? : Reader Int
  | '0' :: mark :: r =>
    let base := if mark = 'x' then 16 else if mark = 'o' then 8 else if mark = 'b' then 2 else 0
    if base = 0 then none
    else do
      let (digits, rest) ← digits? (fun c => (Text.digitValue? base c).isSome) r
      let n ← Text.readDigits? base digits
      return ((n : Int), rest)
  | _ => none

/-- A whole number in decimal, perhaps with a sign. -/
def signedDecimal? : Reader Int := fun s => do
  let (negative, s) := sign s
  let (digits, rest) ← decimalDigits? s
  let n ← Text.readDigits? 10 digits
  return (if negative then -(n : Int) else n, rest)

def integer? : Reader Int := fun s => do
  let (n, rest) ← (based? s).or (signedDecimal? s)
  if -9223372036854775808 ≤ n ∧ n ≤ 9223372036854775807 then return (n, rest) else none

def exponent? : Reader Unit
  | 'e' :: r | 'E' :: r => (digits? Char.isDigit (sign r).2).map fun (_, rest) => ((), rest)
  | _ => none

/-- A number with a point or an exponent, infinity, or what is no number. -/
def float? : Reader Unit := fun s => do
  let (_, s) := sign s
  match s with
  | 'i' :: 'n' :: 'f' :: r => return ((), r)
  | 'n' :: 'a' :: 'n' :: r => return ((), r)
  | _ =>
    let (_, s) ← decimalDigits? s
    match s with
    | '.' :: r => do
      let (_, r) ← digits? Char.isDigit r
      return (exponent? r).getD ((), r)
    | _ => exponent? s

def fixedDigits? (count : Nat) : Reader Nat := fun s =>
  let front := s.take count
  if front.length = count ∧ front.all Char.isDigit then
    (Text.readDigits? 10 front).map fun n => (n, s.drop count)
  else none

def char? (c : Char) : List Char → Option (List Char)
  | d :: r => if c = d then some r else none
  | [] => none

def date? : Reader Unit := fun s => do
  let (year, s) ← fixedDigits? 4 s
  let (month, s) ← fixedDigits? 2 (← char? '-' s)
  let (day, s) ← fixedDigits? 2 (← char? '-' s)
  if (⟨year, month, day⟩ : Time.Date).IsValid then return ((), s) else none

def time? : Reader Unit := fun s => do
  let (hour, s) ← fixedDigits? 2 s
  let (minute, s) ← fixedDigits? 2 (← char? ':' s)
  let (second, s) ← fixedDigits? 2 (← char? ':' s)
  if hour ≤ 23 ∧ minute ≤ 59 ∧ second ≤ 60 then
    match s with
    | '.' :: r =>
      let digits := r.takeWhile Char.isDigit
      if digits.isEmpty then none else return ((), r.drop digits.length)
    | _ => return ((), s)
  else none

/-- An offset from universal time, if there is one. -/
def offset (s : List Char) : List Char :=
  match s with
  | 'Z' :: r | 'z' :: r => r
  | mark :: r =>
    let found : Option (List Char) := do
      let (hour, r) ← fixedDigits? 2 r
      let (minute, r) ← fixedDigits? 2 (← char? ':' r)
      if (mark = '+' ∨ mark = '-') ∧ hour ≤ 23 ∧ minute ≤ 59 then return r else none
    found.getD s
  | [] => []

/-- A date, a time, or both with a `T` or a space between them and perhaps an offset. -/
def datetime? : Reader Unit := fun s =>
  match date? s with
  | some (_, r) =>
    match r with
    | c :: t =>
      if c = 'T' ∨ c = 't' ∨ c = ' ' then
        match time? t with
        | some (_, t) => some ((), offset t)
        | none => some ((), r)
      else some ((), r)
    | [] => some ((), r)
  | none => time? s

/-- A reader's value as the text that it read. -/
def literal (s rest : List Char) : String :=
  String.ofList (s.take (s.length - rest.length))

/-- The middle between the greatest double and the next number of its precision. What is at least as
great counts as infinite. -/
def infiniteFrom : Nat := Nat.pow 2 1024 - Nat.pow 2 970

/-- Decimal digits with an exponent of ten name a number that counts as infinite. Only where the number
has as many places as the bound are the two compared in full. -/
def isInfinite (digits : List Char) (exponent : Int) : Bool :=
  let digits := digits.dropWhile (· = '0')
  let places : Int := digits.length + exponent
  if digits.isEmpty || places < 309 then false
  else if 309 < places then true
  else
    let n := (Text.readDigits? 10 digits).getD 0
    if 0 ≤ exponent then infiniteFrom ≤ n * Nat.pow 10 exponent.toNat
    else infiniteFrom * Nat.pow 10 (-exponent).toNat ≤ n

/-- A literal names a number that is too great. Below zero there is none. -/
def isTooGreat (literal : String) : Bool :=
  let (negative, s) := sign (literal.toList.filter (· ≠ '_'))
  let whole := s.takeWhile Char.isDigit
  let s := s.drop whole.length
  let fraction :=
    match s with
    | '.' :: r => r.takeWhile Char.isDigit
    | _ => []
  let s := (s.dropWhile fun c => c ≠ 'e' && c ≠ 'E').drop 1
  let (below, digits) := sign s
  let size : Int := (Text.readDigits? 10 digits).getD 0
  let exponent := if below then -size else size
  !negative && isInfinite (whole ++ fraction) (exponent - fraction.length)

def number? : Reader Value := fun s =>
  match datetime? s with
  | some (_, r) => some (.datetime (literal s r), r)
  | none =>
    match float? s with
    | some (_, r) =>
      let text := literal s r
      if isTooGreat text then none else some (.float text, r)
    | none => (integer? s).map fun (n, r) => (.integer n, r)

def scalar? : Reader Value
  | 't' :: 'r' :: 'u' :: 'e' :: r => some (.boolean true, r)
  | 'f' :: 'a' :: 'l' :: 's' :: 'e' :: r => some (.boolean false, r)
  | '"' :: r => (text? ('"' :: r)).map fun (s, r) => (.text s, r)
  | '\'' :: r => (text? ('\'' :: r)).map fun (s, r) => (.text s, r)
  | s => number? s

end TorrentSearch.Toml
