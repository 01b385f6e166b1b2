import TorrentSearch.Config.Overlay
import TorrentSearch.Text.Blank
import TorrentSearch.Text.RangeTable
import TorrentSearch.Text.Search
import TorrentSearch.Toml.Scalar

/-!
# Settings from the environment

Environment variables that begin with `TORRENTFED_`, in letters of any case, name settings: the parts
of the rest, between double underscores, are the path to the setting. Values are read as truth values,
numbers, texts in quotes, arrays and tables, and as plain texts if they are nothing of that kind.
-/

namespace TorrentSearch.Config

open Toml (Value Entries Reader)

/-- What the names of variables with settings begin with. -/
def variablePrefix : List Char := "torrentfed_".toList

/-- The path to the setting that a variable names. -/
def settingPath? (name : String) : Option (List String) :=
  let lowered := name.toList.map Char.toLower
  if variablePrefix.isPrefixOf lowered then
    let rest := Text.stripWhile Text.isBlank (lowered.drop variablePrefix.length)
    let parts := Text.splitAtEach '.' (Text.replaceAll "__".toList ['.'] rest)
    if parts.any List.isEmpty then none else some (parts.map String.ofList)
  else none

namespace VariableValue

/-- A blank of ASCII other than a vertical tab. -/
def isBlank (c : Char) : Bool :=
  c = ' ' || c = '\t' || c = '\n' || c = '\r' || c = '\x0c'

def skipBlanks (s : List Char) : List Char :=
  s.dropWhile isBlank

def isSeparator (c : Char) : Bool :=
  c = ',' || c = '\x7b' || c = '\x7d' || c = '[' || c = ']'

/-- The characters of a text up to its closing quote, the latest first. The number bounds them. -/
def quotedBody? : Nat → List Char → Reader (List Char)
  | 0, _, _ => none
  | fuel + 1, done, s =>
    match s with
    | [] => none
    | '"' :: r => some (done, r)
    | '\\' :: r => do
      let (c, r) ← Toml.escape? r
      quotedBody? fuel (c :: done) r
    | c :: r => if Toml.isPlain c then quotedBody? fuel (c :: done) r else none

def quoted? : Reader String := fun s =>
  (quotedBody? (s.length + 1) [] s).map fun (chars, r) => (String.ofList chars.reverse, r)

def integer? (s : List Char) : Option Int :=
  let (negative, digits) : Bool × List Char :=
    match s with
    | '-' :: r => (true, r)
    | '+' :: r => (false, r)
    | r => (false, r)
  match Text.readDigits? 10 digits with
  | some n =>
    if negative then (if n ≤ 9223372036854775808 then some (-(n : Int)) else none)
    else if n ≤ 18446744073709551615 then some n
    else none
  | none => none

/-- The text names a number with a point: digits on at least one side of it, and perhaps an
exponent. -/
def isFloat (s : List Char) : Bool :=
  let unsigned :=
    match s with
    | '-' :: r | '+' :: r => r
    | r => r
  let whole := unsigned.takeWhile Char.isDigit
  match unsigned.drop whole.length with
  | '.' :: r =>
    let fraction := r.takeWhile Char.isDigit
    (!whole.isEmpty || !fraction.isEmpty) &&
      match r.drop fraction.length with
      | [] => true
      | e :: r =>
        (e = 'e' || e = 'E') &&
          let digits :=
            match r with
            | '-' :: r | '+' :: r => r
            | r => r
          !digits.isEmpty && digits.all Char.isDigit
  | _ => false

def plain (s : List Char) : Value :=
  let text := Text.stripWhile Text.isBlank s
  if text.contains '.' && isFloat text then .float (String.ofList text)
  else
    match integer? text with
    | some n => .integer n
    | none => .text (String.ofList text)

/-- The values of an array behind its opening bracket. The number bounds them. -/
def items? (value? : Reader Value) : Nat → Reader (List Value)
  | 0, _ => none
  | fuel + 1, s =>
    match s with
    | ']' :: r => some ([], r)
    | _ => do
      let (v, s) ← value? s
      match s with
      | ',' :: r => do
        let (vs, r) ← items? value? fuel r
        return (v :: vs, r)
      | ']' :: r => return ([v], r)
      | _ => none

/-- A key of a table, with blanks around it. -/
def key? : Reader String := fun s =>
  match skipBlanks s with
  | '"' :: r => (quoted? r).map fun (k, r) => (k, skipBlanks r)
  | s =>
    let front := s.takeWhile fun c => c.isAlphanum || c = '_' || c = '-'
    if front.isEmpty then none
    else some (String.ofList front, skipBlanks (s.drop front.length))

/-- The entries of a table behind its opening brace. The number bounds them. -/
def entries? (value? : Reader Value) : Nat → Entries → Reader Entries
  | 0, _, _ => none
  | fuel + 1, done, s =>
    match s with
    | '\x7d' :: r => some (done, r)
    | _ => do
      let (key, s) ← key? s
      let (v, s) ← value? (← Toml.char? '=' s)
      let done := Toml.setEntry key v done
      match s with
      | ',' :: r => entries? value? fuel done r
      | '\x7d' :: r => return (done, r)
      | _ => none

/-- A value with blanks around it. The number bounds the levels of arrays and tables. -/
def value? : Nat → Reader Value
  | 0, _ => none
  | levels + 1, s => do
    let (v, r) ←
      match skipBlanks s with
      | 't' :: 'r' :: 'u' :: 'e' :: r => some (Value.boolean true, r)
      | 'f' :: 'a' :: 'l' :: 's' :: 'e' :: r => some (Value.boolean false, r)
      | '\x7b' :: r =>
        (entries? (value? levels) (r.length + 1) [] r).map fun (es, r) => (Value.table es, r)
      | '[' :: r =>
        (items? (value? levels) (r.length + 1) r).map fun (vs, r) => (Value.array vs, r)
      | '"' :: r => (quoted? r).map fun (t, r) => (Value.text t, r)
      | '\'' :: c :: '\'' :: r => some (Value.text (String.ofList [c]), r)
      | '\'' :: _ => none
      | s =>
        let front := s.takeWhile fun c => !isSeparator c
        some (plain front, s.drop front.length)
    return (v, skipBlanks r)

def read (s : String) : Value :=
  match value? (s.length + 1) s.toList with
  | some (v, []) => v
  | _ => .text s

end VariableValue

def nest (v : Value) : List String → Value
  | [] => v
  | key :: path => .table [(key, nest v path)]

def variableEntries (name text : String) : Entries :=
  match settingPath? name with
  | some (key :: path) => [(key, nest (VariableValue.read text) path)]
  | _ => []

/-- The entries of all variables, later ones over earlier ones. -/
def environmentEntries (environment : List (String × String)) : Entries :=
  environment.foldl (fun entries (name, text) =>
    Value.overlayEntries entries (variableEntries name text)) []

end TorrentSearch.Config
