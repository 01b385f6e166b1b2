import TorrentSearch.Toml.Scalar
import TorrentSearch.Toml.Tree

/-!
# TOML documents

The reading of a whole document: lines of keys and values, headers of tables, comments.
-/

namespace TorrentSearch.Toml

/-- Arrays and tables within each other, and the parts of a key with dots, are fewer than this. -/
def maxLevels : Nat := 80

def isBareKey (c : Char) : Bool :=
  c.isAlphanum || c = '_' || c = '-'

def keyPart? : Reader String := fun s =>
  match s with
  | '"' :: _ | '\'' :: _ => singleLineText? s
  | _ =>
    let front := s.takeWhile isBareKey
    if front.isEmpty then none else some (String.ofList front, s.drop front.length)

/-- The parts of a key with dots and spaces between them. The number bounds the parts. -/
def keyParts? : Nat → Reader (List String)
  | 0, _ => none
  | fuel + 1, s => do
    let (part, s) ← keyPart? (skipSpace s)
    match skipSpace s with
    | '.' :: r => do
      let (parts, r) ← keyParts? fuel r
      return (part :: parts, r)
    | r => return ([part], r)

/-- A key as the path to a table and the last part, with the rest behind spaces. -/
def key? : Reader (List String × String) := fun s => do
  let (parts, r) ← keyParts? (maxLevels - 1) s
  return ((parts.dropLast, ← parts.getLast?), r)

/-- The rest behind a comment, if there is one. -/
def skipComment : List Char → List Char
  | '#' :: r => r.dropWhile isPlain
  | s => s

/-- The rest behind spaces, comments and line breaks. The number bounds the lines. -/
def skipLines : Nat → List Char → List Char
  | 0, s => s
  | fuel + 1, s =>
    let s := skipComment (skipSpace s)
    match newline? s with
    | some r => skipLines fuel r
    | none => s

def skipBlankLines (s : List Char) : List Char :=
  skipLines (s.length + 1) s

/-- The values of an array behind its opening bracket. The number bounds them. -/
def arrayItems? (value? : Reader Value) : Nat → Reader (List Value)
  | 0, _ => none
  | fuel + 1, s =>
    match skipBlankLines s with
    | ']' :: r => some ([], r)
    | s => do
      let (v, s) ← value? s
      match skipBlankLines s with
      | ',' :: r => do
        let (vs, r) ← arrayItems? value? fuel r
        return (v :: vs, r)
      | ']' :: r => return ([v], r)
      | _ => none

/-- A key and a value with an equals sign between them. -/
def pair? (value? : Reader Value) : Reader ((List String × String) × Value) := fun s => do
  let (key, s) ← key? s
  let (v, s) ← value? (skipSpace (← char? '=' s))
  return ((key, v), s)

/-- The entries of a table in braces behind the opening brace or a comma. The number bounds them. -/
def inlineEntries? (value? : Reader Value) : Nat → Nodes → Reader Nodes
  | 0, _, _ => none
  | fuel + 1, nodes, s => do
    let (((path, key), v), s) ← pair? value? s
    let nodes ← insertKey path key v nodes
    match skipSpace s with
    | ',' :: r => inlineEntries? value? fuel nodes r
    | '\x7d' :: r => return (nodes, r)
    | _ => none

/-- A value that may hold others, given how to read a value one level further in. -/
def valueWith? (inner : Option (Reader Value)) : Reader Value := fun s =>
  match s with
  | '[' :: r => do
    let (items, r) ← arrayItems? (← inner) (s.length + 1) r
    return (.array items, r)
  | '\x7b' :: r => do
    let value? ← inner
    match skipSpace r with
    | '\x7d' :: r => return (.table [], r)
    | r => do
      let (nodes, r) ← inlineEntries? value? (s.length + 1) [] r
      return (.table (Node.toEntries nodes), r)
  | _ => scalar? s

/-- A value with so many levels of arrays and tables. -/
def value? : Nat → Reader Value
  | 0 => valueWith? none
  | levels + 1 => valueWith? (some (value? levels))

/-- The table that a document is at: the entries of all finished tables, the path and last part of
the current table's key, whether it is one of several tables of its name, and its entries. -/
structure Cursor where
  done : Nodes
  header : Option (List String × String)
  isElement : Bool
  current : Nodes

/-- The entries of all tables, the current one included. -/
def Cursor.close (c : Cursor) : Option Nodes :=
  match c.header with
  | none => some c.current
  | some (path, key) =>
    if c.isElement then insertElement path key c.current c.done
    else insertTable path key c.current c.done

def Cursor.openHeader (c : Cursor) (isElement : Bool) (path : List String) (key : String) :
    Option Cursor := do
  let done ← c.close
  if isElement then
    if canAddElement path key done then return ⟨done, some (path, key), true, []⟩ else none
  else return ⟨done, some (path, key), false, ← openTable path key done⟩

def statement? (c : Cursor) : Reader Cursor := fun s =>
  match s with
  | '[' :: '[' :: r => do
    let ((path, key), r) ← key? r
    return (← c.openHeader true path key, ← char? ']' (← char? ']' r))
  | '[' :: r => do
    let ((path, key), r) ← key? r
    return (← c.openHeader false path key, ← char? ']' r)
  | _ => do
    let (((path, key), v), r) ← pair? (value? (maxLevels - 1)) s
    return ({ c with current := ← insertKey path key v c.current }, r)

/-- Reads lines to the end of the text. The number bounds the lines. -/
def lines? : Nat → Cursor → List Char → Option Cursor
  | 0, _, _ => none
  | fuel + 1, c, s => do
    let s := skipSpace s
    let (c, s) ←
      match s with
      | [] | '#' :: _ | '\n' :: _ | '\r' :: _ => some (c, s)
      | _ => statement? c s
    match skipComment (skipSpace s) with
    | [] => return c
    | s => lines? fuel c (← newline? s)

def parse? (s : String) : Option Entries := do
  let chars :=
    match s.toList with
    | '\ufeff' :: r => r
    | r => r
  let c ← lines? (chars.length + 1) ⟨[], none, false, []⟩ chars
  return Node.toEntries (← c.close)

end TorrentSearch.Toml
