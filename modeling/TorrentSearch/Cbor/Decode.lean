import TorrentSearch.Cbor.Item

/-!
# Reading CBOR

The item at the front of some bytes, with the bytes behind it. Arrays and maps may lie within each
other up to a given number of levels, and every text has to be UTF-8. All written forms are read: long
heads, and strings, arrays and maps that go on until a stop.
-/

namespace TorrentSearch.Cbor

/-- Moves elements from a list onto the reversed elements before them. -/
def takeOnto? {α : Type} : Nat → List α → List α → Option (List α × List α)
  | 0, taken, rest => some (taken.reverse, rest)
  | _ + 1, _, [] => none
  | n + 1, taken, x :: rest => takeOnto? n (x :: taken) rest

/-- The given number of elements from the front of a list and the rest, if the list is long
enough. -/
def takeExactly? {α : Type} (n : Nat) (s : List α) : Option (List α × List α) :=
  takeOnto? n [] s

def ofBigEndian (bytes : Bytes) : Nat :=
  bytes.foldl (fun n b => n * 256 + b.toNat) 0

namespace Head

/-- The head of a kind with a number; `low` tells how the number is written. -/
def ofNumber (kind low n : Nat) : Head :=
  match kind with
  | 0 => unsigned n
  | 1 => negative n
  | 2 => bytes (some n)
  | 3 => text (some n)
  | 4 => array (some n)
  | 5 => map (some n)
  | 6 => tag n
  | _ => if low ≤ 24 then simple n else float n

def ofKind? (kind : Nat) : Option Head :=
  match kind with
  | 2 => some (bytes none)
  | 3 => some (text none)
  | 4 => some (array none)
  | 5 => some (map none)
  | 7 => some stop
  | _ => none

/-- The head at the front of some bytes and the bytes behind it. -/
def read? : Bytes → Option (Head × Bytes)
  | [] => none
  | b :: rest =>
    let kind := b.toNat / 32
    let low := b.toNat % 32
    if low < 24 then some (ofNumber kind low low, rest)
    else if low < 28 then
      (takeExactly? (Nat.pow 2 (low - 24)) rest).map fun (n, rest) =>
        (ofNumber kind low (ofBigEndian n), rest)
    else if low = 31 then (ofKind? kind).map fun h => (h, rest)
    else none

end Head

/-- The pieces of a string without a length, up to its stop. Such strings may lie within each other.
The first number bounds the pieces. -/
def readPieces? (isText : Bool) : Nat → Nat → Bytes → Option (List Bytes × Bytes)
  | 0, _, _ => none
  | fuel + 1, nesting, s =>
    let piece (n : Nat) (rest : Bytes) : Option (List Bytes × Bytes) := do
      let (front, rest) ← takeExactly? n rest
      let (pieces, rest) ← readPieces? isText fuel nesting rest
      return (front :: pieces, rest)
    match Head.read? s with
    | some (.bytes (some n), rest) => if isText then none else piece n rest
    | some (.text (some n), rest) => if isText then piece n rest else none
    | some (.bytes none, rest) => if isText then none else readPieces? isText fuel (nesting + 1) rest
    | some (.text none, rest) => if isText then readPieces? isText fuel (nesting + 1) rest else none
    | some (.stop, rest) =>
      if nesting = 0 then some ([], rest) else readPieces? isText fuel (nesting - 1) rest
    | _ => none

def readMany? {α : Type} (read? : Bytes → Option (α × Bytes)) : Nat → Bytes → Option (List α × Bytes)
  | 0, s => some ([], s)
  | n + 1, s => do
    let (x, s) ← read? s
    let (xs, s) ← readMany? read? n s
    return (x :: xs, s)

/-- The values up to a stop. The number bounds them. -/
def readUntilStop? {α : Type} (read? : Bytes → Option (α × Bytes)) :
    Nat → Bytes → Option (List α × Bytes)
  | 0, _ => none
  | fuel + 1, s =>
    match Head.read? s with
    | some (.stop, rest) => some ([], rest)
    | _ => do
      let (x, s) ← read? s
      let (xs, s) ← readUntilStop? read? fuel s
      return (x :: xs, s)

/-- The values of an array or map with the given length, or up to a stop without one. -/
def readValues? {α : Type} (read? : Bytes → Option (α × Bytes)) (length : Option Nat) (s : Bytes) :
    Option (List α × Bytes) :=
  match length with
  | some n => readMany? read? n s
  | none => readUntilStop? read? (s.length + 1) s

def readPair? (read? : Bytes → Option (Item × Bytes)) (s : Bytes) :
    Option ((Item × Item) × Bytes) := do
  let (key, s) ← read? s
  let (value, s) ← read? s
  return ((key, value), s)

/-- The tags from a head on, the head behind them, and the rest. The number bounds the tags. -/
def readTags? : Nat → Head → Bytes → Option (List Nat × Head × Bytes)
  | 0, _, _ => none
  | fuel + 1, .tag n, s => do
    let (head, s) ← Head.read? s
    let (tags, head, s) ← readTags? fuel head s
    return (n :: tags, head, s)
  | _ + 1, head, s => some ([], head, s)

/-- The item that a head begins, given how to read an item one level further in. -/
def readBody? (inner : Option (Bytes → Option (Item × Bytes))) (head : Head) (s : Bytes) :
    Option (Item × Bytes) :=
  match head with
  | .unsigned n => some (.unsigned n, s)
  | .negative n => some (.negative n, s)
  | .bytes (some n) => (takeExactly? n s).map fun (b, s) => (.bytes true b, s)
  | .bytes none => (readPieces? false (s.length + 1) 0 s).map fun (bs, s) => (.bytes false bs.flatten, s)
  | .text (some n) => do
    let (b, s) ← takeExactly? n s
    return (.text true (← Text.Utf8.decode? b), s)
  | .text none => do
    let (bs, s) ← readPieces? true (s.length + 1) 0 s
    return (.text false (String.join (← bs.mapM Text.Utf8.decode?)), s)
  | .array length => do
    let (items, s) ← readValues? (← inner) length s
    return (.array items, s)
  | .map length => do
    let (pairs, s) ← readValues? (readPair? (← inner)) length s
    return (.map pairs, s)
  | .simple n => some (.simple n, s)
  | .float bits => some (.float bits, s)
  | .tag _ | .stop => none

/-- The item at the front, given how to read an item one level further in. -/
def readItem? (inner : Option (Bytes → Option (Item × Bytes))) (s : Bytes) : Option (Item × Bytes) := do
  let (head, s) ← Head.read? s
  match head with
  | .tag _ => do
    let (tags, head, s) ← readTags? (s.length + 2) head s
    let (item, s) ← readBody? inner head s
    return (tags.foldr Item.tag item, s)
  | _ => readBody? inner head s

namespace Item

/-- The item at the front of some bytes and the bytes behind it, with arrays and maps of the given
number of levels. -/
def decode? : Nat → Bytes → Option (Item × Bytes)
  | 0 => readItem? none
  | levels + 1 => readItem? (some (decode? levels))

mutual

/-- An item that can stand where its value does not matter: arrays, maps and tags of at most the
given number of levels, and no simple values but false, true, null and undefined. -/
def isPlain : Nat → Item → Bool
  | levels, array items => 0 < levels && areAllPlain (levels - 1) items
  | levels, map pairs => 0 < levels && areAllPlainPairs (levels - 1) pairs
  | levels, tag _ item => 0 < levels && isPlain (levels - 1) item
  | _, simple n => 20 ≤ n && n ≤ 23
  | _, _ => true

def areAllPlain : Nat → List Item → Bool
  | _, [] => true
  | levels, item :: rest => isPlain levels item && areAllPlain levels rest

def areAllPlainPairs : Nat → List (Item × Item) → Bool
  | _, [] => true
  | levels, (key, value) :: rest =>
    isPlain levels key && isPlain levels value && areAllPlainPairs levels rest

end

/-- An item without the tags in front of it. -/
def untagged : Item → Item
  | tag _ item => untagged item
  | item => item

/-- Short keys and instants are at most this many bytes long. -/
def shortLimit : Nat := 4096

/-- The bytes of a short string with its length in front. -/
def shortKey? (item : Item) : Option Bytes :=
  match item.untagged with
  | bytes true b => if b.length ≤ shortLimit then some b else none
  | text true s =>
    let b := Text.Utf8.encode s
    if b.length ≤ shortLimit then some b else none
  | _ => none

def shortText? (item : Item) : Option String :=
  match item.untagged with
  | text true s => if (Text.Utf8.encode s).length ≤ shortLimit then some s else none
  | _ => none

def anyText? (item : Item) : Option String :=
  match item.untagged with
  | text _ s => some s
  | _ => none

/-- The values of the named fields of a map, in the order of the names. Each has to be there exactly
once; other keys are passed over if their values are plain. -/
def record? (levels : Nat) (names : List String) (item : Item) : Option (List Item) :=
  match item.untagged with
  | map pairs => do
    let keyed ← pairs.mapM fun (key, value) => (key.shortKey?).map fun b => (b, value)
    let known := names.map Text.Utf8.encode
    if keyed.all fun (key, value) => known.contains key || value.isPlain levels then
      known.mapM fun name =>
        match keyed.filter fun (key, _) => key == name with
        | [(_, value)] => some value
        | _ => none
    else none
  | _ => none

end Item

end TorrentSearch.Cbor
