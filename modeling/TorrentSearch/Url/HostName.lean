import TorrentSearch.Text.Normalization
import TorrentSearch.Text.Percent
import TorrentSearch.Text.Punycode
import TorrentSearch.Text.Utf8
import TorrentSearch.Url.Error
import TorrentSearch.Url.MappingTable
import TorrentSearch.Url.TraitTable

/-!
# Host names

Host names as they are looked up: characters mapped, composed, and labels with characters outside
ASCII in Punycode behind `xn--`.
-/

namespace TorrentSearch.Url.HostName

/-- The mapping of a character. In ASCII, capital letters are lowered, and the others stay. -/
def mappingOf (c : Nat) : Mapping :=
  if c < 0x80 then
    if 0x41 ≤ c ∧ c ≤ 0x5a then .mapped [c + 0x20] else .valid
  else (mappings.find? c).getD .refused

/-- The characters that some characters stand for, if none of them is refused. -/
def mapChars? (s : List Nat) : Option (List Nat) :=
  (s.mapM fun c =>
    match mappingOf c with
    | .valid => some [c]
    | .ignored => some []
    | .refused => none
    | .mapped codes => some codes).map List.flatten

/-- A character that may stand in a label that was mapped. -/
def isValid (c : Nat) : Bool :=
  match mappingOf c with
  | .valid => true
  | _ => false

/-- The traits of a character. In ASCII there are letters, digits and signs. -/
def traitsOf (c : Nat) : Traits :=
  if c < 0x80 then
    let direction :=
      if (Char.ofNat c).isAlpha then .leftToRight
      else if (Char.ofNat c).isDigit then .number
      else .neutral
    ⟨direction, .none, false⟩
  else (traits.find? c).getD ⟨.leftToRight, .none, false⟩

/-- Characters that tell their neighbours to join (200d) or not to (200c). -/
def isJoiner (c : Nat) : Bool :=
  c = 0x200c || c = 0x200d

/-- The next of the characters that neighbours do not join across joins in one of the given ways. -/
def meets (ways : List Joining) (codes : List Nat) : Bool :=
  ((codes.map fun c => (traitsOf c).joining).dropWhile (· = .across)).head?.any ways.contains

/-- A joiner stands behind a virama, or keeps apart letters that would join. What is before it is in
reverse. -/
def mayStand (joiner : Nat) (before after : List Nat) : Bool :=
  (before.head?.any fun c => Text.Normalization.combiningClass c = 9) ||
    (joiner = 0x200c && meets [.left, .both] before && meets [.right, .both] after)

def joinersMayStand : List Nat → List Nat → Bool
  | _, [] => true
  | before, c :: rest =>
    (!isJoiner c || mayStand c before rest) && joinersMayStand (c :: before) rest

/-- The greatest number of characters in a label with some outside ASCII. -/
def maxLabel : Nat := 1000

def maxPunycode : Nat := 2000

/-- A label of valid characters that is not too long and does not begin with a mark. -/
def isValidLabel (label : List Nat) : Bool :=
  label.all isValid && joinersMayStand [] label && (label.head?.all fun c => !(traitsOf c).isMark) &&
    (label.all (· < 0x80) || label.length ≤ maxLabel)

/-- A label runs one way (RFC 5893): it begins with a letter, holds no letter and no Arabic digit that
runs the other way, does not end in a sign, and holds digits of one kind only. -/
def runsOneWay (label : List Nat) : Bool :=
  match label.map fun c => (traitsOf c).direction with
  | [] => true
  | first :: rest =>
    let rest := rest.reverse.dropWhile (· = .mark)
    rest.head? ≠ some .neutral &&
      match first with
      | .leftToRight => !rest.contains .rightToLeft && !rest.contains .arabicNumber
      | .rightToLeft =>
        !rest.contains .leftToRight && !(rest.contains .number && rest.contains .arabicNumber)
      | _ => false

/-- The characters of a label may make a name run from right to left. -/
def runsBack (label : List Nat) : Bool :=
  label.any fun c => (traitsOf c).direction ∈ [.rightToLeft, .arabicNumber]

def toChars (codes : List Nat) : List Char :=
  codes.map Char.ofNat

def acePrefix : List Char := "xn--".toList

/-- What a mapped label reads as, and the label in ASCII. -/
def labelToAscii? (label : List Nat) : Option (List Nat × List Char) :=
  let chars := toChars label
  if acePrefix.isPrefixOf chars then
    if maxPunycode < chars.length - acePrefix.length then none
    else do
      let codes := (← Text.Punycode.decode? (chars.drop acePrefix.length)).map Char.toNat
      if isValidLabel codes && codes.any (0x80 ≤ ·) && Text.Normalization.compose codes = codes then
        some (codes, chars)
      else none
  else if isValidLabel label then
    some (label, if label.all (· < 0x80) then chars else acePrefix ++ Text.Punycode.encode chars)
  else none

def isForbidden (c : Char) : Bool :=
  c.toNat ≤ 0x20 || c = '\x7f' || "%#/:<>?@[\\]^|".toList.contains c

def joinLabels : List (List Char) → List Char
  | [] => []
  | [label] => label
  | label :: rest => label ++ '.' :: joinLabels rest

/-- The name in ASCII of a host name in UTF-8. If a label makes it run from right to left, each label
has to run one way. -/
def toAscii? (bytes : List UInt8) : Option (List Char) := do
  let text ← Text.Utf8.decode? bytes
  let mapped ← mapChars? (text.toList.map Char.toNat)
  let labels ← (Text.splitAtEach 0x2e (Text.Normalization.compose mapped)).mapM labelToAscii?
  let ascii := joinLabels (labels.map (·.2))
  if labels.any (runsBack ·.1) && !labels.all (runsOneWay ·.1) then none
  else if ascii.any isForbidden then none
  else some ascii

end TorrentSearch.Url.HostName
