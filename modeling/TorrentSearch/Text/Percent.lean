import TorrentSearch.Text.Ascii

/-!
# Percent encoding

Characters outside a set are written as their UTF-8 bytes, each byte as `%` and two upper-case
hexadecimal digits. `decode` reads such triples back and leaves every other byte as it is.
-/

namespace TorrentSearch.Text.Percent

/-- A byte as `%` and two hexadecimal digits. -/
def escapeByte (b : UInt8) : List Char :=
  ['%', upperHexDigit (b.toNat / 16), upperHexDigit (b.toNat % 16)]

/-- A character as the escapes of its UTF-8 bytes. -/
def escapeChar (c : Char) : List Char :=
  (String.utf8EncodeChar c).flatMap escapeByte

/-- The text with every character that `keep` does not hold of written as escapes. -/
def encode (keep : Char → Bool) (s : List Char) : List Char :=
  s.flatMap fun c => if keep c then [c] else escapeChar c

/-- The characters that a query value may hold as they are: letters, digits and `-`, `.`, `_`, `~`
of ASCII. -/
def isUnreserved (c : Char) : Bool :=
  c.isAlphanum || c = '-' || c = '.' || c = '_' || c = '~'

def encodeValue (s : String) : String :=
  String.ofList (encode isUnreserved s.toList)

/-- The bytes of a text in which each `%` with two hexadecimal digits stands for the byte of that
number. -/
def decode : List UInt8 → List UInt8
  | 0x25 :: h :: l :: r =>
    match hexValue? (Char.ofNat h.toNat), hexValue? (Char.ofNat l.toNat) with
    | some a, some b => UInt8.ofNat (a * 16 + b) :: decode r
    | _, _ => 0x25 :: decode (h :: l :: r)
  | b :: r => b :: decode r
  | [] => []

end TorrentSearch.Text.Percent
