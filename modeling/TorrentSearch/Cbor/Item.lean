import TorrentSearch.Text.Utf8

/-!
# CBOR items

The data items of the binary format CBOR (RFC 8949) and their shortest written form. `Head` is what
stands in front of every item: its kind with a number.
-/

namespace TorrentSearch.Cbor

abbrev Bytes := List UInt8

/-- The front of an item. A length is absent if the item goes on until a stop. -/
inductive Head where
  | unsigned (n : Nat)
  | negative (n : Nat)
  | bytes (length : Option Nat)
  | text (length : Option Nat)
  | array (length : Option Nat)
  | map (length : Option Nat)
  | tag (n : Nat)
  | simple (n : Nat)
  /-- A number with a point, by its bits, of which there are 16, 32 or 64. -/
  | float (bits : Nat)
  | stop
deriving DecidableEq, Repr

/-- A data item. Byte and text strings keep whether their length was given in front of them. -/
inductive Item where
  | unsigned (n : Nat)
  | negative (n : Nat)
  | bytes (definite : Bool) (value : Bytes)
  | text (definite : Bool) (value : String)
  | array (items : List Item)
  | map (pairs : List (Item × Item))
  | tag (n : Nat) (item : Item)
  | simple (n : Nat)
  | float (bits : Nat)
deriving Repr

/-- The last `count` bytes of a number, the highest first. -/
def bigEndian : Nat → Nat → Bytes
  | 0, _ => []
  | count + 1, n => UInt8.ofNat (n / Nat.pow 256 count % 256) :: bigEndian count n

/-- A kind from 0 to 7 with a number below 2^64, in the fewest bytes. -/
def encodeHead (kind n : Nat) : Bytes :=
  let first (low : Nat) : UInt8 := UInt8.ofNat (kind * 32 + low)
  if n < 24 then [first n]
  else if n < 0x100 then first 24 :: bigEndian 1 n
  else if n < 0x10000 then first 25 :: bigEndian 2 n
  else if n < 0x100000000 then first 26 :: bigEndian 4 n
  else first 27 :: bigEndian 8 n

namespace Item

mutual

/-- The shortest written form of an item, with all lengths in front. -/
def encode : Item → Bytes
  | unsigned n => encodeHead 0 n
  | negative n => encodeHead 1 n
  | bytes _ value => encodeHead 2 value.length ++ value
  | text _ value =>
    let utf8 := Text.Utf8.encode value
    encodeHead 3 utf8.length ++ utf8
  | array items => encodeHead 4 items.length ++ encodeItems items
  | map pairs => encodeHead 5 pairs.length ++ encodePairs pairs
  | tag n item => encodeHead 6 n ++ encode item
  | simple n => encodeHead 7 n
  | float bits => UInt8.ofNat (7 * 32 + 27) :: bigEndian 8 bits

def encodeItems : List Item → Bytes
  | [] => []
  | item :: rest => encode item ++ encodeItems rest

/-- The written forms of keys and values, one after another. -/
def encodePairs : List (Item × Item) → Bytes
  | [] => []
  | (key, value) :: rest => encode key ++ encode value ++ encodePairs rest

end

end Item

end TorrentSearch.Cbor
