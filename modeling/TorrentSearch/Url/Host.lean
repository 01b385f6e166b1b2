import TorrentSearch.Url.HostName

/-!
# Hosts

The host of a URL: a name, an IPv4 address in any of its spellings, or an IPv6 address in brackets.
-/

namespace TorrentSearch.Url

inductive Host where
  /-- A name in ASCII. It is empty where the scheme allows for no host. -/
  | name (text : List Char)
  | ipv4 (address : Nat)
  | ipv6 (pieces : List Nat)
deriving DecidableEq, Repr

namespace Host

/-- A number of an IPv4 address: hexadecimal behind `0x`, octal behind `0`, else decimal. -/
def ipv4Number? (part : List Char) : Option Nat :=
  match part with
  | [] => none
  | '0' :: 'x' :: r | '0' :: 'X' :: r => if r.isEmpty then some 0 else Text.readDigits? 16 r
  | '0' :: r => if r.isEmpty then some 0 else Text.readDigits? 8 r
  | r => Text.readDigits? 10 r

/-- The parts between dots, without the empty one behind a dot at the end. -/
def dottedParts (name : List Char) : List (List Char) :=
  let parts := Text.splitAtEach '.' name
  if parts.length > 1 && parts.getLast? = some [] then parts.dropLast else parts

/-- The last part is a number, so that the whole has to be an address. -/
def endsInNumber (name : List Char) : Bool :=
  match (dottedParts name).getLast? with
  | some last => (!last.isEmpty && last.all Char.isDigit) || (ipv4Number? last).isSome
  | none => false

/-- The address of up to four numbers, of which the last one fills all the remaining bytes. -/
def ipv4? (name : List Char) : Option Nat := do
  let parts := dottedParts name
  if 4 < parts.length then none
  else
    let numbers ← parts.mapM ipv4Number?
    let last ← numbers.getLast?
    let front := numbers.dropLast
    if front.all (· ≤ 255) && last < Nat.pow 256 (4 - front.length) then
      return (front.foldl (fun n b => n * 256 + b) 0) * Nat.pow 256 (4 - front.length) + last
    else none

/-- The four decimal numbers of an address at the end of an IPv6 address, each below 256 and without
zeros in front. -/
def embeddedIpv4? (s : List Char) : Option (List Nat) := do
  let numbers ← (Text.splitAtEach '.' s).mapM fun part =>
    if part.length > 1 && part.head? = some '0' || 3 < part.length then none
    else (Text.readDigits? 10 part).filter (· ≤ 255)
  match numbers with
  | [a, b, c, d] => return [a * 256 + b, c * 256 + d]
  | _ => none

/-- Pieces between colons; the last one may be an IPv4 address. -/
def ipv6Pieces? : List (List Char) → Option (List Nat)
  | [] => some []
  | [last] =>
    if last.contains '.' then embeddedIpv4? last
    else if last.length ≤ 4 then (Text.readDigits? 16 last).map ([·]) else none
  | part :: rest =>
    if part.length ≤ 4 then do
      let n ← Text.readDigits? 16 part
      return n :: (← ipv6Pieces? rest)
    else none

/-- The text before the first double colon and the text behind it. -/
def splitAtDoubleColon? : List Char → Option (List Char × List Char)
  | ':' :: ':' :: r => some ([], r)
  | c :: r => (splitAtDoubleColon? r).map fun (before, after) => (c :: before, after)
  | [] => none

/-- The pieces of an IPv6 address. A double colon stands for as many zeros as are missing. -/
def ipv6? (s : List Char) : Option (List Nat) :=
  let side (t : List Char) : Option (List Nat) :=
    if t.isEmpty then some [] else ipv6Pieces? (Text.splitAtEach ':' t)
  match splitAtDoubleColon? s with
  | some (before, after) => do
    if before.contains '.' then none
    else
      let front ← side before
      let back ← side after
      let missing := 8 - (front.length + back.length)
      if missing = 0 then none else return front ++ List.replicate missing 0 ++ back
  | none => do
    let pieces ← side s
    if pieces.length = 8 then return pieces else none

/-- A host of a scheme whose hosts are looked up. -/
def parse (s : List Char) : Except Error Host :=
  match s with
  | '[' :: r =>
    if r.getLast? = some ']' then
      match ipv6? r.dropLast with
      | some pieces => .ok (.ipv6 pieces)
      | none => .error .invalidIpv6
    else .error .invalidIpv6
  | _ =>
    match HostName.toAscii? (Text.Percent.decode (Text.Utf8.encode (String.ofList s))) with
    | none => .error .invalidHostName
    | some [] => .error .emptyHost
    | some ascii =>
      if endsInNumber ascii then
        match ipv4? ascii with
        | some address => .ok (.ipv4 address)
        | none => .error .invalidIpv4
      else .ok (.name ascii)

/-- Characters that no host of a foreign scheme holds. -/
def isForbiddenAnywhere (c : Char) : Bool :=
  "\x00\t\n\r #/:<>?@[\\]^|".toList.contains c

def isControl (c : Char) : Bool :=
  c.toNat < 0x20 || 0x7f ≤ c.toNat

def parseForeign (s : List Char) : Except Error Host :=
  match s with
  | '[' :: _ => parse s
  | _ =>
    if s.any isForbiddenAnywhere then .error .invalidDomainCharacter
    else .ok (.name (Text.Percent.encode (fun c => !isControl c) s))

/-- The start and the length of the longest run of at least two zeros, the first of several. -/
def longestZeroRun (pieces : List Nat) : Option (Nat × Nat) :=
  let runAt (i : Nat) : Nat := ((pieces.drop i).takeWhile (· = 0)).length
  let best := (List.range pieces.length).foldl
    (fun (best : Nat × Nat) i => if best.2 < runAt i then (i, runAt i) else best) (0, 0)
  if 2 ≤ best.2 then some best else none

def joinPieces (pieces : List Nat) : List Char :=
  ((pieces.map (Nat.toDigits 16)).intersperse [':']).flatten

def render : Host → List Char
  | name text => text
  | ipv4 a =>
    let byte (i : Nat) : List Char := (Nat.repr (a / Nat.pow 256 i % 256)).toList
    byte 3 ++ '.' :: byte 2 ++ '.' :: byte 1 ++ '.' :: byte 0
  | ipv6 pieces =>
    let inner :=
      match longestZeroRun pieces with
      | some (start, count) =>
        joinPieces (pieces.take start) ++ [':', ':'] ++ joinPieces (pieces.drop (start + count))
      | none => joinPieces pieces
    '[' :: inner ++ [']']

end Host

end TorrentSearch.Url
