import TorrentSearch.Text.Percent
import TorrentSearch.Text.Search

/-!
# Magnet links and info hashes

Sites embed magnet links in two ways: plainly, with `&` between the parameters, or inside a script,
with `\x26` for `&` and dashes inside the hash. A strategy recovers the info hash from one of these
forms, together with the link to hand out. Strategies are tried in order and the first success wins.
-/

namespace TorrentSearch.Magnet

/-- The hash without dashes and in upper case, if it is a non-empty hexadecimal number then. -/
def canonicalHash? (raw : List Char) : Option (List Char) :=
  let hash := raw.filter (· ≠ '-')
  if hash.isEmpty || !hash.all Text.isHexDigit then none else some (hash.map Char.toUpper)

/-- An info hash and the magnet link to hand out for it. -/
structure Extracted where
  infoHash : String
  magnet : String
deriving DecidableEq, Repr

/-- A form in which magnet links are embedded. -/
inductive Strategy where
  | plain
  | escaped
deriving DecidableEq, Repr

def hashLead : List Char := "btih:".toList

def escapedAmp : List Char := "\\x26".toList

def escapedNameLead : List Char := "\\x26dn=".toList

/-- What begins the list of trackers in the escaped form. -/
def escapedTrackerLead : List Char := "\\x26tr=".toList

/-- A link for a hash, a title and the parameters that follow, written as they are. -/
def build (hash title tail : List Char) : String :=
  String.ofList ("magnet:?xt=urn:btih:".toList ++ hash ++ "&dn=".toList ++
    Text.Percent.encode Text.Percent.isUnreserved title ++ tail)

namespace Strategy

def name : Strategy → String
  | plain => "plain_btih"
  | escaped => "escaped_btih"

def rawHash? (s : Strategy) (magnet : List Char) : Option (List Char) :=
  match s with
  | plain => Text.lazyCapture? hashLead ['&'] magnet
  | escaped => Text.lazyCapture? hashLead escapedNameLead magnet

/-- A plain link is handed out as it is. An escaped one is rebuilt from its hash, the title and its
trackers, and is of no use without trackers. -/
def extract? (s : Strategy) (magnet title : String) : Option Extracted :=
  match (s.rawHash? magnet.toList).bind canonicalHash? with
  | none => none
  | some hash =>
    match s with
    | plain => some ⟨String.ofList hash, magnet⟩
    | escaped =>
      (Text.fromFirst? escapedTrackerLead magnet.toList).map fun tail =>
        ⟨String.ofList hash,
          build hash title.toList (Text.replaceAll escapedAmp ['&'] tail)⟩

end Strategy

/-- The strategies in the order in which they are tried unless told otherwise. -/
def defaultStrategies : List Strategy := [.plain, .escaped]

def extract? (strategies : List Strategy) (magnet title : String) : Option Extracted :=
  strategies.findSome? fun s => s.extract? magnet title

end TorrentSearch.Magnet
