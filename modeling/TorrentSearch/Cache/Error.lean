/-!
# Why the cache refuses

The causes for which a value is not stored, or a file with saved entries is not read or written.
-/

namespace TorrentSearch.Cache

/-- What is wrong with bytes that should hold an entry or a saved store. -/
inductive Flaw where
  /-- The bytes are not well-formed items, or an entry lacks something. -/
  | malformed
  | notAnArray
  | notAPair
  | notByteStrings
deriving DecidableEq, Repr

def Flaw.message : Flaw → String
  | malformed => "malformed data"
  | notAnArray => "expected an array of entries"
  | notAPair => "expected a [key, value] pair"
  | notByteStrings => "expected a [key, value] pair of byte strings"

/-- The cause for which the cache refuses something. -/
inductive Error where
  | decode (flaw : Flaw)
  /-- The value is too long for the regular way. -/
  | valueTooLarge (size limit : Nat)
  /-- There is no such file, or no folder to write it into. -/
  | fileMissing (path : String)
deriving DecidableEq, Repr

def Error.message : Error → String
  | decode flaw => "Couldn't decode cache entry: " ++ flaw.message
  | valueTooLarge size limit =>
    "Value of " ++ Nat.repr size ++ " bytes exceeds the " ++ Nat.repr limit ++ " byte limit"
  | fileMissing path => "Cache file error: " ++ path ++ ": No such file or directory (os error 2)"

end TorrentSearch.Cache
