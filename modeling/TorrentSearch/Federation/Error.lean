import TorrentSearch.Source.Error

/-!
# Why a federated search has no answer

A search over several sources fails only if all sources that answered failed, or if there was nothing
to ask or nobody answered yet.
-/

namespace TorrentSearch.Federation

/-- A source by name with the cause for which it failed. -/
structure Failure where
  source : String
  error : Source.Error
deriving DecidableEq, Repr

def Failure.message (f : Failure) : String :=
  f.source ++ ": " ++ f.error.message

/-- The cause for which a federated search failed. -/
inductive Error where
  | allSourcesFailed (failures : List Failure)
  /-- Nobody answered in time, and the slow source is still at work. -/
  | pending (source : String)
  | noSources
  /-- Nothing can be searched for under this identifier. -/
  | invalidIdentifier (id : String)
deriving DecidableEq, Repr

def Error.message : Error → String
  | allSourcesFailed failures =>
    "Couldn't find torrents on any source: " ++ "; ".intercalate (failures.map Failure.message)
  | pending source => "No source answered in time, " ++ source ++ " is still searching"
  | noSources => "No sources configured"
  | invalidIdentifier id => "Invalid identifier: " ++ Text.quoted id

end TorrentSearch.Federation
