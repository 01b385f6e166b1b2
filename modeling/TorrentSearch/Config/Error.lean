/-!
# Why a configuration is refused
-/

namespace TorrentSearch.Config

/-- The cause for which a configuration is refused. -/
inductive Error where
  /-- There is no file at the path. -/
  | fileNotFound (path : String)
  /-- The text is no document, or a setting has a value of another kind. -/
  | malformed
  /-- A setting has a value that makes no sense. -/
  | invalid (text : String)
deriving DecidableEq, Repr

def Error.message : Error → String
  | fileNotFound path => "Configuration file not found: " ++ path
  | malformed => "Failed to parse configuration"
  | invalid text => "Configuration validation failed: " ++ text

end TorrentSearch.Config
