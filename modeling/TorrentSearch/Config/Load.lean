import TorrentSearch.Config.Environment
import TorrentSearch.Config.Error
import TorrentSearch.Config.Settings
import TorrentSearch.Text.Utf8
import TorrentSearch.Toml.Document

/-!
# Loading a configuration

A configuration from a document alone, and from a file with the environment over it.
-/

namespace TorrentSearch.Config

def ofDocument (text : String) : Except Error Config :=
  match (Toml.parse? text).bind ofEntries? with
  | some c => .ok c
  | none => .error .malformed

/-- The configuration of a file's bytes with environment variables over it. -/
def load (path : String) (file : Option (List UInt8)) (environment : List (String × String)) :
    Except Error Config :=
  match file with
  | none => .error (.fileNotFound path)
  | some bytes =>
    let config := do
      let document ← Toml.parse? (← Text.Utf8.decode? bytes)
      ofEntries? (Toml.Value.overlayEntries document (environmentEntries environment))
    match config with
    | some c => .ok c
    | none => .error .malformed

end TorrentSearch.Config
