/-!
# TOML values

The values of the configuration language TOML (version 1.0).
-/

namespace TorrentSearch.Toml

/-- A value. Of numbers with a point and of dates only the text is kept. -/
inductive Value where
  | text (s : String)
  | integer (n : Int)
  | float (literal : String)
  | boolean (b : Bool)
  | datetime (literal : String)
  | array (items : List Value)
  | table (entries : List (String × Value))
deriving Repr, Inhabited

abbrev Entries := List (String × Value)

end TorrentSearch.Toml
