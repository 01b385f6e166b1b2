import TorrentSearch.Toml.Value

/-!
# Values laid over each other

Two trees of values as one: where both have a table the entries are laid over each other, anything
else is replaced.
-/

namespace TorrentSearch.Toml

/-- The entries with another value under a key, which keeps its place. -/
def setEntry (key : String) (v : Value) : Entries → Entries
  | [] => [(key, v)]
  | (k, w) :: rest => if k = key then (k, v) :: rest else (k, w) :: setEntry key v rest

namespace Value

mutual

def overlay (lower : Value) : Value → Value
  | table upper =>
    match lower with
    | table entries => table (overlayEntries entries upper)
    | _ => table upper
  | v => v

def overlayEntries (lower : Entries) : List (String × Value) → Entries
  | [] => lower
  | (key, v) :: rest =>
    let v :=
      match lower.lookup key with
      | some old => overlay old v
      | none => v
    overlayEntries (setEntry key v lower) rest

end

end Value

end TorrentSearch.Toml
