/-!
# Arguments of the command line

What the words of a command line ask for. Options may stand anywhere in front of `--` and at most once
each; a value follows its option as the next word or behind `=`. The other words are identifiers.
-/

namespace TorrentSearch.Command

structure Arguments where
  source : Option String
  /-- The counters are to be printed in the end. -/
  metrics : Bool
  config : String
  ids : List String
deriving DecidableEq, Repr

inductive Request where
  | help
  | search (arguments : Arguments)
  | refused
deriving DecidableEq, Repr

inductive Word where
  | divider
  /-- The long name of an option, perhaps with a value. -/
  | long (name : String) (value : Option String)
  /-- The first of some one-letter names of options. -/
  | short (letter : Char)
  | plain
deriving DecidableEq, Repr

def Word.ofText (text : String) : Word :=
  match text.toList with
  | ['-', '-'] => .divider
  | '-' :: '-' :: chars =>
    let name := chars.takeWhile (· ≠ '=')
    match chars.drop name.length with
    | _ :: value => .long (String.ofList name) (some (String.ofList value))
    | [] => .long (String.ofList name) none
  | '-' :: letter :: _ => .short letter
  | _ => .plain

structure Draft where
  source : Option String := none
  metrics : Bool := false
  config : Option String := none
  ids : List String := []

namespace Draft

/-- The value of an option, unless it has one or takes none. No path is empty. -/
def set? (d : Draft) (name value : String) : Option Draft :=
  match name, d.source, d.config with
  | "source", none, _ => some { d with source := some value }
  | "config", _, none => if value.isEmpty then none else some { d with config := some value }
  | _, _, _ => none

/-- The variable that names the configuration if no option does. -/
def configVariable : String := "TORRENTFED_CONFIG"

/-- The path of the configuration if nothing else names it. -/
def defaultConfig : String := "config.toml"

/-- The request when all words are read. There is at least one identifier. -/
def finish (environment : List (String × String)) (d : Draft) : Request :=
  let config := (d.config <|> environment.lookup configVariable).getD defaultConfig
  if d.ids.isEmpty || config.isEmpty then .refused
  else .search ⟨d.source, d.metrics, config, d.ids⟩

def read (environment : List (String × String)) (d : Draft) : List String → Request
  | [] => d.finish environment
  | text :: rest =>
    match Word.ofText text with
    | .divider => { d with ids := d.ids ++ rest }.finish environment
    | .plain => { d with ids := d.ids ++ [text] }.read environment rest
    | .short letter => if letter = 'h' then .help else .refused
    | .long name (some value) =>
      match d.set? name value with
      | some d => d.read environment rest
      | none => .refused
    | .long "help" none => .help
    | .long "metrics" none =>
      if d.metrics then .refused else { d with metrics := true }.read environment rest
    | .long name none =>
      match rest with
      | [] => .refused
      | value :: rest =>
        match Word.ofText value, d.set? name value with
        | .plain, some d => d.read environment rest
        | _, _ => .refused

end Draft

/-- What the words of a command line ask for, with the variables of its surroundings. -/
def Request.ofWords (environment : List (String × String)) (words : List String) : Request :=
  ({} : Draft).read environment words

def helpLines (environment : List (String × String)) : List String :=
  let config := (environment.lookup Draft.configVariable).getD ""
  [ "Find torrents for IMDb ids across several sources",
    "",
    "Usage: torrentfed [OPTIONS] <IMDB_IDS>...",
    "",
    "Arguments:",
    "  <IMDB_IDS>...  IMDb ids to search for, e.g. tt0111161",
    "",
    "Options:",
    "      --source <SOURCE>  Query only this source instead of all of them",
    "      --metrics          Print Prometheus metrics to stderr when done",
    "      --config <CONFIG>  Configuration file [env: " ++ Draft.configVariable ++ "=" ++ config ++
      "] [default: " ++ Draft.defaultConfig ++ "]",
    "  -h, --help             Print help" ]

end TorrentSearch.Command
