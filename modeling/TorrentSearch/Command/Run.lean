import TorrentSearch.Cache.Saved
import TorrentSearch.Command.Arguments
import TorrentSearch.Command.Folder
import TorrentSearch.Config.Load
import TorrentSearch.Config.Validate
import TorrentSearch.Counters.Exposition
import TorrentSearch.Federation.Basic
import TorrentSearch.Report

/-!
# A run of the command line

A run reads its configuration and the cache that an earlier run saved, searches for one identifier
after another, waits for the checks that went on in the background, and saves the cache. An identifier
without torrents does not stop the run.
-/

namespace TorrentSearch.Command

open Cbor (Bytes)
open Federation (Session)

def configure (a : Arguments) (file : Option Bytes) (environment : List (String × String)) :
    Except Config.Error Config := do
  let config ← Config.load a.config file environment
  config.validate
  return config

/-- The cache that an earlier run saved, an empty one if it cannot be read. -/
def openCache (config : Config) (file : Option Bytes) : Cache.Store :=
  match file.map (Cache.Store.load config.cache.maxBytes) with
  | some (.ok cache) => cache
  | _ => .empty config.cache.maxBytes

/-- Each identifier is asked for in turn; and the lines that tell the answers. -/
def reportEach (ask : String → Session → Except String (List Torrent) × Session) (s : Session) :
    List String → List String × Session
  | [] => ([], s)
  | id :: ids =>
    let (answer, s) := ask id s
    let (lines, s) := reportEach ask s ids
    (reportLine id answer :: lines, s)

def askAll (f : Federation) (id : String) (s : Session) :
    Except String (List Torrent) × Session :=
  let (answer, s) := f.find id s
  (answer.mapError (·.message), s)

def askOne (source : Source) (id : String) (s : Session) :
    Except String (List Torrent) × Session :=
  let (outcomes, s) := s.checkAll [source.check id]
  ((outcomes.headD (.ok [])).mapError (·.message), s)

/-- The lines of a search and what is left when nothing is under way any more. There are none if the
only source to ask is unknown. -/
def search? (a : Arguments) (f : Federation) (s : Session) : Option (List String × Session) :=
  match a.source with
  | none =>
    let (lines, s) := reportEach (askAll f) s a.ids
    some (lines, s.settle.2)
  | some name => (f.source? name).map fun source => reportEach (askOne source) s a.ids

structure Surroundings where
  environment : List (String × String)
  folder : Folder
  now : Time.Instant
  network : Http.Network

structure Ending where
  code : Nat
  lines : List String
  metrics : List String
  folder : Folder
  /-- The URLs that servers were asked for, the latest first. -/
  requests : List String

def Ending.early (code : Nat) (lines : List String) (w : Surroundings) : Ending :=
  ⟨code, lines, [], w.folder, []⟩

/-- The bytes of a configuration. A folder has no settings. -/
def configFile? (folder : Folder) (path : String) : Option Bytes :=
  match folder.find path with
  | .file content => some content
  | .folder => some []
  | .nothing => none

def Surroundings.start (w : Surroundings) (config : Config) : Session :=
  let file := config.cache.persistPath.bind w.folder.content?
  .start (.start w.now (openCache config file) w.network [])

/-- The folder after the cache is saved, if the configuration says where. -/
def saveCache (config : Config) (cache : Cache.Store) (folder : Folder) : Folder :=
  match config.cache.persistPath with
  | some path => folder.write path cache.save
  | none => folder

def runSearch (a : Arguments) (w : Surroundings) : Ending :=
  match configure a (configFile? w.folder a.config) w.environment with
  | .error _ => .early 1 [] w
  | .ok config =>
    match search? a (.ofConfig config) (w.start config) with
    | none => .early 1 [] w
    | some (lines, s) =>
      let shared := s.pool.shared
      { code := 0
        lines := lines
        metrics := if a.metrics then shared.counters.lines else []
        folder := saveCache config shared.cache w.folder
        requests := shared.requests }

/-- What a run with the given words leaves behind. -/
def run (words : List String) (w : Surroundings) : Ending :=
  match Request.ofWords w.environment words with
  | .help => .early 0 (helpLines w.environment) w
  | .refused => .early 2 [] w
  | .search a => runSearch a w

end TorrentSearch.Command
