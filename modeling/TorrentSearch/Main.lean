import Std.Time.DateTime.Timestamp
import TorrentSearch.Command.Run
import TorrentSearch.Text.Utf8

/-!
# The command line program

The program around a run: it reads the files and the variables, prints the lines and saves the cache.
It brings no network client, so that requests fail as they do without a network, and finds what the
cache holds.
-/

namespace TorrentSearch.Command

open Cbor (Bytes)

/-- The content of the file at a path, if it can be read. -/
def readFile? (path : String) : IO (Option Bytes) := do
  try
    return some (← IO.FS.readBinFile path).toList
  catch _ =>
    return none

/-- A variable from its name and its value around `=`. -/
def assignment? (bytes : Bytes) : Option (String × String) := do
  let chars ← Text.Utf8.decode? bytes
  let name := chars.toList.takeWhile (· ≠ '=')
  let value := chars.toList.drop (name.length + 1)
  if name.isEmpty then none else some (String.ofList name, String.ofList value)

/-- The variables of this process as the system lists them. -/
def processVariables : IO (List (String × String)) := do
  let bytes := (← readFile? "/proc/self/environ").getD []
  return (Text.splitAtEach 0 bytes).filterMap assignment?

def wallClock : IO Time.Instant := do
  let nanos := (← Std.Time.Timestamp.now).toNanosecondsSinceUnixEpoch.toInt
  return (Time.Instant.ofEpochNanos? nanos).getD default

/-- The cache goes to its file. A file that is half written never takes its place. -/
def writeCache (path : String) (cache : Cache.Store) : IO Unit := do
  let partPath := Folder.partPath path
  try
    IO.FS.writeBinFile partPath ⟨cache.save.toArray⟩
    IO.FS.rename partPath path
  catch e =>
    IO.eprintln ("Couldn't save cache to " ++ Text.quoted path ++ ": " ++ toString e)

/-- The end of a run that cannot go on. -/
def stop (cause : String) : IO UInt32 := do
  IO.eprintln ("Fatal error: " ++ cause)
  return 1

def searchWith (a : Arguments) (config : Config) : IO UInt32 := do
  let file ←
    match config.cache.persistPath with
    | some path => readFile? path
    | none => pure none
  let shared := Search.Shared.start (← wallClock) (openCache config file) .down []
  match search? a (.ofConfig config) (.start shared) with
  | none => stop ("Unknown source " ++ Text.quoted (a.source.getD ""))
  | some (lines, s) =>
    lines.forM (fun line => IO.println line)
    if let some path := config.cache.persistPath then
      writeCache path s.pool.shared.cache
    if a.metrics then
      s.pool.shared.counters.lines.forM (fun line => IO.eprintln line)
    return 0

end TorrentSearch.Command

open TorrentSearch.Command in
/-- Does what the words of the command line ask for. -/
def main (words : List String) : IO UInt32 := do
  let environment ← processVariables
  match Request.ofWords environment words with
  | .help =>
    (helpLines environment).forM (fun line => IO.println line)
    return 0
  | .refused =>
    IO.eprintln "These arguments make no sense. For more information, try '--help'."
    return 2
  | .search a =>
    match configure a (← readFile? a.config) environment with
    | .error e => stop e.message
    | .ok config => searchWith a config
