import TorrentSearch.Config.Basic
import TorrentSearch.Json.Parse
import TorrentSearch.Magnet
import TorrentSearch.Page.Link
import TorrentSearch.Quality
import TorrentSearch.Source.Basic
import TorrentSearch.Source.Client

/-!
# The source with a programming interface

One request brings the films of an identifier with their releases as JSON. Each release of a known
resolution and with a hash is a torrent. Failed requests are tried again.
-/

namespace TorrentSearch.Source.Yts

open Search (Work Shared)

def name : String := "YTS"

structure Release where
  hash : String
  quality : String
  bitDepth : Option String
deriving DecidableEq, Repr

structure Film where
  title : String
  releases : List Release
deriving DecidableEq, Repr

structure Answer where
  status : String
  message : String
  /-- The number of films as the response counts them. -/
  count : Nat
  films : List Film
deriving DecidableEq, Repr

def orDefault {α : Type} (default : α) (f : Json.Value → Option α) :
    Option Json.Value → Option α
  | none => some default
  | some v => f v

def Release.ofJson? (v : Json.Value) : Option Release := do
  let [hash, quality, bitDepth] ← v.fields? ["hash", "quality", "bit_depth"] | none
  return ⟨← (← hash).text?, ← (← quality).text?,
    ← orDefault none (Json.Value.optional? Json.Value.text?) bitDepth⟩

def Film.ofJson? (v : Json.Value) : Option Film := do
  let [title, torrents] ← v.fields? ["title_long", "torrents"] | none
  return ⟨← (← title).text?, ← orDefault [] (Json.Value.list? Release.ofJson?) torrents⟩

def filmsOfJson? (v : Json.Value) : Option (Nat × List Film) := do
  let [count, films] ← v.fields? ["movie_count", "movies"] | none
  let films ← orDefault none (Json.Value.optional? (Json.Value.list? Film.ofJson?)) films
  return (← orDefault 0 Json.Value.word? count, films.getD [])

def Answer.ofJson? (v : Json.Value) : Option Answer := do
  let [status, message, data] ← v.fields? ["status", "status_message", "data"] | none
  let status ← (← status).text?
  let message ← orDefault "" Json.Value.text? message
  let data ← orDefault none (Json.Value.optional? filmsOfJson?) data
  let (count, films) := data.getD (0, [])
  return ⟨status, message, count, films⟩

/-- The trackers that are named in each magnet link. -/
def trackers : List String :=
  ["udp://open.demonii.com:1337/announce", "udp://tracker.openbittorrent.com:80",
    "udp://tracker.coppersurfer.tk:6969", "udp://glotorrents.pw:6969/announce",
    "udp://tracker.opentrackr.org:1337/announce", "udp://torrent.gresille.org:80/announce",
    "udp://p4p.arenabg.com:1337", "udp://tracker.leechers-paradise.org:6969"]

def trackerTail : List Char :=
  trackers.flatMap fun t => "&tr=".toList ++ (Text.Percent.encodeValue t).toList

/-- The torrent of a release, if its resolution is known and it has a hash. -/
def Release.torrent? (r : Release) (title : String) : Option Torrent := do
  let quality ← Quality.ofField? r.quality (r.bitDepth = some "10")
  let hash ← Magnet.canonicalHash? (Text.trim r.hash).toList
  return ⟨title, quality.text, String.ofList hash, Magnet.build hash title.toList trackerTail⟩

def Film.torrents (f : Film) : List Torrent :=
  f.releases.filterMap fun r => r.torrent? f.title

def Answer.outcome (a : Answer) : Outcome :=
  if a.status ≠ "ok" then
    .error (.parse ("YTS status " ++ Text.quoted a.status ++ ": " ++ a.message))
  else if a.count = 0 then .ok []
  else .ok (a.films.flatMap Film.torrents)

def outcomeOfBody (body : Option (List UInt8)) : Outcome :=
  match body.bind Json.parse? with
  | some v =>
    match Answer.ofJson? v with
    | some a => a.outcome
    | none => .error (.parse ("Invalid YTS response: " ++ badBody))
  | none => .error (.parse ("Invalid YTS response: " ++ badBody))

structure Access where
  /-- The front of all URLs, without slashes at its end. -/
  base : List Char
  /-- The time limit of a request in milliseconds. -/
  timeout : Nat
  /-- How old entries of the cache may be. -/
  maxAge : Time.Span
deriving DecidableEq, Repr

namespace Access

def ofBase (base : String) (timeout : Nat) (maxAge : Time.Span) : Access :=
  ⟨Page.trimBase base, timeout, maxAge⟩

def searchUrl (a : Access) (id : String) : String :=
  String.ofList a.base ++ "/api/v2/list_movies.json?query_term=" ++ Text.Percent.encodeValue id

def outcomeOf (url : String) : Except Error Http.Response → Outcome
  | .error e => .error e
  | .ok r => if r.isSuccess then outcomeOfBody r.body.whole? else .error (.badStatus url r.status)

def attempt (a : Access) (id : String) : Work Outcome := do
  let url := a.searchUrl id
  return outcomeOf url (← get url a.timeout)

/-- Attempts until one succeeds, at most so many after the first one. -/
def attempts (a : Access) (id : String) : Nat → Work Outcome
  | 0 => a.attempt id
  | more + 1 => do
    match ← a.attempt id with
    | .ok results => return .ok results
    | .error _ => attempts a id more

/-- A check that the cache does not answer. What it finds is kept in the cache. -/
def checkLive (a : Access) (count : Nat) (id : String) : Work Outcome := do
  let outcome ← a.attempts id (count - 1)
  match outcome with
  | .ok results => keep id name results
  | .error _ => pure ()
  return outcome

def checkUpTo (a : Access) (count : Nat) (id : String) : Work Outcome :=
  match validateIdentifier id with
  | .error e => .done (.error e)
  | .ok _ => timed name (answeredBy (cached id name a.maxAge) (a.checkLive count id))

theorem plain_attempt (a : Access) (id : String) : (a.attempt id).Plain :=
  (plain_get _ _).bind fun _ => .pure _

theorem plain_attempts (a : Access) (id : String) (more : Nat) : (a.attempts id more).Plain := by
  induction more with
  | zero => exact a.plain_attempt id
  | succ more ih =>
    refine (a.plain_attempt id).bind fun outcome => ?_
    cases outcome with
    | ok results => exact .pure _
    | error e => exact ih

theorem plain_checkLive (a : Access) (count : Nat) (id : String) : (a.checkLive count id).Plain := by
  refine (a.plain_attempts id _).bind fun outcome => ?_
  cases outcome with
  | ok results => exact (plain_keep id name results).bind fun _ => .pure _
  | error e => exact (Work.Plain.pure ()).bind fun _ => .pure _

theorem plain_checkUpTo (a : Access) (count : Nat) (id : String) : (a.checkUpTo count id).Plain := by
  unfold checkUpTo
  split
  · exact .done _
  · exact plain_timed name (plain_answeredBy (plain_cached id name _) (a.plain_checkLive count id))

def toSource (a : Access) : Source where
  name := name
  supportsRetries := true
  check := a.checkUpTo 1
  checkUpTo := a.checkUpTo
  orderly_check id := (a.plain_checkUpTo 1 id).orderly
  orderly_checkUpTo count id := (a.plain_checkUpTo count id).orderly

end Access

end TorrentSearch.Source.Yts
