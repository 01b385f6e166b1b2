import TorrentSearch.Config.Basic
import TorrentSearch.Http.Charset
import TorrentSearch.Page.Detail
import TorrentSearch.Page.Link
import TorrentSearch.Page.Results
import TorrentSearch.Source.Basic
import TorrentSearch.Source.Client

/-!
# The scraped source

A result page lists links, and the page behind each link may hold a torrent. The site bears only one
visitor at a time: a lock covers each check as a whole, and there is a pause before each detail page.
-/

namespace TorrentSearch.Source.Ibit

open Search (Work Shared)

def name : String := "ibit"

/-- The pause before each detail page unless told otherwise, in milliseconds. -/
def defaultPageDelay : Nat := 150

structure Access where
  /-- The front of all URLs, without slashes at its end. -/
  base : List Char
  /-- The time limit of a request in milliseconds. -/
  timeout : Nat
  /-- How old entries of the cache may be. -/
  maxAge : Time.Span
  /-- The pause before each detail page in milliseconds. -/
  pageDelay : Nat
deriving DecidableEq, Repr

namespace Access

def ofBase (base : String) (timeout : Nat) (maxAge : Time.Span)
    (pageDelay : Nat := defaultPageDelay) : Access :=
  ⟨Page.trimBase base, timeout, maxAge, pageDelay⟩

/-- The URL of the result page for an identifier. -/
def searchUrl (a : Access) (id : String) : String :=
  String.ofList a.base ++ "/torrent-search/" ++ id

def pageOf (url : String) : Except Error Http.Response → Except Error String
  | .error e => .error e
  | .ok r =>
    if r.status ≠ 200 then .error (.badStatus url r.status)
    else
      match r.body with
      | .whole body => .ok (Http.bodyText r.contentType r.farEastern body)
      | .cut => .error (.request url badBody)
      | .late => .error .timeout

def torrentOf : Except Error Http.Response → Except Page.SkipReason Torrent
  | .error _ => .error .request
  | .ok r =>
    if r.status ≠ 200 then .error .badStatus
    else
      match r.body with
      | .whole body =>
        Page.torrent Magnet.defaultStrategies (Http.bodyText r.contentType r.farEastern body)
      | .cut | .late => .error .request

def visit (a : Access) (href : String) : Work (Except Page.SkipReason Torrent) :=
  match Page.resolveLink href (String.ofList a.base) with
  | .error _ => .done (.error .badLink)
  | .ok url => do return torrentOf (← get url a.timeout)

/-- The torrents of detail pages, visited one after another. Pages without a torrent are counted. -/
def visitAll (a : Access) : List String → Work (List Torrent)
  | [] => return []
  | href :: hrefs => do
    Work.wait a.pageDelay
    match ← a.visit href with
    | .ok torrent =>
      let torrents ← visitAll a hrefs
      return torrent :: torrents
    | .error reason =>
      Work.update (Shared.count (·.observeSkippedPage name reason))
      visitAll a hrefs

/-- What the links of a result page bring. A page without links may be broken: it is counted, and not
kept in the cache. -/
def follow (a : Access) (id : String) (links : Page.Links) : Work Outcome :=
  if links.hrefs.isEmpty then do
    Work.update (Shared.count (·.observeZeroLinkPage name))
    return .ok []
  else do
    let torrents ← a.visitAll links.hrefs
    keep id name torrents
    return .ok torrents

def checkLive (a : Access) (id : String) : Work Outcome := do
  let url := a.searchUrl id
  match pageOf url (← get url a.timeout) with
  | .error e => return .error e
  | .ok page => a.follow id (Page.Links.ofPage page)

def check (a : Access) (id : String) : Work Outcome :=
  match validateIdentifier id with
  | .error e => .done (.error e)
  | .ok _ =>
    Work.locked name (timed name (answeredBy (cached id name a.maxAge) (a.checkLive id)))

theorem plain_visit (a : Access) (href : String) : (a.visit href).Plain := by
  unfold visit
  split
  · exact .done _
  · exact (plain_get _ _).bind fun _ => .pure _

theorem plain_visitAll (a : Access) (hrefs : List String) : (a.visitAll hrefs).Plain := by
  induction hrefs with
  | nil => exact .pure []
  | cons href hrefs ih =>
    refine (Work.Plain.wait _).bind fun _ => (a.plain_visit href).bind fun found => ?_
    cases found with
    | ok torrent => exact ih.bind fun _ => .pure _
    | error reason => exact (Work.Plain.update _).bind fun _ => ih

theorem plain_follow (a : Access) (id : String) (links : Page.Links) :
    (a.follow id links).Plain := by
  unfold follow
  split
  · exact (Work.Plain.update _).bind fun _ => .pure _
  · exact (a.plain_visitAll _).bind fun _ => (plain_keep id name _).bind fun _ => .pure _

theorem plain_checkLive (a : Access) (id : String) : (a.checkLive id).Plain := by
  refine (plain_get _ _).bind fun reply => ?_
  split
  · exact .pure _
  · exact a.plain_follow id _

theorem orderly_check (a : Access) (id : String) : (a.check id).Orderly none := by
  unfold check
  split
  · exact .done _
  · exact Work.Plain.orderly_locked name
      (plain_timed name (plain_answeredBy (plain_cached id name _) (a.plain_checkLive id)))

def toSource (a : Access) : Source := once name a.check a.orderly_check

end Access

end TorrentSearch.Source.Ibit
