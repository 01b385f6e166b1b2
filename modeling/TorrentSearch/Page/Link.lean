import TorrentSearch.Source.Error
import TorrentSearch.Url.Parse

/-!
# Links of scraped pages

Links lead through the configured base URL, which may be a proxy: scheme and host of a full link are
replaced by it, and a link that names a path is put behind it.
-/

namespace TorrentSearch.Page

def trimBase (base : String) : List Char :=
  Text.dropEndWhile (· = '/') base.toList

/-- A full URL with everything before its path replaced by the base. -/
def replaceBase (url base : String) : Except Source.Error String :=
  match Url.ofText url with
  | .ok u => .ok (String.ofList (trimBase base ++ u.pathAndQuery))
  | .error e => .error (.parse ("Couldn't parse URL " ++ url ++ ": " ++ e.message))

/-- The link begins with a scheme of web pages. -/
def isFullLink (href : String) : Bool :=
  "http://".toList.isPrefixOf href.toList || "https://".toList.isPrefixOf href.toList

/-- The URL under the base that a link leads to. -/
def resolveLink (href base : String) : Except Source.Error String :=
  if isFullLink href then replaceBase href base
  else
    let path := if href.toList.head? = some '/' then href.toList else '/' :: href.toList
    .ok (String.ofList (trimBase base ++ path))

end TorrentSearch.Page
