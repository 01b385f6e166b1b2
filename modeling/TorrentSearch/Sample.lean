import TorrentSearch.Magnet
import TorrentSearch.Torrent

/-!
# Sample torrents, links and pages

Torrents, magnet links and site pages in the shapes that the sources meet, built from a few values.
-/

namespace TorrentSearch.Sample

def torrent (title quality infoHash : String) : Torrent where
  title := title
  quality := quality
  infoHash := infoHash
  magnet := Magnet.build infoHash.toList title.toList []

/-- A plain magnet link, as most pages embed it. -/
def plainLink (infoHash release : String) : String :=
  "magnet:?xt=urn:btih:" ++ infoHash ++ "&dn=" ++ release ++
    "&tr=udp%3A%2F%2Ftracker.example.org%3A1337"

/-- A magnet link as scripts embed it, for a hash that dashes may split. -/
def escapedLink (dashedHash release : String) : String :=
  "magnet:?xt=urn:btih:" ++ dashedHash ++ "\\x26dn=" ++ release ++
    "\\x26tr=udp%3A%2F%2Ftracker.example.org%3A1337" ++
    "\\x26tr=udp%3A%2F%2Fopen.example.com%3A80"

/-- A row of a result page, with its number. -/
def resultRow (number : Nat) (href : String) : String :=
  "<tr><td class=\"name\"><a href=\"" ++ href ++ "\">Result " ++ Nat.repr number ++
    "</a></td><td>1.4 GB</td></tr>\n"

/-- The rows of the links, numbered from the given number on. -/
def resultRows : Nat → List String → String
  | _, [] => ""
  | number, href :: hrefs => resultRow number href ++ resultRows (number + 1) hrefs

/-- A result page: a header row, then one row a link. -/
def resultPage (hrefs : List String) : String :=
  "<html><body><div id=\"content\">" ++
    "<table class=\"torrents\">\n<tr><th>Name</th><th>Size</th></tr>\n" ++
    resultRows 0 hrefs ++ "</table></div></body></html>"

/-- A detail page, whose script embeds a magnet link. -/
def detailPage (title magnet : String) : String :=
  "<html><head><script type=\"text/javascript\">var link = '" ++ magnet ++
    "';</script></head><body><div id=\"extra-info\"><h2><a href=\"#\">" ++ title ++
    "</a></h2></div></body></html>"

end TorrentSearch.Sample
