import TorrentSearch.Json.Value
import TorrentSearch.Torrent

/-!
# Report lines

What a search prints for one identifier: a line of JSON with the torrents found or with the cause for
which there are none.
-/

namespace TorrentSearch

def Torrent.toJson (t : Torrent) : Json.Value :=
  .object [("title", .text t.title), ("quality", .text t.quality), ("info_hash", .text t.infoHash),
    ("magnet_url", .text t.magnet)]

def Torrent.listToJson (ts : List Torrent) : Json.Value :=
  .array (ts.map Torrent.toJson)

def reportLine (id : String) (outcome : Except String (List Torrent)) : String :=
  let answer : String × Json.Value :=
    match outcome with
    | .ok ts => ("results", Torrent.listToJson ts)
    | .error cause => ("error", .text cause)
  String.ofList (Json.Value.object [("imdb_id", .text id), answer]).render

end TorrentSearch
