import TorrentSearch.Magnet
import TorrentSearch.Markup.Page
import TorrentSearch.Markup.Query
import TorrentSearch.Page.SkipReason
import TorrentSearch.Quality
import TorrentSearch.Text.Blank
import TorrentSearch.Torrent

/-!
# Detail pages

A detail page shows the title of one torrent, and a script in it holds the magnet link as a quoted
text.
-/

namespace TorrentSearch.Page

/-- The title that a page shows, unless it is blank. -/
def title? (page : String) : Option String := do
  let d := Markup.Document.ofText page
  let link ← (d.select (·.name = "a") [(·.name = "h2"), Markup.Element.hasId "extra-info"]).head?
  let title := Text.trim (d.text link)
  if title.isEmpty then none else some title

/-- The magnet link that a script in the page holds. -/
def magnet? (page : String) : Option String :=
  (Text.quotedCapture? '\'' "magnet:?".toList page.toList).map String.ofList

/-- The torrent of a page, or the first cause for which it gives none. -/
def torrent (strategies : List Magnet.Strategy) (page : String) : Except SkipReason Torrent := do
  let magnet ← (magnet? page).elim (throw .noMagnet) pure
  let title ← (title? page).elim (throw .noTitle) pure
  let quality ← (Quality.ofMagnet? magnet).elim (throw .unsupportedQuality) pure
  let found ← (Magnet.extract? strategies magnet title).elim (throw .noInfoHash) pure
  return ⟨title, quality.text, found.infoHash, found.magnet⟩

end TorrentSearch.Page
