import TorrentSearch.Markup.Page
import TorrentSearch.Markup.Query
import TorrentSearch.Text.Blank

/-!
# Result pages

A result page lists torrents in the rows of a table, and the first link of a row leads to the page
of its torrent.
-/

namespace TorrentSearch.Page

structure Links where
  /-- The links as they are written, without blanks at their ends, in the order of the rows. -/
  hrefs : List String
  /-- How many rows have no link of use. -/
  rowsWithoutLink : Nat
deriving DecidableEq, Repr

def resultRows (d : Markup.Document) : List Nat :=
  d.select (·.name = "tr") [Markup.Element.hasClass "torrents"]

/-- The link of a row: the target of its first anchor, unless that is blank. -/
def rowLink? (d : Markup.Document) (row : Nat) : Option String := do
  let anchor ← d.firstBelow? (·.name = "a") row
  let href ← anchor.attribute? "href"
  let href := Text.trim href
  if href.isEmpty then none else some href

def Links.ofRows (rows : List (Option String)) : Links :=
  ⟨rows.filterMap id, rows.countP (·.isNone)⟩

def Links.ofPage (page : String) : Links :=
  let d := Markup.Document.ofText page
  .ofRows ((resultRows d).map (rowLink? d))

end TorrentSearch.Page
