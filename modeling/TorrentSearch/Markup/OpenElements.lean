import TorrentSearch.Markup.Document

/-!
# Open elements

While a page is read, the elements whose end is still to come form a list, the innermost first.
Whether an end tag closes something depends on what stands between it and the element that it names:
some elements are boundaries that an end tag does not reach across.
-/

namespace TorrentSearch.Markup

/-- An element whose end is still to come. -/
structure OpenElement where
  node : Nat
  space : Space
  name : String
deriving DecidableEq, Repr

namespace OpenElement

/-- The element has a name, in the page's own language. -/
def isNamed (name : String) (e : OpenElement) : Bool :=
  e.space = .html && e.name = name

/-- The element has one of some names, in the page's own language. -/
def isOneOf (names : List String) (e : OpenElement) : Bool :=
  e.space = .html && names.contains e.name

/-- The element holds formulas whose text is ordinary text. -/
def holdsFormulaText (e : OpenElement) : Bool :=
  e.space = .math && ["mi", "mo", "mn", "ms", "mtext"].contains e.name

/-- The element belongs to a drawing and holds ordinary markup. -/
def holdsMarkup (e : OpenElement) : Bool :=
  e.space = .svg && ["foreignobject", "desc", "title"].contains e.name

/-- An end tag does not reach across such an element. -/
def isBoundary (e : OpenElement) : Bool :=
  e.isOneOf ["applet", "caption", "html", "table", "td", "th", "marquee", "object", "template"] ||
    e.holdsFormulaText || e.holdsMarkup

/-- The end tag of a list's item does not reach across such an element. -/
def isItemBoundary (e : OpenElement) : Bool :=
  e.isBoundary || e.isOneOf ["ol", "ul"]

/-- The end of a paragraph does not reach across such an element. -/
def isParagraphBoundary (e : OpenElement) : Bool :=
  e.isBoundary || e.isNamed "button"

/-- An end tag within a table does not reach across such an element. -/
def isTableBoundary (e : OpenElement) : Bool :=
  e.isOneOf ["html", "table", "template"]

/-- An end tag within a choice does not reach across such an element. -/
def isChoiceBoundary (e : OpenElement) : Bool :=
  !e.isOneOf ["optgroup", "option"]

/-- The element holds the groups of a table's rows, or something that may stand for it. -/
def isGroupContext (e : OpenElement) : Bool :=
  e.isOneOf ["tbody", "tfoot", "thead", "template", "html"]

/-- The element is a row of a table, or something that may stand for it. -/
def isRowContext (e : OpenElement) : Bool :=
  e.isOneOf ["tr", "template", "html"]

def isCell (e : OpenElement) : Bool :=
  e.isOneOf ["td", "th"]

/-- What stands directly in such an element, but has no place there, is put in front of the table. -/
def isTablePart (e : OpenElement) : Bool :=
  e.isOneOf ["table", "tbody", "tfoot", "thead", "tr"]

def isHeading (e : OpenElement) : Bool :=
  e.isOneOf ["h1", "h2", "h3", "h4", "h5", "h6"]

def impliedNames : List String :=
  ["dd", "dt", "li", "option", "optgroup", "p", "rb", "rp", "rt", "rtc"]

def endsImplied (e : OpenElement) : Bool :=
  e.isOneOf impliedNames

/-- The element ends without an end tag when a template ends. -/
def endsWithTemplate (e : OpenElement) : Bool :=
  e.endsImplied ||
    e.isOneOf ["caption", "colgroup", "tbody", "td", "tfoot", "th", "thead", "tr"]

def specialNames : List String :=
  ["address", "applet", "area", "article", "aside", "base", "basefont", "bgsound", "blockquote",
    "body", "br", "button", "caption", "center", "col", "colgroup", "dd", "details", "dir", "div",
    "dl", "dt", "embed", "fieldset", "figcaption", "figure", "footer", "form", "frame", "frameset",
    "h1", "h2", "h3", "h4", "h5", "h6", "head", "header", "hgroup", "hr", "html", "iframe", "img",
    "input", "isindex", "li", "link", "listing", "main", "marquee", "menu", "meta", "nav",
    "noembed", "noframes", "noscript", "object", "ol", "p", "param", "plaintext", "pre", "script",
    "section", "select", "source", "style", "summary", "table", "tbody", "td", "template",
    "textarea", "tfoot", "th", "thead", "title", "tr", "track", "ul", "wbr", "xmp"]

def isSpecial (e : OpenElement) : Bool :=
  e.isOneOf specialNames

end OpenElement

abbrev OpenElements := List OpenElement

namespace OpenElements

/-- An element with the property is reached from inside before a boundary is. -/
def inScope (boundary wanted : OpenElement → Bool) : OpenElements → Bool
  | [] => false
  | e :: outer => wanted e || (!boundary e && inScope boundary wanted outer)

def currentIs (wanted : OpenElement → Bool) (s : OpenElements) : Bool :=
  s.head?.any wanted

/-- The innermost elements end, up to the first with the property, which stays open. -/
def closeUntil (wanted : OpenElement → Bool) (s : OpenElements) : OpenElements :=
  s.dropWhile fun e => !wanted e

/-- The innermost elements end, up to the first with the property, which ends too. -/
def closeThrough (wanted : OpenElement → Bool) (s : OpenElements) : OpenElements :=
  (s.closeUntil wanted).drop 1

/-- The innermost elements that end without an end tag do so. -/
def closeImplied (s : OpenElements) : OpenElements :=
  s.dropWhile OpenElement.endsImplied

def closeImpliedExcept (name : String) (s : OpenElements) : OpenElements :=
  s.dropWhile fun e => e.endsImplied && !e.isNamed name

/-- The innermost element of a node is left out. -/
def without (node : Nat) (s : OpenElements) : OpenElements :=
  s.eraseP fun e => e.node = node

def includes (name : String) (s : OpenElements) : Bool :=
  s.any (OpenElement.isNamed name)

end OpenElements

end TorrentSearch.Markup
