import TorrentSearch.Markup.Builder

/-!
# The description of a page

What may stand in the head of a page. Parts of it are read in the same way wherever they stand.
-/

namespace TorrentSearch.Markup

def isSpacing (c : Char) : Bool :=
  c = '\t' || c = '\n' || c = '\r' || c = '\x0c' || c = ' '

/-- A value under a name in a list of groups of names. -/
def byName {α : Type} (groups : List (List String × α)) (default : α) (name : String) : α :=
  match groups.find? fun g => g.1.contains name with
  | some g => g.2
  | none => default

/-- How a start tag in the head is read. -/
inductive HeadRule where
  | html
  | empty
  | title
  /-- An element whose text is not shown. -/
  | rawText
  | script
  | template
  | head
  | other
deriving DecidableEq, Repr

/-- The rule for the start tag of a name. -/
def HeadRule.ofName : String → HeadRule :=
  byName
    [(["html"], .html), (["base", "basefont", "bgsound", "link", "meta"], .empty),
      (["title"], .title), (["noframes", "style", "noscript"], .rawText), (["script"], .script),
      (["template"], .template), (["head"], .head)]
    .other

/-- End tags that end a part of the page, even before it began. -/
def endsPart (name : String) : Bool :=
  ["body", "html", "br"].contains name

namespace Builder

/-- The element of the whole page gets further attributes. -/
def extendRoot (b : Builder) (tag : Tag) : Builder :=
  match b.openElements.getLast? with
  | some e =>
    if b.hasOpen "template" then b
    else { b with document := b.document.addAttributes e.node tag.attributes }
  | none => b

def openTemplate (b : Builder) (tag : Tag) : Builder :=
  let b := (b.openElement tag).addMarker.forbidFrameset
  { b with mode := .template, templateModes := .template :: b.templateModes }

def closeTemplate (b : Builder) : Builder :=
  if b.hasOpen "template" then
    let b := b.mapOpen (·.dropWhile OpenElement.endsWithTemplate)
    let b := (b.closeNamed "template").clearToMarker
    { b with templateModes := b.templateModes.drop 1 }.resetMode
  else b

def leaveHead (b : Builder) : Outcome :=
  .again (b.pop.goTo .afterHead)

def startInHead (b : Builder) (tag : Tag) : Outcome :=
  match HeadRule.ofName tag.name with
  | .html => .done (b.extendRoot tag)
  | .empty => .done (b.addElement tag)
  | .title => .done (b.openText tag .references)
  | .rawText => .done (b.openText tag .raw)
  | .script => .done (b.openText tag .script)
  | .template => .done (b.openTemplate tag)
  | .head => .done b
  | .other => b.leaveHead

def endInHead (b : Builder) (name : String) : Outcome :=
  if name = "head" then .done (b.pop.goTo .afterHead)
  else if endsPart name then b.leaveHead
  else if name = "template" then .done b.closeTemplate
  else .done b

def inHead (b : Builder) : Token → Outcome
  | .char c => if isSpacing c then .done (b.putChar c) else b.leaveHead
  | .comment | .doctype _ => .done b
  | .startTag tag => b.startInHead tag
  | .endTag tag => b.endInHead tag.name
  | .finish => b.leaveHead

end Builder

end TorrentSearch.Markup
