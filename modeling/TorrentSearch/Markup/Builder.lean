import TorrentSearch.Markup.OpenElements

/-!
# The state of a document under construction

A builder holds the document as far as it was read, the open elements, the formatting that is in
force, and what part of the page is being read. Its operations put new nodes in their places.
-/

namespace TorrentSearch.Markup

/-- What part of a page is being read. -/
inductive Mode where
  | start
  | beforeHtml
  | beforeHead
  | head
  | afterHead
  | body
  /-- Text that ends at the end tag of its element. -/
  | text
  | table
  | tableText
  | caption
  | columnGroup
  | rowGroup
  | row
  | cell
  | choice
  | choiceInTable
  | template
  | afterBody
  | frameset
  | afterFrameset
  | afterAfterBody
  | afterAfterFrameset
deriving DecidableEq, Repr

/-- An entry of the formatting in force. -/
inductive Formatting where
  /-- What stands before it is out of force until the entry is removed. -/
  | marker
  /-- An element and the tag that began it. -/
  | element (node : Nat) (tag : Tag)
deriving DecidableEq, Repr

namespace Formatting

def isFor (node : Nat) : Formatting → Bool
  | marker => false
  | element n _ => n = node

def tag? : Formatting → Option Tag
  | marker => none
  | element _ t => some t

end Formatting

structure Builder where
  document : Document
  mode : Mode
  /-- The mode after a stretch of text. -/
  returnMode : Mode
  /-- The modes of the open templates, the innermost first. -/
  templateModes : List Mode
  openElements : OpenElements
  /-- The formatting in force, the latest first. -/
  formatting : List Formatting
  /-- The element that holds what describes the page. -/
  head : Option Nat
  /-- The form whose end is still to come. -/
  form : Option Nat
  /-- Nothing was read yet that is shown. -/
  framesetAllowed : Bool
  /-- A paragraph may hold a table, as in pages that do not declare their type. -/
  tablesInParagraphs : Bool
  /-- A line break that comes next is left out. -/
  skipLineBreak : Bool
  /-- What has no place in a table is put in front of it. -/
  fostering : Bool
  /-- Characters directly in a table, the latest first. -/
  tableText : List Char
  /-- The latest tag asks for text of a kind. -/
  textRequest : Option TextKind

namespace Builder

def empty : Builder where
  document := .empty
  mode := .start
  returnMode := .start
  templateModes := []
  openElements := []
  formatting := []
  head := none
  form := none
  framesetAllowed := true
  tablesInParagraphs := false
  skipLineBreak := false
  fostering := false
  tableText := []
  textRequest := none

def goTo (b : Builder) (mode : Mode) : Builder := { b with mode := mode }

def mapOpen (b : Builder) (f : OpenElements → OpenElements) : Builder :=
  { b with openElements := f b.openElements }

def pop (b : Builder) : Builder := b.mapOpen (·.drop 1)

def currentIsNamed (b : Builder) (name : String) : Bool :=
  b.openElements.currentIs (OpenElement.isNamed name)

def hasOpen (b : Builder) (name : String) : Bool := b.openElements.includes name

def forbidFrameset (b : Builder) : Builder := { b with framesetAllowed := false }

inductive Place where
  /-- Behind the last child of a node. -/
  | inside (parent : Nat)
  /-- In front of a node if that has a parent, else behind the last child of another. -/
  | before (sibling fallback : Nat)

/-- The place in front of the innermost table, or in the innermost template. -/
def fosterPlace : OpenElements → Place
  | [] => .inside Document.root
  | [e] => .inside e.node
  | e :: outer :: rest =>
    if e.isNamed "template" then .inside e.node
    else if e.isNamed "table" then .before e.node outer.node
    else fosterPlace (outer :: rest)

def placeIn (b : Builder) (target : OpenElement) : Place :=
  if b.fostering && target.isTablePart then fosterPlace b.openElements else .inside target.node

def place (b : Builder) : Place :=
  match b.openElements with
  | [] => .inside Document.root
  | e :: _ => b.placeIn e

def putAt (b : Builder) (i : Nat) : Place → Builder
  | .inside parent => { b with document := b.document.append parent i }
  | .before sibling fallback =>
    if (b.document.parent? sibling).isSome then
      { b with document := b.document.insertBefore sibling i }
    else { b with document := b.document.append fallback i }

def putCharAt (b : Builder) (c : Char) : Place → Builder
  | .inside parent => { b with document := b.document.appendChar parent c }
  | .before sibling fallback =>
    if (b.document.parent? sibling).isSome then
      { b with document := b.document.insertCharBefore sibling c }
    else { b with document := b.document.appendChar fallback c }

def putChar (b : Builder) (c : Char) : Builder := b.putCharAt c b.place

/-- A new element outside the tree, and its number. -/
def createElement (b : Builder) (space : Space) (tag : Tag) : Builder × Nat :=
  let (document, node) := b.document.create (.element ⟨space, tag.name, tag.attributes⟩)
  ({ b with document := document }, node)

def openIn (b : Builder) (space : Space) (tag : Tag) : Builder × Nat :=
  let place := b.place
  let (b, node) := b.createElement space tag
  ((b.putAt node place).mapOpen (⟨node, space, tag.name⟩ :: ·), node)

/-- An element of the page's own language comes next, which stays open. -/
def openElement (b : Builder) (tag : Tag) : Builder := (b.openIn .html tag).1

/-- An element of the page's own language comes next, which has no content. -/
def addElement (b : Builder) (tag : Tag) : Builder := (b.openElement tag).pop

def bareTag (name : String) : Tag := ⟨name, [], false⟩

/-- An element comes next whose tag was left out. -/
def openImplied (b : Builder) (name : String) : Builder := b.openElement (bareTag name)

def openRoot (b : Builder) (attributes : List Attribute) : Builder :=
  let (b, node) := b.createElement .html ⟨"html", attributes, false⟩
  { b with document := b.document.append Document.root node
           openElements := ⟨node, .html, "html"⟩ :: b.openElements }

/-- An element comes next whose text has a kind of its own. -/
def openText (b : Builder) (tag : Tag) (kind : TextKind) : Builder :=
  let b := b.openElement tag
  { b with returnMode := b.mode, mode := .text, textRequest := some kind }

def closeParagraph (b : Builder) : Builder :=
  b.mapOpen fun s =>
    (s.closeImpliedExcept "p").closeThrough (OpenElement.isNamed "p")

def closeParagraphInScope (b : Builder) : Builder :=
  if b.openElements.inScope OpenElement.isParagraphBoundary (OpenElement.isNamed "p") then
    b.closeParagraph
  else b

/-- The end tag of an element with a name reaches it. -/
def reaches (b : Builder) (name : String) : Bool :=
  b.openElements.inScope OpenElement.isBoundary (OpenElement.isNamed name)

def reachesInTable (b : Builder) (name : String) : Bool :=
  b.openElements.inScope OpenElement.isTableBoundary (OpenElement.isNamed name)

def reachesInChoice (b : Builder) (name : String) : Bool :=
  b.openElements.inScope OpenElement.isChoiceBoundary (OpenElement.isNamed name)

/-- The elements up to the first with a name end, and it ends too. -/
def closeNamed (b : Builder) (name : String) : Builder :=
  b.mapOpen (·.closeThrough (OpenElement.isNamed name))

/-- The elements up to the first with the property end. -/
def closeUntil (b : Builder) (wanted : OpenElement → Bool) : Builder :=
  b.mapOpen (·.closeUntil wanted)

/-- The elements that end without an end tag do so. -/
def closeImplied (b : Builder) : Builder := b.mapOpen OpenElements.closeImplied

def addMarker (b : Builder) : Builder := { b with formatting := .marker :: b.formatting }

/-- The formatting behind the latest marker ends, with the marker. -/
def clearToMarker (b : Builder) : Builder :=
  { b with formatting := (b.formatting.dropWhile (· ≠ .marker)).drop 1 }

/-- The mode that fits the open elements, of which `hasHead` tells whether the page's description
was read. The outermost element counts less than the others. -/
def modeFor (hasHead : Bool) (templateModes : List Mode) : OpenElements → Mode
  | [] => .body
  | e :: outer =>
    let last := outer.isEmpty
    if e.space ≠ .html then modeFor hasHead templateModes outer
    else
      match e.name with
      | "select" =>
        match outer.find? fun a => a.isOneOf ["template", "table"] with
        | some a => if a.isNamed "table" then .choiceInTable else .choice
        | none => .choice
      | "td" | "th" => if last then .body else .cell
      | "tr" => .row
      | "tbody" | "thead" | "tfoot" => .rowGroup
      | "caption" => .caption
      | "colgroup" => .columnGroup
      | "table" => .table
      | "template" => templateModes.head?.getD .template
      | "head" => if last then .body else .head
      | "body" => .body
      | "frameset" => .frameset
      | "html" => if hasHead then .afterHead else .beforeHead
      | _ => modeFor hasHead templateModes outer

def fittingMode (b : Builder) : Mode :=
  modeFor b.head.isSome b.templateModes b.openElements

/-- The mode becomes the one that fits the open elements. -/
def resetMode (b : Builder) : Builder := b.goTo b.fittingMode

/-- The body of the page while it is open. -/
def body? (b : Builder) : Option OpenElement :=
  b.openElements.reverse[1]?.filter (OpenElement.isNamed "body")

end Builder

inductive Outcome where
  | done (b : Builder)
  /-- The token is to be read in the mode that is set now. -/
  | again (b : Builder)

namespace Outcome

def builder : Outcome → Builder
  | done b | again b => b

def map (f : Builder → Builder) : Outcome → Outcome
  | done b => done (f b)
  | again b => again (f b)

end Outcome

end TorrentSearch.Markup
