import TorrentSearch.Markup.Formatting
import TorrentSearch.Markup.Rules.Head

/-!
# The body of a page

What stands in the body of a page, wherever no narrower rules apply.
-/

namespace TorrentSearch.Markup

/-- How a start tag in the body is read. -/
inductive BodyStart where
  | html
  | head
  | body
  | frameset
  | block
  | heading
  /-- A block of text as it is written. -/
  | listing
  | form
  | item
  | definition
  | plaintext
  | button
  | link
  | formatting
  | unbroken
  | embedded
  | table
  /-- An element without content within a line. -/
  | void
  /-- An element without content that is not shown. -/
  | parameter
  | line
  | image
  | textarea
  /-- Text as it is written that ends a paragraph. -/
  | example
  | frame
  /-- An element whose text is not shown. -/
  | rawText
  | choice
  | option
  | annotationBase
  | annotationText
  | math
  | svg
  /-- A part of something that is not open. -/
  | misplaced
  | other
deriving DecidableEq, Repr

/-- The rule for the start tag of a name. -/
def BodyStart.ofName : String → BodyStart :=
  byName
    [(["html"], .html),
      (["base", "basefont", "bgsound", "link", "meta", "noframes", "script", "style", "template",
        "title"], .head),
      (["body"], .body), (["frameset"], .frameset),
      (["address", "article", "aside", "blockquote", "center", "details", "dialog", "dir", "div",
        "dl", "fieldset", "figcaption", "figure", "footer", "header", "hgroup", "main", "menu",
        "nav", "ol", "p", "section", "summary", "ul"], .block),
      (["h1", "h2", "h3", "h4", "h5", "h6"], .heading), (["pre", "listing"], .listing),
      (["form"], .form), (["li"], .item), (["dd", "dt"], .definition), (["plaintext"], .plaintext),
      (["button"], .button), (["a"], .link),
      (["b", "big", "code", "em", "font", "i", "s", "small", "strike", "strong", "tt", "u"],
        .formatting),
      (["nobr"], .unbroken), (["applet", "marquee", "object"], .embedded), (["table"], .table),
      (["area", "br", "embed", "img", "keygen", "wbr", "input"], .void),
      (["param", "source", "track"], .parameter), (["hr"], .line), (["image"], .image),
      (["textarea"], .textarea), (["xmp"], .example), (["iframe"], .frame),
      (["noembed", "noscript"], .rawText), (["select"], .choice),
      (["optgroup", "option"], .option), (["rb", "rtc"], .annotationBase),
      (["rp", "rt"], .annotationText), (["math"], .math), (["svg"], .svg),
      (["caption", "col", "colgroup", "frame", "head", "tbody", "td", "tfoot", "th", "thead",
        "tr"], .misplaced)]
    .other

/-- How an end tag in the body is read. -/
inductive BodyEnd where
  | template
  | body
  | html
  | block
  | form
  | paragraph
  | item
  | definition
  | heading
  | formatting
  | embedded
  | lineBreak
  | other
deriving DecidableEq, Repr

/-- The rule for the end tag of a name. -/
def BodyEnd.ofName : String → BodyEnd :=
  byName
    [(["template"], .template), (["body"], .body), (["html"], .html),
      (["address", "article", "aside", "blockquote", "button", "center", "details", "dialog",
        "dir", "div", "dl", "fieldset", "figcaption", "figure", "footer", "header", "hgroup",
        "listing", "main", "menu", "nav", "ol", "pre", "section", "summary", "ul"], .block),
      (["form"], .form), (["p"], .paragraph), (["li"], .item), (["dd", "dt"], .definition),
      (["h1", "h2", "h3", "h4", "h5", "h6"], .heading),
      (["a", "b", "big", "code", "em", "font", "i", "nobr", "s", "small", "strike", "strong",
        "tt", "u"], .formatting),
      (["applet", "marquee", "object"], .embedded), (["br"], .lineBreak)]
    .other

namespace Builder

/-- The tag is for an input that is not shown. -/
def isHiddenInput (tag : Tag) : Bool :=
  tag.name = "input" && (tag.attribute? "type").any fun v => v.toLower = "hidden"

/-- The item that the next item ends: the innermost one with a name, unless a special element other
than a simple block is in between. -/
def endedItem? (b : Builder) (names : List String) : Option OpenElement :=
  (b.openElements.find? fun e =>
    e.isOneOf names || (e.isSpecial && !e.isOneOf ["address", "div", "p"])).filter
      (·.isOneOf names)

def openItem (b : Builder) (names : List String) (tag : Tag) : Builder :=
  let b := b.forbidFrameset
  let b :=
    match b.endedItem? names with
    | some e =>
      b.mapOpen fun s => (s.closeImpliedExcept e.name).closeThrough (OpenElement.isNamed e.name)
    | none => b
  b.closeParagraphInScope.openElement tag

/-- An element without content comes next within a line. -/
def addVoid (b : Builder) (tag : Tag) : Builder :=
  let b := b.reopenFormatting.addElement tag
  if isHiddenInput tag then b else b.forbidFrameset

def openForeign (b : Builder) (space : Space) (tag : Tag) : Builder :=
  let b := (b.openIn space tag).1
  if tag.selfClosing then b.pop else b

def openChoice (b : Builder) (tag : Tag) : Builder :=
  let b := (b.reopenFormatting.openElement tag).forbidFrameset
  if [Mode.table, .caption, .rowGroup, .row, .cell].contains b.mode then b.goTo .choiceInTable
  else b.goTo .choice

/-- A frameset takes the place of a body in which nothing is shown. -/
def replaceBody (b : Builder) (tag : Tag) : Builder :=
  match b.body? with
  | some body =>
    if b.framesetAllowed then
      let outermost := b.openElements.drop (b.openElements.length - 1)
      let b := { b with document := b.document.detach body.node, openElements := outermost }
      (b.openElement tag).goTo .frameset
    else b
  | none => b

def extendBody (b : Builder) (tag : Tag) : Builder :=
  match b.body? with
  | some body =>
    if b.hasOpen "template" then b
    else { b.forbidFrameset with document := b.document.addAttributes body.node tag.attributes }
  | none => b

def openForm (b : Builder) (tag : Tag) : Builder :=
  let inTemplate := b.hasOpen "template"
  if b.form.isSome && !inTemplate then b
  else
    let (b, node) := b.closeParagraphInScope.openIn .html tag
    if inTemplate then b else { b with form := some node }

def closeForm (b : Builder) : Builder :=
  if b.hasOpen "template" then
    if b.reaches "form" then b.closeImplied.closeNamed "form" else b
  else
    match b.form with
    | none => b
    | some node =>
      let b := { b with form := none }
      if b.openElements.inScope OpenElement.isBoundary (·.node = node) then
        b.closeImplied.mapOpen (·.without node)
      else b

def startInBody (b : Builder) (tag : Tag) : Outcome :=
  match BodyStart.ofName tag.name with
  | .html => .done (b.extendRoot tag)
  | .head => b.startInHead tag
  | .body => .done (b.extendBody tag)
  | .frameset => .done (b.replaceBody tag)
  | .block => .done (b.closeParagraphInScope.openElement tag)
  | .heading =>
    let b := b.closeParagraphInScope
    let b := if b.openElements.currentIs OpenElement.isHeading then b.pop else b
    .done (b.openElement tag)
  | .listing =>
    let b := (b.closeParagraphInScope.openElement tag).forbidFrameset
    .done { b with skipLineBreak := true }
  | .form => .done (b.openForm tag)
  | .item => .done (b.openItem ["li"] tag)
  | .definition => .done (b.openItem ["dd", "dt"] tag)
  | .plaintext =>
    .done { b.closeParagraphInScope.openElement tag with textRequest := some .plain }
  | .button =>
    let b := if b.reaches "button" then b.closeImplied.closeNamed "button" else b
    .done (b.reopenFormatting.openElement tag).forbidFrameset
  | .link => .done (b.closeLink.reopenFormatting.openFormatting tag)
  | .formatting => .done (b.reopenFormatting.openFormatting tag)
  | .unbroken =>
    let b := b.reopenFormatting
    let b := if b.reaches "nobr" then (b.closeFormatting "nobr").reopenFormatting else b
    .done (b.openFormatting tag)
  | .embedded => .done (b.reopenFormatting.openElement tag).addMarker.forbidFrameset
  | .table =>
    let b := if b.tablesInParagraphs then b else b.closeParagraphInScope
    .done ((b.openElement tag).forbidFrameset.goTo .table)
  | .void => .done (b.addVoid tag)
  | .parameter => .done (b.addElement tag)
  | .line => .done (b.closeParagraphInScope.addElement tag).forbidFrameset
  | .image => .done (b.addVoid { tag with name := "img" })
  | .textarea =>
    .done ({ b with skipLineBreak := true }.forbidFrameset.openText tag .references)
  | .example => .done (b.closeParagraphInScope.reopenFormatting.forbidFrameset.openText tag .raw)
  | .frame => .done (b.forbidFrameset.openText tag .raw)
  | .rawText => .done (b.openText tag .raw)
  | .choice => .done (b.openChoice tag)
  | .option =>
    let b := if b.currentIsNamed "option" then b.pop else b
    .done (b.reopenFormatting.openElement tag)
  | .annotationBase =>
    let b := if b.reaches "ruby" then b.closeImplied else b
    .done (b.openElement tag)
  | .annotationText =>
    let b := if b.reaches "ruby" then b.mapOpen (·.closeImpliedExcept "rtc") else b
    .done (b.openElement tag)
  | .math => .done (b.reopenFormatting.openForeign .math tag)
  | .svg => .done (b.reopenFormatting.openForeign .svg tag)
  | .misplaced => .done b
  | .other => .done (b.reopenFormatting.openElement tag)

def endInBody (b : Builder) (name : String) : Outcome :=
  match BodyEnd.ofName name with
  | .template => .done b.closeTemplate
  | .body => if b.reaches "body" then .done (b.goTo .afterBody) else .done b
  | .html => if b.reaches "body" then .again (b.goTo .afterBody) else .done b
  | .block => if b.reaches name then .done (b.closeImplied.closeNamed name) else .done b
  | .form => .done b.closeForm
  | .paragraph =>
    let inReach :=
      b.openElements.inScope OpenElement.isParagraphBoundary (OpenElement.isNamed "p")
    .done (if inReach then b else b.openImplied "p").closeParagraph
  | .item =>
    if b.openElements.inScope OpenElement.isItemBoundary (OpenElement.isNamed name) then
      .done ((b.mapOpen (·.closeImpliedExcept name)).closeNamed name)
    else .done b
  | .definition =>
    if b.reaches name then .done ((b.mapOpen (·.closeImpliedExcept name)).closeNamed name)
    else .done b
  | .heading =>
    if b.openElements.inScope OpenElement.isBoundary OpenElement.isHeading then
      .done (b.closeImplied.mapOpen (·.closeThrough OpenElement.isHeading))
    else .done b
  | .formatting => .done (b.closeFormatting name)
  | .embedded =>
    if b.reaches name then .done (b.closeImplied.closeNamed name).clearToMarker else .done b
  | .lineBreak => .done (b.addVoid (bareTag "br"))
  | .other => .done (b.closeOther name)

def charInBody (b : Builder) (c : Char) : Builder :=
  if c = '\x00' then b
  else
    let b := b.reopenFormatting
    (if isSpacing c then b else b.forbidFrameset).putChar c

/-- The end of the page inside a template ends the template first. -/
def finishTemplate (b : Builder) : Outcome :=
  if b.hasOpen "template" then
    let b := (b.closeNamed "template").clearToMarker
    .again { b with templateModes := b.templateModes.drop 1 }.resetMode
  else .done b

def inBody (b : Builder) : Token → Outcome
  | .char c => .done (b.charInBody c)
  | .comment | .doctype _ => .done b
  | .startTag tag => b.startInBody tag
  | .endTag tag => b.endInBody tag.name
  | .finish => if b.templateModes.isEmpty then .done b else b.finishTemplate

end Builder

end TorrentSearch.Markup
