import TorrentSearch.Markup.Rules.Choice
import TorrentSearch.Markup.Rules.Table

/-!
# The outer parts of a page

What stands in front of the body and behind it, templates and framesets, and the choice of the rules
for a token.
-/

namespace TorrentSearch.Markup.Builder

/-- Beginnings of public identifiers of old types of pages, in lower case. -/
def oldPublicLeads : List String :=
  ["-//ietf//dtd html 2.0", "-//ietf//dtd html 2.1e//", "-//ietf//dtd html 3.0//",
    "-//ietf//dtd html 3.2 final//", "-//ietf//dtd html 3.2//", "-//ietf//dtd html 3//",
    "-//ietf//dtd html level 0//", "-//ietf//dtd html level 1//", "-//ietf//dtd html level 2//",
    "-//ietf//dtd html level 3//", "-//ietf//dtd html strict", "-//ietf//dtd html//",
    "-//w3c//dtd html 3 1995-03-24//", "-//w3c//dtd html 3.2 draft//",
    "-//w3c//dtd html 3.2 final//", "-//w3c//dtd html 3.2//", "-//w3c//dtd html 3.2s draft//",
    "-//w3c//dtd html 4.0 frameset//", "-//w3c//dtd html 4.0 transitional//",
    "-//w3c//dtd html experimental 19960712//", "-//w3c//dtd html experimental 970421//",
    "-//w3c//dtd w3 html//", "-//w3o//dtd w3 html 3.0//"]

/-- Public identifiers of old types of pages, in lower case. -/
def oldPublicIds : List String :=
  ["-//w3o//dtd w3 html strict 3.0//en//", "-/w3c/dtd html 4.0 transitional/en", "html"]

/-- Beginnings of public identifiers that stand for an old type when no system identifier follows. -/
def incompletePublicLeads : List String :=
  ["-//w3c//dtd html 4.01 frameset//", "-//w3c//dtd html 4.01 transitional//"]

def startsWithOneOf (leads : List String) (s : String) : Bool :=
  leads.any fun lead => lead.toList.isPrefixOf s.toList

/-- The declared type of the page is an old one, or no known one. -/
def isOldType (d : Doctype) : Bool :=
  let publicId := d.publicId.map String.toLower
  d.broken || d.name ≠ some "html" ||
    publicId.any (fun p => oldPublicIds.contains p || startsWithOneOf oldPublicLeads p ||
      (d.systemId.isNone && startsWithOneOf incompletePublicLeads p))

def atStart (b : Builder) : Token → Outcome
  | .char c =>
    if isSpacing c then .done b
    else .again { b with tablesInParagraphs := true, mode := .beforeHtml }
  | .comment => .done b
  | .doctype d => .done { b with tablesInParagraphs := isOldType d, mode := .beforeHtml }
  | _ => .again { b with tablesInParagraphs := true, mode := .beforeHtml }

/-- An end tag that means nothing in front of the body. -/
def isStrayEnd (t : Token) : Bool :=
  match t with
  | .endTag tag => tag.name ≠ "head" && !endsPart tag.name
  | _ => false

/-- The page begins without a tag of its own. -/
def impliedPage (b : Builder) : Outcome := .again ((b.openRoot []).goTo .beforeHead)

/-- A token in front of the element of the whole page. -/
def beforeHtml (b : Builder) (t : Token) : Outcome :=
  match t with
  | .comment | .doctype _ => .done b
  | .char c => if isSpacing c then .done b else b.impliedPage
  | .startTag tag =>
    if tag.name = "html" then .done ((b.openRoot tag.attributes).goTo .beforeHead)
    else b.impliedPage
  | _ => if isStrayEnd t then .done b else b.impliedPage

def openHead (b : Builder) (tag : Tag) : Builder :=
  let (b, node) := b.openIn .html tag
  { b with head := some node, mode := .head }

def beforeHead (b : Builder) (t : Token) : Outcome :=
  match t with
  | .comment | .doctype _ => .done b
  | .char c => if isSpacing c then .done b else .again (b.openHead (bareTag "head"))
  | .startTag tag =>
    if tag.name = "html" then .done (b.extendRoot tag)
    else if tag.name = "head" then .done (b.openHead tag)
    else .again (b.openHead (bareTag "head"))
  | _ => if isStrayEnd t then .done b else .again (b.openHead (bareTag "head"))

/-- A token that belongs into the head, which is open once more for it. -/
def reopenHead (b : Builder) (tag : Tag) : Outcome :=
  match b.head with
  | none => .done b
  | some node =>
    ((b.mapOpen (⟨node, .html, "head"⟩ :: ·)).startInHead tag).map fun b =>
      b.mapOpen (·.without node)

/-- The body begins without a tag of its own. -/
def impliedBody (b : Builder) : Outcome := .again ((b.openImplied "body").goTo .body)

def afterHead (b : Builder) (t : Token) : Outcome :=
  match t with
  | .comment | .doctype _ => .done b
  | .char c => if isSpacing c then .done (b.putChar c) else b.impliedBody
  | .startTag tag =>
    match BodyStart.ofName tag.name with
    | .html => .done (b.extendRoot tag)
    | .body => .done ((b.openElement tag).forbidFrameset.goTo .body)
    | .frameset => .done ((b.openElement tag).goTo .frameset)
    | .head => b.reopenHead tag
    | _ => if tag.name = "head" then .done b else b.impliedBody
  | .endTag tag =>
    if tag.name = "template" then .done b.closeTemplate
    else if endsPart tag.name then b.impliedBody
    else .done b
  | .finish => b.impliedBody

def inText (b : Builder) : Token → Outcome
  | .char c => .done (b.putChar c)
  | .endTag _ => .done (b.pop.goTo b.returnMode)
  | .finish => .again (b.pop.goTo b.returnMode)
  | _ => .done b

/-- The innermost template turns out to hold something that has its own mode. -/
def specialize (b : Builder) (mode : Mode) : Outcome :=
  .again { b with mode := mode, templateModes := mode :: b.templateModes.drop 1 }

def inTemplate (b : Builder) (t : Token) : Outcome :=
  match t with
  | .char _ => b.inBody t
  | .comment | .doctype _ => .done b
  | .startTag tag =>
    match BodyStart.ofName tag.name with
    | .head => b.startInHead tag
    | _ =>
      match tag.name with
      | "caption" | "colgroup" | "tbody" | "tfoot" | "thead" => b.specialize .table
      | "col" => b.specialize .columnGroup
      | "tr" => b.specialize .rowGroup
      | "td" | "th" => b.specialize .row
      | _ => b.specialize .body
  | .endTag tag => .done (if tag.name = "template" then b.closeTemplate else b)
  | .finish => b.finishTemplate

def resumeBody (b : Builder) : Outcome := .again (b.goTo .body)

def afterBody (b : Builder) (t : Token) : Outcome :=
  match t with
  | .comment | .doctype _ | .finish => .done b
  | .char c => if isSpacing c then b.inBody t else b.resumeBody
  | .startTag tag => if tag.name = "html" then .done (b.extendRoot tag) else b.resumeBody
  | .endTag tag => if tag.name = "html" then .done (b.goTo .afterAfterBody) else b.resumeBody

def afterAfterBody (b : Builder) (t : Token) : Outcome :=
  match t with
  | .comment | .doctype _ | .finish => .done b
  | .char c => if isSpacing c then b.inBody t else b.resumeBody
  | .startTag tag => if tag.name = "html" then .done (b.extendRoot tag) else b.resumeBody
  | .endTag _ => b.resumeBody

def inFrameset (b : Builder) (t : Token) : Outcome :=
  match t with
  | .char c => .done (if isSpacing c then b.putChar c else b)
  | .startTag tag =>
    match tag.name with
    | "html" => .done (b.extendRoot tag)
    | "frameset" => .done (b.openElement tag)
    | "frame" => .done (b.addElement tag)
    | "noframes" => b.startInHead tag
    | _ => .done b
  | .endTag tag =>
    if tag.name = "frameset" && b.openElements.length ≠ 1 then
      let b := b.pop
      .done (if b.currentIsNamed "frameset" then b else b.goTo .afterFrameset)
    else .done b
  | _ => .done b

def afterFrameset (b : Builder) (t : Token) : Outcome :=
  match t with
  | .char c => .done (if isSpacing c then b.putChar c else b)
  | .startTag tag =>
    if tag.name = "html" then .done (b.extendRoot tag)
    else if tag.name = "noframes" then b.startInHead tag
    else .done b
  | .endTag tag => .done (if tag.name = "html" then b.goTo .afterAfterFrameset else b)
  | _ => .done b

def afterAfterFrameset (b : Builder) (t : Token) : Outcome :=
  match t with
  | .char c => if isSpacing c then b.inBody t else .done b
  | .startTag tag =>
    if tag.name = "html" then .done (b.extendRoot tag)
    else if tag.name = "noframes" then b.startInHead tag
    else .done b
  | _ => .done b

/-- A token is read by the rules of the mode. -/
def inMode (b : Builder) (t : Token) : Outcome :=
  match b.mode with
  | .start => b.atStart t
  | .beforeHtml => b.beforeHtml t
  | .beforeHead => b.beforeHead t
  | .head => b.inHead t
  | .afterHead => b.afterHead t
  | .body => b.inBody t
  | .text => b.inText t
  | .table => b.inTable t
  | .tableText => b.inTableText t
  | .caption => b.inCaption t
  | .columnGroup => b.inColumnGroup t
  | .rowGroup => b.inRowGroup t
  | .row => b.inRow t
  | .cell => b.inCell t
  | .choice => b.inChoice t
  | .choiceInTable => b.inChoiceInTable t
  | .template => b.inTemplate t
  | .afterBody => b.afterBody t
  | .frameset => b.inFrameset t
  | .afterFrameset => b.afterFrameset t
  | .afterAfterBody => b.afterAfterBody t
  | .afterAfterFrameset => b.afterAfterFrameset t

end TorrentSearch.Markup.Builder
