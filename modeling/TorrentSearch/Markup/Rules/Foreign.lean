import TorrentSearch.Markup.Rules.Page

/-!
# Drawings and formulas

Parts of a page in another language have rules of their own, from which certain start tags break out.
The last part of this module reads a token to its end: by these rules or by those of the mode, as
often as it has to be read again.
-/

namespace TorrentSearch.Markup.Builder

/-- Start tags that end all parts in another language. -/
def breakoutNames : List String :=
  ["b", "big", "blockquote", "body", "br", "center", "code", "dd", "div", "dl", "dt", "em",
    "embed", "h1", "h2", "h3", "h4", "h5", "h6", "head", "hr", "i", "img", "li", "listing", "menu",
    "meta", "nobr", "ol", "p", "pre", "ruby", "s", "small", "span", "strong", "strike", "sub",
    "sup", "table", "tt", "u", "ul", "var"]

/-- The start tag ends all parts in another language. -/
def breaksOut (tag : Tag) : Bool :=
  breakoutNames.contains tag.name ||
    (tag.name = "font" &&
      tag.attributes.any fun a => ["color", "face", "size"].contains a.name)

/-- All parts in another language end, and the tag is read by the rules of the mode. -/
def breakOut (b : Builder) (t : Token) : Outcome :=
  (b.closeUntil fun e => e.space = .html || e.holdsFormulaText || e.holdsMarkup).inMode t

/-- What an end tag of a name closes within a part in another language. -/
inductive ForeignEnd where
  | nothing
  /-- All that is inside of these elements. -/
  | closes (rest : OpenElements)
  /-- The page's own language is reached first. -/
  | leaves
deriving DecidableEq

/-- What an end tag of a name closes among these elements, all of which surround the innermost
one. -/
def foreignEndAround (name : String) : OpenElements → ForeignEnd
  | [] => .nothing
  | [_] => .nothing
  | e :: outer :: rest =>
    if e.space = .html then .leaves
    else if e.name = name then .closes (outer :: rest)
    else foreignEndAround name (outer :: rest)

def foreignEnd (name : String) : OpenElements → ForeignEnd
  | [] => .nothing
  | [_] => .nothing
  | e :: outer :: rest =>
    if e.name = name then .closes (outer :: rest) else foreignEndAround name (outer :: rest)

def inForeign (b : Builder) (t : Token) : Outcome :=
  match t with
  | .char c =>
    if c = '\x00' then .done (b.putChar '\ufffd')
    else .done ((if isSpacing c then b else b.forbidFrameset).putChar c)
  | .comment | .doctype _ | .finish => .done b
  | .startTag tag =>
    if breaksOut tag then b.breakOut t
    else
      match b.openElements with
      | [] => .done b
      | e :: _ => .done (b.openForeign e.space tag)
  | .endTag tag =>
    if tag.name = "br" || tag.name = "p" then b.breakOut t
    else
      match foreignEnd tag.name b.openElements with
      | .nothing => .done b
      | .closes rest => .done { b with openElements := rest }
      | .leaves => b.inMode t

/-- The token is to be read by the rules for parts in another language. -/
def isForeign (b : Builder) (t : Token) : Bool :=
  match b.openElements with
  | [] => false
  | e :: _ =>
    if e.space = .html then false
    else
      match t with
      | .finish | .doctype _ => false
      | .char _ => !(e.holdsFormulaText || e.holdsMarkup)
      | .startTag tag =>
        if e.holdsFormulaText then tag.name = "mglyph" || tag.name = "malignmark"
        else if e.holdsMarkup then false
        else !(e.space = .math && e.name = "annotation-xml" && tag.name = "svg")
      | _ => true

/-- A token is read until it is used up, at most so many times. -/
def readUpTo : Nat → Builder → Token → Builder
  | 0, b, _ => b
  | fuel + 1, b, t =>
    match if b.isForeign t then b.inForeign t else b.inMode t with
    | .done b => b
    | .again b => readUpTo fuel b t

/-- A token is read at most this often: once for each element that it ends, and a few times more
while the page begins or ends. -/
def maxReadings (b : Builder) : Nat := 2 * b.openElements.length + 40

def read (b : Builder) (t : Token) : Builder :=
  let skip := b.skipLineBreak && t = .char '\n'
  let b := { b with skipLineBreak := false }
  if skip then b else readUpTo b.maxReadings b t

end TorrentSearch.Markup.Builder
