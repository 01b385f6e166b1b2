import TorrentSearch.Markup.Lexer
import TorrentSearch.Markup.Rules.Foreign

/-!
# Reading pages

From the text of a page to its document: characters become tokens, and tokens build the document,
which in turn decides how the next characters are read.
-/

namespace TorrentSearch.Markup

structure Reader where
  lexer : State
  /-- The name of the latest start tag. -/
  lastStart : List Char
  builder : Builder
  /-- The latest character was a carriage return. -/
  afterReturn : Bool

namespace Reader

def start : Reader := ⟨.text .data, [], .empty, false⟩

def takeToken : Reader → Token → Reader
  | ⟨lexer, lastStart, builder, afterReturn⟩, t =>
    let lastStart :=
      match t with
      | .startTag tag => tag.name.toList
      | _ => lastStart
    let builder := builder.read t
    match builder.textRequest with
    | none => ⟨lexer, lastStart, builder, afterReturn⟩
    | some kind => ⟨.text kind, lastStart, { builder with textRequest := none }, afterReturn⟩

/-- The page is read inside a part in another language. -/
def isForeign (r : Reader) : Bool :=
  r.builder.openElements.currentIs fun e => e.space ≠ .html

/-- A character of the page, with line breaks already unified. -/
def takeChar (r : Reader) (c : Char) : Reader :=
  let (tokens, next) := Lexer.feed r.isForeign r.lastStart Lexer.maxRetries r.lexer c
  tokens.foldl takeToken { r with lexer := next }

/-- A character of the page. A carriage return, also one with a line feed behind it, counts as a line
feed. -/
def take (r : Reader) (c : Char) : Reader :=
  if c = '\n' && r.afterReturn then { r with afterReturn := false }
  else if c = '\r' then { r with afterReturn := true }.takeChar '\n'
  else { r with afterReturn := false }.takeChar c

def finish (r : Reader) : Document :=
  ((Lexer.finish r.lexer ++ [Token.finish]).foldl takeToken r).builder.document

end Reader

/-- The text without a byte order mark in front. -/
def withoutMark : List Char → List Char
  | [] => []
  | c :: rest => if c = '\ufeff' then rest else c :: rest

def Document.ofText (page : String) : Document :=
  ((withoutMark page.toList).foldl Reader.take Reader.start).finish

end TorrentSearch.Markup
