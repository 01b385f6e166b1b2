import TorrentSearch.Markup.EntityTable
import TorrentSearch.Markup.Token
import TorrentSearch.Text.SingleByte

/-!
# From text to tokens

A state machine that takes a page's text character by character. Each step gives the tokens that are
complete then, the next state, and whether that state still has to see the same character.
-/

namespace TorrentSearch.Markup

/-- A tag that is being read, all its texts in reverse. -/
structure TagDraft where
  isEnd : Bool
  name : List Char
  attributes : List Attribute
  attributeName : List Char
  attributeValue : List Char
  selfClosing : Bool

/-- Within a tag: what is expected or being read. -/
inductive TagState where
  | name
  | beforeAttribute
  | attributeName
  | afterAttributeName
  | beforeValue
  | doubleQuoted
  | singleQuoted
  | unquoted
  | afterQuoted
  | selfClosing
deriving DecidableEq

/-- Within a comment: how much of a possible end was read. -/
inductive CommentState where
  | start
  | startDash
  | body
  | less
  | lessBang
  | lessBangDash
  | lessBangDashDash
  | dash
  | dashDash
  | bang
  | bogus
deriving DecidableEq

/-- A document type that is being read, all its texts in reverse. -/
structure DoctypeDraft where
  name : Option (List Char)
  publicId : Option (List Char)
  systemId : Option (List Char)
  broken : Bool

/-- Within a document type: what is expected or being read. -/
inductive DoctypeState where
  | start
  | beforeName
  | name
  /-- Behind the name, with the letters of a keyword in reverse. -/
  | afterName (keyword : List Char)
  | afterPublicKeyword
  | beforePublicId
  | publicId (quote : Char)
  | afterPublicId
  | betweenIds
  | afterSystemKeyword
  | beforeSystemId
  | systemId (quote : Char)
  | afterSystemId
  | bogus

/-- Within a script: how much of an escaped part's begin or end was read. -/
inductive ScriptState where
  | escapeStart
  | escapeStartDash
  | escaped
  | escapedDash
  | escapedDashDash
  | escapedLess
  | escapedEndTagOpen
  | escapedEndTagName (buffer : List Char)
  | doubleEscapeStart (buffer : List Char)
  | doubleEscaped
  | doubleEscapedDash
  | doubleEscapedDashDash
  | doubleEscapedLess
  | doubleEscapeEnd (buffer : List Char)

inductive Site where
  | text (kind : TextKind)
  | value (state : TagState) (draft : TagDraft)

/-- How much of a character reference was read. -/
inductive ReferenceState where
  | ampersand
  /-- Letters and digits of a name, in reverse. -/
  | name (letters : List Char)
  | hash
  /-- Behind the letter of a hexadecimal number. -/
  | hexStart (letter : Char)
  | hex (n : Nat)
  | decimal (n : Nat)

/-- What was read of the current piece of text. -/
inductive State where
  | text (kind : TextKind)
  | less (kind : TextKind)
  | lessSlash (kind : TextKind)
  /-- The name of an end tag in raw text, in reverse. -/
  | rawEndName (kind : TextKind) (buffer : List Char)
  | tag (state : TagState) (draft : TagDraft)
  /-- Behind `<!`, with what followed in reverse. -/
  | declaration (buffer : List Char)
  | comment (state : CommentState)
  | doctype (state : DoctypeState) (draft : DoctypeDraft)
  /-- In a section of characters, behind so many closing brackets. -/
  | section (brackets : Nat)
  | script (state : ScriptState)
  | reference (site : Site) (state : ReferenceState)

structure Step where
  tokens : List Token
  next : State
  /-- The next state still has to see the character. -/
  again : Bool

namespace Step

def goTo (next : State) : Step := ⟨[], next, false⟩

def emit (tokens : List Token) (next : State) : Step := ⟨tokens, next, false⟩

/-- Some tokens are complete, and the character belongs to what comes next. -/
def retry (tokens : List Token) (next : State) : Step := ⟨tokens, next, true⟩

end Step

open Step

def isMarkupBlank (c : Char) : Bool :=
  c = '\t' || c = '\n' || c = '\x0c' || c = ' '

def replacement : Char := '\ufffd'

def shown (c : Char) : Char :=
  if c = '\x00' then replacement else c

def charTokens (s : List Char) : List Token :=
  s.map Token.char

namespace TagDraft

def empty (isEnd : Bool) : TagDraft := ⟨isEnd, [], [], [], [], false⟩

/-- The draft with its current attribute complete. Of several attributes of one name the first
counts. -/
def closeAttribute (d : TagDraft) : TagDraft :=
  if d.attributeName.isEmpty then d
  else
    let name := String.ofList d.attributeName.reverse
    let attributes :=
      if d.attributes.any fun a => a.name = name then d.attributes
      else ⟨name, String.ofList d.attributeValue.reverse⟩ :: d.attributes
    { d with attributes := attributes, attributeName := [], attributeValue := [] }

def token (d : TagDraft) : Token :=
  let d := d.closeAttribute
  let tag : Tag := ⟨String.ofList d.name.reverse, d.attributes.reverse, d.selfClosing⟩
  if d.isEnd then .endTag tag else .startTag tag

/-- The draft with a character more in its name. -/
def pushName (d : TagDraft) (c : Char) : TagDraft :=
  { d with name := (shown c).toLower :: d.name }

/-- The draft with a character more in the name of its attribute. -/
def pushAttributeName (d : TagDraft) (c : Char) : TagDraft :=
  { d with attributeName := (shown c).toLower :: d.attributeName }

/-- The draft with characters more in the value of its attribute. -/
def pushValue (d : TagDraft) (s : List Char) : TagDraft :=
  { d with attributeValue := s.reverse ++ d.attributeValue }

end TagDraft

namespace DoctypeDraft

/-- A document type of which nothing was read yet. -/
def empty : DoctypeDraft := ⟨none, none, none, false⟩

def markBroken (d : DoctypeDraft) : DoctypeDraft := { d with broken := true }

def token (d : DoctypeDraft) : Token :=
  let text (s : Option (List Char)) : Option String := s.map fun s => String.ofList s.reverse
  .doctype ⟨text d.name, text d.publicId, text d.systemId, d.broken⟩

end DoctypeDraft

namespace Lexer

def data : State := .text .data

def textStep (kind : TextKind) (c : Char) : Step :=
  match kind with
  | .data =>
    if c = '<' then goTo (.less .data)
    else if c = '&' then goTo (.reference (.text .data) .ampersand)
    else emit [.char c] data
  | .references =>
    if c = '<' then goTo (.less .references)
    else if c = '&' then goTo (.reference (.text .references) .ampersand)
    else emit [.char (shown c)] (.text .references)
  | .raw => if c = '<' then goTo (.less .raw) else emit [.char (shown c)] (.text .raw)
  | .script => if c = '<' then goTo (.less .script) else emit [.char (shown c)] (.text .script)
  | .plain => emit [.char (shown c)] (.text .plain)

def lessStep (kind : TextKind) (c : Char) : Step :=
  match kind with
  | .data =>
    if c = '!' then goTo (.declaration [])
    else if c = '/' then goTo (.lessSlash .data)
    else if c.isAlpha then retry [] (.tag .name (.empty false))
    else if c = '?' then goTo (.comment .bogus)
    else retry [.char '<'] data
  | .script =>
    if c = '/' then goTo (.lessSlash .script)
    else if c = '!' then emit (charTokens ['<', '!']) (.script .escapeStart)
    else retry [.char '<'] (.text .script)
  | kind => if c = '/' then goTo (.lessSlash kind) else retry [.char '<'] (.text kind)

def lessSlashStep (kind : TextKind) (c : Char) : Step :=
  match kind with
  | .data =>
    if c.isAlpha then retry [] (.tag .name (.empty true))
    else if c = '>' then goTo data
    else retry [] (.comment .bogus)
  | kind =>
    if c.isAlpha then retry [] (.rawEndName kind [])
    else retry (charTokens ['<', '/']) (.text kind)

/-- What follows the complete name of an end tag in raw text, if the name is that of the element. -/
def afterRawEndName? (lastStart : List Char) (buffer : List Char) (c : Char) : Option Step :=
  let name := buffer.map Char.toLower
  if name.reverse = lastStart then
    let draft : TagDraft := { TagDraft.empty true with name := name }
    if isMarkupBlank c then some (goTo (.tag .beforeAttribute draft))
    else if c = '/' then some (goTo (.tag .selfClosing draft))
    else if c = '>' then some (emit [draft.token] data)
    else none
  else none

/-- A step in the name of an end tag in raw text. -/
def rawEndNameStep (lastStart : List Char) (kind : TextKind) (buffer : List Char) (c : Char) :
    Step :=
  if c.isAlpha then goTo (.rawEndName kind (c :: buffer))
  else
    match afterRawEndName? lastStart buffer c with
    | some step => step
    | none => retry (charTokens ('<' :: '/' :: buffer.reverse)) (.text kind)

def tagStep (state : TagState) (d : TagDraft) (c : Char) : Step :=
  match state with
  | .name =>
    if isMarkupBlank c then goTo (.tag .beforeAttribute d)
    else if c = '/' then goTo (.tag .selfClosing d)
    else if c = '>' then emit [d.token] data
    else goTo (.tag .name (d.pushName c))
  | .beforeAttribute =>
    if isMarkupBlank c then goTo (.tag .beforeAttribute d)
    else if c = '/' || c = '>' then retry [] (.tag .afterAttributeName d)
    else if c = '=' then goTo (.tag .attributeName (d.closeAttribute.pushAttributeName c))
    else retry [] (.tag .attributeName d.closeAttribute)
  | .attributeName =>
    if isMarkupBlank c || c = '/' || c = '>' then retry [] (.tag .afterAttributeName d)
    else if c = '=' then goTo (.tag .beforeValue d)
    else goTo (.tag .attributeName (d.pushAttributeName c))
  | .afterAttributeName =>
    if isMarkupBlank c then goTo (.tag .afterAttributeName d)
    else if c = '/' then goTo (.tag .selfClosing d)
    else if c = '=' then goTo (.tag .beforeValue d)
    else if c = '>' then emit [d.token] data
    else retry [] (.tag .attributeName d.closeAttribute)
  | .beforeValue =>
    if isMarkupBlank c then goTo (.tag .beforeValue d)
    else if c = '"' then goTo (.tag .doubleQuoted d)
    else if c = '\'' then goTo (.tag .singleQuoted d)
    else if c = '>' then emit [d.token] data
    else retry [] (.tag .unquoted d)
  | .doubleQuoted =>
    if c = '"' then goTo (.tag .afterQuoted d)
    else if c = '&' then goTo (.reference (.value .doubleQuoted d) .ampersand)
    else goTo (.tag .doubleQuoted (d.pushValue [shown c]))
  | .singleQuoted =>
    if c = '\'' then goTo (.tag .afterQuoted d)
    else if c = '&' then goTo (.reference (.value .singleQuoted d) .ampersand)
    else goTo (.tag .singleQuoted (d.pushValue [shown c]))
  | .unquoted =>
    if isMarkupBlank c then goTo (.tag .beforeAttribute d)
    else if c = '&' then goTo (.reference (.value .unquoted d) .ampersand)
    else if c = '>' then emit [d.token] data
    else goTo (.tag .unquoted (d.pushValue [shown c]))
  | .afterQuoted =>
    if isMarkupBlank c then goTo (.tag .beforeAttribute d)
    else if c = '/' then goTo (.tag .selfClosing d)
    else if c = '>' then emit [d.token] data
    else retry [] (.tag .beforeAttribute d)
  | .selfClosing =>
    if c = '>' then emit [{ d with selfClosing := true }.token] data
    else retry [] (.tag .beforeAttribute d)

/-- A step behind `<!`. Sections of characters are known in foreign elements only. -/
def declarationStep (foreign : Bool) (buffer : List Char) (c : Char) : Step :=
  let read := (c :: buffer).reverse
  let lowered := read.map Char.toLower
  if read = "--".toList then goTo (.comment .start)
  else if lowered = "doctype".toList then goTo (.doctype .start .empty)
  else if read = "[CDATA[".toList then goTo (if foreign then .section 0 else .comment .bogus)
  else if read.isPrefixOf "--".toList || lowered.isPrefixOf "doctype".toList ||
      read.isPrefixOf "[CDATA[".toList then
    goTo (.declaration (c :: buffer))
  else retry [] (.comment .bogus)

def commentStep (state : CommentState) (c : Char) : Step :=
  let body : State := .comment .body
  match state with
  | .start =>
    if c = '-' then goTo (.comment .startDash)
    else if c = '>' then emit [.comment] data
    else retry [] body
  | .startDash =>
    if c = '-' then goTo (.comment .dashDash)
    else if c = '>' then emit [.comment] data
    else retry [] body
  | .body =>
    if c = '<' then goTo (.comment .less)
    else if c = '-' then goTo (.comment .dash)
    else goTo body
  | .less =>
    if c = '!' then goTo (.comment .lessBang)
    else if c = '<' then goTo (.comment .less)
    else retry [] body
  | .lessBang => if c = '-' then goTo (.comment .lessBangDash) else retry [] body
  | .lessBangDash =>
    if c = '-' then goTo (.comment .lessBangDashDash) else retry [] (.comment .dash)
  | .lessBangDashDash => retry [] (.comment .dashDash)
  | .dash => if c = '-' then goTo (.comment .dashDash) else retry [] body
  | .dashDash =>
    if c = '>' then emit [.comment] data
    else if c = '!' then goTo (.comment .bang)
    else if c = '-' then goTo (.comment .dashDash)
    else retry [] body
  | .bang =>
    if c = '-' then goTo (.comment .dash)
    else if c = '>' then emit [.comment] data
    else retry [] body
  | .bogus => if c = '>' then emit [.comment] data else goTo (.comment .bogus)

def doctypeStep (state : DoctypeState) (d : DoctypeDraft) (c : Char) : Step :=
  let stay : Step := goTo (.doctype state d)
  let close : Step := emit [d.token] data
  let closeBroken : Step := emit [d.markBroken.token] data
  let bogus : Step := retry [] (.doctype .bogus d.markBroken)
  match state with
  | .start =>
    if isMarkupBlank c then goTo (.doctype .beforeName d) else retry [] (.doctype .beforeName d)
  | .beforeName =>
    if isMarkupBlank c then stay
    else if c = '>' then closeBroken
    else goTo (.doctype .name { d with name := some [(shown c).toLower] })
  | .name =>
    if isMarkupBlank c then goTo (.doctype (.afterName []) d)
    else if c = '>' then close
    else goTo (.doctype .name { d with name := some ((shown c).toLower :: d.name.getD []) })
  | .afterName keyword =>
    let read := ((c :: keyword).map Char.toLower).reverse
    if keyword.isEmpty && isMarkupBlank c then stay
    else if keyword.isEmpty && c = '>' then close
    else if read = "public".toList then goTo (.doctype .afterPublicKeyword d)
    else if read = "system".toList then goTo (.doctype .afterSystemKeyword d)
    else if read.isPrefixOf "public".toList || read.isPrefixOf "system".toList then
      goTo (.doctype (.afterName (c :: keyword)) d)
    else bogus
  | .afterPublicKeyword =>
    if isMarkupBlank c then goTo (.doctype .beforePublicId d)
    else if c = '"' || c = '\'' then goTo (.doctype (.publicId c) { d with publicId := some [] })
    else if c = '>' then closeBroken
    else bogus
  | .beforePublicId =>
    if isMarkupBlank c then stay
    else if c = '"' || c = '\'' then goTo (.doctype (.publicId c) { d with publicId := some [] })
    else if c = '>' then closeBroken
    else bogus
  | .publicId quote =>
    if c = quote then goTo (.doctype .afterPublicId d)
    else if c = '>' then closeBroken
    else goTo (.doctype state { d with publicId := some (shown c :: d.publicId.getD []) })
  | .afterPublicId =>
    if isMarkupBlank c then goTo (.doctype .betweenIds d)
    else if c = '>' then close
    else if c = '"' || c = '\'' then goTo (.doctype (.systemId c) { d with systemId := some [] })
    else bogus
  | .betweenIds =>
    if isMarkupBlank c then stay
    else if c = '>' then close
    else if c = '"' || c = '\'' then goTo (.doctype (.systemId c) { d with systemId := some [] })
    else bogus
  | .afterSystemKeyword =>
    if isMarkupBlank c then goTo (.doctype .beforeSystemId d)
    else if c = '"' || c = '\'' then goTo (.doctype (.systemId c) { d with systemId := some [] })
    else if c = '>' then closeBroken
    else bogus
  | .beforeSystemId =>
    if isMarkupBlank c then stay
    else if c = '"' || c = '\'' then goTo (.doctype (.systemId c) { d with systemId := some [] })
    else if c = '>' then closeBroken
    else bogus
  | .systemId quote =>
    if c = quote then goTo (.doctype .afterSystemId d)
    else if c = '>' then closeBroken
    else goTo (.doctype state { d with systemId := some (shown c :: d.systemId.getD []) })
  | .afterSystemId =>
    if isMarkupBlank c then stay
    else if c = '>' then close
    else retry [] (.doctype .bogus d)
  | .bogus => if c = '>' then close else stay

def sectionStep (brackets : Nat) (c : Char) : Step :=
  if c = ']' then
    if brackets < 2 then goTo (.section (brackets + 1)) else emit [.char ']'] (.section 2)
  else if c = '>' && brackets = 2 then goTo data
  else emit (charTokens (List.replicate brackets ']' ++ [c])) (.section 0)

/-- A character that ends a name in a script. -/
def endsScriptName (c : Char) : Bool :=
  isMarkupBlank c || c = '/' || c = '>'

/-- The name of the element whose text may hold scripts within comments. -/
def isScriptName (buffer : List Char) : Bool :=
  (buffer.map Char.toLower).reverse = "script".toList

/-- A step in a script with an escaped part. -/
def scriptStep (lastStart : List Char) (state : ScriptState) (c : Char) : Step :=
  let keep (next : ScriptState) : Step := emit [.char (shown c)] (.script next)
  match state with
  | .escapeStart => if c = '-' then keep .escapeStartDash else retry [] (.text .script)
  | .escapeStartDash => if c = '-' then keep .escapedDashDash else retry [] (.text .script)
  | .escaped =>
    if c = '-' then keep .escapedDash
    else if c = '<' then goTo (.script .escapedLess)
    else keep .escaped
  | .escapedDash =>
    if c = '-' then keep .escapedDashDash
    else if c = '<' then goTo (.script .escapedLess)
    else keep .escaped
  | .escapedDashDash =>
    if c = '-' then keep .escapedDashDash
    else if c = '<' then goTo (.script .escapedLess)
    else if c = '>' then emit [.char '>'] (.text .script)
    else keep .escaped
  | .escapedLess =>
    if c = '/' then goTo (.script .escapedEndTagOpen)
    else if c.isAlpha then retry [.char '<'] (.script (.doubleEscapeStart []))
    else retry [.char '<'] (.script .escaped)
  | .escapedEndTagOpen =>
    if c.isAlpha then retry [] (.script (.escapedEndTagName []))
    else retry (charTokens ['<', '/']) (.script .escaped)
  | .escapedEndTagName buffer =>
    if c.isAlpha then goTo (.script (.escapedEndTagName (c :: buffer)))
    else
      match afterRawEndName? lastStart buffer c with
      | some step => step
      | none => retry (charTokens ('<' :: '/' :: buffer.reverse)) (.script .escaped)
  | .doubleEscapeStart buffer =>
    if endsScriptName c then keep (if isScriptName buffer then .doubleEscaped else .escaped)
    else if c.isAlpha then keep (.doubleEscapeStart (c :: buffer))
    else retry [] (.script .escaped)
  | .doubleEscaped =>
    if c = '-' then keep .doubleEscapedDash
    else if c = '<' then keep .doubleEscapedLess
    else keep .doubleEscaped
  | .doubleEscapedDash =>
    if c = '-' then keep .doubleEscapedDashDash
    else if c = '<' then keep .doubleEscapedLess
    else keep .doubleEscaped
  | .doubleEscapedDashDash =>
    if c = '-' then keep .doubleEscapedDashDash
    else if c = '<' then keep .doubleEscapedLess
    else if c = '>' then emit [.char '>'] (.text .script)
    else keep .doubleEscaped
  | .doubleEscapedLess =>
    if c = '/' then keep (.doubleEscapeEnd []) else retry [] (.script .doubleEscaped)
  | .doubleEscapeEnd buffer =>
    if endsScriptName c then keep (if isScriptName buffer then .escaped else .doubleEscaped)
    else if c.isAlpha then keep (.doubleEscapeEnd (c :: buffer))
    else retry [] (.script .doubleEscaped)

/-- The characters of a reference go where it stands; what comes next sees the character if
`again`. -/
def resolve (site : Site) (chars : List Char) (again : Bool) : Step :=
  match site with
  | .text kind => ⟨charTokens chars, .text kind, again⟩
  | .value state d => ⟨[], .tag state (d.pushValue chars), again⟩

/-- The longest prefix of a name that is in the table without a semicolon, with its characters and
the rest of the name. -/
def longestName? : Nat → List Char → Option (List Char × List Char)
  | 0, _ => none
  | length + 1, name =>
    match namedReferences[String.ofList (name.take (length + 1))]? with
    | some chars => some (chars, name.drop (length + 1))
    | none => longestName? length name

/-- The characters of a name that ends before the given character, or at the end of the text. In
attributes, a name without a semicolon does not count before a letter, a digit or an equals sign. -/
def resolveName (site : Site) (name : List Char) (next : Option Char) : Step :=
  let literal : Step := resolve site ('&' :: name) true
  let withSemicolon :=
    if next = some ';' then namedReferences[String.ofList (name ++ [';'])]? else none
  match withSemicolon with
  | some chars => resolve site chars false
  | none =>
    match longestName? name.length name with
    | some (chars, rest) =>
      match site with
      | .value .. =>
        if !rest.isEmpty || next = some '=' then literal else resolve site chars true
      | .text _ => resolve site (chars ++ rest) true
    | none => literal

/-- The character that a number refers to. Numbers from 128 to 159 are read as bytes of old pages. -/
def numberedChar (n : Nat) : Char :=
  if n = 0 ∨ 0x10ffff < n ∨ (0xd800 ≤ n ∧ n ≤ 0xdfff) then replacement
  else if n ≤ 0xff then Text.SingleByte.char Text.SingleByte.windows1252.toList n
  else Char.ofNat n

/-- The number with a digit more. Numbers beyond all characters stay there. -/
def pushDigit (base n digit : Nat) : Nat :=
  min (n * base + digit) 0x110000

def referenceStep (site : Site) (state : ReferenceState) (c : Char) : Step :=
  match state with
  | .ampersand =>
    if c.isAlphanum then goTo (.reference site (.name [c]))
    else if c = '#' then goTo (.reference site .hash)
    else resolve site ['&'] true
  | .name letters =>
    if c.isAlphanum then goTo (.reference site (.name (c :: letters)))
    else resolveName site letters.reverse (some c)
  | .hash =>
    if c = 'x' || c = 'X' then goTo (.reference site (.hexStart c))
    else
      match Text.digitValue? 10 c with
      | some d => goTo (.reference site (.decimal d))
      | none => resolve site ['&', '#'] true
  | .hexStart letter =>
    match Text.hexValue? c with
    | some d => goTo (.reference site (.hex d))
    | none => resolve site ['&', '#', letter] true
  | .hex n =>
    match Text.hexValue? c with
    | some d => goTo (.reference site (.hex (pushDigit 16 n d)))
    | none => resolve site [numberedChar n] (c ≠ ';')
  | .decimal n =>
    match Text.digitValue? 10 c with
    | some d => goTo (.reference site (.decimal (pushDigit 10 n d)))
    | none => resolve site [numberedChar n] (c ≠ ';')

/-- A step. `foreign` tells that the text stands in an element of another language, and `lastStart`
is the name of the latest start tag. -/
def step (foreign : Bool) (lastStart : List Char) (state : State) (c : Char) : Step :=
  match state with
  | .text kind => textStep kind c
  | .less kind => lessStep kind c
  | .lessSlash kind => lessSlashStep kind c
  | .rawEndName kind buffer => rawEndNameStep lastStart kind buffer c
  | .tag state d => tagStep state d c
  | .declaration buffer => declarationStep foreign buffer c
  | .comment state => commentStep state c
  | .doctype state d => doctypeStep state d c
  | .section brackets => sectionStep brackets c
  | .script state => scriptStep lastStart state c
  | .reference site state => referenceStep site state c

/-- The tokens that one character completes, and the state behind it. A character is seen by at most
so many states. -/
def feed (foreign : Bool) (lastStart : List Char) : Nat → State → Char → List Token × State
  | 0, state, _ => ([], state)
  | fuel + 1, state, c =>
    let s := step foreign lastStart state c
    if s.again then
      let (more, next) := feed foreign lastStart fuel s.next c
      (s.tokens ++ more, next)
    else (s.tokens, s.next)

/-- A character is seen by at most this many states. -/
def maxRetries : Nat := 5

/-- The tokens that the end of the text completes. A tag that is not complete is left out. -/
def finish (state : State) : List Token :=
  match state with
  | .text _ => []
  | .less _ => [.char '<']
  | .lessSlash _ => charTokens ['<', '/']
  | .rawEndName _ buffer => charTokens ('<' :: '/' :: buffer.reverse)
  | .tag _ _ => []
  | .declaration _ | .comment _ => [.comment]
  | .doctype _ d => [d.markBroken.token]
  | .section brackets => charTokens (List.replicate brackets ']')
  | .script state =>
    match state with
    | .escapedLess => [.char '<']
    | .escapedEndTagOpen => charTokens ['<', '/']
    | .escapedEndTagName buffer => charTokens ('<' :: '/' :: buffer.reverse)
    | _ => []
  | .reference site state =>
    match site with
    | .value .. => []
    | .text _ =>
      match state with
      | .ampersand => [.char '&']
      | .name letters => (resolveName site letters.reverse none).tokens
      | .hash => charTokens ['&', '#']
      | .hexStart letter => charTokens ['&', '#', letter]
      | .hex n | .decimal n => [.char (numberedChar n)]

end Lexer

end TorrentSearch.Markup
