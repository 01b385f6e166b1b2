import TorrentSearch.Text.Ascii

/-!
# JSON values

Values of the text format JSON and their compact written form: no blanks, and escapes only for the
quote, the backslash and control characters.
-/

namespace TorrentSearch.Json

/-- A JSON value. Numbers keep the text that names them. -/
inductive Value where
  | null
  | bool (b : Bool)
  | number (literal : String)
  | text (s : String)
  /-- A text that no string can hold, or an object with such a name. -/
  | broken
  | array (items : List Value)
  | object (members : List (String × Value))
deriving Repr, Inhabited

def escapeChar (c : Char) : List Char :=
  match c with
  | '"' => ['\\', '"']
  | '\\' => ['\\', '\\']
  | '\x08' => ['\\', 'b']
  | '\t' => ['\\', 't']
  | '\n' => ['\\', 'n']
  | '\x0c' => ['\\', 'f']
  | '\r' => ['\\', 'r']
  | c =>
    if c.toNat < 0x20 then
      ['\\', 'u', '0', '0', Text.lowerHexDigit (c.toNat / 16), Text.lowerHexDigit (c.toNat % 16)]
    else [c]

def renderText (s : String) : List Char :=
  '"' :: s.toList.flatMap escapeChar ++ ['"']

def joinWithCommas : List (List Char) → List Char
  | [] => []
  | [s] => s
  | s :: rest => s ++ ',' :: joinWithCommas rest

namespace Value

mutual

def render : Value → List Char
  | null => "null".toList
  | bool b => (if b then "true" else "false").toList
  | number literal => literal.toList
  | text s => renderText s
  | broken => "\"\\ud800\"".toList
  | array items => '[' :: joinWithCommas (renderItems items) ++ [']']
  | object members => '\x7b' :: joinWithCommas (renderMembers members) ++ ['\x7d']

def renderItems : List Value → List (List Char)
  | [] => []
  | v :: rest => render v :: renderItems rest

def renderMembers : List (String × Value) → List (List Char)
  | [] => []
  | (name, v) :: rest => (renderText name ++ ':' :: render v) :: renderMembers rest

end

end Value

end TorrentSearch.Json
