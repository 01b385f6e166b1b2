/-!
# Tokens of markup

The pieces that a page's text consists of: tags, single characters, comments and the document type.
-/

namespace TorrentSearch.Markup

structure Attribute where
  name : String
  value : String
deriving DecidableEq, Repr, Inhabited

structure Tag where
  name : String
  attributes : List Attribute
  /-- The tag closes itself with a slash. -/
  selfClosing : Bool
deriving DecidableEq, Repr, Inhabited

def Tag.attribute? (t : Tag) (name : String) : Option String :=
  (t.attributes.find? fun a => a.name = name).map (·.value)

/-- A document type with its public and system identifiers. -/
structure Doctype where
  name : Option String
  publicId : Option String
  systemId : Option String
  /-- The declaration is broken, so that old rules of layout apply. -/
  broken : Bool
deriving DecidableEq, Repr

inductive Token where
  | startTag (tag : Tag)
  | endTag (tag : Tag)
  | char (c : Char)
  | comment
  | doctype (d : Doctype)
  | finish
deriving DecidableEq, Repr

/-- How text is read up to the next tag. -/
inductive TextKind where
  | data
  /-- Text with character references that ends at the end tag of its element. -/
  | references
  /-- Text that ends at the end tag of its element. -/
  | raw
  | script
  | plain
deriving DecidableEq, Repr

end TorrentSearch.Markup
