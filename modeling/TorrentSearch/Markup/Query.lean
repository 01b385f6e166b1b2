import TorrentSearch.Markup.Document

/-!
# Finding elements

Elements are found by their names, classes and identifiers, and by the elements around them. Elements
that are found all over a document come in the order of their creation.
-/

namespace TorrentSearch.Markup

namespace Element

def isClassBlank (c : Char) : Bool :=
  c = '\t' || c = '\n' || c = '\r' || c = '\x0c' || c = ' '

def hasClass (name : String) (e : Element) : Bool :=
  match e.attribute? "class" with
  | some v => (v.toList.splitOnP isClassBlank).any fun w => w = name.toList
  | none => false

def hasId (id : String) (e : Element) : Bool :=
  e.attribute? "id" = some id

end Element

namespace Document

def satisfies (d : Document) (p : Element → Bool) (i : Nat) : Bool :=
  (d.element? i).any p

/-- All elements of the document that have a parent, in the order of their creation. -/
def elements (d : Document) : List Nat :=
  (List.range d.size).filter fun i => d.satisfies (fun _ => true) i && (d.parent? i).isSome

/-- Among the nodes `above`, the nearest first, are elements with the properties in `outer`, in
their order. -/
def isInside (d : Document) (outer : List (Element → Bool)) (above : List Nat) : Bool :=
  match outer with
  | [] => true
  | p :: outer =>
    match above.dropWhile fun i => !d.satisfies p i with
    | [] => false
    | _ :: above => isInside d outer above

/-- The elements with a property that stand inside elements with further properties, which are listed
from the nearest to the outermost. -/
def select (d : Document) (p : Element → Bool) (outer : List (Element → Bool)) : List Nat :=
  d.elements.filter fun i => d.satisfies p i && d.isInside outer (d.ancestors i)

/-- The first element with the property below a node, in the order of the page. -/
def firstBelow? (d : Document) (p : Element → Bool) (i : Nat) : Option Element :=
  (d.descendants i).findSome? fun j => (d.element? j).filter p

end Document

end TorrentSearch.Markup
