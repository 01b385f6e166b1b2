import TorrentSearch.Markup.Token

/-!
# Documents

The tree that a page's text describes. Nodes are numbered in the order of their creation and keep
their number wherever they are moved. A node without a parent, other than the root, stands outside
the tree.
-/

namespace TorrentSearch.Markup

/-- The language that an element belongs to. -/
inductive Space where
  | html
  | svg
  | math
deriving DecidableEq, Repr

structure Element where
  space : Space
  name : String
  attributes : List Attribute
deriving DecidableEq, Repr

def Element.attribute? (e : Element) (name : String) : Option String :=
  (e.attributes.find? fun a => a.name = name).map (·.value)

inductive Content where
  | root
  | element (e : Element)
  | text (s : String)
deriving DecidableEq, Repr

structure Node where
  content : Content
  parent : Option Nat
  children : Array Nat
deriving DecidableEq, Repr

/-- All nodes of a page. The first of them is the root. -/
structure Document where
  nodes : Array Node
deriving DecidableEq, Repr

namespace Document

def root : Nat := 0

def empty : Document := ⟨#[⟨.root, none, #[]⟩]⟩

def size (d : Document) : Nat := d.nodes.size

def node? (d : Document) (i : Nat) : Option Node := d.nodes[i]?

def element? (d : Document) (i : Nat) : Option Element :=
  match d.node? i with
  | some ⟨.element e, _, _⟩ => some e
  | _ => none

def parent? (d : Document) (i : Nat) : Option Nat :=
  (d.node? i).bind (·.parent)

def children (d : Document) (i : Nat) : Array Nat :=
  match d.node? i with
  | some n => n.children
  | none => #[]

def modify (d : Document) (i : Nat) (f : Node → Node) : Document :=
  ⟨d.nodes.modify i f⟩

/-- A new node outside the tree, and its number. -/
def create (d : Document) (content : Content) : Document × Nat :=
  let i := d.nodes.size
  (⟨d.nodes.push ⟨content, none, #[]⟩⟩, i)

def detach (d : Document) (i : Nat) : Document :=
  match d.parent? i with
  | none => d
  | some p =>
    (d.modify p fun n => { n with children := n.children.filter (· ≠ i) }).modify i
      fun n => { n with parent := none }

def append (d : Document) (parent i : Nat) : Document :=
  ((d.detach i).modify parent fun n => { n with children := n.children.push i }).modify i
    fun n => { n with parent := some parent }

def placeBefore (sibling i : Nat) (children : Array Nat) : Array Nat :=
  children.flatMap fun c => if c = sibling then #[i, c] else #[c]

/-- The node takes the place in front of `sibling`, if that has a parent. -/
def insertBefore (d : Document) (sibling i : Nat) : Document :=
  let d := d.detach i
  match d.parent? sibling with
  | none => d
  | some p =>
    (d.modify p fun n => { n with children := placeBefore sibling i n.children }).modify i
      fun n => { n with parent := some p }

def isText (d : Document) (i : Nat) : Bool :=
  match d.node? i with
  | some ⟨.text _, _, _⟩ => true
  | _ => false

/-- A character more at the end of a piece of text. -/
def extendText (d : Document) (i : Nat) (c : Char) : Document :=
  d.modify i fun n =>
    match n with
    | ⟨.text s, parent, children⟩ => ⟨.text (s.push c), parent, children⟩
    | n => n

/-- A character behind the last child of `parent`. It extends a text that stands there. -/
def appendChar (d : Document) (parent : Nat) (c : Char) : Document :=
  match (d.children parent).back?.filter d.isText with
  | some i => d.extendText i c
  | none =>
    let (d, i) := d.create (.text (String.singleton c))
    d.append parent i

def previous? (d : Document) (sibling : Nat) : Option Nat := do
  let p ← d.parent? sibling
  let earlier := (d.children p).toList.takeWhile (· ≠ sibling)
  earlier.getLast?

/-- A character in front of `sibling`, if that has a parent. It extends a text that stands there. -/
def insertCharBefore (d : Document) (sibling : Nat) (c : Char) : Document :=
  match (d.previous? sibling).filter d.isText with
  | some i => d.extendText i c
  | none =>
    let (d, i) := d.create (.text (String.singleton c))
    d.insertBefore sibling i

/-- All children of a node move behind the children of another. -/
def moveChildren (d : Document) (source target : Nat) : Document :=
  (d.children source).foldl (fun d i => d.append target i) d

/-- The element gets the attributes whose names it does not have yet. -/
def addAttributes (d : Document) (i : Nat) (attributes : List Attribute) : Document :=
  d.modify i fun n =>
    match n with
    | ⟨.element e, parent, children⟩ =>
      let missing := attributes.filter fun a => e.attributes.all fun b => b.name ≠ a.name
      ⟨.element { e with attributes := e.attributes ++ missing }, parent, children⟩
    | n => n

/-- The nodes below those in `todo` and themselves, in the order of the page, where `fuel` bounds
their number. -/
def preorder (d : Document) : Nat → List Nat → List Nat
  | 0, _ => []
  | _, [] => []
  | fuel + 1, i :: todo => i :: preorder d fuel ((d.children i).toList ++ todo)

/-- The nodes below a node in the order of the page. -/
def descendants (d : Document) (i : Nat) : List Nat :=
  d.preorder d.size (d.children i).toList

/-- The nodes above a node, the nearest first, where `fuel` bounds their number. -/
def ancestorsUpTo (d : Document) : Nat → Nat → List Nat
  | 0, _ => []
  | fuel + 1, i =>
    match d.parent? i with
    | none => []
    | some p => p :: ancestorsUpTo d fuel p

def ancestors (d : Document) (i : Nat) : List Nat :=
  d.ancestorsUpTo d.size i

def text (d : Document) (i : Nat) : String :=
  String.join ((d.descendants i).filterMap fun j =>
    match d.node? j with
    | some ⟨.text s, _, _⟩ => some s
    | _ => none)

end Document

end TorrentSearch.Markup
