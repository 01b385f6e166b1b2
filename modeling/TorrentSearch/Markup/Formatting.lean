import TorrentSearch.Markup.Builder

/-!
# Formatting across elements

Formatting such as bold text stays in force when its element is closed by something else, and begins
again in what follows. An end tag of formatting that stands among other end tags in the wrong order
splits the elements in between.
-/

namespace TorrentSearch.Markup.Builder

/-- The entry is a marker or its element is open. -/
def isSettled (s : OpenElements) : Formatting → Bool
  | .marker => true
  | .element node _ => s.any fun e => e.node = node

/-- The entries, the earliest first, get elements that are open. -/
def reopenAll (b : Builder) : List Formatting → Builder × List Formatting
  | [] => (b, [])
  | .marker :: entries =>
    let (b, rest) := reopenAll b entries
    (b, .marker :: rest)
  | .element _ tag :: entries =>
    let (b, node) := b.openIn .html tag
    let (b, rest) := reopenAll b entries
    (b, .element node tag :: rest)

/-- Formatting in force whose elements were closed begins again. -/
def reopenFormatting (b : Builder) : Builder :=
  let closed := b.formatting.takeWhile fun f => !isSettled b.openElements f
  if closed.isEmpty then b
  else
    let settled := b.formatting.drop closed.length
    let (b, opened) := b.reopenAll closed.reverse
    { b with formatting := opened.reverse ++ settled }

def sameFormatting (s t : Tag) : Bool :=
  s.name = t.name && s.attributes.isPerm t.attributes

/-- The entries behind the latest marker, the latest first. -/
def inForce (b : Builder) : List Formatting :=
  b.formatting.takeWhile (· ≠ .marker)

/-- At most three entries for the same formatting are in force: with a fourth one the earliest
goes. -/
def makeRoom (entries : List Formatting) (tag : Tag) : List Formatting :=
  let isSame := fun f : Formatting => f.tag?.any (sameFormatting tag)
  let current := entries.takeWhile (· ≠ .marker)
  if (current.filter isSame).length < 3 then entries
  else (current.reverse.eraseP isSame).reverse ++ entries.drop current.length

def openFormatting (b : Builder) (tag : Tag) : Builder :=
  let formatting := makeRoom b.formatting tag
  let (b, node) := b.openIn .html tag
  { b with formatting := .element node tag :: formatting }

def dropFormatting (b : Builder) (node : Nat) : Builder :=
  { b with formatting := b.formatting.eraseP (·.isFor node) }

/-- An end tag closes the innermost element of its name, unless a special element is in between. -/
def closeOther (b : Builder) (name : String) : Builder :=
  let found := b.openElements.find? fun e => e.isNamed name || e.isSpecial
  if found.any (OpenElement.isNamed name) then
    b.mapOpen fun s => (s.closeImpliedExcept name).closeThrough (OpenElement.isNamed name)
  else b

/-- What the elements between a formatting element and the block in it are turned into. -/
structure Split where
  builder : Builder
  /-- The elements that stay open, the innermost first. -/
  kept : List OpenElement
  /-- The node that the next outer element is to hold. -/
  last : Nat
  /-- The outermost new element directly around the block, if there is one. -/
  bookmark : Option Nat

/-- The elements between a block and the formatting element around it, the innermost first, are
replaced by copies that hold only the block. Only the `copies` innermost ones are copied, and only
those whose formatting is in force. `block` is the node of the block. -/
def split (block : Nat) : Nat → Split → List OpenElement → Split
  | _, s, [] => { s with kept := s.kept.reverse }
  | copies, s, e :: outer =>
    match s.builder.formatting.find? (·.isFor e.node) with
    | some (.element _ tag) =>
      if copies = 0 then
        split block 0 { s with builder := s.builder.dropFormatting e.node } outer
      else
        let (b, node) := s.builder.createElement .html tag
        let formatting := b.formatting.map fun f => if f.isFor e.node then .element node tag else f
        let bookmark := if s.last = block then some node else s.bookmark
        let document := (b.document.detach s.last).append node s.last
        split block (copies - 1)
          ⟨{ b with document := document, formatting := formatting },
            ⟨node, .html, tag.name⟩ :: s.kept, node, bookmark⟩ outer
    | _ => split block (copies - 1) s outer

/-- The outcome of one round of closing formatting. -/
inductive Round where
  | settled (b : Builder)
  /-- An outer element of the same formatting may have to be closed too. -/
  | more (b : Builder)

/-- The entries with a new one: in the place of `old`, or right behind the entry for the bookmark. -/
def replaceEntry (entries : List Formatting) (old : Nat) (bookmark : Option Nat)
    (new : Formatting) : List Formatting :=
  match bookmark with
  | none => entries.map fun f => if f.isFor old then new else f
  | some mark =>
    let placed := entries.flatMap fun f => if f.isFor mark then [new, f] else [f]
    placed.eraseP (·.isFor old)

/-- One round of closing formatting of a name. If a block is open in its innermost element, that
element ends in front of the block, and a copy of it inside the block holds all that the block held
so far. -/
def closeRound (b : Builder) (name : String) : Round :=
  match b.inForce.find? fun f => f.tag?.any (·.name = name) with
  | some (.element node tag) =>
    let inner := b.openElements.takeWhile fun e => e.node ≠ node
    match b.openElements.drop inner.length with
    | [] => .settled (b.dropFormatting node)
    | _ :: outer =>
      if !b.openElements.inScope OpenElement.isBoundary (·.node = node) then .settled b
      else
        let between := (inner.reverse.takeWhile fun e => !e.isSpecial).reverse
        match (inner.take (inner.length - between.length)).reverse with
        | [] => .settled { b.dropFormatting node with openElements := outer }
        | block :: innermost =>
          let s := split block.node 3 ⟨b, [], block.node, none⟩ between
          let b := { s.builder with document := s.builder.document.detach s.last }
          let place :=
            match outer with
            | [] => .inside Document.root
            | ancestor :: _ => b.placeIn ancestor
          let b := b.putAt s.last place
          let (b, copy) := b.createElement .html tag
          let document := (b.document.moveChildren block.node copy).append block.node copy
          .more
            { b with
              document := document
              formatting := replaceEntry b.formatting node s.bookmark (.element copy tag)
              openElements :=
                innermost.reverse ++ ⟨copy, .html, tag.name⟩ :: block :: s.kept ++ outer }
  | _ => .settled (b.closeOther name)

/-- Rounds of closing formatting, at most `rounds` of them. -/
def closeRounds (name : String) : Nat → Builder → Builder
  | 0, b => b
  | rounds + 1, b =>
    match b.closeRound name with
    | .settled b => b
    | .more b => closeRounds name rounds b

def closeFormatting (b : Builder) (name : String) : Builder :=
  match b.openElements with
  | e :: outer =>
    if e.isNamed name && !b.formatting.any (·.isFor e.node) then { b with openElements := outer }
    else b.closeRounds name 8
  | [] => b

/-- A link inside a link ends the outer one. -/
def closeLink (b : Builder) : Builder :=
  match b.inForce.find? fun f => f.tag?.any (·.name = "a") with
  | some (.element node _) =>
    let b := (b.closeFormatting "a").dropFormatting node
    { b with openElements := b.openElements.without node }
  | _ => b

end TorrentSearch.Markup.Builder
