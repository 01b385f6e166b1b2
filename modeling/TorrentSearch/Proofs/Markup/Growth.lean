import TorrentSearch.Markup.Query
import TorrentSearch.Proofs.Markup.Written

/-!
# Documents that grow

A document grows by a new last child of a node. Nothing else in it changes, so that what is known of the
other nodes stays true. A piece of text that is read becomes one child, although its characters come one
by one.
-/

namespace TorrentSearch.Markup

def Content.element? : Content → Option Element
  | .element e => some e
  | _ => none

def Tag.content (t : Tag) : Content := .element ⟨.html, t.name, t.attributes⟩

namespace Document

/-- The document with a new last child of a node. -/
def addChild (d : Document) (parent : Nat) (content : Content) : Document :=
  (d.create content).1.append parent d.size

def content? (d : Document) (i : Nat) : Option Content :=
  (d.node? i).map (·.content)

variable {d : Document} {p i : Nat} {content : Content} {c : Char} {s : List Char}

theorem element?_eq (d : Document) (i : Nat) : d.element? i = (d.content? i).bind Content.element? := by
  unfold element? content?
  rcases d.node? i with _ | ⟨_ | e | t, parent, children⟩ <;> rfl

theorem isText_eq (d : Document) (i : Nat) :
    d.isText i = match d.content? i with
      | some (.text _) => true
      | _ => false := by
  unfold isText content?
  rcases d.node? i with _ | ⟨_ | e | t, parent, children⟩ <;> rfl

theorem node?_size (d : Document) : d.node? d.size = none :=
  Array.getElem?_eq_none (Nat.le_refl _)

theorem addChild_eq (d : Document) (p : Nat) (content : Content) :
    d.addChild p content =
      (((d.create content).1.modify p fun n => { n with children := n.children.push d.size }).modify
        d.size fun n => { n with parent := some p }) := by
  have hparent : (d.create content).1.parent? d.size = none := by
    simp [parent?, node?, create, size]
  rw [addChild, append, detach, hparent]

theorem size_modify (d : Document) (i : Nat) (f : Node → Node) : (d.modify i f).size = d.size :=
  Array.size_modify

theorem node?_modify (d : Document) (j i : Nat) (f : Node → Node) :
    (d.modify j f).node? i = if j = i then (d.node? i).map f else d.node? i :=
  Array.getElem?_modify

theorem node?_create (d : Document) (content : Content) (i : Nat) :
    (d.create content).1.node? i = if i = d.size then some ⟨content, none, #[]⟩ else d.node? i :=
  Array.getElem?_push

theorem children_of_size_le (h : d.size ≤ i) : d.children i = #[] := by
  rw [children, node?, Array.getElem?_eq_none h]

@[simp]
theorem size_addChild (d : Document) (p : Nat) (content : Content) :
    (d.addChild p content).size = d.size + 1 := by
  rw [addChild_eq, size_modify, size_modify]
  exact Array.size_push _

theorem node?_addChild (hp : p < d.size) (i : Nat) :
    (d.addChild p content).node? i =
      if i = d.size then some ⟨content, some p, #[]⟩
      else if i = p then (d.node? i).map fun n => { n with children := n.children.push d.size }
      else d.node? i := by
  rw [addChild_eq, node?_modify, node?_modify, node?_create]
  by_cases hi : i = d.size
  · subst hi
    simp [Nat.ne_of_lt hp]
  · simp [hi, Ne.symm hi, eq_comm]

@[simp]
theorem content?_addChild (hp : p < d.size) (i : Nat) :
    (d.addChild p content).content? i = if i = d.size then some content else d.content? i := by
  rw [content?, node?_addChild hp, content?]
  split
  · rfl
  · split
    · cases d.node? i <;> rfl
    · rfl

@[simp]
theorem parent?_addChild (hp : p < d.size) (i : Nat) :
    (d.addChild p content).parent? i = if i = d.size then some p else d.parent? i := by
  rw [parent?, node?_addChild hp, parent?]
  split
  · rfl
  · split
    · cases d.node? i <;> rfl
    · rfl

@[simp]
theorem children_addChild (hp : p < d.size) (i : Nat) :
    (d.addChild p content).children i = if i = p then (d.children p).push d.size else d.children i := by
  rw [children, node?_addChild hp, children, children]
  by_cases hi : i = d.size
  · subst hi
    rw [if_pos rfl, if_neg (Nat.ne_of_gt hp), node?_size]
  · rw [if_neg hi]
    by_cases hip : i = p
    · subst hip
      rw [if_pos rfl, if_pos rfl, node?, Array.getElem?_eq_getElem hp]
      rfl
    · rw [if_neg hip, if_neg hip]

theorem ext_node? {d d' : Document} (h : ∀ i, d.node? i = d'.node? i) : d = d' := by
  obtain ⟨nodes⟩ := d
  obtain ⟨nodes'⟩ := d'
  rw [mk.injEq]
  exact Array.ext_getElem? h

/-- No text stands at the end of the node, which another character would extend. -/
def EndsWithoutText (d : Document) (p : Nat) : Prop :=
  (d.children p).back?.filter d.isText = none

theorem endsWithoutText_addChild (hp : p < d.size) (content : Content) :
    (d.addChild p content).EndsWithoutText d.size := by
  rw [EndsWithoutText, children_addChild hp, if_neg (Nat.ne_of_gt hp),
    children_of_size_le (Nat.le_refl _)]
  rfl

theorem appendChar_of_endsWithoutText (h : d.EndsWithoutText p) (c : Char) :
    d.appendChar p c = d.addChild p (.text (String.singleton c)) := by
  rw [appendChar, h]
  rfl

theorem appendChar_addChild (hp : p < d.size) (t : String) (c : Char) :
    (d.addChild p (.text t)).appendChar p c = d.addChild p (.text (t.push c)) := by
  have hback : ((d.addChild p (.text t)).children p).back?.filter (d.addChild p (.text t)).isText =
      some d.size := by
    simp [hp, isText_eq]
  rw [appendChar, hback]
  refine ext_node? fun i => ?_
  change ((d.addChild p (.text t)).modify d.size _).node? i = _
  rw [node?_modify, node?_addChild hp, node?_addChild hp]
  by_cases hi : i = d.size
  · simp [hi]
  · rw [if_neg (Ne.symm hi), if_neg hi, if_neg hi]

theorem foldl_appendChar_addChild (hp : p < d.size) (t : String) (s : List Char) :
    s.foldl (fun d c => d.appendChar p c) (d.addChild p (.text t)) =
      d.addChild p (.text (t ++ String.ofList s)) := by
  induction s generalizing t with
  | nil => simp
  | cons c s ih =>
    rw [List.foldl_cons, appendChar_addChild hp, ih]
    congr 2
    simp [← String.toList_inj]

theorem foldl_appendChar (hp : p < d.size) (h : d.EndsWithoutText p) (hs : s ≠ []) :
    s.foldl (fun d c => d.appendChar p c) d = d.addChild p (.text (String.ofList s)) := by
  cases s with
  | nil => exact absurd rfl hs
  | cons c s =>
    rw [List.foldl_cons, appendChar_of_endsWithoutText h, foldl_appendChar_addChild hp]
    congr 2
    simp

/-- The second document has the nodes of the first one and new ones, and of the old nodes only one got
new children. -/
structure GrowsAt (p : Nat) (d d' : Document) : Prop where
  size : d.size ≤ d'.size
  content : ∀ i < d.size, d'.content? i = d.content? i
  parent : ∀ i < d.size, d'.parent? i = d.parent? i
  children : ∀ i < d.size, i ≠ p → d'.children i = d.children i

namespace GrowsAt

variable {d' : Document} {q : Nat}

theorem refl (p : Nat) (d : Document) : GrowsAt p d d :=
  ⟨Nat.le_refl _, fun _ _ => rfl, fun _ _ => rfl, fun _ _ _ => rfl⟩

theorem addChild (h : GrowsAt p d d') (hq : q < d'.size) (hplace : q = p ∨ d.size ≤ q)
    (content : Content) : GrowsAt p d (d'.addChild q content) := by
  have hold : ∀ i < d.size, i ≠ d'.size := fun i hi heq => by
    have hsize := h.size
    omega
  refine ⟨?_, fun i hi => ?_, fun i hi => ?_, fun i hi hip => ?_⟩
  · rw [size_addChild]
    exact Nat.le_succ_of_le h.size
  · rw [content?_addChild hq, if_neg (hold i hi), h.content i hi]
  · rw [parent?_addChild hq, if_neg (hold i hi), h.parent i hi]
  · have hiq : i ≠ q := by omega
    rw [children_addChild hq, if_neg hiq, h.children i hi hip]

end GrowsAt

/-- Nodes are visited in the same order if they have the same children, and more fuel changes nothing
once there was enough. -/
theorem preorder_congr {d d' : Document} {fuel fuel' : Nat} {todo : List Nat}
    (h : ∀ j ∈ d.preorder fuel todo, d'.children j = d.children j)
    (hlength : (d.preorder fuel todo).length < fuel) (hfuel : fuel ≤ fuel') :
    d'.preorder fuel' todo = d.preorder fuel todo := by
  induction fuel generalizing fuel' todo with
  | zero => exact absurd hlength (Nat.not_lt_zero _)
  | succ fuel ih =>
    obtain ⟨fuel', rfl⟩ : ∃ k, fuel' = k + 1 := ⟨fuel' - 1, by omega⟩
    cases todo with
    | nil => rfl
    | cons i todo =>
      rw [preorder] at h hlength
      rw [preorder, preorder, h i List.mem_cons_self]
      rw [ih (fun j hj => h j (List.mem_cons_of_mem _ hj)) (Nat.lt_of_succ_lt_succ hlength)
        (Nat.le_of_succ_le_succ hfuel)]

/-- All below the node is known: there was enough fuel to visit it, and none of it is beyond the
document. -/
structure Settled (d : Document) (p i : Nat) : Prop where
  node : i < d.size
  other : i ≠ p
  below : ∀ j ∈ d.descendants i, j < d.size ∧ j ≠ p
  length : (d.descendants i).length < d.size

namespace GrowsAt

variable {d' : Document}

theorem descendants_eq (h : GrowsAt p d d') (hi : d.Settled p i) :
    d'.descendants i = d.descendants i := by
  rw [descendants, h.children i hi.node hi.other]
  exact preorder_congr (fun j hj => h.children j (hi.below j hj).1 (hi.below j hj).2) hi.length h.size

theorem settled (h : GrowsAt p d d') (hi : d.Settled p i) : d'.Settled p i where
  node := Nat.lt_of_lt_of_le hi.node h.size
  other := hi.other
  below j hj := by
    rw [h.descendants_eq hi] at hj
    exact ⟨Nat.lt_of_lt_of_le (hi.below j hj).1 h.size, (hi.below j hj).2⟩
  length := by
    rw [h.descendants_eq hi]
    exact Nat.lt_of_lt_of_le hi.length h.size

theorem element?_eq (h : GrowsAt p d d') (hi : i < d.size) : d'.element? i = d.element? i := by
  rw [Document.element?_eq, h.content i hi, Document.element?_eq]

theorem satisfies_eq (h : GrowsAt p d d') (hi : i < d.size) (wanted : Element → Bool) :
    d'.satisfies wanted i = d.satisfies wanted i := by
  rw [satisfies, h.element?_eq hi, satisfies]

theorem firstBelow?_eq (h : GrowsAt p d d') (hi : d.Settled p i) (wanted : Element → Bool) :
    d'.firstBelow? wanted i = d.firstBelow? wanted i := by
  rw [firstBelow?, h.descendants_eq hi, firstBelow?]
  have hsame : ∀ j ∈ d.descendants i,
      (d'.element? j).filter wanted = (d.element? j).filter wanted :=
    fun j hj => by rw [h.element?_eq (hi.below j hj).1]
  generalize d.descendants i = below at hsame
  induction below with
  | nil => rfl
  | cons j below ih =>
    rw [List.findSome?_cons, List.findSome?_cons, hsame j List.mem_cons_self,
      ih fun k hk => hsame k (List.mem_cons_of_mem _ hk)]

end GrowsAt

end Document

namespace Builder

/-- The end tag of formatting ends it if it is innermost and the latest in force. -/
theorem closeFormatting_innermost {b : Builder} {e : OpenElement} {outer : OpenElements} (tag : Tag)
    {rest : List Formatting} (hopen : b.openElements = e :: outer)
    (hformatting : b.formatting = .element e.node tag :: rest) :
    b.closeFormatting tag.name = { b with openElements := outer, formatting := rest } := by
  have hfor : b.formatting.any (·.isFor e.node) = true := by
    simp [hformatting, Formatting.isFor]
  have hfound : b.inForce.find? (fun f => f.tag?.any (·.name = tag.name)) =
      some (.element e.node tag) := by
    simp [inForce, hformatting, Formatting.tag?]
  have hscope : OpenElements.inScope OpenElement.isBoundary (·.node = e.node) (e :: outer) = true := by
    simp [OpenElements.inScope]
  have hround : b.closeRound tag.name =
      .settled { b with openElements := outer, formatting := rest } := by
    simp [closeRound, hfound, hopen, hscope, dropFormatting, hformatting, Formatting.isFor]
  simp [closeFormatting, hopen, hfor, closeRounds, hround]

section PageEnd

variable {b : Builder} {body html : Nat}

theorem read_bodyEnd (hmode : b.mode = .body)
    (hopen : b.openElements = [⟨body, .html, "body"⟩, ⟨html, .html, "html"⟩])
    (hbreak : b.skipLineBreak = false) :
    b.read (.endTag (bareTag "body")) = { b with mode := .afterBody } := by
  cases b
  subst hmode hopen hbreak
  rfl

theorem read_pageEnd (hmode : b.mode = .afterBody)
    (hopen : b.openElements = [⟨body, .html, "body"⟩, ⟨html, .html, "html"⟩])
    (hbreak : b.skipLineBreak = false) :
    b.read (.endTag (bareTag "html")) = { b with mode := .afterAfterBody } := by
  cases b
  subst hmode hopen hbreak
  rfl

theorem builds_pageEnd (hmode : b.mode = .body)
    (hopen : b.openElements = [⟨body, .html, "body"⟩, ⟨html, .html, "html"⟩])
    (hbreak : b.skipLineBreak = false) (hrequest : b.textRequest = none) :
    b.Builds (endWritten "body" ++ endWritten "html") { b with mode := .afterAfterBody } :=
  .append (.endTag (by decide) (read_bodyEnd hmode hopen hbreak) hrequest)
    (.endTag (by decide) (read_pageEnd rfl hopen hbreak) hrequest)

theorem finish_of_pageEnd (hmode : b.mode = .afterAfterBody)
    (hopen : b.openElements = [⟨body, .html, "body"⟩, ⟨html, .html, "html"⟩])
    (hbreak : b.skipLineBreak = false) (hrequest : b.textRequest = none) (lastStart : List Char) :
    Reader.finish ⟨.text .data, lastStart, b, false⟩ = b.document := by
  cases b
  subst hmode hopen hbreak hrequest
  rfl

/-- What the front leads to, and what is built from there to the end of the page. -/
theorem ofText_of_builds {page : String} {s t lastStart : List Char} {c : Builder}
    (hpage : page.toList = s ++ t) (hmark : s.head? = some '<')
    (hfront : s.foldl Reader.take Reader.start = ⟨.text .data, lastStart, b, false⟩)
    (hback : b.Builds t c) (hmode : c.mode = .afterAfterBody)
    (hopen : c.openElements = [⟨body, .html, "body"⟩, ⟨html, .html, "html"⟩])
    (hbreak : c.skipLineBreak = false) (hrequest : c.textRequest = none) :
    Document.ofText page = c.document := by
  have hstart : (s ++ t).head? = some '<' := by rw [List.head?_append, hmark, Option.some_or]
  obtain ⟨last, hlast⟩ := hback lastStart
  rw [Document.ofText, hpage, withoutMark_of_head? hstart (by decide),
    Reader.foldl_take_append hfront hlast, finish_of_pageEnd hmode hopen hbreak hrequest]

end PageEnd

/-- Characters go into the element: it is the innermost one, formatting is settled, and nothing has to be
put elsewhere. -/
structure TakesText (b : Builder) (e : OpenElement) : Prop where
  mode : b.mode = .body ∨ b.mode = .cell
  innermost : b.openElements.head? = some e
  space : e.space = .html
  settled : ∀ f ∈ b.formatting.head?, isSettled b.openElements f
  frameset : b.framesetAllowed = false
  fostering : b.fostering = false
  lineBreak : b.skipLineBreak = false

namespace TakesText

variable {b : Builder} {e : OpenElement} {c : Char} {s : List Char}

theorem withDocument (h : b.TakesText e) (d : Document) : { b with document := d }.TakesText e :=
  ⟨h.mode, h.innermost, h.space, h.settled, h.frameset, h.fostering, h.lineBreak⟩

theorem charInBody (h : b.TakesText e) (hc : c ≠ '\x00') :
    b.charInBody c = { b with document := b.document.appendChar e.node c } := by
  obtain ⟨outer, hopen⟩ := List.head?_eq_some_iff.mp h.innermost
  have hreopen : b.reopenFormatting = b := by
    have hclosed : b.formatting.takeWhile (fun f => !isSettled b.openElements f) = [] := by
      cases hformatting : b.formatting with
      | nil => rfl
      | cons f rest =>
        have hf : isSettled b.openElements f := h.settled f (by rw [hformatting]; rfl)
        rw [List.takeWhile_cons, hf]
        rfl
    simp [reopenFormatting, hclosed]
  have hforbid : b.forbidFrameset = b := by
    rw [forbidFrameset, ← h.frameset]
  have hplace : b.place = .inside e.node := by
    simp [place, hopen, placeIn, h.fostering]
  simp only [Builder.charInBody, if_neg hc, hreopen, hforbid, ite_self, putChar, hplace, putCharAt]

theorem read_of_inMode (h : b.TakesText e) {t : Token} {b' : Builder} (hmode : b.inMode t = .done b') :
    b.read t = b' := by
  obtain ⟨outer, hopen⟩ := List.head?_eq_some_iff.mp h.innermost
  have hforeign : b.isForeign t = false := by
    simp [isForeign, hopen, h.space]
  have hsame : { b with skipLineBreak := false } = b := by
    rw [← h.lineBreak]
  have hskip : (b.skipLineBreak && t = .char '\n') = false := by
    rw [h.lineBreak, Bool.false_and]
  rw [read, hskip, hsame, if_neg Bool.false_ne_true, maxReadings, readUpTo, hforeign,
    if_neg Bool.false_ne_true, hmode]

theorem read_char (h : b.TakesText e) (hc : c ≠ '\x00') :
    b.read (.char c) = { b with document := b.document.appendChar e.node c } := by
  refine h.read_of_inMode ?_
  rw [← h.charInBody hc]
  rcases h.mode with hmode | hmode <;> rw [inMode, hmode] <;> rfl

theorem read_linkEnd (h : b.TakesText e) : b.read (.endTag (bareTag "a")) = b.closeFormatting "a" := by
  refine h.read_of_inMode ?_
  rcases h.mode with hmode | hmode <;> rw [inMode, hmode] <;> rfl

theorem builds (h : b.TakesText e) (hrequest : b.textRequest = none)
    (hs : ∀ c ∈ s, c ≠ '<' ∧ c ≠ '&' ∧ c ≠ '\x00' ∧ c ≠ '\r') :
    b.Builds s { b with document := s.foldl (fun d c => d.appendChar e.node c) b.document } := by
  induction s generalizing b with
  | nil => exact .nil b
  | cons c s ih =>
    obtain ⟨hless, hand, hnul, hreturn⟩ := hs c List.mem_cons_self
    have hhead := Builds.char hless hand hreturn (h.read_char hnul) hrequest
    exact hhead.append (ih (h.withDocument _) hrequest fun a ha => hs a (List.mem_cons_of_mem _ ha))

theorem builds_child (h : b.TakesText e) (hrequest : b.textRequest = none)
    (hnode : e.node < b.document.size) (hend : b.document.EndsWithoutText e.node) {t : String}
    (hne : t ≠ "") (ht : ∀ c ∈ t.toList, c ≠ '<' ∧ c ≠ '&' ∧ c ≠ '\x00' ∧ c ≠ '\r') :
    b.Builds t.toList { b with document := b.document.addChild e.node (.text t) } := by
  have hchars : t.toList ≠ [] := by simpa using hne
  have hbuilds := h.builds hrequest ht
  rwa [Document.foldl_appendChar hnode hend hchars, String.ofList_toList] at hbuilds

end TakesText

end Builder

end TorrentSearch.Markup
