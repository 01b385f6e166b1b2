import Mathlib.Tactic.SplitIfs
import TorrentSearch.Page.Results
import TorrentSearch.Proofs.Markup.Growth
import TorrentSearch.Proofs.Text.Splitting
import TorrentSearch.Sample

/-!
# The links of a result page

A result page of any length is read row by row. Every row becomes a row of the one table, whatever its
link is, so that the links are found in the order in which they are written.
-/

namespace TorrentSearch.Page

open Markup

def aroundRows : OpenElements :=
  [⟨7, .html, "tbody"⟩, ⟨5, .html, "table"⟩, ⟨4, .html, "div"⟩, ⟨3, .html, "body"⟩, ⟨1, .html, "html"⟩]

/-- A builder behind the beginning of the table, with its mode, its open elements, the formatting in
force and the characters that it collected in the table. -/
def inPage (mode : Mode) (d : Document) (openElements : OpenElements) (formatting : List Formatting)
    (tableText : List Char) : Builder where
  document := d
  mode := mode
  returnMode := .rowGroup
  templateModes := []
  openElements := openElements
  formatting := formatting
  head := some 2
  form := none
  framesetAllowed := false
  tablesInParagraphs := true
  skipLineBreak := false
  fostering := false
  tableText := tableText
  textRequest := none

def inRow (mode : Mode) (d : Document) (inner : OpenElements) (formatting : List Formatting) : Builder :=
  inPage mode d (inner ++ aroundRows) formatting []

/-- A builder behind the line break of a row. -/
def behindRow (d : Document) : Builder := inPage .tableText d aroundRows [] ['\n']

def rowTag : Tag := ⟨"tr", [], false⟩

def nameCellTag : Tag := ⟨"td", [⟨"class", "name"⟩], false⟩

def linkTag (href : String) : Tag := ⟨"a", [⟨"href", href⟩], false⟩

def sizeCellTag : Tag := ⟨"td", [], false⟩

variable {d : Document} {n m : Nat} {href : String}

theorem read_row (h : d.EndsWithoutText 7) :
    (behindRow d).read (.startTag rowTag) =
      inRow .row ((d.addChild 7 (.text "\n")).addChild 7 rowTag.content)
        [⟨(d.addChild 7 (.text "\n")).size, .html, "tr"⟩] [] := by
  have hbreak : d.appendChar 7 '\n' = d.addChild 7 (.text "\n") :=
    Document.appendChar_of_endsWithoutText h '\n'
  rw [← hbreak]
  rfl

theorem read_nameCell :
    (inRow .row d [⟨n, .html, "tr"⟩] []).read (.startTag nameCellTag) =
      inRow .cell (d.addChild n nameCellTag.content) [⟨d.size, .html, "td"⟩, ⟨n, .html, "tr"⟩]
        [.marker] := by
  rfl

theorem read_link :
    (inRow .cell d [⟨m, .html, "td"⟩, ⟨n, .html, "tr"⟩] [.marker]).read (.startTag (linkTag href)) =
      inRow .cell (d.addChild m (linkTag href).content)
        [⟨d.size, .html, "a"⟩, ⟨m, .html, "td"⟩, ⟨n, .html, "tr"⟩]
        [.element d.size (linkTag href), .marker] := by
  rfl

theorem takesText_link {l : Nat} {tag : Tag} :
    (inRow .cell d [⟨l, .html, "a"⟩, ⟨m, .html, "td"⟩, ⟨n, .html, "tr"⟩]
      [.element l tag, .marker]).TakesText ⟨l, .html, "a"⟩ :=
  ⟨.inr rfl, rfl, rfl, by simp [inRow, inPage, Builder.isSettled], rfl, rfl, rfl⟩

theorem takesText_cell :
    (inRow .cell d [⟨m, .html, "td"⟩, ⟨n, .html, "tr"⟩] [.marker]).TakesText ⟨m, .html, "td"⟩ :=
  ⟨.inr rfl, rfl, rfl, by simp [inRow, inPage, Builder.isSettled], rfl, rfl, rfl⟩

theorem read_linkEnd {l : Nat} :
    (inRow .cell d [⟨l, .html, "a"⟩, ⟨m, .html, "td"⟩, ⟨n, .html, "tr"⟩]
      [.element l (linkTag href), .marker]).read (.endTag (Builder.bareTag "a")) =
      inRow .cell d [⟨m, .html, "td"⟩, ⟨n, .html, "tr"⟩] [.marker] := by
  rw [takesText_link.read_linkEnd]
  exact Builder.closeFormatting_innermost (linkTag href) rfl rfl

theorem read_cellEnd :
    (inRow .cell d [⟨m, .html, "td"⟩, ⟨n, .html, "tr"⟩] [.marker]).read
      (.endTag (Builder.bareTag "td")) = inRow .row d [⟨n, .html, "tr"⟩] [] := by
  rfl

theorem read_sizeCell :
    (inRow .row d [⟨n, .html, "tr"⟩] []).read (.startTag sizeCellTag) =
      inRow .cell (d.addChild n sizeCellTag.content) [⟨d.size, .html, "td"⟩, ⟨n, .html, "tr"⟩]
        [.marker] := by
  rfl

theorem read_rowEnd :
    (inRow .row d [⟨n, .html, "tr"⟩] []).read (.endTag (Builder.bareTag "tr")) =
      inRow .rowGroup d [] [] := by
  rfl

theorem read_break : (inRow .rowGroup d [] []).read (.char '\n') = behindRow d := by
  rfl

/-- The document with a row more, for a link with its number. -/
def addRow (d : Document) (number : Nat) (href : String) : Document :=
  let row := d.size
  let d := d.addChild 7 rowTag.content
  let nameCell := d.size
  let d := d.addChild row nameCellTag.content
  let link := d.size
  let d := d.addChild nameCell (linkTag href).content
  let d := d.addChild link (.text ("Result " ++ Nat.repr number))
  let sizeCell := d.size
  let d := d.addChild row sizeCellTag.content
  d.addChild sizeCell (.text "1.4 GB")

theorem written_linkTag (href : String) :
    (linkTag href).written = "<a href=\"".toList ++ (href.toList ++ "\">".toList) := by
  simp [Tag.written, Attribute.written, linkTag]

theorem toList_resultRow (number : Nat) (href : String) :
    (Sample.resultRow number href).toList =
      rowTag.written ++ (nameCellTag.written ++ ((linkTag href).written ++
        (("Result " ++ Nat.repr number).toList ++ (endWritten "a" ++ (endWritten "td" ++
          (sizeCellTag.written ++ ("1.4 GB".toList ++ (endWritten "td" ++
            (endWritten "tr" ++ ['\n']))))))))) := by
  have hfront : "<tr><td class=\"name\"><a href=\"".toList =
      rowTag.written ++ (nameCellTag.written ++ "<a href=\"".toList) := by decide
  have hmiddle : "\">Result ".toList = "\">".toList ++ "Result ".toList := by decide
  have hback : "</a></td><td>1.4 GB</td></tr>\n".toList = endWritten "a" ++ (endWritten "td" ++
      (sizeCellTag.written ++ ("1.4 GB".toList ++ (endWritten "td" ++
        (endWritten "tr" ++ ['\n']))))) := by decide
  unfold Sample.resultRow
  simp only [String.toList_append, hfront, hmiddle, hback, written_linkTag, List.append_assoc]

theorem ne_of_mem_label (number : Nat) :
    ∀ c ∈ ("Result " ++ Nat.repr number).toList, c ≠ '<' ∧ c ≠ '&' ∧ c ≠ '\x00' ∧ c ≠ '\r' := by
  intro c hc
  rw [String.toList_append, Nat.toList_repr, List.mem_append] at hc
  rcases hc with hc | hc
  · revert c
    simp
  · have hdigit := Nat.isDigit_of_mem_toDigits (by decide) (by decide) hc
    refine ⟨?_, ?_, ?_, ?_⟩ <;> rintro rfl <;> exact absurd hdigit (by decide)

section Texts

variable {l : Nat} {tag : Tag} {t : String}
  (ht : ∀ c ∈ t.toList, c ≠ '<' ∧ c ≠ '&' ∧ c ≠ '\x00' ∧ c ≠ '\r') (hne : t ≠ "")

include ht hne

theorem builds_linkText (hl : l < d.size) (hend : d.EndsWithoutText l) :
    (inRow .cell d [⟨l, .html, "a"⟩, ⟨m, .html, "td"⟩, ⟨n, .html, "tr"⟩]
      [.element l tag, .marker]).Builds t.toList (inRow .cell (d.addChild l (.text t))
        [⟨l, .html, "a"⟩, ⟨m, .html, "td"⟩, ⟨n, .html, "tr"⟩] [.element l tag, .marker]) :=
  takesText_link.builds_child rfl hl hend hne ht

theorem builds_cellText (hm : m < d.size) (hend : d.EndsWithoutText m) :
    (inRow .cell d [⟨m, .html, "td"⟩, ⟨n, .html, "tr"⟩] [.marker]).Builds t.toList
      (inRow .cell (d.addChild m (.text t)) [⟨m, .html, "td"⟩, ⟨n, .html, "tr"⟩] [.marker]) :=
  takesText_cell.builds_child rfl hm hend hne ht

end Texts

theorem builds_row (h : d.EndsWithoutText 7)
    (hhref : ∀ c ∈ href.toList, c ≠ '"' ∧ c ≠ '&' ∧ c ≠ '\x00' ∧ c ≠ '\r') (number : Nat) :
    (behindRow d).Builds (Sample.resultRow number href).toList
      (behindRow (addRow (d.addChild 7 (.text "\n")) number href)) := by
  rw [toList_resultRow]
  refine .append (.startTag (Tag.isPlain_bare (by decide)) (read_row h) rfl) ?_
  refine .append (.startTag (Tag.isPlain_single (by decide) ⟨by decide, by simp⟩) read_nameCell rfl) ?_
  have hname : IsPlainName "href" := by decide
  refine .append (.startTag (Tag.isPlain_single (by decide) ⟨hname, hhref⟩) read_link rfl) ?_
  refine .append (builds_linkText (t := "Result " ++ Nat.repr number) ?_ ?_ ?_ ?_) ?_
  · exact ne_of_mem_label number
  · simp
  · simp
  · exact Document.endsWithoutText_addChild (by simp) _
  refine .append (.endTag (by decide) read_linkEnd rfl) ?_
  refine .append (.endTag (by decide) read_cellEnd rfl) ?_
  refine .append (.startTag (Tag.isPlain_bare (by decide)) read_sizeCell rfl) ?_
  refine .append (builds_cellText (t := "1.4 GB") ?_ ?_ ?_ ?_) ?_
  · simp
  · decide
  · simp
  · exact Document.endsWithoutText_addChild (by simp) _
  refine .append (.endTag (by decide) read_cellEnd rfl) ?_
  refine .append (.endTag (by decide) read_rowEnd rfl) ?_
  exact .char (by decide) (by decide) (by decide) read_break rfl

/-- The document with rows for all links, each behind a line break, numbered from the given number on. -/
def addRows : List String → Nat → Document → Document
  | [], _, d => d
  | href :: hrefs, number, d =>
    addRows hrefs (number + 1) (addRow (d.addChild 7 (.text "\n")) number href)

theorem size_addRow (number : Nat) (href : String) :
    (addRow d number href).size = d.size + 6 := by
  simp [addRow]

theorem content?_addRow (hsize : 7 < d.size) (number : Nat) (href : String) (i : Nat) :
    (addRow d number href).content? i =
      if i = d.size + 5 then some (.text "1.4 GB")
      else if i = d.size + 4 then some sizeCellTag.content
      else if i = d.size + 3 then some (.text ("Result " ++ Nat.repr number))
      else if i = d.size + 2 then some (linkTag href).content
      else if i = d.size + 1 then some nameCellTag.content
      else if i = d.size then some rowTag.content
      else d.content? i := by
  simp (disch := first | omega | (simp only [Document.size_addChild]; omega)) only [addRow,
    Document.content?_addChild, Document.size_addChild, Nat.add_assoc, Nat.reduceAdd]

theorem parent?_addRow (hsize : 7 < d.size) (number : Nat) (href : String) :
    (addRow d number href).parent? d.size = some 7 := by
  simp (disch := first | omega | (simp only [Document.size_addChild]; omega)) [addRow, Nat.add_assoc]

theorem children_size_add (d : Document) (j : Nat) : d.children (d.size + j) = #[] :=
  Document.children_of_size_le (Nat.le_add_right _ _)

theorem children_addRow (hsize : 7 < d.size) (number : Nat) (href : String) (i : Nat) :
    (addRow d number href).children i =
      if i = d.size + 4 then #[d.size + 5]
      else if i = d.size then #[d.size + 1, d.size + 4]
      else if i = d.size + 2 then #[d.size + 3]
      else if i = d.size + 1 then #[d.size + 2]
      else if i = 7 then (d.children 7).push d.size
      else d.children i := by
  have hfirst : d.children d.size = #[] := children_size_add d 0
  have hne : d.size ≠ 3 ∧ d.size ≠ 5 ∧ d.size ≠ 6 ∧ d.size ≠ 7 := by omega
  simp (disch := first | omega | (simp only [Document.size_addChild]; omega))
    [addRow, Nat.add_assoc, children_size_add, hfirst, hne]
  split_ifs <;> rfl

theorem descendants_addRow (hsize : 7 < d.size) (number : Nat) (href : String) :
    (addRow d number href).descendants d.size =
      [d.size + 1, d.size + 2, d.size + 3, d.size + 4, d.size + 5] := by
  have hne : d.size ≠ 2 ∧ d.size ≠ 4 := by omega
  rw [Document.descendants, size_addRow]
  simp [Document.preorder, children_addRow hsize, children_size_add, hne]

theorem growsAt_addRow (hsize : 7 < d.size) (number : Nat) (href : String) :
    Document.GrowsAt 7 d (addRow d number href) := by
  have hrow := (Document.GrowsAt.refl 7 d).addChild hsize (.inl rfl) rowTag.content
  simp only [addRow]
  refine ((((hrow.addChild ?_ ?_ _).addChild ?_ ?_ _).addChild ?_ ?_ _).addChild ?_ ?_ _).addChild
    ?_ ?_ _
  all_goals first | omega | (simp only [Document.size_addChild]; omega)

theorem endsWithoutText_addRow (hsize : 7 < d.size) (number : Nat) (href : String) :
    (addRow d number href).EndsWithoutText 7 := by
  have hne : d.size ≠ 3 ∧ 7 ≠ d.size ∧ d.size ≠ 5 ∧ d.size ≠ 6 := by omega
  have hchildren : (addRow d number href).children 7 = (d.children 7).push d.size := by
    simp [children_addRow hsize, hne]
  simp [Document.EndsWithoutText, hchildren, Document.isText_eq, content?_addRow hsize, Tag.content]

theorem builds_rows (hsize : 7 < d.size) (h : d.EndsWithoutText 7) {hrefs : List String}
    (hhrefs : ∀ href ∈ hrefs, ∀ c ∈ href.toList, c ≠ '"' ∧ c ≠ '&' ∧ c ≠ '\x00' ∧ c ≠ '\r')
    (number : Nat) :
    (behindRow d).Builds (Sample.resultRows number hrefs).toList
      (behindRow (addRows hrefs number d)) := by
  induction hrefs generalizing d number with
  | nil =>
    have hempty : (Sample.resultRows number []).toList = [] := by rfl
    rw [hempty]
    exact .nil _
  | cons href hrefs ih =>
    have hbreak : 7 < (d.addChild 7 (.text "\n")).size := by
      rw [Document.size_addChild]
      exact Nat.lt_succ_of_lt hsize
    have hrow := builds_row h (hhrefs href List.mem_cons_self) number
    have hrest := ih (d := addRow (d.addChild 7 (.text "\n")) number href)
      (by rw [size_addRow]; omega) (endsWithoutText_addRow hbreak number href)
      (fun href hmem => hhrefs href (List.mem_cons_of_mem _ hmem)) (number + 1)
    rw [Sample.resultRows, String.toList_append, addRows]
    exact hrow.append hrest

/-- The document in front of the rows of links: the table with its header. -/
def frontDocument : Document :=
  ⟨#[⟨.root, none, #[1]⟩, ⟨.element ⟨.html, "html", []⟩, some 0, #[2, 3]⟩,
    ⟨.element ⟨.html, "head", []⟩, some 1, #[]⟩, ⟨.element ⟨.html, "body", []⟩, some 1, #[4]⟩,
    ⟨.element ⟨.html, "div", [⟨"id", "content"⟩]⟩, some 3, #[5]⟩,
    ⟨.element ⟨.html, "table", [⟨"class", "torrents"⟩]⟩, some 4, #[6, 7]⟩, ⟨.text "\n", some 5, #[]⟩,
    ⟨.element ⟨.html, "tbody", []⟩, some 5, #[8]⟩, ⟨.element ⟨.html, "tr", []⟩, some 7, #[9, 11]⟩,
    ⟨.element ⟨.html, "th", []⟩, some 8, #[10]⟩, ⟨.text "Name", some 9, #[]⟩,
    ⟨.element ⟨.html, "th", []⟩, some 8, #[12]⟩, ⟨.text "Size", some 11, #[]⟩]⟩

set_option maxRecDepth 8000 in
theorem foldl_take_front :
    ("<html><body><div id=\"content\">" ++
      "<table class=\"torrents\">\n<tr><th>Name</th><th>Size</th></tr>\n").toList.foldl Reader.take
        Reader.start = ⟨.text .data, "th".toList, behindRow frontDocument, false⟩ := by
  rfl

theorem read_tableEnd (h : d.EndsWithoutText 7) :
    (behindRow d).read (.endTag (Builder.bareTag "table")) =
      inPage .body (d.addChild 7 (.text "\n")) (aroundRows.drop 2) [] [] := by
  have hbreak : d.appendChar 7 '\n' = d.addChild 7 (.text "\n") :=
    Document.appendChar_of_endsWithoutText h '\n'
  rw [← hbreak]
  rfl

theorem read_contentEnd :
    (inPage .body d (aroundRows.drop 2) [] []).read (.endTag (Builder.bareTag "div")) =
      inPage .body d (aroundRows.drop 3) [] [] := by
  rfl

theorem builds_tableBack (h : d.EndsWithoutText 7) :
    (behindRow d).Builds "</table></div></body></html>".toList
      (inPage .afterAfterBody (d.addChild 7 (.text "\n")) (aroundRows.drop 3) [] []) := by
  have hback : "</table></div></body></html>".toList = endWritten "table" ++ (endWritten "div" ++
      (endWritten "body" ++ endWritten "html")) := by decide
  rw [hback]
  refine .append (.endTag (by decide) (read_tableEnd h) rfl) ?_
  refine .append (.endTag (by decide) read_contentEnd rfl) ?_
  exact Builder.builds_pageEnd rfl rfl rfl rfl

theorem endsWithoutText_addRows {hrefs : List String} (hsize : 7 < d.size) (h : d.EndsWithoutText 7)
    (number : Nat) : (addRows hrefs number d).EndsWithoutText 7 := by
  induction hrefs generalizing d number with
  | nil => exact h
  | cons href hrefs ih =>
    have hbreak : 7 < (d.addChild 7 (.text "\n")).size := by
      rw [Document.size_addChild]
      exact Nat.lt_succ_of_lt hsize
    refine ih ?_ (endsWithoutText_addRow hbreak number href) _
    rw [size_addRow]
    omega

theorem ofText_resultPage {hrefs : List String}
    (hhrefs : ∀ href ∈ hrefs, ∀ c ∈ href.toList, c ≠ '"' ∧ c ≠ '&' ∧ c ≠ '\x00' ∧ c ≠ '\r') :
    Document.ofText (Sample.resultPage hrefs) =
      (addRows hrefs 0 frontDocument).addChild 7 (.text "\n") := by
  have hsize : 7 < frontDocument.size := by decide
  have hend : frontDocument.EndsWithoutText 7 := by
    unfold Document.EndsWithoutText
    decide
  have hpage : (Sample.resultPage hrefs).toList =
      ("<html><body><div id=\"content\">" ++
        "<table class=\"torrents\">\n<tr><th>Name</th><th>Size</th></tr>\n").toList ++
          ((Sample.resultRows 0 hrefs).toList ++ "</table></div></body></html>".toList) := by
    unfold Sample.resultPage
    simp only [String.toList_append, List.append_assoc]
  have hback := (builds_rows hsize hend hhrefs 0).append
    (builds_tableBack (endsWithoutText_addRows hsize hend 0))
  exact Builder.ofText_of_builds hpage (by decide) foldl_take_front hback rfl rfl rfl rfl

def isRow (e : Element) : Bool := e.name = "tr"

/-- The link that a row has for a link as it is written. -/
def linkOf (href : String) : Option String :=
  if Text.isBlankText href then none else some (Text.trim href)

theorem isInside_singleton (d : Document) (wanted : Element → Bool) (above : List Nat) :
    d.isInside [wanted] above = above.any (d.satisfies wanted) := by
  rw [Document.isInside]
  induction above with
  | nil => rfl
  | cons i above ih =>
    rw [List.dropWhile_cons, List.any_cons]
    cases d.satisfies wanted i with
    | true => rfl
    | false => simpa using ih

theorem lt_size_of_satisfies {wanted : Element → Bool} {i : Nat} (h : d.satisfies wanted i) :
    i < d.size := by
  refine Nat.lt_of_not_le fun hle => ?_
  have hnode : d.node? i = none := Array.getElem?_eq_none hle
  simp [Document.satisfies, Document.element?, hnode] at h

/-- The document has one table of torrents, whose rows lead to the links. -/
structure Lists (d : Document) (links : List (Option String)) : Prop where
  size : 7 < d.size
  group : d.parent? 7 = some 5
  table : d.satisfies (Element.hasClass "torrents") 5
  rows : ∀ i, d.satisfies isRow i → d.parent? i = some 7 ∧ d.Settled 7 i
  links : ((List.range d.size).filter (d.satisfies isRow)).map (rowLink? d) = links

namespace Lists

variable {d' : Document} {links : List (Option String)}

theorem resultRows_eq (h : Lists d links) :
    resultRows d = (List.range d.size).filter (d.satisfies isRow) := by
  rw [resultRows, Document.select, Document.elements, List.filter_filter]
  refine List.filter_congr fun i _ => ?_
  change (d.satisfies isRow i && _ && _) = _
  cases hrow : d.satisfies isRow i with
  | false => rfl
  | true =>
    have hparent := (h.rows i hrow).1
    have helement : d.satisfies (fun _ => true) i = true := by
      rw [Document.satisfies, Option.any_eq_true] at hrow ⊢
      obtain ⟨e, he, -⟩ := hrow
      exact ⟨e, he, rfl⟩
    have habove : 5 ∈ d.ancestors i := by
      obtain ⟨k, hk⟩ : ∃ k, d.size = k + 2 := ⟨d.size - 2, by have := h.size; omega⟩
      simp [Document.ancestors, hk, Document.ancestorsUpTo, hparent, h.group]
    have hinside : d.isInside [Element.hasClass "torrents"] (d.ancestors i) = true := by
      rw [isInside_singleton, List.any_eq_true]
      exact ⟨5, habove, h.table⟩
    rw [hinside, helement, hparent]
    rfl

theorem grow (h : Lists d links) (hgrow : Document.GrowsAt 7 d d') {k : Nat}
    (hsize : d'.size = d.size + k) {new : List Nat}
    (hnew : ((List.range k).map (d.size + ·)).filter (d'.satisfies isRow) = new)
    (hrows : ∀ i ∈ new, d'.parent? i = some 7 ∧ d'.Settled 7 i) :
    Lists d' (links ++ new.map (rowLink? d')) := by
  have hgroup : 5 < d.size := Nat.lt_trans (by decide) h.size
  refine ⟨by have := h.size; omega, ?_, ?_, fun i hi => ?_, ?_⟩
  · rw [hgrow.parent 7 h.size, h.group]
  · rw [hgrow.satisfies_eq hgroup, h.table]
  · by_cases hold : i < d.size
    · rw [hgrow.satisfies_eq hold] at hi
      rw [hgrow.parent i hold]
      exact ⟨(h.rows i hi).1, hgrow.settled (h.rows i hi).2⟩
    · refine hrows i ?_
      have hlt := lt_size_of_satisfies hi
      rw [← hnew, List.mem_filter, List.mem_map]
      exact ⟨⟨i - d.size, List.mem_range.mpr (by omega), by omega⟩, hi⟩
  · have hold : (List.range d.size).filter (d'.satisfies isRow) =
        (List.range d.size).filter (d.satisfies isRow) :=
      List.filter_congr fun i hi => hgrow.satisfies_eq (List.mem_range.mp hi) isRow
    rw [hsize, List.range_add, List.filter_append, hnew, hold, List.map_append, ← h.links]
    congr 1
    refine List.map_congr_left fun i hi => ?_
    rw [rowLink?, hgrow.firstBelow?_eq (h.rows i (List.mem_filter.mp hi).2).2, rowLink?]

theorem addText (h : Lists d links) (t : String) : Lists (d.addChild 7 (.text t)) links := by
  have hgrow := (Document.GrowsAt.refl 7 d).addChild h.size (.inl rfl) (.text t)
  have hnone :
      ((List.range 1).map (d.size + ·)).filter ((d.addChild 7 (.text t)).satisfies isRow) = [] := by
    simp [Document.satisfies, Document.element?_eq, h.size, Content.element?]
  simpa using h.grow hgrow (Document.size_addChild d 7 _) hnone (by simp)

theorem addRow (h : Lists d links) (number : Nat) (href : String) :
    Lists (Page.addRow d number href) (links ++ [linkOf href]) := by
  have hnew : ((List.range 6).map (d.size + ·)).filter
      ((Page.addRow d number href).satisfies isRow) = [d.size] := by
    simp [List.range_succ, Document.satisfies, Document.element?_eq, content?_addRow h.size, Tag.content,
      Content.element?, isRow, rowTag, nameCellTag, linkTag, sizeCellTag]
  have hlink : rowLink? (Page.addRow d number href) d.size = linkOf href := by
    simp [rowLink?, Document.firstBelow?, descendants_addRow h.size, Document.element?_eq,
      content?_addRow h.size, Tag.content, Content.element?, nameCellTag, linkTag, Element.attribute?,
      linkOf, Option.filter, ← Text.isEmpty_trim]
  have hsettled : (Page.addRow d number href).Settled 7 d.size := by
    have hsize := h.size
    refine ⟨?_, Nat.ne_of_gt hsize, ?_, ?_⟩
    · rw [size_addRow]
      omega
    · rw [descendants_addRow hsize, size_addRow]
      simp only [List.mem_cons, List.not_mem_nil, or_false]
      omega
    · rw [descendants_addRow hsize, size_addRow]
      simp
  have hrow := h.grow (growsAt_addRow h.size number href) (size_addRow number href) hnew fun i hi => by
    rw [List.mem_singleton.mp hi]
    exact ⟨parent?_addRow h.size number href, hsettled⟩
  rwa [List.map_singleton, hlink] at hrow

theorem addRows (h : Lists d links) (hrefs : List String) (number : Nat) :
    Lists (Page.addRows hrefs number d) (links ++ hrefs.map linkOf) := by
  induction hrefs generalizing d links number with
  | nil => simpa [Page.addRows] using h
  | cons href hrefs ih =>
    have hrow := (h.addText "\n").addRow number href
    rw [List.map_cons, List.append_cons, Page.addRows]
    exact ih hrow (number + 1)

end Lists

theorem lists_frontDocument : Lists frontDocument [none] := by
  have hrows : (List.range frontDocument.size).filter (frontDocument.satisfies isRow) = [8] := by decide
  refine ⟨by decide, by decide, by decide, fun i hi => ?_, ?_⟩
  · have hmem : i ∈ [8] := by
      rw [← hrows, List.mem_filter, List.mem_range]
      exact ⟨lt_size_of_satisfies hi, hi⟩
    rw [List.mem_singleton.mp hmem]
    exact ⟨by decide, by decide, by decide, by decide, by decide⟩
  · rw [hrows]
    decide

theorem ofRows_linkOf (hrefs : List String) :
    Links.ofRows ([none] ++ hrefs.map linkOf) =
      ⟨(hrefs.filter fun href => !Text.isBlankText href).map Text.trim,
        1 + hrefs.countP Text.isBlankText⟩ := by
  have hlinks : hrefs.filterMap linkOf =
      (hrefs.filter fun href => !Text.isBlankText href).map Text.trim := by
    rw [← List.filterMap_eq_map, List.filterMap_filter]
    congr 1
    funext href
    cases hblank : Text.isBlankText href <;> simp [linkOf, hblank]
  have hcount : (hrefs.map linkOf).countP (·.isNone) = hrefs.countP Text.isBlankText := by
    rw [List.countP_map]
    congr 1
    funext href
    cases hblank : Text.isBlankText href <;> simp [linkOf, hblank]
  simp [Links.ofRows, hlinks, hcount, List.filterMap_map, Nat.add_comm]

/-- The links of a result page are those that it was made for, without blanks at their ends and without
those that are blank, in their order. The rows without a link are the header and the rows of blank
links. -/
theorem Links.ofPage_resultPage {hrefs : List String}
    (hhrefs : ∀ href ∈ hrefs, ∀ c ∈ href.toList, c ≠ '"' ∧ c ≠ '&' ∧ c ≠ '\x00' ∧ c ≠ '\r') :
    Links.ofPage (Sample.resultPage hrefs) =
      ⟨(hrefs.filter fun href => !Text.isBlankText href).map Text.trim,
        1 + hrefs.countP Text.isBlankText⟩ := by
  have hlists := (lists_frontDocument.addRows hrefs 0).addText "\n"
  rw [← ofText_resultPage hhrefs] at hlists
  rw [Links.ofPage, hlists.resultRows_eq, hlists.links, ofRows_linkOf]

/-- Brackets, tags and line breaks in links are nothing but characters. -/
theorem Links.ofPage_resultPage_odd :
    Links.ofPage (Sample.resultPage ["/a", " \n", "</table><tr>", " /b> "]) =
      ⟨["/a", "</table><tr>", "/b>"], 2⟩ :=
  Links.ofPage_resultPage (by simp)

end TorrentSearch.Page
