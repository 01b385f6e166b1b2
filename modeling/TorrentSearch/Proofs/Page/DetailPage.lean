import TorrentSearch.Page.Detail
import TorrentSearch.Proofs.Markup.Growth
import TorrentSearch.Proofs.Source.Captures
import TorrentSearch.Sample

/-!
# The torrent of a detail page

The magnet link of a detail page is found in its text, the title in its document. Whatever the two are,
the script with the link ends where it should, the title is the text of the one link in the heading, and
no quoted text in the title is taken for the magnet link.
-/

namespace TorrentSearch.Page

open Markup

/-- A builder in a detail page, with its document, its open elements and the formatting in force. -/
def inDetail (mode : Mode) (d : Document) (openElements : OpenElements) (formatting : List Formatting)
    (framesetAllowed : Bool) : Builder where
  document := d
  mode := mode
  returnMode := .head
  templateModes := []
  openElements := openElements
  formatting := formatting
  head := some 2
  form := none
  framesetAllowed := framesetAllowed
  tablesInParagraphs := true
  skipLineBreak := false
  fostering := false
  tableText := []
  textRequest := none

/-- The document as far as the text of its script was read. -/
def scriptDocument (text : String) : Document :=
  ⟨#[⟨.root, none, #[1]⟩, ⟨.element ⟨.html, "html", []⟩, some 0, #[2]⟩,
    ⟨.element ⟨.html, "head", []⟩, some 1, #[3]⟩,
    ⟨.element ⟨.html, "script", [⟨"type", "text/javascript"⟩]⟩, some 2, #[4]⟩,
    ⟨.text text, some 3, #[]⟩]⟩

def inScript (text : String) (afterReturn : Bool) : Reader where
  lexer := .text .script
  lastStart := "script".toList
  builder := inDetail .text (scriptDocument text)
    [⟨3, .html, "script"⟩, ⟨2, .html, "head"⟩, ⟨1, .html, "html"⟩] [] true
  afterReturn := afterReturn

set_option maxRecDepth 8000 in
theorem foldl_take_scriptLead :
    "<html><head><script type=\"text/javascript\">var link = '".toList.foldl Reader.take Reader.start =
      inScript "var link = '" false := by
  rfl

theorem takeChar_script {c : Char} (hc : c ≠ '<') (text : String) (afterReturn : Bool) :
    (inScript text afterReturn).takeChar c = inScript (text.push (shown c)) afterReturn := by
  have hstep (foreign : Bool) (lastStart : List Char) :
      Lexer.feed foreign lastStart Lexer.maxRetries (.text .script) c =
        ([.char (shown c)], .text .script) := by
    simp [Lexer.maxRetries, Lexer.feed, Lexer.step, Lexer.textStep, hc, Step.emit]
  have hlexer : (inScript text afterReturn).lexer = .text .script := rfl
  rw [Reader.takeChar, hlexer, hstep]
  rfl

theorem take_inScript {c : Char} (hless : c ≠ '<') (hreturn : c ≠ '\r') (hline : c ≠ '\n') (text : String)
    (afterReturn : Bool) :
    (inScript text afterReturn).take c = inScript (text.push (shown c)) false := by
  rw [Reader.take, if_neg (by simp [hline]), if_neg hreturn]
  exact takeChar_script hless text false

/-- Whatever is read in the script, unless it may end there, is a part of its text. -/
theorem take_script {c : Char} (hc : c ≠ '<') (text : String) (afterReturn : Bool) :
    ∃ text' afterReturn', (inScript text afterReturn).take c = inScript text' afterReturn' := by
  rw [Reader.take]
  split
  · exact ⟨text, false, rfl⟩
  · split
    · exact ⟨_, true, takeChar_script (by decide) text true⟩
    · exact ⟨_, false, takeChar_script hc text false⟩

theorem foldl_take_script {s : List Char} (hs : ∀ c ∈ s, c ≠ '<') (text : String) (afterReturn : Bool) :
    ∃ text' afterReturn',
      s.foldl Reader.take (inScript text afterReturn) = inScript text' afterReturn' := by
  induction s generalizing text afterReturn with
  | nil => exact ⟨text, afterReturn, rfl⟩
  | cons c s ih =>
    obtain ⟨text', afterReturn', hc⟩ := take_script (hs c List.mem_cons_self) text afterReturn
    rw [List.foldl_cons, hc]
    exact ih (fun d hd => hs d (List.mem_cons_of_mem _ hd)) text' afterReturn'

theorem foldl_take_scriptEnd (text : String) (afterReturn : Bool) :
    ('\'' :: ';' :: endWritten "script").foldl Reader.take (inScript text afterReturn) =
      ⟨.text .data, "script".toList, inDetail .head (scriptDocument ((text.push '\'').push ';'))
        [⟨2, .html, "head"⟩, ⟨1, .html, "html"⟩] [] true, false⟩ := by
  have hquote : (inScript text afterReturn).take '\'' = inScript (text.push '\'') false :=
    take_inScript (by decide) (by decide) (by decide) text afterReturn
  have hstop (text : String) : (inScript text false).take ';' = inScript (text.push ';') false :=
    take_inScript (by decide) (by decide) (by decide) text false
  have hlower : ∀ c ∈ "script".toList, c.isLower := by simp [Char.isLower]
  rw [List.foldl_cons, hquote, List.foldl_cons, hstop, inScript,
    Reader.foldl_take_scriptEnd hlower (by decide)]
  rfl

def bodyTag : Tag := ⟨"body", [], false⟩

def extraTag : Tag := ⟨"div", [⟨"id", "extra-info"⟩], false⟩

def headingTag : Tag := ⟨"h2", [], false⟩

/-- The tag of the link whose text is the title. -/
def titleTag : Tag := ⟨"a", [⟨"href", "#"⟩], false⟩

theorem isPlain_extraTag : extraTag.IsPlain :=
  Tag.isPlain_single (by decide) ⟨by decide, by simp⟩

theorem isPlain_titleTag : titleTag.IsPlain :=
  Tag.isPlain_single (by decide) ⟨by decide, by simp⟩

variable {d : Document} {m n l : Nat}

theorem read_headEnd :
    (inDetail .head d [⟨2, .html, "head"⟩, ⟨1, .html, "html"⟩] [] true).read
      (.endTag (Builder.bareTag "head")) = inDetail .afterHead d [⟨1, .html, "html"⟩] [] true := by
  rfl

theorem read_body (h : d.size = n) :
    (inDetail .afterHead d [⟨1, .html, "html"⟩] [] true).read (.startTag bodyTag) =
      inDetail .body (d.addChild 1 bodyTag.content) [⟨n, .html, "body"⟩, ⟨1, .html, "html"⟩] []
        false := by
  subst h
  rfl

theorem read_extra (h : d.size = m) :
    (inDetail .body d [⟨n, .html, "body"⟩, ⟨1, .html, "html"⟩] [] false).read (.startTag extraTag) =
      inDetail .body (d.addChild n extraTag.content)
        [⟨m, .html, "div"⟩, ⟨n, .html, "body"⟩, ⟨1, .html, "html"⟩] [] false := by
  subst h
  rfl

theorem read_heading (h : d.size = l) :
    (inDetail .body d [⟨m, .html, "div"⟩, ⟨n, .html, "body"⟩, ⟨1, .html, "html"⟩] [] false).read
      (.startTag headingTag) = inDetail .body (d.addChild m headingTag.content)
        [⟨l, .html, "h2"⟩, ⟨m, .html, "div"⟩, ⟨n, .html, "body"⟩, ⟨1, .html, "html"⟩] [] false := by
  subst h
  rfl

def aroundTitle : OpenElements :=
  [⟨7, .html, "h2"⟩, ⟨6, .html, "div"⟩, ⟨5, .html, "body"⟩, ⟨1, .html, "html"⟩]

def inTitle (d : Document) : Builder :=
  inDetail .body d (⟨8, .html, "a"⟩ :: aroundTitle) [.element 8 titleTag] false

/-- The document as far as the link of the title. -/
def titleDocument (text : String) : Document :=
  ((((scriptDocument text).addChild 1 bodyTag.content).addChild 5 extraTag.content).addChild 6
    headingTag.content).addChild 7 titleTag.content

theorem read_title (h : d.size = 8) :
    (inDetail .body d aroundTitle [] false).read (.startTag titleTag) =
      inTitle (d.addChild 7 titleTag.content) := by
  have hread : (inDetail .body d aroundTitle [] false).read (.startTag titleTag) =
      inDetail .body (d.addChild 7 titleTag.content) (⟨d.size, .html, "a"⟩ :: aroundTitle)
        [.element d.size titleTag] false := by rfl
  rw [hread, h, inTitle]

theorem builds_titleLead (text : String) :
    (inDetail .head (scriptDocument text) [⟨2, .html, "head"⟩, ⟨1, .html, "html"⟩] [] true).Builds
      "</head><body><div id=\"extra-info\"><h2><a href=\"#\">".toList
      (inTitle (titleDocument text)) := by
  have hlead : "</head><body><div id=\"extra-info\"><h2><a href=\"#\">".toList =
      endWritten "head" ++ (bodyTag.written ++ (extraTag.written ++
        (headingTag.written ++ titleTag.written))) := by decide
  have hscript : (scriptDocument text).size = 5 := rfl
  rw [hlead]
  refine .append (.endTag (by decide) read_headEnd rfl) ?_
  refine .append (.startTag (Tag.isPlain_bare (by decide)) (read_body hscript) rfl) ?_
  refine .append (.startTag isPlain_extraTag (read_extra (m := 6) ?_) rfl) ?_
  · simp [hscript]
  refine .append (.startTag (Tag.isPlain_bare (by decide)) (read_heading (l := 7) ?_) rfl) ?_
  · simp [hscript]
  refine .startTag isPlain_titleTag (read_title ?_) rfl
  simp [hscript]

theorem takesText_inTitle (d : Document) : (inTitle d).TakesText ⟨8, .html, "a"⟩ :=
  ⟨.inl rfl, rfl, rfl, by simp [inTitle, inDetail, Builder.isSettled], rfl, rfl, rfl⟩

theorem read_titleEnd (d : Document) :
    (inTitle d).read (.endTag (Builder.bareTag "a")) = inDetail .body d aroundTitle [] false := by
  rw [(takesText_inTitle d).read_linkEnd]
  exact Builder.closeFormatting_innermost titleTag rfl rfl

theorem read_headingEnd :
    (inDetail .body d aroundTitle [] false).read (.endTag (Builder.bareTag "h2")) =
      inDetail .body d (aroundTitle.drop 1) [] false := by
  rfl

theorem read_extraEnd :
    (inDetail .body d (aroundTitle.drop 1) [] false).read (.endTag (Builder.bareTag "div")) =
      inDetail .body d (aroundTitle.drop 2) [] false := by
  rfl

theorem builds_titleBack (d : Document) :
    (inTitle d).Builds "</a></h2></div></body></html>".toList
      (inDetail .afterAfterBody d (aroundTitle.drop 2) [] false) := by
  have hback : "</a></h2></div></body></html>".toList = endWritten "a" ++ (endWritten "h2" ++
      (endWritten "div" ++ (endWritten "body" ++ endWritten "html"))) := by decide
  rw [hback]
  refine .append (.endTag (by decide) (read_titleEnd d) rfl) ?_
  refine .append (.endTag (by decide) read_headingEnd rfl) ?_
  refine .append (.endTag (by decide) read_extraEnd rfl) ?_
  exact Builder.builds_pageEnd rfl rfl rfl rfl

theorem size_titleDocument (text : String) : 8 < (titleDocument text).size := by
  have hscript : (scriptDocument text).size = 5 := rfl
  simp [titleDocument, hscript]

theorem endsWithoutText_titleDocument (text : String) : (titleDocument text).EndsWithoutText 8 := by
  have hscript : (scriptDocument text).size = 5 := rfl
  have hlink : ((((scriptDocument text).addChild 1 bodyTag.content).addChild 5
      extraTag.content).addChild 6 headingTag.content).size = 8 := by simp [hscript]
  rw [titleDocument, ← hlink]
  exact Document.endsWithoutText_addChild (by rw [hlink]; decide) _

/-- The document of a detail page, with the text of its script. An empty title is no text at all. -/
def detailDocument (text title : String) : Document :=
  if title = "" then titleDocument text else (titleDocument text).addChild 8 (.text title)

theorem builds_title {title : String}
    (htitle : ∀ c ∈ title.toList, c ≠ '<' ∧ c ≠ '&' ∧ c ≠ '\x00' ∧ c ≠ '\r') (text : String) :
    (inTitle (titleDocument text)).Builds title.toList (inTitle (detailDocument text title)) := by
  rw [detailDocument]
  split
  · rename_i hempty
    rw [hempty]
    exact .nil _
  · rename_i hne
    exact (takesText_inTitle _).builds_child rfl (size_titleDocument text)
      (endsWithoutText_titleDocument text) hne htitle

theorem exists_ofText_detailPage {title magnet : String}
    (htitle : ∀ c ∈ title.toList, c ≠ '<' ∧ c ≠ '&' ∧ c ≠ '\x00' ∧ c ≠ '\r')
    (hmagnet : ∀ c ∈ magnet.toList, c ≠ '<') :
    ∃ text, Document.ofText (Sample.detailPage title magnet) = detailDocument text title := by
  have hmiddle : "';</script></head><body><div id=\"extra-info\"><h2><a href=\"#\">".toList =
      ('\'' :: ';' :: endWritten "script") ++
        "</head><body><div id=\"extra-info\"><h2><a href=\"#\">".toList := by decide
  have hpage : (Sample.detailPage title magnet).toList =
      ("<html><head><script type=\"text/javascript\">var link = '".toList ++ magnet.toList ++
        '\'' :: ';' :: endWritten "script") ++
          ("</head><body><div id=\"extra-info\"><h2><a href=\"#\">".toList ++ (title.toList ++
            "</a></h2></div></body></html>".toList)) := by
    unfold Sample.detailPage
    simp only [String.toList_append, hmiddle, List.append_assoc]
  have hmark : "<html><head><script type=\"text/javascript\">var link = '".toList.head? = some '<' := by
    decide
  obtain ⟨script, afterReturn, hscript⟩ := foldl_take_script hmagnet "var link = '" false
  have hfront := Reader.foldl_take_append (Reader.foldl_take_append foldl_take_scriptLead hscript)
    (foldl_take_scriptEnd script afterReturn)
  have hback := (builds_titleLead ((script.push '\'').push ';')).append
    ((builds_title htitle _).append (builds_titleBack _))
  refine ⟨_, Builder.ofText_of_builds hpage ?_ hfront hback rfl rfl rfl rfl⟩
  rw [List.head?_append, List.head?_append, hmark, Option.some_or, Option.some_or]

/-- What is above the link of the title and in the script. -/
def upperNodes (text : String) : Array Node :=
  #[⟨.root, none, #[1]⟩, ⟨.element ⟨.html, "html", []⟩, some 0, #[2, 5]⟩,
    ⟨.element ⟨.html, "head", []⟩, some 1, #[3]⟩,
    ⟨.element ⟨.html, "script", [⟨"type", "text/javascript"⟩]⟩, some 2, #[4]⟩, ⟨.text text, some 3, #[]⟩,
    ⟨bodyTag.content, some 1, #[6]⟩, ⟨extraTag.content, some 5, #[7]⟩,
    ⟨headingTag.content, some 6, #[8]⟩]

theorem titleDocument_eq (text : String) :
    titleDocument text = ⟨(upperNodes text).push ⟨titleTag.content, some 7, #[]⟩⟩ := by
  simp [upperNodes, titleDocument, scriptDocument, Document.addChild_eq, Document.create,
    Document.modify, Document.size]

theorem detailDocument_eq {title : String} (h : title ≠ "") (text : String) :
    detailDocument text title =
      ⟨((upperNodes text).push ⟨titleTag.content, some 7, #[9]⟩).push ⟨.text title, some 8, #[]⟩⟩ := by
  rw [detailDocument, if_neg h, titleDocument_eq]
  simp [upperNodes, Document.addChild_eq, Document.create, Document.modify, Document.size]

theorem select_detailDocument (text title : String) :
    (detailDocument text title).select (·.name = "a") [(·.name = "h2"), Element.hasId "extra-info"] =
      [8] := by
  by_cases h : title = ""
  · rw [detailDocument, if_pos h, titleDocument_eq]
    rfl
  · rw [detailDocument_eq h]
    rfl

theorem text_detailDocument (text title : String) : (detailDocument text title).text 8 = title := by
  by_cases h : title = ""
  · rw [detailDocument, if_pos h, titleDocument_eq, h]
    rfl
  · rw [detailDocument_eq h]
    exact String.empty_append

section Page

variable {title magnet : String} {rest : List Char}

theorem title?_detailPage (htitle : ∀ c ∈ title.toList, c ≠ '<' ∧ c ≠ '&' ∧ c ≠ '\x00' ∧ c ≠ '\r')
    (hmagnet : ∀ c ∈ magnet.toList, c ≠ '<') :
    title? (Sample.detailPage title magnet) =
      if (Text.trim title).isEmpty then none else some (Text.trim title) := by
  obtain ⟨text, hdocument⟩ := exists_ofText_detailPage htitle hmagnet
  simp only [title?, hdocument, select_detailDocument, List.head?_cons, Option.bind_eq_bind,
    Option.bind_some, text_detailDocument]

theorem magnet?_of_toList {page : String} {front back : List Char}
    (hpage : page.toList = front ++ '\'' :: ("magnet:?".toList ++ rest ++ '\'' :: back))
    (hmagnet : magnet.toList = "magnet:?".toList ++ rest) (hfront : '\'' ∉ front) (hrest : rest ≠ [])
    (hquote : '\'' ∉ rest) : magnet? page = some magnet := by
  refine magnet?_eq_some_iff.mpr ⟨front, ?_⟩
  rw [hpage, hmagnet]
  exact Text.Pattern.isFirst_quoted hfront hrest hquote

/-- No quote stands in front of the link, so what the title quotes is not the first. -/
theorem magnet?_detailPage (hmagnet : magnet.toList = "magnet:?".toList ++ rest) (hrest : rest ≠ [])
    (hquote : ∀ c ∈ magnet.toList, c ≠ '\'') (title : String) :
    magnet? (Sample.detailPage title magnet) = some magnet := by
  have hlead : "<html><head><script type=\"text/javascript\">var link = '".toList =
      "<html><head><script type=\"text/javascript\">var link = ".toList ++ ['\''] := by decide
  have hmiddle : "';</script></head><body><div id=\"extra-info\"><h2><a href=\"#\">".toList =
      '\'' :: ";</script></head><body><div id=\"extra-info\"><h2><a href=\"#\">".toList := by decide
  have hfront : '\'' ∉ "<html><head><script type=\"text/javascript\">var link = ".toList := by simp
  have hbody : '\'' ∉ rest := fun hmem =>
    hquote '\'' (by rw [hmagnet]; exact List.mem_append_right _ hmem) rfl
  have hpage : (Sample.detailPage title magnet).toList =
      "<html><head><script type=\"text/javascript\">var link = ".toList ++
        '\'' :: ("magnet:?".toList ++ rest ++
          '\'' :: (";</script></head><body><div id=\"extra-info\"><h2><a href=\"#\">".toList ++
            title.toList ++ "</a></h2></div></body></html>".toList)) := by
    unfold Sample.detailPage
    simp only [String.toList_append, hlead, hmiddle, hmagnet, List.append_assoc, List.cons_append,
      List.nil_append]
  exact magnet?_of_toList hpage hmagnet hfront hrest hbody

/-- The torrent of a detail page has the title without blanks at its ends, and the quality and the hash
of the link. If one of them is missing, the first of them is the cause for which there is no torrent. The
link is never missing, whatever the title quotes. -/
theorem torrent_detailPage (htitle : ∀ c ∈ title.toList, c ≠ '<' ∧ c ≠ '&' ∧ c ≠ '\x00' ∧ c ≠ '\r')
    (hmagnet : magnet.toList = "magnet:?".toList ++ rest) (hrest : rest ≠ [])
    (hplain : ∀ c ∈ magnet.toList, c ≠ '\'' ∧ c ≠ '<') (strategies : List Magnet.Strategy) :
    torrent strategies (Sample.detailPage title magnet) =
      if (Text.trim title).isEmpty then .error .noTitle
      else match Quality.ofMagnet? magnet, Magnet.extract? strategies magnet (Text.trim title) with
        | none, _ => .error .unsupportedQuality
        | some _, none => .error .noInfoHash
        | some quality, some found =>
          .ok ⟨Text.trim title, quality.text, found.infoHash, found.magnet⟩ := by
  rw [torrent, magnet?_detailPage hmagnet hrest fun c hc => (hplain c hc).1,
    title?_detailPage htitle fun c hc => (hplain c hc).2]
  cases htrim : (Text.trim title).isEmpty with
  | true => rfl
  | false =>
    cases hquality : Quality.ofMagnet? magnet with
    | none => simp [hquality]; rfl
    | some quality =>
      cases hfound : Magnet.extract? strategies magnet (Text.trim title) with
      | none => simp [hquality, hfound]; rfl
      | some found => simp [hquality, hfound]; rfl

/-- A link in the title stays a part of the title. -/
theorem torrent_detailPage_quoted :
    torrent Magnet.defaultStrategies (Sample.detailPage " A 'magnet:?b' > C\n"
      "magnet:?xt=urn:btih:0123456789abcdef0123456789abcdef01234567&dn=C.1080p.10bit") =
      .ok ⟨"A 'magnet:?b' > C", "1080p 10bit", "0123456789ABCDEF0123456789ABCDEF01234567",
        "magnet:?xt=urn:btih:0123456789abcdef0123456789abcdef01234567&dn=C.1080p.10bit"⟩ := by
  have hmagnet : "magnet:?xt=urn:btih:0123456789abcdef0123456789abcdef01234567&dn=C.1080p.10bit".toList =
      "magnet:?".toList ++
        "xt=urn:btih:0123456789abcdef0123456789abcdef01234567&dn=C.1080p.10bit".toList := by
    decide +kernel
  refine (torrent_detailPage (by simp) hmagnet (by simp) (by simp) _).trans ?_
  decide +kernel

end Page

end TorrentSearch.Page
