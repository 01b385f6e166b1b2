import Mathlib
import TorrentSearch.Markup.Page

/-!
# Tags as they are written

A plain tag is written with its name in small letters and its values in double quotes. Wherever ordinary
text is read it is read back as the tag that it was written for: neither brackets nor anything else in
its values changes where it ends.
-/

namespace TorrentSearch.Markup

def isPlainLetter (c : Char) : Bool := c.isLower || c.isDigit

/-- The name is of small letters and digits and begins with a letter. -/
def IsPlainName (name : String) : Prop :=
  name.toList.head?.any Char.isLower ∧ ∀ c ∈ name.toList, isPlainLetter c

instance (name : String) : Decidable (IsPlainName name) :=
  decidable_of_iff (name.toList.head?.any Char.isLower ∧ name.toList.all isPlainLetter)
    (and_congr_right fun _ => List.all_eq_true)

/-- The name is plain, and all characters of the value stand for themselves between quotes. -/
structure Attribute.IsPlain (a : Attribute) : Prop where
  name : IsPlainName a.name
  value : ∀ c ∈ a.value.toList, c ≠ '"' ∧ c ≠ '&' ∧ c ≠ '\x00' ∧ c ≠ '\r'

def Attribute.written (a : Attribute) : List Char :=
  ' ' :: a.name.toList ++ '=' :: '"' :: a.value.toList ++ ['"']

/-- All parts of the tag are plain, and no two attributes have one name. -/
structure Tag.IsPlain (t : Tag) : Prop where
  name : IsPlainName t.name
  attributes : ∀ a ∈ t.attributes, a.IsPlain
  distinct : (t.attributes.map (·.name)).Nodup
  stays : t.selfClosing = false

def Tag.written (t : Tag) : List Char :=
  '<' :: t.name.toList ++ t.attributes.flatMap Attribute.written ++ ['>']

def endWritten (name : String) : List Char :=
  '<' :: '/' :: name.toList ++ ['>']

theorem IsPlainName.exists_cons {name : String} (h : IsPlainName name) :
    ∃ c rest, name.toList = c :: rest ∧ c.isLower ∧ isPlainLetter c ∧ ∀ d ∈ rest, isPlainLetter d := by
  obtain ⟨hfirst, hletters⟩ := h
  cases hchars : name.toList with
  | nil =>
    rw [hchars] at hfirst
    cases hfirst
  | cons c rest =>
    rw [hchars] at hfirst hletters
    exact ⟨c, rest, rfl, hfirst, hletters c List.mem_cons_self,
      fun d hd => hletters d (List.mem_cons_of_mem _ hd)⟩

theorem IsPlainName.ne_empty {name : String} (h : IsPlainName name) : name ≠ "" := by
  rintro rfl
  exact absurd h (by decide)

theorem Tag.isPlain_bare {name : String} (h : IsPlainName name) : Tag.IsPlain ⟨name, [], false⟩ where
  name := h
  attributes := by simp
  distinct := by simp
  stays := rfl

theorem Tag.isPlain_single {name : String} {a : Attribute} (h : IsPlainName name) (ha : a.IsPlain) :
    Tag.IsPlain ⟨name, [a], false⟩ where
  name := h
  attributes := by simpa using ha
  distinct := by simp
  stays := rfl

theorem isAlpha_of_isLower {c : Char} (h : c.isLower) : c.isAlpha := by
  rw [Char.isAlpha, h, Bool.or_true]

theorem toLower_of_isPlainLetter {c : Char} (h : isPlainLetter c) : c.toLower = c := by
  simp only [isPlainLetter, Char.isLower, Char.isDigit, Bool.or_eq_true, Bool.and_eq_true,
    decide_eq_true_eq, ge_iff_le, UInt32.le_iff_toNat_le, Char.reduceVal, UInt32.reduceToNat] at h
  rw [Char.toLower, dif_neg]
  simp only [ge_iff_le, UInt32.le_iff_toNat_le, Char.reduceVal, UInt32.reduceToNat]
  omega

theorem ne_of_isPlainLetter {c d : Char} (h : isPlainLetter c) (hd : isPlainLetter d = false) :
    c ≠ d := by
  rintro rfl
  exact Bool.false_ne_true (hd.symm.trans h)

namespace Lexer

/-- Reading the characters leads from one state to another and completes no token. -/
inductive Passes : State → List Char → State → Prop
  | nil (s : State) : Passes s [] s
  | cons {s t u : State} {c : Char} {cs : List Char} (hc : c ≠ '\r')
      (hfeed : ∀ foreign lastStart, feed foreign lastStart maxRetries s c = ([], t))
      (rest : Passes t cs u) : Passes s (c :: cs) u

variable {s t u : State} {c : Char} {cs ds : List Char}

theorem Passes.append (h : Passes s cs t) (h' : Passes t ds u) : Passes s (cs ++ ds) u := by
  induction h with
  | nil => exact h'
  | cons hc hfeed _ ih => exact .cons hc hfeed (ih h')

theorem Passes.collect {S : List Char → State}
    (h : ∀ c ∈ cs, ∀ done, Passes (S done) [c] (S (c :: done))) (done : List Char) :
    Passes (S done) cs (S (cs.reverse ++ done)) := by
  induction cs generalizing done with
  | nil => exact .nil _
  | cons c cs ih =>
    have hhead := h c List.mem_cons_self done
    have hrest := ih (fun d hd => h d (List.mem_cons_of_mem _ hd)) (c :: done)
    simpa using hhead.append hrest

theorem Passes.goTo (hc : c ≠ '\r') (h : ∀ foreign lastStart, step foreign lastStart s c = .goTo t) :
    Passes s [c] t := by
  refine .cons hc (fun foreign lastStart => ?_) (.nil t)
  simp [maxRetries, feed, h, Step.goTo]

theorem Passes.retry (hc : c ≠ '\r') (h : ∀ foreign lastStart, step foreign lastStart s c = .retry [] t)
    (h' : ∀ foreign lastStart, step foreign lastStart t c = .goTo u) : Passes s [c] u := by
  refine .cons hc (fun foreign lastStart => ?_) (.nil u)
  simp [maxRetries, feed, h, h', Step.goTo, Step.retry]

end Lexer

namespace TagDraft

/-- The draft of a tag of which a name and some attributes were read, and so much of the next one. -/
def ofRead (isEnd : Bool) (name : String) (attributes : List Attribute)
    (attributeName attributeValue : List Char) : TagDraft :=
  ⟨isEnd, name.toList.reverse, attributes.reverse, attributeName, attributeValue, false⟩

variable {d : TagDraft} {c : Char} {isEnd : Bool} {name : String} {attributes : List Attribute}
  {a : Attribute}

theorem pushName_of_isPlainLetter (hc : isPlainLetter c) :
    d.pushName c = { d with name := c :: d.name } := by
  simp (disch := decide) [pushName, shown, ne_of_isPlainLetter hc, toLower_of_isPlainLetter hc]

theorem pushAttributeName_of_isPlainLetter (hc : isPlainLetter c) :
    d.pushAttributeName c = { d with attributeName := c :: d.attributeName } := by
  simp (disch := decide) [pushAttributeName, shown, ne_of_isPlainLetter hc, toLower_of_isPlainLetter hc]

theorem closeAttribute_ofRead (hname : a.name ≠ "") (hnew : a.name ∉ attributes.map (·.name)) :
    (ofRead isEnd name attributes a.name.toList.reverse a.value.toList.reverse).closeAttribute =
      ofRead isEnd name (attributes ++ [a]) [] [] := by
  have hother : (attributes.reverse.any fun b => b.name = a.name) = false := by
    rw [List.any_reverse, List.any_eq_false]
    intro b hb heq
    exact hnew (List.mem_map.mpr ⟨b, hb, of_decide_eq_true heq⟩)
  simp [closeAttribute, ofRead, hname, hother]

theorem token_of_closeAttribute (h : d.closeAttribute = ofRead isEnd name attributes [] []) :
    d.token =
      if isEnd then .endTag ⟨name, attributes, false⟩ else .startTag ⟨name, attributes, false⟩ := by
  simp [token, h, ofRead]

end TagDraft

namespace Lexer

variable {d : TagDraft} {st : TagState} {c : Char} {s : List Char}

theorem tagStep_name (hc : isPlainLetter c) :
    tagStep .name d c = .goTo (.tag .name { d with name := c :: d.name }) := by
  rw [← TagDraft.pushName_of_isPlainLetter hc]
  simp (disch := decide) [tagStep, isMarkupBlank, ne_of_isPlainLetter hc]

theorem tagStep_attributeName (hc : isPlainLetter c) :
    tagStep .attributeName d c =
      .goTo (.tag .attributeName { d with attributeName := c :: d.attributeName }) := by
  rw [← TagDraft.pushAttributeName_of_isPlainLetter hc]
  simp (disch := decide) [tagStep, isMarkupBlank, ne_of_isPlainLetter hc]

theorem tagStep_beforeAttribute (hc : isPlainLetter c) :
    tagStep .beforeAttribute d c = .retry [] (.tag .attributeName d.closeAttribute) := by
  simp (disch := decide) [tagStep, isMarkupBlank, ne_of_isPlainLetter hc]

theorem passes_name (hs : ∀ c ∈ s, isPlainLetter c) :
    Passes (.tag .name d) s (.tag .name { d with name := s.reverse ++ d.name }) :=
  .collect (S := fun done => .tag .name { d with name := done })
    (fun c hc _ => .goTo (ne_of_isPlainLetter (hs c hc) (by decide))
      fun _ _ => tagStep_name (hs c hc)) d.name

theorem passes_attributeName (hs : ∀ c ∈ s, isPlainLetter c) :
    Passes (.tag .attributeName d) s
      (.tag .attributeName { d with attributeName := s.reverse ++ d.attributeName }) :=
  .collect (S := fun done => .tag .attributeName { d with attributeName := done })
    (fun c hc _ => .goTo (ne_of_isPlainLetter (hs c hc) (by decide))
      fun _ _ => tagStep_attributeName (hs c hc)) d.attributeName

theorem passes_value (hs : ∀ c ∈ s, c ≠ '"' ∧ c ≠ '&' ∧ c ≠ '\x00' ∧ c ≠ '\r') :
    Passes (.tag .doubleQuoted d) s
      (.tag .doubleQuoted { d with attributeValue := s.reverse ++ d.attributeValue }) := by
  refine .collect (S := fun done => .tag .doubleQuoted { d with attributeValue := done })
    (fun c hc done => ?_) d.attributeValue
  obtain ⟨hquote, hand, hnul, hreturn⟩ := hs c hc
  exact .goTo hreturn fun _ _ => by simp [step, tagStep, hquote, hand, TagDraft.pushValue, shown, hnul]

variable {isEnd : Bool} {name : String} {attributes as : List Attribute} {a : Attribute}

theorem passes_attribute (hst : st = .name ∨ st = .afterQuoted)
    (hd : d.closeAttribute = .ofRead isEnd name attributes [] []) (ha : a.IsPlain)
    (hnew : a.name ∉ attributes.map (·.name)) :
    ∃ d', Passes (.tag st d) a.written (.tag .afterQuoted d') ∧
      d'.closeAttribute = .ofRead isEnd name (attributes ++ [a]) [] [] := by
  obtain ⟨c, rest, hname, -, hc, hrest⟩ := ha.name.exists_cons
  refine ⟨_, ?_, TagDraft.closeAttribute_ofRead ha.name.ne_empty hnew⟩
  have hspace : Passes (.tag st d) [' '] (.tag .beforeAttribute d) := by
    refine .goTo (by decide) fun _ _ => ?_
    rcases hst with rfl | rfl <;> rfl
  have hfirst : Passes (.tag .beforeAttribute d) [c]
      (.tag .attributeName (.ofRead isEnd name attributes [c] [])) := by
    refine .retry (ne_of_isPlainLetter hc (by decide)) (fun _ _ => tagStep_beforeAttribute hc) ?_
    rw [hd]
    exact fun _ _ => tagStep_attributeName hc
  have hname : Passes (.tag .beforeAttribute d) a.name.toList
      (.tag .attributeName (.ofRead isEnd name attributes a.name.toList.reverse [])) := by
    rw [hname, List.reverse_cons]
    exact hfirst.append (passes_attributeName hrest)
  have hquote : Passes (.tag .attributeName (.ofRead isEnd name attributes a.name.toList.reverse []))
      ['=', '"'] (.tag .doubleQuoted (.ofRead isEnd name attributes a.name.toList.reverse [])) :=
    .append (.goTo (by decide) fun _ _ => rfl) (.goTo (by decide) fun _ _ => rfl)
  have hvalue : Passes (.tag .doubleQuoted (.ofRead isEnd name attributes a.name.toList.reverse []))
      a.value.toList (.tag .doubleQuoted
        (.ofRead isEnd name attributes a.name.toList.reverse a.value.toList.reverse)) := by
    simpa [TagDraft.ofRead] using
      passes_value (d := .ofRead isEnd name attributes a.name.toList.reverse []) ha.value
  have hend : Passes (.tag .doubleQuoted
      (.ofRead isEnd name attributes a.name.toList.reverse a.value.toList.reverse)) ['"']
      (.tag .afterQuoted
        (.ofRead isEnd name attributes a.name.toList.reverse a.value.toList.reverse)) :=
    .goTo (by decide) fun _ _ => rfl
  simpa [Attribute.written] using
    hspace.append (hname.append (hquote.append (hvalue.append hend)))

theorem passes_attributes (hst : st = .name ∨ st = .afterQuoted)
    (hd : d.closeAttribute = .ofRead isEnd name attributes [] []) (has : ∀ a ∈ as, a.IsPlain)
    (hdistinct : ((attributes ++ as).map (·.name)).Nodup) :
    ∃ st' d', Passes (.tag st d) (as.flatMap Attribute.written) (.tag st' d') ∧
      (st' = .name ∨ st' = .afterQuoted) ∧
      d'.closeAttribute = .ofRead isEnd name (attributes ++ as) [] [] := by
  induction as generalizing st d attributes with
  | nil => exact ⟨st, d, .nil _, hst, by rw [hd, List.append_nil]⟩
  | cons a as ih =>
    have hnew : a.name ∉ attributes.map (·.name) := by
      rw [List.map_append, List.nodup_append] at hdistinct
      exact fun hmem => hdistinct.2.2 _ hmem _ (by simp) rfl
    obtain ⟨d₁, hpasses₁, hd₁⟩ := passes_attribute hst hd (has a List.mem_cons_self) hnew
    rw [List.append_cons] at hdistinct ⊢
    obtain ⟨st', d', hpasses', hst', hd'⟩ :=
      ih (.inr rfl) hd₁ (fun b hb => has b (List.mem_cons_of_mem _ hb)) hdistinct
    exact ⟨st', d', hpasses₁.append hpasses', hst', hd'⟩

theorem passes_lead (hname : IsPlainName name) :
    Passes (.text .data) ('<' :: name.toList) (.tag .name (.ofRead false name [] [] [])) := by
  obtain ⟨c, rest, hchars, hlower, hc, hrest⟩ := hname.exists_cons
  have hless : Passes (.text .data) ['<'] (.less .data) := .goTo (by decide) fun _ _ => rfl
  have hfirst : Passes (.less .data) [c] (.tag .name ⟨false, [c], [], [], [], false⟩) := by
    refine .retry (t := .tag .name (.empty false)) (ne_of_isPlainLetter hc (by decide))
      (fun _ _ => ?_) fun _ _ => tagStep_name hc
    simp (disch := decide) [step, lessStep, ne_of_isPlainLetter hc, isAlpha_of_isLower hlower]
  rw [TagDraft.ofRead, hchars, List.reverse_cons]
  exact hless.append (hfirst.append (passes_name hrest))

theorem passes_endLead (hname : IsPlainName name) :
    Passes (.text .data) ('<' :: '/' :: name.toList) (.tag .name (.ofRead true name [] [] [])) := by
  obtain ⟨c, rest, hchars, hlower, hc, hrest⟩ := hname.exists_cons
  have hless : Passes (.text .data) ['<', '/'] (.lessSlash .data) :=
    .append (.goTo (by decide) fun _ _ => rfl) (.goTo (by decide) fun _ _ => rfl)
  have hfirst : Passes (.lessSlash .data) [c] (.tag .name ⟨true, [c], [], [], [], false⟩) := by
    refine .retry (t := .tag .name (.empty true)) (ne_of_isPlainLetter hc (by decide))
      (fun _ _ => ?_) fun _ _ => tagStep_name hc
    simp [step, lessSlashStep, isAlpha_of_isLower hlower]
  rw [TagDraft.ofRead, hchars, List.reverse_cons]
  exact hless.append (hfirst.append (passes_name hrest))

theorem passes_scriptEnd (hs : ∀ c ∈ s, c.isLower) (hne : s ≠ []) :
    Passes (.text .script) ('<' :: '/' :: s) (.rawEndName .script s.reverse) := by
  have hplain : ∀ c ∈ s, isPlainLetter c := fun c hc => by rw [isPlainLetter, hs c hc, Bool.true_or]
  have hreturn : ∀ c ∈ s, c ≠ '\r' := fun c hc => ne_of_isPlainLetter (hplain c hc) (by decide)
  have hletter (buffer : List Char) : ∀ c ∈ s, ∀ foreign lastStart,
      step foreign lastStart (.rawEndName .script buffer) c =
        .goTo (.rawEndName .script (c :: buffer)) :=
    fun c hc _ _ => by simp [step, rawEndNameStep, isAlpha_of_isLower (hs c hc)]
  have hless : Passes (.text .script) ['<', '/'] (.lessSlash .script) :=
    .append (.goTo (by decide) fun _ _ => rfl) (.goTo (by decide) fun _ _ => rfl)
  cases s with
  | nil => exact absurd rfl hne
  | cons c rest =>
    have hfirst : Passes (.lessSlash .script) [c] (.rawEndName .script [c]) := by
      refine .retry (t := .rawEndName .script []) (hreturn c List.mem_cons_self) (fun _ _ => ?_)
        (hletter [] c List.mem_cons_self)
      simp [step, lessSlashStep, isAlpha_of_isLower (hs c List.mem_cons_self)]
    have hrest := Passes.collect (S := fun buffer => .rawEndName .script buffer)
      (fun d hd buffer => .goTo (hreturn d (List.mem_cons_of_mem _ hd))
        (hletter buffer d (List.mem_cons_of_mem _ hd))) [c]
    rw [List.reverse_cons]
    exact hless.append (hfirst.append hrest)

end Lexer

namespace Reader

variable {lastStart : List Char} {b : Builder} {s : List Char}

theorem foldl_take_append {t : List Char} {r r' r'' : Reader} (hs : s.foldl take r = r')
    (ht : t.foldl take r' = r'') : (s ++ t).foldl take r = r'' := by
  rw [List.foldl_append, hs, ht]

theorem foldl_take_of_passes {lexer next : State} (h : Lexer.Passes lexer s next) :
    s.foldl take ⟨lexer, lastStart, b, false⟩ = ⟨next, lastStart, b, false⟩ := by
  induction h with
  | nil => rfl
  | cons hc hfeed _ ih =>
    rw [List.foldl_cons, ← ih]
    congr 1
    simp [take, hc, takeChar, hfeed]

theorem take_tagEnd {st : TagState} {d : TagDraft} (hst : st = .name ∨ st = .afterQuoted) :
    take ⟨.tag st d, lastStart, b, false⟩ '>' =
      takeToken ⟨.text .data, lastStart, b, false⟩ d.token := by
  rcases hst with rfl | rfl <;> rfl

theorem foldl_take_written {t : Tag} (h : t.IsPlain) :
    t.written.foldl take ⟨.text .data, lastStart, b, false⟩ =
      takeToken ⟨.text .data, lastStart, b, false⟩ (.startTag t) := by
  have hlead := Lexer.passes_lead h.name
  have hname : (TagDraft.ofRead false t.name [] [] []).closeAttribute = .ofRead false t.name [] [] [] :=
    rfl
  obtain ⟨st, d, hpasses, hst, hd⟩ := Lexer.passes_attributes (.inl rfl) hname h.attributes h.distinct
  have htag : t = ⟨t.name, t.attributes, false⟩ := by rw [← h.stays]
  rw [Tag.written, List.foldl_append, foldl_take_of_passes (hlead.append hpasses), List.foldl_cons,
    List.foldl_nil, take_tagEnd hst, TagDraft.token_of_closeAttribute hd, List.nil_append,
    if_neg (by decide), ← htag]

theorem foldl_take_endWritten {name : String} (h : IsPlainName name) :
    (endWritten name).foldl take ⟨.text .data, lastStart, b, false⟩ =
      takeToken ⟨.text .data, lastStart, b, false⟩ (.endTag (Builder.bareTag name)) := by
  rw [endWritten, List.foldl_append, foldl_take_of_passes (Lexer.passes_endLead h), List.foldl_cons,
    List.foldl_nil, take_tagEnd (.inl rfl), TagDraft.token_of_closeAttribute rfl, if_pos rfl]
  rfl

theorem foldl_take_scriptEnd {name : String} (hname : ∀ c ∈ name.toList, c.isLower)
    (hne : name.toList ≠ []) :
    (endWritten name).foldl take ⟨.text .script, name.toList, b, false⟩ =
      takeToken ⟨.text .data, name.toList, b, false⟩ (.endTag (Builder.bareTag name)) := by
  have hlower : name.toList.reverse.map Char.toLower = name.toList.reverse := by
    refine (List.map_congr_left fun c hc => toLower_of_isPlainLetter ?_).trans (List.map_id _)
    rw [isPlainLetter, hname c (List.mem_reverse.mp hc), Bool.true_or]
  have htoken : (TagDraft.ofRead true name [] [] []).token = .endTag (Builder.bareTag name) := by
    rw [TagDraft.token_of_closeAttribute rfl, if_pos rfl, Builder.bareTag]
  have hafter : Lexer.afterRawEndName? name.toList name.toList.reverse '>' =
      some (.emit [.endTag (Builder.bareTag name)] (.text .data)) := by
    rw [← htoken]
    simp [Lexer.afterRawEndName?, hlower, TagDraft.ofRead, TagDraft.empty, Lexer.data, isMarkupBlank]
  have hend (foreign : Bool) : Lexer.feed foreign name.toList Lexer.maxRetries
      (.rawEndName .script name.toList.reverse) '>' =
        ([.endTag (Builder.bareTag name)], .text .data) := by
    simp [Lexer.maxRetries, Lexer.feed, Lexer.step, Lexer.rawEndNameStep, hafter, Step.emit]
  rw [endWritten, List.foldl_append, foldl_take_of_passes (Lexer.passes_scriptEnd hname hne),
    List.foldl_cons, List.foldl_nil]
  simp [take, takeChar, hend]

theorem take_char {c : Char} (hless : c ≠ '<') (hand : c ≠ '&') (hreturn : c ≠ '\r') :
    take ⟨.text .data, lastStart, b, false⟩ c =
      takeToken ⟨.text .data, lastStart, b, false⟩ (.char c) := by
  have hstep (foreign : Bool) :
      Lexer.feed foreign lastStart Lexer.maxRetries (.text .data) c = ([.char c], .text .data) := by
    simp [Lexer.maxRetries, Lexer.feed, Lexer.step, Lexer.textStep, hless, hand, Step.emit, Lexer.data]
  simp [take, hreturn, takeChar, hstep]

end Reader

theorem withoutMark_of_head? {s : List Char} {c : Char} (hs : s.head? = some c) (hc : c ≠ '\ufeff') :
    withoutMark s = s := by
  obtain ⟨rest, rfl⟩ := List.head?_eq_some_iff.mp hs
  rw [withoutMark, if_neg hc]

namespace Builder

/-- The text, read as ordinary text, leads from one builder to another, and ordinary text goes on. -/
def Builds (b : Builder) (s : List Char) (c : Builder) : Prop :=
  ∀ lastStart, ∃ lastStart',
    s.foldl Reader.take ⟨.text .data, lastStart, b, false⟩ = ⟨.text .data, lastStart', c, false⟩

variable {b c d : Builder} {s t : List Char}

theorem Builds.nil (b : Builder) : b.Builds [] b :=
  fun lastStart => ⟨lastStart, rfl⟩

theorem Builds.append (h : b.Builds s c) (h' : c.Builds t d) : b.Builds (s ++ t) d := by
  intro lastStart
  obtain ⟨middle, hmiddle⟩ := h lastStart
  obtain ⟨lastStart', hlast⟩ := h' middle
  exact ⟨lastStart', Reader.foldl_take_append hmiddle hlast⟩

theorem takeToken_eq (token : Token) (hrequest : (b.read token).textRequest = none)
    (lastStart : List Char) :
    ∃ lastStart', Reader.takeToken ⟨.text .data, lastStart, b, false⟩ token =
      ⟨.text .data, lastStart', b.read token, false⟩ := by
  simp only [Reader.takeToken, hrequest]
  exact ⟨_, rfl⟩

theorem Builds.startTag {tag : Tag} (h : tag.IsPlain) (hread : b.read (.startTag tag) = c)
    (hrequest : c.textRequest = none) : b.Builds tag.written c := by
  intro lastStart
  rw [Reader.foldl_take_written h]
  exact hread ▸ takeToken_eq _ (hread ▸ hrequest) lastStart

theorem Builds.endTag {name : String} (h : IsPlainName name)
    (hread : b.read (.endTag (bareTag name)) = c) (hrequest : c.textRequest = none) :
    b.Builds (endWritten name) c := by
  intro lastStart
  rw [Reader.foldl_take_endWritten h]
  exact hread ▸ takeToken_eq _ (hread ▸ hrequest) lastStart

theorem Builds.char {a : Char} (hless : a ≠ '<') (hand : a ≠ '&') (hreturn : a ≠ '\r')
    (hread : b.read (.char a) = c) (hrequest : c.textRequest = none) : b.Builds [a] c := by
  intro lastStart
  rw [List.foldl_cons, List.foldl_nil, Reader.take_char hless hand hreturn]
  exact hread ▸ takeToken_eq _ (hread ▸ hrequest) lastStart

end Builder

end TorrentSearch.Markup
