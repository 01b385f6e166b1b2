import TorrentSearch.Proofs.Source.CarriedHash

/-!
# What the patterns capture

A pattern says what stands at the start of a text. Its first occurrence in a text is the leftmost one,
and of several captures there the shortest. The scans for the hash of a magnet link and for a quoted link
find the first occurrence of their patterns, and nothing only where the pattern occurs nowhere.
-/

namespace TorrentSearch

namespace Text

/-- What may stand at the start of a text, with what is captured of it. -/
abbrev Pattern := List Char → List Char → Prop

namespace Pattern

/-- The pattern occurs in the text behind the front. -/
def Occurs (p : Pattern) (s front capture : List Char) : Prop :=
  ∃ rest, s = front ++ rest ∧ p rest capture

/-- No occurrence begins further to the left, and none that begins here captures less. -/
structure IsFirst (p : Pattern) (s front capture : List Char) : Prop where
  occurs : p.Occurs s front capture
  leftmost : ∀ front' capture', p.Occurs s front' capture' → front.length ≤ front'.length
  shortest : ∀ capture', p.Occurs s front capture' → capture.length ≤ capture'.length

/-- The lead, then a stretch of a line, which is captured, then the stop. The stretch is not empty. -/
structure Stretch (lead stop s capture : List Char) : Prop where
  ne_nil : capture ≠ []
  line : '\n' ∉ capture
  stands : lead ++ capture ++ stop <+: s

/-- A quote, the lead and more, which are captured, then the next quote. -/
structure Quoted (quote : Char) (lead s capture : List Char) : Prop where
  more : ∃ body, capture = lead ++ body ∧ body ≠ [] ∧ quote ∉ body
  stands : quote :: (capture ++ [quote]) <+: s

variable {p : Pattern} {s front capture : List Char}

theorem occurs_nil_iff : p.Occurs s [] capture ↔ p s capture := by
  constructor
  · rintro ⟨rest, rfl, h⟩
    exact h
  · intro h
    exact ⟨s, rfl, h⟩

theorem occurs_cons_iff {c d : Char} :
    p.Occurs (c :: s) (d :: front) capture ↔ d = c ∧ p.Occurs s front capture := by
  constructor
  · rintro ⟨rest, hs, h⟩
    obtain ⟨rfl, rfl⟩ := List.cons.inj hs
    exact ⟨rfl, rest, rfl, h⟩
  · rintro ⟨rfl, rest, rfl, h⟩
    exact ⟨rest, rfl, h⟩

/-- A function that finds the shortest capture at the start of a text wherever there is one. -/
structure IsFoundBy (p : Pattern) (find? : List Char → Option (List Char)) : Prop where
  fits : ∀ {s capture}, find? s = some capture → p s capture
  shortest : ∀ {s capture other}, find? s = some capture → p s other → capture.length ≤ other.length
  complete : ∀ {s other}, p s other → find? s ≠ none
  /-- A capture is a part of the text and so is told by its length. -/
  eq_of_length : ∀ {s capture other}, p s capture → p s other → capture.length = other.length →
    capture = other

/-- The capture at the leftmost place where there is one. -/
def leftmost? (find? : List Char → Option (List Char)) : List Char → Option (List Char)
  | [] => none
  | c :: r => (find? (c :: r)).or (leftmost? find? r)

variable {find? : List Char → Option (List Char)}

/-- From left to right: either the pattern fits here, or its first occurrence is that in the rest. -/
theorem IsFoundBy.leftmost?_eq_some_iff (h : p.IsFoundBy find?) (hnil : ∀ capture, ¬ p [] capture) :
    leftmost? find? s = some capture ↔ ∃ front, p.IsFirst s front capture := by
  induction s with
  | nil =>
    simp only [leftmost?, reduceCtorEq, false_iff, not_exists]
    rintro front ⟨⟨rest, hs, hp⟩, -, -⟩
    obtain ⟨-, rfl⟩ := List.append_eq_nil_iff.mp hs.symm
    exact hnil capture hp
  | cons c r ih =>
    cases hhere : find? (c :: r) with
    | some found =>
      simp only [leftmost?, hhere, Option.some_or, Option.some.injEq]
      have hfound := h.fits hhere
      constructor
      · rintro rfl
        refine ⟨[], occurs_nil_iff.mpr hfound, fun _ _ _ => Nat.zero_le _, fun other hother => ?_⟩
        exact h.shortest hhere (occurs_nil_iff.mp hother)
      · rintro ⟨front, hoccurs, hleft, hshort⟩
        have hstart : front = [] :=
          List.length_eq_zero_iff.mp (Nat.le_zero.mp (hleft [] found (occurs_nil_iff.mpr hfound)))
        subst hstart
        have hcapture := occurs_nil_iff.mp hoccurs
        exact h.eq_of_length hfound hcapture
          (Nat.le_antisymm (h.shortest hhere hcapture) (hshort found (occurs_nil_iff.mpr hfound)))
    | none =>
      simp only [leftmost?, hhere, Option.none_or, ih]
      have hnone : ∀ capture, ¬ p.Occurs (c :: r) [] capture := fun capture hoccurs =>
        h.complete (occurs_nil_iff.mp hoccurs) hhere
      constructor
      · rintro ⟨front, hoccurs, hleft, hshort⟩
        refine ⟨c :: front, occurs_cons_iff.mpr ⟨rfl, hoccurs⟩, fun front' other hother => ?_,
          fun other hother => hshort other (occurs_cons_iff.mp hother).2⟩
        cases front' with
        | nil => exact absurd hother (hnone other)
        | cons d front' =>
          exact Nat.succ_le_succ (hleft front' other (occurs_cons_iff.mp hother).2)
      · rintro ⟨front, hoccurs, hleft, hshort⟩
        cases front with
        | nil => exact absurd hoccurs (hnone capture)
        | cons d front =>
          obtain ⟨rfl, hrest⟩ := occurs_cons_iff.mp hoccurs
          refine ⟨front, hrest, fun front' other hother => ?_,
            fun other hother => hshort other (occurs_cons_iff.mpr ⟨rfl, hother⟩)⟩
          exact Nat.le_of_succ_le_succ
            (hleft (d :: front') other (occurs_cons_iff.mpr ⟨rfl, hother⟩))

theorem IsFoundBy.leftmost?_eq_none_iff (h : p.IsFoundBy find?) (hnil : ∀ capture, ¬ p [] capture) :
    leftmost? find? s = none ↔ ∀ front capture, ¬ p.Occurs s front capture := by
  induction s with
  | nil =>
    simp only [leftmost?, true_iff]
    rintro front capture ⟨rest, hs, hp⟩
    obtain ⟨-, rfl⟩ := List.append_eq_nil_iff.mp hs.symm
    exact hnil capture hp
  | cons c r ih =>
    simp only [leftmost?, Option.or_eq_none_iff, ih]
    constructor
    · rintro ⟨hhere, hrest⟩ front capture hoccurs
      cases front with
      | nil => exact h.complete (occurs_nil_iff.mp hoccurs) hhere
      | cons d front => exact hrest front capture (occurs_cons_iff.mp hoccurs).2
    · intro hnone
      refine ⟨Option.eq_none_iff_forall_ne_some.mpr fun capture hhere => ?_,
        fun front capture hoccurs => ?_⟩
      · exact hnone [] capture (occurs_nil_iff.mpr (h.fits hhere))
      · exact hnone (c :: front) capture (occurs_cons_iff.mpr ⟨rfl, hoccurs⟩)

end Pattern

section Stretch

variable {lead stop s capture other : List Char}

theorem not_mem_of_stretchTo? (h : stretchTo? stop s = some capture) : '\n' ∉ capture := by
  induction s generalizing capture with
  | nil =>
    simp only [stretchTo?] at h
    split at h
    · cases h
      exact List.not_mem_nil
    · cases h
  | cons c r ih =>
    simp only [stretchTo?] at h
    split at h
    · cases h
      exact List.not_mem_nil
    · split at h
      · cases h
      · rename_i hc
        obtain ⟨rest, hrest, rfl⟩ := Option.map_eq_some_iff.mp h
        rw [List.mem_cons, not_or]
        exact ⟨Ne.symm hc, ih hrest⟩

/-- Where a stretch of the line ends with the stop, a stretch is found that is no longer. -/
theorem exists_stretchTo?_of_isPrefix (hline : '\n' ∉ other) (h : other ++ stop <+: s) :
    ∃ capture, stretchTo? stop s = some capture ∧ capture.length ≤ other.length := by
  induction other generalizing s with
  | nil =>
    rw [List.nil_append] at h
    refine ⟨[], ?_, Nat.le_refl 0⟩
    cases s with
    | nil => rw [stretchTo?, if_pos (List.isEmpty_iff.mpr (List.prefix_nil.mp h))]
    | cons c r => rw [stretchTo?, if_pos (List.isPrefixOf_iff_prefix.mpr h)]
  | cons d other ih =>
    rw [List.mem_cons, not_or] at hline
    cases s with
    | nil => cases List.prefix_nil.mp h
    | cons c r =>
      obtain ⟨rfl, hrest⟩ := List.cons_prefix_cons.mp h
      obtain ⟨capture, hcapture, hle⟩ := ih hline.2 hrest
      by_cases hhere : stop.isPrefixOf (d :: r) = true
      · exact ⟨[], by rw [stretchTo?, if_pos hhere], Nat.zero_le _⟩
      · refine ⟨d :: capture, ?_, Nat.succ_le_succ hle⟩
        rw [stretchTo?, if_neg hhere, if_neg (Ne.symm hline.1), hcapture, Option.map_some]

theorem line_of_nonemptyStretchTo? (h : nonemptyStretchTo? stop s = some capture) :
    capture ≠ [] ∧ '\n' ∉ capture := by
  cases s with
  | nil => cases h
  | cons c r =>
    simp only [nonemptyStretchTo?] at h
    split at h
    · cases h
    · rename_i hc
      obtain ⟨rest, hrest, rfl⟩ := Option.map_eq_some_iff.mp h
      rw [List.mem_cons, not_or]
      exact ⟨List.cons_ne_nil c rest, Ne.symm hc, not_mem_of_stretchTo? hrest⟩

theorem exists_nonemptyStretchTo?_of_isPrefix (hne : other ≠ []) (hline : '\n' ∉ other)
    (h : other ++ stop <+: s) :
    ∃ capture, nonemptyStretchTo? stop s = some capture ∧ capture.length ≤ other.length := by
  cases other with
  | nil => exact absurd rfl hne
  | cons d other =>
    rw [List.mem_cons, not_or] at hline
    cases s with
    | nil => cases List.prefix_nil.mp h
    | cons c r =>
      obtain ⟨rfl, hrest⟩ := List.cons_prefix_cons.mp h
      obtain ⟨capture, hcapture, hle⟩ := exists_stretchTo?_of_isPrefix hline.2 hrest
      refine ⟨d :: capture, ?_, Nat.succ_le_succ hle⟩
      rw [nonemptyStretchTo?, if_neg (Ne.symm hline.1), hcapture, Option.map_some]

/-- The stretch behind a lead at the start of a text. -/
def stretchBehind? (lead stop s : List Char) : Option (List Char) :=
  if lead.isPrefixOf s then nonemptyStretchTo? stop (s.drop lead.length) else none

theorem lazyCapture?_eq_leftmost? (lead stop s : List Char) :
    lazyCapture? lead stop s = Pattern.leftmost? (stretchBehind? lead stop) s := by
  induction s with
  | nil => rfl
  | cons c r ih =>
    rw [Pattern.leftmost?, ← ih, stretchBehind?, lazyCapture?]
    generalize (if lead.isPrefixOf (c :: r) then
      nonemptyStretchTo? stop ((c :: r).drop lead.length) else none) = here
    cases here <;> rfl

theorem stretchBehind?_append (lead stop s : List Char) :
    stretchBehind? lead stop (lead ++ s) = nonemptyStretchTo? stop s := by
  rw [stretchBehind?, if_pos (List.isPrefixOf_iff_prefix.mpr (List.prefix_append lead s)),
    List.drop_left]

namespace Pattern

theorem Stretch.of_stretchBehind? (h : stretchBehind? lead stop s = some capture) :
    Stretch lead stop s capture := by
  unfold stretchBehind? at h
  split at h
  · rename_i hlead
    obtain ⟨rest, rfl⟩ := List.isPrefixOf_iff_prefix.mp hlead
    rw [List.drop_left] at h
    obtain ⟨hne, hline⟩ := line_of_nonemptyStretchTo? h
    refine ⟨hne, hline, ?_⟩
    rw [List.append_assoc]
    exact (List.prefix_append_right_inj lead).mpr (nonemptyStretchTo?_isPrefix h)
  · cases h

theorem Stretch.exists_stretchBehind? (h : Stretch lead stop s other) :
    ∃ capture, stretchBehind? lead stop s = some capture ∧ capture.length ≤ other.length := by
  obtain ⟨rest, hrest⟩ := h.stands
  rw [List.append_assoc, List.append_assoc] at hrest
  have hbehind : other ++ stop <+: other ++ (stop ++ rest) :=
    (List.prefix_append_right_inj other).mpr (List.prefix_append stop rest)
  rw [← hrest, stretchBehind?_append]
  exact exists_nonemptyStretchTo?_of_isPrefix h.ne_nil h.line hbehind

theorem Stretch.eq_of_length (h : Stretch lead stop s capture) (h' : Stretch lead stop s other)
    (hlength : capture.length = other.length) : capture = other := by
  have hcapture := (List.prefix_append (lead ++ capture) stop).trans h.stands
  have hother := (List.prefix_append (lead ++ other) stop).trans h'.stands
  have hsame : lead ++ capture = lead ++ other := by
    apply (List.prefix_of_prefix_length_le hcapture hother _).eq_of_length
    · rw [List.length_append, List.length_append, hlength]
    · rw [List.length_append, List.length_append, hlength]
  exact List.append_cancel_left hsame

theorem isFoundBy_stretchBehind? (lead stop : List Char) :
    IsFoundBy (Stretch lead stop) (stretchBehind? lead stop) where
  fits := Stretch.of_stretchBehind?
  shortest h hother := by
    obtain ⟨capture, hcapture, hle⟩ := hother.exists_stretchBehind?
    rw [h, Option.some.injEq] at hcapture
    exact hcapture ▸ hle
  complete hother hnone := by
    obtain ⟨capture, hcapture, -⟩ := hother.exists_stretchBehind?
    rw [hnone] at hcapture
    cases hcapture
  eq_of_length := Stretch.eq_of_length

end Pattern

end Stretch

section Quoted

variable {quote : Char} {lead s body capture other : List Char}

theorem stretchToQuote?_append (hquote : quote ∉ body) (rest : List Char) :
    stretchToQuote? quote (body ++ quote :: rest) = if body = [] then none else some body := by
  have hbody : (body ++ quote :: rest).takeWhile (· ≠ quote) = body := by
    rw [List.takeWhile_append_of_pos, List.takeWhile_cons_of_neg (by simp), List.append_nil]
    intro c hc
    exact decide_eq_true fun heq => hquote (heq ▸ hc)
  have hlength : body.length ≠ (body ++ quote :: rest).length := by
    rw [List.length_append, List.length_cons]
    omega
  simp only [stretchToQuote?, hbody, hlength, decide_false, Bool.or_false, List.isEmpty_iff]

theorem stretchToQuote?_of_not_mem (hquote : quote ∉ s) : stretchToQuote? quote s = none := by
  have hall : s.takeWhile (· ≠ quote) = s := by
    rw [List.takeWhile_eq_self_iff]
    intro c hc
    exact decide_eq_true fun heq => hquote (heq ▸ hc)
  simp only [stretchToQuote?, hall, decide_true, Bool.or_true, if_true]

theorem stretchToQuote?_eq_some_iff :
    stretchToQuote? quote s = some body ↔ body ≠ [] ∧ quote ∉ body ∧ body ++ [quote] <+: s := by
  constructor
  · intro h
    by_cases hmem : quote ∈ s
    · obtain ⟨front, back, rfl, hfront⟩ := List.eq_append_cons_of_mem hmem
      rw [stretchToQuote?_append hfront] at h
      split at h
      · cases h
      · rename_i hne
        obtain rfl := Option.some.inj h
        exact ⟨hne, hfront, back, by rw [List.append_assoc, List.singleton_append]⟩
    · rw [stretchToQuote?_of_not_mem hmem] at h
      cases h
  · rintro ⟨hne, hquote, rest, rfl⟩
    rw [List.append_assoc, List.singleton_append, stretchToQuote?_append hquote, if_neg hne]

/-- The text between a quote at the start of a text and the next one, if it begins with the lead. -/
def quotedHere? (quote : Char) (lead : List Char) : List Char → Option (List Char)
  | [] => none
  | c :: r =>
    if c = quote ∧ lead.isPrefixOf r then
      (stretchToQuote? quote (r.drop lead.length)).map (lead ++ ·)
    else none

theorem quotedCapture?_eq_leftmost? (quote : Char) (lead s : List Char) :
    quotedCapture? quote lead s = Pattern.leftmost? (quotedHere? quote lead) s := by
  induction s with
  | nil => rfl
  | cons c r ih =>
    rw [Pattern.leftmost?, ← ih, quotedHere?, quotedCapture?]
    generalize (if c = quote ∧ lead.isPrefixOf r then
      (stretchToQuote? quote (r.drop lead.length)).map (lead ++ ·) else none) = here
    cases here <;> rfl

namespace Pattern

theorem quotedHere?_eq_some_iff :
    quotedHere? quote lead s = some capture ↔ Quoted quote lead s capture := by
  constructor
  · intro h
    cases s with
    | nil => cases h
    | cons c r =>
      simp only [quotedHere?] at h
      split at h
      · rename_i hlead
        obtain ⟨rfl, hlead⟩ := hlead
        obtain ⟨rest, rfl⟩ := List.isPrefixOf_iff_prefix.mp hlead
        rw [List.drop_left] at h
        obtain ⟨body, hbody, rfl⟩ := Option.map_eq_some_iff.mp h
        obtain ⟨hne, hquote, hstands⟩ := stretchToQuote?_eq_some_iff.mp hbody
        refine ⟨⟨body, rfl, hne, hquote⟩, List.cons_prefix_cons.mpr ⟨rfl, ?_⟩⟩
        rw [List.append_assoc]
        exact (List.prefix_append_right_inj lead).mpr hstands
      · cases h
  · rintro ⟨⟨body, rfl, hne, hquote⟩, rest, rfl⟩
    have hlead : lead <+: lead ++ (body ++ quote :: rest) := List.prefix_append lead _
    simp only [List.cons_append, List.append_assoc, List.nil_append]
    rw [quotedHere?, if_pos ⟨rfl, List.isPrefixOf_iff_prefix.mpr hlead⟩, List.drop_left,
      stretchToQuote?_append hquote, if_neg hne, Option.map_some]

theorem Quoted.eq (h : Quoted quote lead s capture) (h' : Quoted quote lead s other) :
    capture = other := by
  have hfound := quotedHere?_eq_some_iff.mpr h
  rwa [quotedHere?_eq_some_iff.mpr h', Option.some.injEq, eq_comm] at hfound

theorem isFoundBy_quotedHere? (quote : Char) (lead : List Char) :
    IsFoundBy (Quoted quote lead) (quotedHere? quote lead) where
  fits := quotedHere?_eq_some_iff.mp
  shortest h hother := by rw [(quotedHere?_eq_some_iff.mp h).eq hother]
  complete hother hnone := by
    rw [quotedHere?_eq_some_iff.mpr hother] at hnone
    cases hnone
  eq_of_length h h' _ := h.eq h'

theorem isFirst_quoted {front back : List Char} (hfront : quote ∉ front) (hbody : body ≠ [])
    (hquote : quote ∉ body) :
    IsFirst (Quoted quote lead) (front ++ quote :: (lead ++ body ++ quote :: back)) front
      (lead ++ body) := by
  have hhere : Quoted quote lead (quote :: (lead ++ body ++ quote :: back)) (lead ++ body) :=
    ⟨⟨body, rfl, hbody, hquote⟩, back, by simp⟩
  refine ⟨⟨_, rfl, hhere⟩, fun front' other hother => ?_, fun other hother => ?_⟩
  · obtain ⟨rest, hs, hfits⟩ := hother
    obtain ⟨more, rfl⟩ := hfits.stands
    refine Nat.le_of_not_lt fun hlt => hfront ?_
    have hat := congrArg (·[front'.length]?) hs
    simp only [List.getElem?_append_left hlt, List.cons_append] at hat
    rw [List.getElem?_append_right (Nat.le_refl _), Nat.sub_self] at hat
    exact List.mem_of_getElem? hat
  · obtain ⟨rest, hs, hfits⟩ := hother
    obtain rfl := List.append_cancel_left hs
    rw [hhere.eq hfits]

end Pattern

end Quoted

end Text

open Text.Pattern

/-- What ends the hash in each form of links. -/
def Magnet.Strategy.separator : Strategy → List Char
  | plain => "&".toList
  | escaped => "\\x26dn=".toList

theorem Magnet.Strategy.rawHash?_eq (strategy : Strategy) (magnet : List Char) :
    strategy.rawHash? magnet =
      leftmost? (Text.stretchBehind? "btih:".toList strategy.separator) magnet := by
  cases strategy <;> exact Text.lazyCapture?_eq_leftmost? ..

section Links

variable {strategy : Magnet.Strategy} {page found magnet title : String} {raw hash : List Char}

theorem Text.Pattern.not_stretch_nil {lead stop capture : List Char} :
    ¬ Stretch lead stop [] capture := by
  rintro ⟨hne, -, hstands⟩
  have hparts := List.prefix_nil.mp hstands
  simp only [List.append_eq_nil_iff] at hparts
  exact hne hparts.1.2

theorem Text.Pattern.not_quoted_nil {quote : Char} {lead capture : List Char} :
    ¬ Quoted quote lead [] capture := fun h => List.cons_ne_nil _ _ (List.prefix_nil.mp h.stands)

theorem Page.magnet?_eq_some_iff :
    magnet? page = some found ↔
      ∃ front, IsFirst (Quoted '\'' "magnet:?".toList) page.toList front found.toList := by
  rw [← (isFoundBy_quotedHere? '\'' "magnet:?".toList).leftmost?_eq_some_iff fun _ => not_quoted_nil,
    ← Text.quotedCapture?_eq_leftmost?, magnet?, Option.map_eq_some_iff]
  constructor
  · rintro ⟨chars, hchars, rfl⟩
    rw [hchars, String.toList_ofList]
  · intro h
    exact ⟨found.toList, h, String.ofList_toList⟩

theorem Page.magnet?_eq_none_iff :
    magnet? page = none ↔
      ∀ front found, ¬ Occurs (Quoted '\'' "magnet:?".toList) page.toList front found := by
  rw [← (isFoundBy_quotedHere? _ _).leftmost?_eq_none_iff fun _ => not_quoted_nil,
    ← Text.quotedCapture?_eq_leftmost?, magnet?, Option.map_eq_none_iff]

namespace Magnet.Strategy

theorem rawHash?_eq_some_iff :
    strategy.rawHash? magnet.toList = some raw ↔
      ∃ front, IsFirst (Stretch "btih:".toList strategy.separator) magnet.toList front raw := by
  rw [rawHash?_eq, (isFoundBy_stretchBehind? _ _).leftmost?_eq_some_iff fun _ => not_stretch_nil]

theorem rawHash?_eq_none_iff :
    strategy.rawHash? magnet.toList = none ↔
      ∀ front raw, ¬ Occurs (Stretch "btih:".toList strategy.separator) magnet.toList front raw := by
  rw [rawHash?_eq, (isFoundBy_stretchBehind? _ _).leftmost?_eq_none_iff fun _ => not_stretch_nil]

theorem extract?_of_refused (h : (strategy.rawHash? magnet.toList).bind canonicalHash? = none) :
    strategy.extract? magnet title = none := by
  rw [extract?, h]

theorem extract?_plain (hraw : plain.rawHash? magnet.toList = some raw)
    (hhash : canonicalHash? raw = some hash) :
    plain.extract? magnet title = some ⟨String.ofList hash, magnet⟩ := by
  rw [extract?, hraw, Option.bind_some, hhash]

theorem exists_rawHash_of_extract? {extracted : Extracted}
    (h : strategy.extract? magnet title = some extracted) :
    ∃ raw hash, strategy.rawHash? magnet.toList = some raw ∧ canonicalHash? raw = some hash ∧
      extracted.infoHash = String.ofList hash := by
  cases hbind : (strategy.rawHash? magnet.toList).bind canonicalHash? with
  | none =>
    rw [extract?_of_refused hbind] at h
    cases h
  | some hash =>
    obtain ⟨raw, hraw, hhash⟩ := Option.bind_eq_some_iff.mp hbind
    refine ⟨raw, hash, hraw, hhash, ?_⟩
    simp only [extract?, hbind] at h
    cases strategy with
    | plain =>
      cases h
      rfl
    | escaped =>
      obtain ⟨tail, -, rfl⟩ := Option.map_eq_some_iff.mp h
      rfl

end Magnet.Strategy

end Links

/-- A link in a page is the first text in single quotes that begins as magnet links do and goes on, over
any number of lines. What stands for the hash of a link is the first stretch, at least one character of a
line, between `btih:` and the separator, with which it may begin. Where there is no such text or stretch,
nothing is found. A strategy stands or falls with its first stretch: that is the hash of whatever it
gives, and if it is no hash nothing is given, whatever follows. -/
theorem captures_are_first :
    (∀ page found, Page.magnet? page = some found ↔
      ∃ front, IsFirst (Quoted '\'' "magnet:?".toList) page.toList front found.toList) ∧
    (∀ page, Page.magnet? page = none ↔
      ∀ front found, ¬ Occurs (Quoted '\'' "magnet:?".toList) page.toList front found) ∧
    ∀ (strategy : Magnet.Strategy) (magnet : String),
      let stretch := Stretch "btih:".toList strategy.separator
      (∀ raw, strategy.rawHash? magnet.toList = some raw ↔
        ∃ front, IsFirst stretch magnet.toList front raw) ∧
      (strategy.rawHash? magnet.toList = none ↔ ∀ front raw, ¬ Occurs stretch magnet.toList front raw) ∧
      (∀ front raw title, IsFirst stretch magnet.toList front raw → Magnet.canonicalHash? raw = none →
        strategy.extract? magnet title = none) ∧
      (∀ title extracted, strategy.extract? magnet title = some extracted →
        ∃ front raw hash, IsFirst stretch magnet.toList front raw ∧
          Magnet.canonicalHash? raw = some hash ∧ extracted.infoHash = String.ofList hash) ∧
      (strategy = .plain → ∀ front raw hash title, IsFirst stretch magnet.toList front raw →
        Magnet.canonicalHash? raw = some hash →
        strategy.extract? magnet title = some ⟨String.ofList hash, magnet⟩) := by
  refine ⟨fun _ _ => Page.magnet?_eq_some_iff, fun _ => Page.magnet?_eq_none_iff, ?_⟩
  intro strategy magnet stretch
  have hfound (raw : List Char) : strategy.rawHash? magnet.toList = some raw ↔
      ∃ front, IsFirst stretch magnet.toList front raw := Magnet.Strategy.rawHash?_eq_some_iff
  refine ⟨hfound, Magnet.Strategy.rawHash?_eq_none_iff, ?_, ?_, ?_⟩
  · intro front raw title hfirst hrefused
    apply Magnet.Strategy.extract?_of_refused
    rw [(hfound raw).mpr ⟨front, hfirst⟩, Option.bind_some, hrefused]
  · intro title extracted h
    obtain ⟨raw, hash, hraw, hhash, hinfo⟩ := Magnet.Strategy.exists_rawHash_of_extract? h
    obtain ⟨front, hfirst⟩ := (hfound raw).mp hraw
    exact ⟨front, raw, hash, hfirst, hhash, hinfo⟩
  · rintro rfl front raw hash title hfirst hhash
    exact Magnet.Strategy.extract?_plain ((hfound raw).mpr ⟨front, hfirst⟩) hhash

example : Magnet.Strategy.plain.rawHash? "btih:&&btih:ab\nbtih:cd&".toList = some ['&'] := by decide

end TorrentSearch
