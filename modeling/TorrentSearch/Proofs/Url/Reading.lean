import TorrentSearch.Proofs.Url.Authority

/-!
# What is put behind a URL

The text of a URL of a web page, without slashes at its end, is put before a slash and something more.
What is read then has the scheme and the authority of that URL, unless a control character or a space
stands right behind its authority: it did not count at the end of the text, and now it does.
-/

namespace TorrentSearch.Url

open Text (dropEndWhile splitAtEach)

theorem isControlOrSpace_of_isLineSpace {c : Char} (h : isLineSpace c = true) :
    isControlOrSpace c = true := by
  simp only [isLineSpace, Bool.or_eq_true, decide_eq_true_eq] at h
  rcases h with (rfl | rfl) | rfl <;> decide

theorem isLineSpace_of_visible {c : Char} (h : isControlOrSpace c = false) :
    isLineSpace c = false := by
  cases hline : isLineSpace c with
  | false => rfl
  | true => rw [isControlOrSpace_of_isLineSpace hline] at h; cases h

/-- What counts of a text with more behind it. -/
def cleanFront (s : List Char) : List Char :=
  (s.dropWhile isControlOrSpace).filter fun c => !isLineSpace c

/-- What counts of a text with more before it. -/
def cleanEnd (s : List Char) : List Char :=
  (dropEndWhile isControlOrSpace s).filter fun c => !isLineSpace c

theorem clean_append_cons {c : Char} (hc : isControlOrSpace c = false) (s t : List Char) :
    clean (s ++ c :: t) = cleanFront s ++ c :: cleanEnd t := by
  rw [clean, Text.stripWhile, Text.dropWhile_append_cons hc, Text.dropEndWhile_append_cons hc,
    List.filter_append, List.filter_cons_of_pos (by simp [isLineSpace_of_visible hc])]
  rfl

theorem cleanFront_append {t : List Char} (ht : ∀ c ∈ t, isControlOrSpace c = false)
    (s : List Char) : cleanFront (s ++ t) = cleanFront s ++ t := by
  have hfilter : t.filter (fun c => !isLineSpace c) = t :=
    List.filter_eq_self.mpr fun c hc => by rw [isLineSpace_of_visible (ht c hc)]; rfl
  unfold cleanFront
  rw [List.dropWhile_append]
  split
  · rename_i hempty
    rw [List.isEmpty_iff.mp hempty, List.filter_nil, List.nil_append]
    cases t with
    | nil => rfl
    | cons c t => rw [List.dropWhile_cons_of_neg (by simp [ht]), hfilter]
  · rw [List.filter_append, hfilter]

/-- The control characters and spaces that are left out at the end of a text, but for tabs and line
breaks. -/
def blankTail (s : List Char) : List Char :=
  ((s.dropWhile isControlOrSpace).rtakeWhile isControlOrSpace).filter fun c => !isLineSpace c

theorem isControlOrSpace_of_mem_blankTail {s : List Char} {c : Char} (hc : c ∈ blankTail s) :
    isControlOrSpace c = true :=
  List.mem_rtakeWhile_imp (List.mem_of_mem_filter hc)

theorem cleanFront_eq (s : List Char) : cleanFront s = clean s ++ blankTail s := by
  rw [clean, blankTail, ← List.filter_append, Text.stripWhile, Text.dropEndWhile_eq_rdropWhile,
    List.rdropWhile_append_rtakeWhile, cleanFront]

/-- Without slashes at its end a text counts as before, except that control characters and spaces now
count at its end, if there were no slashes. -/
theorem cleanFront_trimmed (base : List Char) :
    ∃ slashes, cleanFront (dropEndWhile (· = '/') base) ++ slashes = clean base ++ blankTail base ∧
      (∀ c ∈ slashes, c = '/') ∧ (slashes = [] ∨ blankTail base = []) := by
  obtain ⟨slashes, hbase, hslashes⟩ := Text.exists_eq_dropEndWhile_append (· = '/') base
  have hslashes : ∀ c ∈ slashes, c = '/' := fun c hc => of_decide_eq_true (hslashes c hc)
  generalize dropEndWhile (· = '/') base = trimmed at hbase ⊢
  have hvisible : ∀ c ∈ slashes, isControlOrSpace c = false := by
    intro c hc
    rw [hslashes c hc]
    decide
  refine ⟨slashes, ?_, hslashes, ?_⟩
  · rw [← cleanFront_eq, hbase, cleanFront_append hvisible]
  · rcases List.eq_nil_or_concat' slashes with rfl | ⟨front, last, rfl⟩
    · exact .inl rfl
    · have hlast : isControlOrSpace last = false := hvisible last (by simp)
      refine .inr ?_
      rw [blankTail, hbase, ← List.append_assoc, Text.dropWhile_append_cons hlast,
        List.rtakeWhile_concat_neg _ _ _ (by simp [hlast]), List.filter_nil]

theorem scheme?_eq_some_iff {s scheme rest : List Char} :
    scheme? s = some (scheme, rest) ↔
      ∃ name, s = name ++ ':' :: rest ∧ (∀ c ∈ name, isSchemeChar c = true) ∧
        name.head?.any Char.isAlpha = true ∧ scheme = name.map Char.toLower := by
  unfold scheme?
  dsimp only
  rw [Text.drop_length_takeWhile]
  constructor
  · intro h
    split at h
    · rename_i behind hbehind
      split at h
      · rename_i halpha
        cases h
        refine ⟨s.takeWhile isSchemeChar, ?_, fun c hc => List.mem_takeWhile_imp hc, halpha, rfl⟩
        rw [← hbehind, List.takeWhile_append_dropWhile]
      · cases h
    · cases h
  · rintro ⟨name, rfl, hname, halpha, rfl⟩
    have hcolon : ¬isSchemeChar ':' = true := by decide
    rw [List.takeWhile_append_of_pos hname, List.takeWhile_cons_of_neg hcolon, List.append_nil,
      List.dropWhile_append_of_pos hname, List.dropWhile_cons_of_neg hcolon]
    exact if_pos halpha

theorem scheme_of_parse {s : List Char} {u : Url} (h : parse s = .ok u) :
    ∃ rest, scheme? (clean s) = some (u.scheme, rest) := by
  unfold parse at h
  split at h
  · cases h
  · rename_i scheme rest hscheme
    suffices u.scheme = scheme from ⟨rest, this ▸ hscheme⟩
    split at h
    · unfold parseForeign parseAuthority at h
      split at h
      · obtain ⟨_, _, h⟩ := exists_of_bind_eq_ok h
        cases h
        rfl
      · cases h
        rfl
    · unfold parseFile parseFile.withoutHost at h
      split at h
      · split at h
        · dsimp only at h
          split at h
          · cases h
            rfl
          · split at h
            · cases h
              rfl
            · obtain ⟨_, _, h⟩ := exists_of_bind_eq_ok h
              cases h
              rfl
        · cases h
          rfl
      · cases h
        rfl
    · unfold parseAuthority at h
      obtain ⟨_, _, h⟩ := exists_of_bind_eq_ok h
      cases h
      rfl

theorem scheme_of_parse_append {name rest : List Char} {u : Url} (hfront : cleanFront name = name)
    (hname : ∀ c ∈ name, isSchemeChar c = true) (halpha : name.head?.any Char.isAlpha = true)
    (h : parse (name ++ ':' :: rest) = .ok u) : u.scheme = name.map Char.toLower := by
  obtain ⟨behind, hscheme⟩ := scheme_of_parse h
  have hread : scheme? (name ++ ':' :: cleanEnd rest) = some (name.map Char.toLower, cleanEnd rest) :=
    scheme?_eq_some_iff.mpr ⟨name, rfl, hname, halpha, rfl⟩
  rw [clean_append_cons (by decide), hfront, hread] at hscheme
  exact (congrArg Prod.fst (Option.some.inj hscheme)).symm

theorem kind_of_isHttp {u : Url} (h : u.isHttp = true) :
    ∃ own, SchemeKind.of u.scheme = .network own := by
  simp only [isHttp, Bool.or_eq_true, decide_eq_true_eq] at h
  rcases h with h | h <;> rw [h]
  · exact ⟨80, rfl⟩
  · exact ⟨443, rfl⟩

/-- A character of the text between the slashes behind a scheme and the path. -/
def inAuthority (c : Char) : Bool :=
  !endsAuthority true c

/-- What is read with an authority and the text behind it. -/
def readBehind (scheme : List Char) (kind : SchemeKind) (a : Authority) (s : List Char) : Url :=
  let (before, query, fragment) := splitTail s
  assemble scheme (some a) (pathBehindAuthority kind before) query fragment

theorem inAuthority_of_invisible {c : Char} (hc : isControlOrSpace c = true) :
    inAuthority c = true := by
  by_contra hend
  simp only [inAuthority, endsAuthority, isSlash, Bool.true_and, Bool.not_eq_true',
    Bool.or_eq_false_iff, decide_eq_false_iff_not, not_and_or, not_not] at hend
  rcases hend with ((rfl | rfl) | rfl) | rfl <;> cases hc

theorem parseAuthority_network (scheme : List Char) (own : Nat) (s : List Char) :
    parseAuthority scheme (.network own) s =
      (authority? (.network own) (s.takeWhile inAuthority) true).map fun a =>
        readBehind scheme (.network own) a.1 (s.dropWhile inAuthority) := by
  have hin : (fun c => !endsAuthority (SchemeKind.network own).isSpecial c) = inAuthority := rfl
  unfold parseAuthority
  dsimp only
  rw [authority?_isLast, Text.drop_length_takeWhile, hin]
  cases hread : authority? (.network own) (s.takeWhile inAuthority) true with
  | error e => rfl
  | ok result =>
    obtain ⟨a, more⟩ := result
    have hno : '\\' ∉ s.takeWhile inAuthority := fun hmem =>
      absurd (List.mem_takeWhile_imp hmem) (by decide)
    rw [rest_of_authority? hno hread]
    rfl

theorem parse_of_scheme {s scheme rest : List Char} {own : Nat}
    (hscheme : scheme? (clean s) = some (scheme, rest)) (hkind : SchemeKind.of scheme = .network own) :
    parse s = parseAuthority scheme (.network own) (rest.dropWhile (isSlash true)) := by
  unfold parse
  rw [hscheme]
  dsimp only
  rw [hkind]

/-- A URL of a web page has a scheme, slashes or not, an authority, and what stands behind it. -/
theorem exists_read_of_parse {s : List Char} {u : Url} (h : parse s = .ok u)
    (hhttp : u.isHttp = true) :
    ∃ rest own a, scheme? (clean s) = some (u.scheme, rest) ∧
      SchemeKind.of u.scheme = .network own ∧
      authority? (.network own) ((rest.dropWhile (isSlash true)).takeWhile inAuthority) true = .ok a ∧
      u = readBehind u.scheme (.network own) a.1
        ((rest.dropWhile (isSlash true)).dropWhile inAuthority) := by
  obtain ⟨rest, hscheme⟩ := scheme_of_parse h
  obtain ⟨own, hkind⟩ := kind_of_isHttp hhttp
  rw [parse_of_scheme hscheme hkind, parseAuthority_network] at h
  cases hread : authority? (.network own)
      ((rest.dropWhile (isSlash true)).takeWhile inAuthority) true with
  | error e =>
    rw [hread] at h
    cases h
  | ok a =>
    rw [hread] at h
    exact ⟨rest, own, a, hscheme, hkind, hread, (Except.ok.inj h).symm⟩

theorem exists_eq_append_cons {α : Type} {x : α} {s t u v : List α} (hx : x ∉ v)
    (h : s ++ v = t ++ x :: u) : ∃ w, s = t ++ x :: w ∧ w ++ v = u := by
  rcases List.append_eq_append_iff.mp h with ⟨w, -, hv⟩ | ⟨w, hs, hu⟩
  · exact absurd (by rw [hv]; simp) hx
  · cases w with
    | nil => exact absurd (by rw [← List.nil_append v, ← hu]; simp) hx
    | cons y w =>
      obtain ⟨rfl, rfl⟩ := List.cons.inj hu
      exact ⟨w, hs, rfl⟩

/-- Behind the scheme, too, the text without slashes at its end has the slashes less and the blanks
more. -/
theorem exists_parse_trimmed {base scheme rest : List Char} {own : Nat}
    (hscheme : scheme? (clean base) = some (scheme, rest)) (hkind : SchemeKind.of scheme = .network own)
    (hrest : rest.dropWhile (isSlash true) ≠ []) :
    ∃ s slashes, s ++ slashes = rest.dropWhile (isSlash true) ++ blankTail base ∧
      (∀ c ∈ slashes, c = '/') ∧ (slashes = [] ∨ blankTail base = []) ∧
      ∀ tail, parse (dropEndWhile (· = '/') base ++ '/' :: tail) =
        parseAuthority scheme (.network own) (s ++ '/' :: cleanEnd tail) := by
  obtain ⟨slashes, hfront, hslashes, hor⟩ := cleanFront_trimmed base
  obtain ⟨name, hclean, hname, halpha, hlower⟩ := scheme?_eq_some_iff.mp hscheme
  obtain ⟨trimmed, htrimmed, htail⟩ : ∃ trimmed,
      cleanFront (dropEndWhile (· = '/') base) = name ++ ':' :: trimmed ∧
        trimmed ++ slashes = rest ++ blankTail base := by
    rw [hclean, List.append_assoc, List.cons_append] at hfront
    exact exists_eq_append_cons (fun hmem => absurd (hslashes _ hmem) (by decide)) hfront
  have hdrop : (trimmed ++ slashes).dropWhile (isSlash true) =
      rest.dropWhile (isSlash true) ++ blankTail base := by
    rw [htail, List.dropWhile_append, if_neg (by simpa using hrest)]
  have hempty : slashes.dropWhile (isSlash true) = [] :=
    List.dropWhile_eq_nil_iff.mpr fun c hc => by rw [hslashes c hc]; rfl
  have hne : trimmed.dropWhile (isSlash true) ≠ [] := by
    intro hnil
    rw [List.dropWhile_append, hnil, if_pos List.isEmpty_nil, hempty] at hdrop
    exact hrest (List.append_eq_nil_iff.mp hdrop.symm).1
  refine ⟨trimmed.dropWhile (isSlash true), slashes, ?_, hslashes, hor, fun tail => ?_⟩
  · rw [← hdrop, List.dropWhile_append, if_neg (by simpa using hne)]
  · have hread : scheme? (clean (dropEndWhile (· = '/') base ++ '/' :: tail)) =
        some (scheme, trimmed ++ '/' :: cleanEnd tail) := by
      rw [clean_append_cons (by decide), htrimmed, List.append_assoc, List.cons_append]
      exact scheme?_eq_some_iff.mpr ⟨name, rfl, hname, halpha, hlower⟩
    rw [parse_of_scheme hread hkind, List.dropWhile_append, if_neg (by simpa using hne)]

def endsWithAuthority (base : List Char) : Bool :=
  (scheme? (clean base)).any fun (_, rest) => (rest.dropWhile (isSlash true)).all inAuthority

/-- A control character or a space, but no tab and no line break, stands right behind the authority. It
does not count at the end of a URL, but it does once something is put behind the URL. -/
def endsLoosely (base : List Char) : Bool :=
  endsWithAuthority base && !(blankTail base).isEmpty

theorem endsLoosely_iff {base scheme rest : List Char}
    (hscheme : scheme? (clean base) = some (scheme, rest)) :
    endsLoosely base = true ↔
      (rest.dropWhile (isSlash true)).dropWhile inAuthority = [] ∧ blankTail base ≠ [] := by
  simp [endsLoosely, endsWithAuthority, hscheme]

/-- Unless blanks stand right behind the authority, it is the same without slashes at the end. -/
theorem authority_of_trimmed {s slashes body blanks : List Char}
    (h : s ++ slashes = body ++ blanks) (hslashes : ∀ c ∈ slashes, c = '/')
    (hor : slashes = [] ∨ blanks = []) (hfirm : body.dropWhile inAuthority ≠ [] ∨ blanks = []) :
    s.takeWhile inAuthority = body.takeWhile inAuthority ∧
      s.dropWhile inAuthority ++ slashes = body.dropWhile inAuthority ++ blanks := by
  rcases hor with rfl | rfl
  · rw [List.append_nil] at h ⊢
    rcases hfirm with hmore | rfl
    · obtain ⟨c, more, hc⟩ := List.exists_cons_of_ne_nil hmore
      have hend : inAuthority c = false := by
        have := List.head?_dropWhile_not inAuthority body
        rwa [hc] at this
      have hbody : body = body.takeWhile inAuthority ++ c :: more := by
        rw [← hc, List.takeWhile_append_dropWhile]
      rw [h, hbody, List.append_assoc, List.cons_append, Text.takeWhile_append_cons hend,
        Text.takeWhile_append_cons hend, Text.dropWhile_append_cons hend,
        Text.dropWhile_append_cons hend, List.append_assoc, List.cons_append]
      exact ⟨rfl, rfl⟩
    · rw [List.append_nil] at h ⊢
      exact h ▸ ⟨rfl, rfl⟩
  · rw [List.append_nil] at h ⊢
    cases slashes with
    | nil =>
      rw [List.append_nil] at h ⊢
      exact h ▸ ⟨rfl, rfl⟩
    | cons c slashes =>
      have hend : inAuthority c = false := by
        rw [hslashes c (List.mem_cons_self ..)]
        decide
      rw [← h, Text.takeWhile_append_cons hend, Text.dropWhile_append_cons hend]
      exact ⟨rfl, rfl⟩

/-- A slash and more behind a URL of a web page: either the whole is no URL, or it has the scheme and
the authority of that URL, and the rest is read as what stands behind them. -/
theorem parse_behind {base : List Char} {u : Url} (h : parse base = .ok u) (hhttp : u.isHttp = true) :
    (endsLoosely base = true ∧
      ∀ tail, ∃ e, parse (dropEndWhile (· = '/') base ++ '/' :: tail) = .error e) ∨
    (endsLoosely base = false ∧ ∃ own a behind front,
      SchemeKind.of u.scheme = .network own ∧
      u = readBehind u.scheme (.network own) a behind ∧
      front ⊆ behind ++ blankTail base ∧ (∀ c ∈ front.head?, inAuthority c = false) ∧
      ∀ tail, parse (dropEndWhile (· = '/') base ++ '/' :: tail) =
        .ok (readBehind u.scheme (.network own) a (front ++ '/' :: cleanEnd tail))) := by
  obtain ⟨rest, own, a, hscheme, hkind, hread, hu⟩ := exists_read_of_parse h hhttp
  generalize hbody : rest.dropWhile (isSlash true) = body at hread hu
  have hne : rest.dropWhile (isSlash true) ≠ [] := by
    intro hnil
    rw [← hbody, hnil] at hread
    exact ne_nil_of_authority? hread rfl
  obtain ⟨s, slashes, happend, hslashes, hor, hparse⟩ := exists_parse_trimmed hscheme hkind hne
  rw [hbody] at happend
  have hend : inAuthority '/' = false := by decide
  have hreadtail (tail : List Char) : parse (dropEndWhile (· = '/') base ++ '/' :: tail) =
      (authority? (.network own) (s.takeWhile inAuthority) true).map fun a =>
        readBehind u.scheme (.network own) a.1 (s.dropWhile inAuthority ++ '/' :: cleanEnd tail) := by
    rw [hparse, parseAuthority_network, Text.takeWhile_append_cons hend,
      Text.dropWhile_append_cons hend]
  by_cases hloose : endsLoosely base = true
  · refine .inl ⟨hloose, fun tail => ?_⟩
    rw [endsLoosely_iff hscheme, hbody] at hloose
    rw [hor.resolve_right hloose.2, List.append_nil] at happend
    obtain ⟨blanks, last, hblanks⟩ := (List.eq_nil_or_concat' (blankTail base)).resolve_left hloose.2
    have hlast : isControlOrSpace last = true :=
      isControlOrSpace_of_mem_blankTail (by rw [hblanks]; simp)
    have hin : ∀ c ∈ body ++ blankTail base, inAuthority c = true := by
      intro c hc
      rcases List.mem_append.mp hc with hc | hc
      · exact List.dropWhile_eq_nil_iff.mp hloose.1 c hc
      · exact inAuthority_of_invisible (isControlOrSpace_of_mem_blankTail hc)
    rw [hblanks, ← List.append_assoc] at hin happend
    obtain ⟨e, he⟩ := authority?_append_invisible (of_decide_eq_true hlast) own
      (fun hmem => absurd (hin _ (List.mem_append_left _ hmem)) (by decide)) true
    rw [hreadtail, happend, List.takeWhile_eq_self_iff.mpr hin, he]
    exact ⟨e, rfl⟩
  · have hfirm : body.dropWhile inAuthority ≠ [] ∨ blankTail base = [] := by
      rw [endsLoosely_iff hscheme, hbody] at hloose
      tauto
    obtain ⟨htext, hbehind⟩ := authority_of_trimmed happend hslashes hor hfirm
    refine .inr ⟨by simpa using hloose, own, a.1, body.dropWhile inAuthority,
      s.dropWhile inAuthority, hkind, hu, ?_, ?_, fun tail => ?_⟩
    · exact hbehind ▸ List.subset_append_left ..
    · intro c hc
      have hnot := List.head?_dropWhile_not inAuthority s
      rwa [Option.mem_def.mp hc] at hnot
    · rw [hreadtail, htext, hread]
      rfl

end TorrentSearch.Url
