import TorrentSearch.Proofs.Url.Reading

/-!
# Paths and queries

The path of a URL of a web page begins with a slash. A text behind such a URL, if that has neither a
query nor a fragment, becomes the end of the path and the query. Unless segments of it stand for
folders, the text can be told from what is written.
-/

namespace TorrentSearch.Url

open Text (splitAtEach)
open Text.Percent (encode)

/-- The segments so far, in reverse, behind one that is not the last one. -/
def passBy (isFile : Bool) (done : List (List Char)) (segment : List Char) : List (List Char) :=
  if isDoubleDot segment then leaveFolder isFile done
  else if isSingleDot segment then done
  else segment :: done

theorem walk_cons (isFile : Bool) (done : List (List Char)) (segment : List Char)
    {rest : List (List Char)} (hrest : rest ≠ []) :
    walk isFile done (segment :: rest) = walk isFile (passBy isFile done segment) rest := by
  rw [walk, passBy]
  · split_ifs <;> rfl
  · exact hrest

theorem walk_append (isFile : Bool) (done segments : List (List Char)) {more : List (List Char)}
    (hmore : more ≠ []) :
    walk isFile done (segments ++ more) = walk isFile (segments.foldl (passBy isFile) done) more := by
  induction segments generalizing done with
  | nil => rfl
  | cons segment segments ih =>
    rw [List.cons_append, walk_cons _ _ _ (by simp [hmore]), ih, List.foldl_cons]

theorem walk_of_noDots {segments : List (List Char)}
    (h : ∀ segment ∈ segments, isSingleDot segment = false ∧ isDoubleDot segment = false)
    (done : List (List Char)) : walk false done segments = segments.reverse ++ done := by
  induction segments generalizing done with
  | nil => rfl
  | cons segment segments ih =>
    obtain ⟨hsingle, hdouble⟩ := h segment (List.mem_cons_self ..)
    have ih := ih fun s hs => h s (List.mem_cons_of_mem _ hs)
    rcases segments with _ | ⟨next, segments⟩
    · simp [walk, hsingle, hdouble]
    · rw [walk_cons _ _ _ (List.cons_ne_nil _ _), ih, passBy, hsingle, hdouble]
      simp

theorem walk_ne_nil (isFile : Bool) (done : List (List Char)) {segments : List (List Char)}
    (h : segments ≠ []) : walk isFile done segments ≠ [] := by
  induction segments generalizing done with
  | nil => exact absurd rfl h
  | cons segment segments ih =>
    rcases segments with _ | ⟨next, segments⟩
    · rw [walk]
      split_ifs <;> exact List.cons_ne_nil _ _
    · rw [walk_cons _ _ _ (List.cons_ne_nil _ _)]
      exact ih _ (List.cons_ne_nil _ _)

theorem joinSegments_append (front back : List (List Char)) :
    joinSegments (front ++ back) = joinSegments front ++ joinSegments back :=
  List.flatMap_append

theorem joinSegments_splitAtEach (s : List Char) :
    joinSegments ((splitAtEach '/' s).map (encode inPath)) = '/' :: encode inPath s := by
  induction s with
  | nil => rfl
  | cons c s ih =>
    by_cases hc : c = '/'
    · subst hc
      rw [Text.splitAtEach_self_cons, List.map_cons, joinSegments, List.flatMap_cons,
        ← joinSegments, ih]
      rfl
    · obtain ⟨part, parts, hs, hcs⟩ := Text.splitAtEach_cons_of_ne hc s
      rw [hs, List.map_cons, joinSegments, List.flatMap_cons, List.cons_append] at ih
      rw [hcs, List.map_cons, joinSegments, List.flatMap_cons, encode, List.flatMap_cons, ← encode,
        List.cons_append, List.append_assoc, (List.cons.inj ih).2]
      rfl

def toSlash (c : Char) : Char :=
  if c = '\\' then '/' else c

/-- The segments of a text as they are written. -/
def segmentsOf (s : List Char) : List (List Char) :=
  (splitAtEach '/' (s.map toSlash)).map (encode inPath)

theorem segmentsOf_ne_nil (s : List Char) : segmentsOf s ≠ [] := by
  simpa [segmentsOf] using Text.splitAtEach_ne_nil _

theorem segmentsOf_append (s t : List Char) :
    segmentsOf (s ++ '/' :: t) = segmentsOf s ++ segmentsOf t := by
  unfold segmentsOf
  rw [List.map_append, List.map_cons, ← List.map_append, ← Text.splitAtEach_append]
  rfl

theorem renderPath_network (own : Nat) (s : List Char) :
    renderPath (.network own) s = joinSegments (walk false [] (segmentsOf s)).reverse :=
  rfl

theorem exists_path_eq_cons (own : Nat) (s : List Char) :
    ∃ path, pathBehindAuthority (.network own) s = '/' :: path := by
  have hrender (s : List Char) : ∃ path, renderPath (.network own) s = '/' :: path := by
    rw [renderPath_network]
    obtain ⟨segment, segments, hwalk⟩ := List.exists_cons_of_ne_nil
      (List.reverse_ne_nil_iff.mpr (walk_ne_nil false [] (segmentsOf_ne_nil s)))
    rw [hwalk]
    exact ⟨_, rfl⟩
  unfold pathBehindAuthority
  split
  · exact ⟨[], rfl⟩
  · split <;> exact hrender _

theorem exists_pathAndQuery_eq_cons {s : List Char} {u : Url} (h : parse s = .ok u)
    (hhttp : u.isHttp = true) : ∃ rest, u.pathAndQuery = '/' :: rest := by
  obtain ⟨_, own, a, -, -, -, hu⟩ := exists_read_of_parse h hhttp
  obtain ⟨path, hpath⟩ := exists_path_eq_cons own (splitTail _).1
  rw [hu, pathAndQuery]
  exact ⟨path ++ _, by rw [← List.cons_append, ← hpath]; rfl⟩

theorem splitTail_eq (s : List Char) :
    splitTail s =
      ((s.takeWhile (· ≠ '#')).takeWhile (· ≠ '?'),
        ((s.takeWhile (· ≠ '#')).dropWhile (· ≠ '?')).tail?, (s.dropWhile (· ≠ '#')).tail?) := by
  rw [splitTail, Text.drop_length_takeWhile, Text.drop_length_takeWhile]

theorem not_mem_of_tail?_dropWhile {s : List Char} {x : Char}
    (h : (s.dropWhile (· ≠ x)).tail? = none) : ∀ c ∈ s, c ≠ x := by
  have hnil : s.dropWhile (· ≠ x) = [] := by
    cases hs : s.dropWhile (· ≠ x) with
    | nil => rfl
    | cons c r =>
      rw [hs] at h
      cases h
  exact fun c hc => of_decide_eq_true (List.dropWhile_eq_nil_iff.mp hnil c hc)

theorem splitTail_append {front : List Char} (h : ∀ c ∈ front, c ≠ '#' ∧ c ≠ '?') (s : List Char) :
    splitTail (front ++ s) = (front ++ (splitTail s).1, (splitTail s).2) := by
  have hfragment : ∀ c ∈ front, decide (c ≠ '#') = true := fun c hc => decide_eq_true (h c hc).1
  have hquery : ∀ c ∈ front, decide (c ≠ '?') = true := fun c hc => decide_eq_true (h c hc).2
  simp only [splitTail_eq, List.takeWhile_append_of_pos hfragment, List.takeWhile_append_of_pos hquery,
    List.dropWhile_append_of_pos hfragment, List.dropWhile_append_of_pos hquery]

theorem not_mem_of_splitTail {s : List Char} (hquery : (splitTail s).2.1 = none)
    (hfragment : (splitTail s).2.2 = none) : ∀ c ∈ s, c ≠ '#' ∧ c ≠ '?' := by
  rw [splitTail_eq] at hquery hfragment
  have hfragment := not_mem_of_tail?_dropWhile hfragment
  rw [List.takeWhile_eq_self_iff.mpr fun c hc => decide_eq_true (hfragment c hc)] at hquery
  exact fun c hc => ⟨hfragment c hc, not_mem_of_tail?_dropWhile hquery c hc⟩

theorem no_marks_of_readBehind {scheme behind : List Char} {kind : SchemeKind} {a : Authority}
    (hquery : (readBehind scheme kind a behind).query = none)
    (hfragment : (readBehind scheme kind a behind).fragment = none) :
    ∀ c ∈ behind, c ≠ '#' ∧ c ≠ '?' :=
  not_mem_of_splitTail (Option.map_eq_none_iff.mp hquery) (Option.map_eq_none_iff.mp hfragment)

theorem no_marks_of_invisible {c : Char} (hc : isControlOrSpace c = true) : c ≠ '#' ∧ c ≠ '?' := by
  constructor <;> rintro rfl <;> cases hc

/-- What is requested is the scheme, the host and the port with the path and the query. -/
theorem pathAndQuery_readBehind {scheme s : List Char} {kind : SchemeKind} {a : Authority} :
    (readBehind scheme kind a s).pathAndQuery =
      pathBehindAuthority kind (splitTail s).1 ++
        match (splitTail s).2.1 with
        | some q => '?' :: encode (inQuery (SchemeKind.of scheme).isSpecial) q
        | none => [] := by
  unfold pathAndQuery readBehind assemble
  obtain ⟨before, query, fragment⟩ := splitTail s
  cases query <;> rfl

theorem toLower_eq {c d : Char} (h : c.toLower = d) :
    c = d ∨ 0x41 ≤ c.toNat ∧ c.toNat ≤ 0x5a ∧ c.toNat + 0x20 = d.toNat := by
  unfold Char.toLower at h
  split at h
  · rename_i hupper
    have hlow : 0x41 ≤ c.toNat := UInt32.le_iff_toNat_le.mp hupper.1
    have hhigh : c.toNat ≤ 0x5a := UInt32.le_iff_toNat_le.mp hupper.2
    refine .inr ⟨hlow, hhigh, ?_⟩
    rw [← h]
    change c.toNat + 0x20 = (c.val + 0x20).toNat
    rw [UInt32.toNat_add]
    change c.toNat + 0x20 = (c.toNat + 0x20) % 2 ^ 32
    omega
  · exact .inl h

theorem eq_of_toLower_eq {c d : Char} (hd : d.toNat ≤ 0x60) (h : c.toLower = d) : c = d := by
  rcases toLower_eq h with h | ⟨hlow, -, hsum⟩
  · exact h
  · omega

theorem eq_e_of_toLower_eq {c : Char} (h : c.toLower = 'e') : c = 'e' ∨ c = 'E' := by
  rcases toLower_eq h with h | ⟨-, -, hsum⟩
  · exact .inl h
  · exact .inr (Char.toNat_inj.mp (Nat.add_right_cancel hsum))

/-- A dot is written as it is or as an escape. -/
def IsDot (s : List Char) : Prop :=
  s.map Char.toLower = ['.'] ∨ s.map Char.toLower = ['%', '2', 'e']

theorem IsDot.decode_append {dot : List Char} (h : IsDot dot) (s : List Char) :
    Text.Percent.decode (Text.Utf8.encode (String.ofList (dot ++ s))) =
      0x2e :: Text.Percent.decode (Text.Utf8.encode (String.ofList s)) := by
  simp only [IsDot, List.map_eq_cons_iff, List.map_eq_nil_iff] at h
  rcases h with ⟨_, _, rfl, hdot, rfl⟩ | ⟨_, _, rfl, hpercent, _, _, rfl, htwo, _, _, rfl, he, rfl⟩
  · rw [eq_of_toLower_eq (by decide) hdot, Text.Utf8.encode_ofList, Text.Utf8.encode_ofList]
    exact Text.Percent.decode_cons_of_ne (by decide) _
  · rw [eq_of_toLower_eq (by decide) hpercent, eq_of_toLower_eq (by decide) htwo,
      Text.Utf8.encode_ofList, Text.Utf8.encode_ofList]
    rcases eq_e_of_toLower_eq he with rfl | rfl <;> rfl

theorem isDot_of_isSingleDot {s : List Char} (h : isSingleDot s = true) : IsDot s := by
  simp only [isSingleDot, Bool.or_eq_true, decide_eq_true_eq, String.reduceToList] at h
  exact h

theorem exists_isDot_of_isDoubleDot {s : List Char} (h : isDoubleDot s = true) :
    ∃ first second, s = first ++ second ∧ IsDot first ∧ IsDot second := by
  have hsplit {first second : List Char} (hfirst : first = ['.'] ∨ first = ['%', '2', 'e'])
      (hsecond : second = ['.'] ∨ second = ['%', '2', 'e'])
      (hs : s.map Char.toLower = first ++ second) :
      ∃ first second, s = first ++ second ∧ IsDot first ∧ IsDot second := by
    obtain ⟨a, b, hab, ha, hb⟩ := List.map_eq_append_iff.mp hs
    exact ⟨a, b, hab, by rwa [IsDot, ha], by rwa [IsDot, hb]⟩
  simp only [isDoubleDot, Bool.or_eq_true, decide_eq_true_eq, String.reduceToList] at h
  rcases h with ((h | h) | h) | h
  · exact hsplit (.inl rfl) (.inl rfl) h
  · exact hsplit (.inl rfl) (.inr rfl) h
  · exact hsplit (.inr rfl) (.inl rfl) h
  · exact hsplit (.inr rfl) (.inr rfl) h

theorem encode_noDots {part : List Char} (hpercent : '%' ∉ part) (hsingle : part ≠ ['.'])
    (hdouble : part ≠ ['.', '.']) :
    isSingleDot (encode inPath part) = false ∧ isDoubleDot (encode inPath part) = false := by
  have hread : Text.Percent.decode (Text.Utf8.encode (String.ofList (encode inPath part))) =
      Text.Utf8.encode (String.ofList part) :=
    Text.Percent.decode_encode fun c hc _ hpart => hpercent (hpart ▸ hc)
  have hpart {t : List Char} (h : Text.Utf8.encode (String.ofList part) =
      Text.Utf8.encode (String.ofList t)) : part = t :=
    String.ofList_injective (Text.Utf8.encode_injective h)
  rw [← Bool.not_eq_true, ← Bool.not_eq_true]
  refine ⟨fun h => hsingle (hpart ?_), fun h => hdouble (hpart ?_)⟩
  · have hdot := (isDot_of_isSingleDot h).decode_append []
    rw [List.append_nil] at hdot
    rw [← hread, hdot]
    rfl
  · obtain ⟨first, second, hparts, hfirst, hsecond⟩ := exists_isDot_of_isDoubleDot h
    have hdot := hsecond.decode_append []
    rw [List.append_nil] at hdot
    rw [← hread, hparts, hfirst.decode_append, hdot]
    rfl

/-- A text that stands for itself in a path: it has no escapes, no backslashes, and no segments that
stand for folders. -/
structure IsPath (s : List Char) : Prop where
  percent : '%' ∉ s
  backslash : '\\' ∉ s
  dots : ∀ part ∈ splitAtEach '/' s, part ≠ ['.'] ∧ part ≠ ['.', '.']

theorem exists_path_of_isPath (own : Nat) {front : List Char}
    (hhead : ∀ c ∈ front.head?, inAuthority c = false) (hfront : ∀ c ∈ front, c ≠ '#' ∧ c ≠ '?') :
    ∃ path, ∀ s, IsPath s →
      pathBehindAuthority (.network own) (front ++ '/' :: s) = path ++ '/' :: encode inPath s := by
  have hkept (done : List (List Char)) {s : List Char} (hs : IsPath s) :
      joinSegments (walk false done (segmentsOf s)).reverse =
        joinSegments done.reverse ++ '/' :: encode inPath s := by
    have hslashed : s.map toSlash = s.map id :=
      List.map_congr_left fun c hc => if_neg fun (h : c = '\\') => hs.backslash (h ▸ hc)
    have hsegments : segmentsOf s = (splitAtEach '/' s).map (encode inPath) := by
      rw [segmentsOf, hslashed, List.map_id]
    have hnoDots : ∀ segment ∈ segmentsOf s,
        isSingleDot segment = false ∧ isDoubleDot segment = false := by
      rw [hsegments, List.forall_mem_map]
      intro part hpart
      exact encode_noDots (fun hmem => hs.percent (Text.mem_of_mem_splitAtEach hpart hmem))
        (hs.dots part hpart).1 (hs.dots part hpart).2
    rw [walk_of_noDots hnoDots, List.reverse_append, List.reverse_reverse, joinSegments_append,
      hsegments, joinSegments_splitAtEach]
  cases front with
  | nil => exact ⟨[], fun s hs => hkept [] hs⟩
  | cons c front =>
    have hslash : isSlash true c = true := by
      have hend := hhead c rfl
      obtain ⟨hhash, hquestion⟩ := hfront c (List.mem_cons_self ..)
      simpa [inAuthority, endsAuthority, hhash, hquestion] using hend
    refine ⟨joinSegments ((segmentsOf front).foldl (passBy false) []).reverse, fun s hs => ?_⟩
    have hpath : pathBehindAuthority (.network own) (c :: front ++ '/' :: s) =
        renderPath (.network own) (front ++ '/' :: s) := if_pos hslash
    rw [hpath, renderPath_network, segmentsOf_append, walk_append _ _ _ (segmentsOf_ne_nil s),
      hkept _ hs]

end TorrentSearch.Url
