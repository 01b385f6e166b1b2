import Mathlib.Data.Bool.AllAny
import TorrentSearch.Proofs.Source.Links
import TorrentSearch.Source.Yts

/-!
# Search URLs

One source writes the identifier as a query value, and the other one puts it into the path as it is. The
first never requests the same URL for two identifiers. The second does, unless the identifiers count in
full: of what stands behind `#`, of blanks at the end, of tabs and line breaks and of folders such as
`..` nothing is left in a URL.
-/

namespace TorrentSearch.Source

open Text (splitAtEach)
open Text.Percent (encode encodeValue isUnreserved)
open Url (inPath inQuery readBehind splitTail)

theorem isAlphanum_eq (c : Char) :
    c.isAlphanum = (decide (c.val ≥ 'A'.val ∧ c.val ≤ 'Z'.val) ||
      (decide (c.val ≥ 'a'.val) && decide (c.val ≤ 'z'.val)) ||
      (decide (c.val ≥ '0'.val) && decide (c.val ≤ '9'.val))) :=
  rfl

theorem ascii_of_isUnreserved {c : Char} (h : isUnreserved c = true) : c.toNat < 0x80 := by
  simp only [isUnreserved, isAlphanum_eq, Bool.or_eq_true, Bool.and_eq_true, decide_eq_true_eq,
    UInt32.le_iff_toNat_le, ge_iff_le] at h
  have hval : c.toNat = c.val.toNat := rfl
  have hZ : 'Z'.val.toNat = 0x5a := rfl
  have hz : 'z'.val.toNat = 0x7a := rfl
  have h9 : '9'.val.toNat = 0x39 := rfl
  rcases h with (((((h | h) | h) | rfl) | rfl) | rfl) | rfl
  all_goals first | omega | decide

theorem inQuery_of_isUnreserved {c : Char} (h : isUnreserved c = true) : inQuery true c = true := by
  have hascii : c.toNat < 0x80 := ascii_of_isUnreserved h
  have hall : ∀ n < 0x80, isUnreserved (Char.ofNat n) = true → inQuery true (Char.ofNat n) = true := by
    decide
  have := hall c.toNat hascii
  rw [Char.ofNat_toNat] at this
  exact this h

theorem inQuery_of_mem_encodeValue {c : Char} {id : String}
    (h : c ∈ encode isUnreserved id.toList) : inQuery true c = true := by
  rcases Text.Percent.of_mem_encode h with h | rfl | ⟨n, hn, rfl⟩
  · exact inQuery_of_isUnreserved h
  · decide
  · interval_cases n <;> decide

theorem visible_of_inQuery {c : Char} (h : inQuery true c = true) :
    Url.isControlOrSpace c = false ∧ c ≠ '#' := by
  constructor
  · by_contra hc
    rw [Bool.not_eq_false] at hc
    have hlow : c.toNat ≤ 0x20 := of_decide_eq_true hc
    have hall : ∀ n ≤ 0x20, inQuery true (Char.ofNat n) = false := by decide
    have := hall c.toNat hlow
    rw [Char.ofNat_toNat, h] at this
    cases this
  · rintro rfl
    cases h

theorem ne_question_of_mem_encode {c : Char} {s : List Char} (h : c ∈ encode inPath s) : c ≠ '?' := by
  rintro rfl
  rcases Text.Percent.of_mem_encode h with h | h | ⟨n, hn, h⟩
  · cases h
  · cases h
  · interval_cases n <;> cases h

theorem cleanEnd_eq_self {s : List Char} (hline : ∀ c ∈ s, Url.isLineSpace c = false)
    (hend : ∀ c ∈ s.getLast?, Url.isControlOrSpace c = false) : Url.cleanEnd s = s := by
  have hdrop : Text.dropEndWhile Url.isControlOrSpace s = s := by
    rw [Text.dropEndWhile_eq_rdropWhile, List.rdropWhile_eq_self_iff]
    intro hne
    rw [hend _ (List.getLast?_eq_getLast_of_ne_nil hne)]
    exact Bool.false_ne_true
  rw [Url.cleanEnd, hdrop, List.filter_eq_self.mpr fun c hc => by rw [hline c hc]; rfl]

/-- A text in the written form of a path and a query. -/
def written (s : List Char) : List Char :=
  encode inPath (s.takeWhile (· ≠ '?')) ++
    match (s.dropWhile (· ≠ '?')).tail? with
    | some q => '?' :: encode (inQuery true) q
    | none => []

theorem takeWhile_written (s : List Char) :
    (written s).takeWhile (· ≠ '?') = encode inPath (s.takeWhile (· ≠ '?')) := by
  unfold written
  rw [List.takeWhile_append_of_pos fun c hc => decide_eq_true (ne_question_of_mem_encode hc)]
  cases (s.dropWhile (· ≠ '?')).tail? <;> simp

theorem dropWhile_written (s : List Char) :
    (written s).dropWhile (· ≠ '?') =
      match (s.dropWhile (· ≠ '?')).tail? with
      | some q => '?' :: encode (inQuery true) q
      | none => [] := by
  unfold written
  rw [List.dropWhile_append_of_pos fun c hc => decide_eq_true (ne_question_of_mem_encode hc)]
  cases (s.dropWhile (· ≠ '?')).tail? <;> simp

theorem dropWhile_question (s : List Char) :
    s.dropWhile (· ≠ '?') =
      match (s.dropWhile (· ≠ '?')).tail? with
      | some q => '?' :: q
      | none => [] := by
  have hhead := List.head?_dropWhile_not (fun c => decide (c ≠ '?')) s
  cases hdrop : s.dropWhile (· ≠ '?') with
  | nil => rfl
  | cons c q =>
    rw [hdrop] at hhead
    rw [of_not_not (of_decide_eq_false hhead)]
    rfl

theorem written_inj {s t : List Char} (hs : '%' ∉ s) (ht : '%' ∉ t) (h : written s = written t) :
    s = t := by
  have hinj (keep : Char → Bool) {a b : List Char} (ha : a ⊆ s) (hb : b ⊆ t)
      (hab : encode keep a = encode keep b) : a = b :=
    (Text.Percent.encode_inj (fun c hc _ hpercent => hs (ha (hpercent ▸ hc)))
      (fun c hc _ hpercent => ht (hb (hpercent ▸ hc)))).mp hab
  have hpath : s.takeWhile (· ≠ '?') = t.takeWhile (· ≠ '?') := by
    refine hinj inPath (List.takeWhile_subset _) (List.takeWhile_subset _) ?_
    rw [← takeWhile_written, ← takeWhile_written, h]
  have hquery : s.dropWhile (· ≠ '?') = t.dropWhile (· ≠ '?') := by
    have hwritten := congrArg (List.dropWhile (· ≠ '?')) h
    have hssub := List.dropWhile_subset (l := s) (· ≠ '?')
    have htsub := List.dropWhile_subset (l := t) (· ≠ '?')
    rw [dropWhile_written, dropWhile_written] at hwritten
    rw [dropWhile_question] at hssub htsub
    rw [dropWhile_question s, dropWhile_question t]
    generalize (s.dropWhile (· ≠ '?')).tail? = squery at *
    generalize (t.dropWhile (· ≠ '?')).tail? = tquery at *
    cases squery <;> cases tquery
    · rfl
    · cases hwritten
    · cases hwritten
    · exact congrArg _ (hinj (inQuery true) (List.subset_of_cons_subset hssub)
        (List.subset_of_cons_subset htsub) (List.cons.inj hwritten).2)
  rw [← List.takeWhile_append_dropWhile (p := (· ≠ '?')) (l := s), hpath, hquery,
    List.takeWhile_append_dropWhile]

theorem renderRequest_withoutUser_readBehind (scheme s : List Char) (kind : Url.SchemeKind)
    (a : Url.Authority) :
    (withoutUser (readBehind scheme kind a s)).renderRequest =
      (scheme ++ ':' :: '/' :: '/' :: { a with userinfo := [] : Url.Authority }.render) ++
        (readBehind scheme kind a s).pathAndQuery :=
  rfl

/-- Two texts behind one base URL that are requested by the same URL are read as the same path and the
same query. -/
theorem exists_pathAndQuery_eq {base : String} {u : Url} (hbase : Url.ofText base = .ok u)
    (hhttp : u.isHttp = true) (hquery : u.query = none) (hfragment : u.fragment = none) :
    ∃ own a front, Url.SchemeKind.of u.scheme = .network own ∧ (∀ c ∈ front, c ≠ '#' ∧ c ≠ '?') ∧
      (∀ c ∈ front.head?, Url.inAuthority c = false) ∧
      ∀ s t url, requested? (String.ofList (Page.trimBase base ++ '/' :: s)) = some url →
        requested? (String.ofList (Page.trimBase base ++ '/' :: t)) = some url →
        (readBehind u.scheme (.network own) a (front ++ '/' :: Url.cleanEnd s)).pathAndQuery =
          (readBehind u.scheme (.network own) a (front ++ '/' :: Url.cleanEnd t)).pathAndQuery := by
  have hread {s : List Char} {url : String}
      (h : requested? (String.ofList (Page.trimBase base ++ '/' :: s)) = some url) :
      ∃ v, Url.parse (Page.trimBase base ++ '/' :: s) = .ok v ∧
        url = String.ofList (withoutUser v).renderRequest := by
    obtain ⟨v, hv, hurl⟩ := exists_of_requested? h
    rw [Url.ofText, String.toList_ofList] at hv
    exact ⟨v, hv, hurl⟩
  rcases Url.parse_behind hbase hhttp with
    ⟨-, herror⟩ | ⟨-, own, a, behind, front, hkind, hu, hsub, hhead, hok⟩
  · obtain ⟨own, hkind⟩ := Url.kind_of_isHttp hhttp
    refine ⟨own, ⟨[], .name [], none⟩, [], hkind, by simp, by simp, fun s t url hs _ => ?_⟩
    obtain ⟨v, hv, -⟩ := hread hs
    obtain ⟨e, he⟩ := herror s
    cases hv.symm.trans he
  · refine ⟨own, a, front, hkind, fun c hc => ?_, hhead, fun s t url hs ht => ?_⟩
    · rcases List.mem_append.mp (hsub hc) with hc | hc
      · rw [hu] at hquery hfragment
        exact Url.no_marks_of_readBehind hquery hfragment c hc
      · exact Url.no_marks_of_invisible (Url.isControlOrSpace_of_mem_blankTail hc)
    · obtain ⟨v, hv, rfl⟩ := hread hs
      obtain ⟨w, hw, heq⟩ := hread ht
      cases hv.symm.trans (hok s)
      cases hw.symm.trans (hok t)
      have hrender := String.ofList_injective heq
      rw [renderRequest_withoutUser_readBehind, renderRequest_withoutUser_readBehind] at hrender
      exact List.append_cancel_left hrender

theorem splitTail_of_no_hash {s : List Char} (h : ∀ c ∈ s, c ≠ '#') :
    splitTail s = (s.takeWhile (· ≠ '?'), (s.dropWhile (· ≠ '?')).tail?, none) := by
  have hall : ∀ c ∈ s, decide (c ≠ '#') = true := fun c hc => decide_eq_true (h c hc)
  rw [Url.splitTail_eq, List.takeWhile_eq_self_iff.mpr hall, List.dropWhile_eq_nil_iff.mpr hall]
  rfl

/-- Behind a base URL, a path without marks and a query value of plain characters are written as they
are. -/
theorem pathAndQuery_of_visible {scheme front path value : List Char} {own : Nat} {a : Url.Authority}
    (hkind : Url.SchemeKind.of scheme = .network own) (hfront : ∀ c ∈ front, c ≠ '#' ∧ c ≠ '?')
    (hpath : ∀ c ∈ path, Url.isControlOrSpace c = false ∧ c ≠ '#' ∧ c ≠ '?')
    (hquery : ∀ c ∈ value, inQuery true c = true) :
    (readBehind scheme (.network own) a
        (front ++ '/' :: Url.cleanEnd (path ++ '?' :: value))).pathAndQuery =
      Url.pathBehindAuthority (.network own) (front ++ '/' :: path) ++ '?' :: value := by
  have hvisible : ∀ c ∈ path ++ '?' :: value, Url.isControlOrSpace c = false ∧ c ≠ '#' := by
    rw [List.forall_mem_append, List.forall_mem_cons]
    exact ⟨fun c hc => ⟨(hpath c hc).1, (hpath c hc).2.1⟩, by decide,
      fun c hc => visible_of_inQuery (hquery c hc)⟩
  have hmarks : ∀ c ∈ front ++ '/' :: path, c ≠ '#' ∧ c ≠ '?' := by
    rw [List.forall_mem_append, List.forall_mem_cons]
    exact ⟨hfront, by decide, fun c hc => (hpath c hc).2⟩
  have hclean : Url.cleanEnd (path ++ '?' :: value) = path ++ '?' :: value :=
    cleanEnd_eq_self (fun c hc => Url.isLineSpace_of_visible (hvisible c hc).1)
      fun c hc => (hvisible c (List.mem_of_getLast? hc)).1
  have hsplit : splitTail (front ++ '/' :: (path ++ '?' :: value)) =
      (front ++ '/' :: path, some value, none) := by
    rw [← List.cons_append, ← List.append_assoc, Url.splitTail_append hmarks,
      splitTail_of_no_hash fun c hc => (hvisible c (List.mem_append_right _ hc)).2]
    simp
  have hspecial : (Url.SchemeKind.network own).isSpecial = true := rfl
  rw [hclean, Url.pathAndQuery_readBehind, hsplit, hkind, hspecial]
  dsimp only
  rw [Text.Percent.encode_of_forall hquery]

namespace Yts.Access

theorem searchUrl_ofBase (base id : String) (timeout : Nat) (maxAge : Time.Span) :
    (ofBase base timeout maxAge).searchUrl id =
      String.ofList (Page.trimBase base ++ '/' :: ("api/v2/list_movies.json".toList ++
        '?' :: ("query_term=".toList ++ encode isUnreserved id.toList))) := by
  apply String.toList_injective
  simp [searchUrl, ofBase, encodeValue]

theorem pathAndQuery_searchUrl {scheme front : List Char} {own : Nat} {a : Url.Authority}
    (hkind : Url.SchemeKind.of scheme = .network own) (hfront : ∀ c ∈ front, c ≠ '#' ∧ c ≠ '?')
    (id : String) :
    (readBehind scheme (.network own) a (front ++ '/' ::
        Url.cleanEnd ("api/v2/list_movies.json".toList ++
          '?' :: ("query_term=".toList ++ encode isUnreserved id.toList)))).pathAndQuery =
      Url.pathBehindAuthority (.network own) (front ++ '/' :: "api/v2/list_movies.json".toList) ++
        '?' :: ("query_term=".toList ++ encode isUnreserved id.toList) := by
  -- the lists are decided character by character, not over all characters
  have hpath : ∀ c ∈ "api/v2/list_movies.json".toList,
      Url.isControlOrSpace c = false ∧ c ≠ '#' ∧ c ≠ '?' := List.all_iff_forall_prop.mp (by decide)
  have hterm : ∀ c ∈ "query_term=".toList, inQuery true c = true := List.all_eq_true.mp (by decide)
  refine pathAndQuery_of_visible hkind hfront hpath ?_
  exact List.forall_mem_append.mpr ⟨hterm, fun c hc => inQuery_of_mem_encodeValue hc⟩

theorem searchUrl_inj {base : String} {u : Url} (hbase : Url.ofText base = .ok u)
    (hhttp : u.isHttp = true) (hquery : u.query = none) (hfragment : u.fragment = none)
    {timeout : Nat} {maxAge : Time.Span} {id id' url : String}
    (h : requested? ((ofBase base timeout maxAge).searchUrl id) = some url)
    (h' : requested? ((ofBase base timeout maxAge).searchUrl id') = some url) : id = id' := by
  obtain ⟨own, a, front, hkind, hfront, -, heq⟩ :=
    exists_pathAndQuery_eq hbase hhttp hquery hfragment
  rw [searchUrl_ofBase] at h h'
  have hpq := heq _ _ _ h h'
  rw [pathAndQuery_searchUrl hkind hfront, pathAndQuery_searchUrl hkind hfront] at hpq
  have hvalue := List.append_cancel_left (List.cons.inj (List.append_cancel_left hpq)).2
  have hkeep (s : String) : ∀ c ∈ s.toList, isUnreserved c = true → c ≠ '%' := by
    rintro c - hc rfl
    cases hc
  exact String.toList_injective ((Text.Percent.encode_inj (hkeep id) (hkeep id')).mp hvalue)

end Yts.Access

/-- A text that counts in full behind a slash of a URL: no part of it is left out, nor changed. -/
structure CountsInFull (s : List Char) : Prop where
  marks : ∀ c ∈ s, c ≠ '#' ∧ c ≠ '%' ∧ c ≠ '\\' ∧ Url.isLineSpace c = false
  firmEnd : ∀ c ∈ s.getLast?, Url.isControlOrSpace c = false
  folders : ∀ part ∈ splitAtEach '/' (s.takeWhile (· ≠ '?')), part ≠ ['.'] ∧ part ≠ ['.', '.']

theorem CountsInFull.cleanEnd_eq {s : List Char} (h : CountsInFull s) : Url.cleanEnd s = s :=
  cleanEnd_eq_self (fun c hc => (h.marks c hc).2.2.2) h.firmEnd

theorem CountsInFull.isPath {s : List Char} (h : CountsInFull s) :
    Url.IsPath (s.takeWhile (· ≠ '?')) where
  percent hmem := (h.marks _ (List.takeWhile_subset _ hmem)).2.1 rfl
  backslash hmem := (h.marks _ (List.takeWhile_subset _ hmem)).2.2.1 rfl
  dots := h.folders

theorem CountsInFull.behind_folder {id : List Char} (h : CountsInFull id) :
    CountsInFull ("torrent-search/".toList ++ id) where
  marks := by
    have hfolder : ∀ c ∈ "torrent-search/".toList,
        c ≠ '#' ∧ c ≠ '%' ∧ c ≠ '\\' ∧ Url.isLineSpace c = false :=
      List.all_iff_forall_prop.mp (by decide)
    exact List.forall_mem_append.mpr ⟨hfolder, h.marks⟩
  firmEnd c hc := by
    rw [List.getLast?_append] at hc
    cases hlast : id.getLast? with
    | none =>
      rw [hlast] at hc
      cases hc
      decide
    | some d =>
      rw [hlast] at hc
      cases hc
      exact h.firmEnd c hlast
  folders := by
    have hfolder : ∀ c ∈ "torrent-search/".toList, decide (c ≠ '?') = true :=
      List.all_eq_true.mp (by decide)
    have hsplit : "torrent-search/".toList ++ id.takeWhile (· ≠ '?') =
      "torrent-search".toList ++ '/' :: id.takeWhile (· ≠ '?') := by simp
    have hone : splitAtEach '/' "torrent-search".toList = ["torrent-search".toList] := by decide
    rw [List.takeWhile_append_of_pos hfolder, hsplit, Text.splitAtEach_append, hone]
    rintro part (_ | ⟨_, hpart⟩)
    · decide
    · exact h.folders part hpart

namespace Ibit.Access

theorem searchUrl_ofBase (base id : String) (timeout : Nat) (maxAge : Time.Span) (pageDelay : Nat) :
    (ofBase base timeout maxAge pageDelay).searchUrl id =
      String.ofList (Page.trimBase base ++ '/' :: ("torrent-search/".toList ++ id.toList)) := by
  apply String.toList_injective
  simp [searchUrl, ofBase]

/-- Behind a base URL, a text that counts in full is written as it is. -/
theorem exists_pathAndQuery_eq_written {scheme front : List Char} {own : Nat} (a : Url.Authority)
    (hkind : Url.SchemeKind.of scheme = .network own) (hfront : ∀ c ∈ front, c ≠ '#' ∧ c ≠ '?')
    (hhead : ∀ c ∈ front.head?, Url.inAuthority c = false) :
    ∃ path, ∀ s, CountsInFull s →
      (readBehind scheme (.network own) a (front ++ '/' :: Url.cleanEnd s)).pathAndQuery =
        path ++ '/' :: written s := by
  obtain ⟨path, hpath⟩ := Url.exists_path_of_isPath own hhead hfront
  refine ⟨path, fun s hs => ?_⟩
  have hmarks : ∀ c ∈ front ++ ['/'], c ≠ '#' ∧ c ≠ '?' :=
    List.forall_mem_append.mpr ⟨hfront, List.forall_mem_singleton.mpr (by decide)⟩
  have hsplit : splitTail (front ++ '/' :: s) =
      (front ++ '/' :: s.takeWhile (· ≠ '?'), (s.dropWhile (· ≠ '?')).tail?, none) := by
    rw [List.append_cons, Url.splitTail_append hmarks,
      splitTail_of_no_hash fun c hc => (hs.marks c hc).1, List.append_assoc, List.singleton_append]
  rw [hs.cleanEnd_eq, Url.pathAndQuery_readBehind, hsplit, hpath _ hs.isPath, hkind,
    List.append_assoc, List.cons_append]
  rfl

theorem searchUrl_inj {base : String} {u : Url} (hbase : Url.ofText base = .ok u)
    (hhttp : u.isHttp = true) (hquery : u.query = none) (hfragment : u.fragment = none)
    {timeout : Nat} {maxAge : Time.Span} {pageDelay : Nat} {id id' url : String}
    (hid : CountsInFull id.toList) (hid' : CountsInFull id'.toList)
    (h : requested? ((ofBase base timeout maxAge pageDelay).searchUrl id) = some url)
    (h' : requested? ((ofBase base timeout maxAge pageDelay).searchUrl id') = some url) :
    id = id' := by
  obtain ⟨own, a, front, hkind, hfront, hhead, heq⟩ :=
    exists_pathAndQuery_eq hbase hhttp hquery hfragment
  obtain ⟨path, hpath⟩ := exists_pathAndQuery_eq_written a hkind hfront hhead
  rw [searchUrl_ofBase] at h h'
  have hpq := heq _ _ _ h h'
  rw [hpath _ hid.behind_folder, hpath _ hid'.behind_folder] at hpq
  have hwritten := (List.cons.inj (List.append_cancel_left hpq)).2
  have hpercent {s : List Char} (hs : CountsInFull s) : '%' ∉ s := fun hmem =>
    (hs.marks _ hmem).2.1 rfl
  exact String.toList_injective (List.append_cancel_left
    (written_inj (hpercent hid.behind_folder) (hpercent hid'.behind_folder) hwritten))

end Ibit.Access

/-- Under a base URL without query and fragment, the source that writes the identifier as a query value
never requests the same URL for two identifiers, and the other source does not, if both identifiers
count in full. -/
theorem searchUrls_differ {base : String} {u : Url} (hbase : Url.ofText base = .ok u)
    (hhttp : u.isHttp = true) (hquery : u.query = none) (hfragment : u.fragment = none)
    {id id' : String} (hne : id ≠ id') (timeout : Nat) (maxAge : Time.Span) (pageDelay : Nat) :
    (∀ url, requested? ((Yts.Access.ofBase base timeout maxAge).searchUrl id) = some url →
      requested? ((Yts.Access.ofBase base timeout maxAge).searchUrl id') ≠ some url) ∧
    (CountsInFull id.toList → CountsInFull id'.toList → ∀ url,
      requested? ((Ibit.Access.ofBase base timeout maxAge pageDelay).searchUrl id) = some url →
        requested? ((Ibit.Access.ofBase base timeout maxAge pageDelay).searchUrl id') ≠ some url) :=
  ⟨fun _ h h' => hne (Yts.Access.searchUrl_inj hbase hhttp hquery hfragment h h'),
    fun hid hid' _ h h' =>
      hne (Ibit.Access.searchUrl_inj hbase hhttp hquery hfragment hid hid' h h')⟩

/-- Two titles behind a proxy. -/
theorem searchUrls_differ_of_titles :
    Url.ofText "http://site.test/proxy/" =
        .ok ⟨"http".toList, some ⟨[], .name "site.test".toList, none⟩, "/proxy/".toList, none, none⟩ ∧
      CountsInFull "tt1".toList ∧ CountsInFull "a/b c?d".toList ∧
      (∀ url, requested? ((Yts.Access.ofBase "http://site.test/proxy/" 5000 ⟨0⟩).searchUrl "tt1") =
          some url →
        requested? ((Yts.Access.ofBase "http://site.test/proxy/" 5000 ⟨0⟩).searchUrl "a/b c?d") ≠
          some url) ∧
      (CountsInFull "tt1".toList → CountsInFull "a/b c?d".toList → ∀ url,
        requested? ((Ibit.Access.ofBase "http://site.test/proxy/" 5000 ⟨0⟩ 150).searchUrl "tt1") =
            some url →
          requested? ((Ibit.Access.ofBase "http://site.test/proxy/" 5000 ⟨0⟩ 150).searchUrl
            "a/b c?d") ≠ some url) := by
  have hbase : Url.ofText "http://site.test/proxy/" =
      .ok ⟨"http".toList, some ⟨[], .name "site.test".toList, none⟩, "/proxy/".toList, none, none⟩ := by
    decide +kernel
  have hshort : CountsInFull "tt1".toList :=
    ⟨List.all_iff_forall_prop.mp (by decide), fun c hc => by cases hc; decide, by decide⟩
  have hlong : CountsInFull "a/b c?d".toList :=
    ⟨List.all_iff_forall_prop.mp (by decide), fun c hc => by cases hc; decide, by decide⟩
  exact ⟨hbase, hshort, hlong,
    searchUrls_differ hbase (by decide) rfl rfl (by decide) 5000 ⟨0⟩ 150⟩

/-- A space at the end of an identifier is left out of the URL, and so is what stands behind `#`. -/
theorem not_searchUrls_differ_of_blank :
    Url.ofText "http://ibit.test" =
        .ok ⟨"http".toList, some ⟨[], .name "ibit.test".toList, none⟩, "/".toList, none, none⟩ ∧
      "tt1" ≠ "tt1 " ∧ Text.isBlankText "tt1" = false ∧ Text.isBlankText "tt1 " = false ∧
      requested? ((Ibit.Access.ofBase "http://ibit.test" 5000 ⟨0⟩).searchUrl "tt1") =
        some "http://ibit.test/torrent-search/tt1" ∧
      requested? ((Ibit.Access.ofBase "http://ibit.test" 5000 ⟨0⟩).searchUrl "tt1 ") =
        some "http://ibit.test/torrent-search/tt1" ∧
      requested? ((Ibit.Access.ofBase "http://ibit.test" 5000 ⟨0⟩).searchUrl "tt1#2") =
        some "http://ibit.test/torrent-search/tt1" := by
  decide +kernel

end TorrentSearch.Source
