import TorrentSearch.Text.Search

/-!
# Occurrences in a text

No occurrence of a text reaches over a character that the text does not have. So the leftmost occurrence
of one is found behind any front without it, and a text that is replaced by such a character does not
occur any more afterwards.
-/

namespace TorrentSearch.Text

variable {x : Char} {needle front : List Char}

theorem isPrefix_of_append_cons {s : List Char} (hx : x ∉ needle) (h : needle <+: front ++ x :: s) :
    needle <+: front := by
  induction needle generalizing front with
  | nil => exact List.nil_prefix
  | cons c needle ih =>
    rw [List.mem_cons, not_or] at hx
    cases front with
    | nil =>
      rw [List.nil_append, List.cons_prefix_cons] at h
      exact absurd h.1.symm hx.1
    | cons d front =>
      rw [List.cons_append, List.cons_prefix_cons] at h
      exact List.cons_prefix_cons.mpr ⟨h.1, ih hx.2 h.2⟩

/-- A character that does not occur in a text parts the places where the text occurs. -/
theorem isInfix_of_append_cons {s : List Char} (hx : x ∉ needle) (h : needle <:+: front ++ x :: s) :
    needle <:+: front ∨ needle <:+: s := by
  induction front with
  | nil =>
    rcases List.infix_cons_iff.mp h with hhere | hlater
    · have hstart : needle <+: [] := isPrefix_of_append_cons hx hhere
      exact .inl hstart.isInfix
    · exact .inr hlater
  | cons c front ih =>
    rcases List.infix_cons_iff.mp h with hhere | hlater
    · have hstart : needle <+: c :: front := isPrefix_of_append_cons hx hhere
      exact .inl hstart.isInfix
    · exact (ih hlater).imp_left List.infix_cons

theorem isInfix_of_append {s : List Char} (hx : x ∉ front) (h : x :: needle <:+: front ++ s) :
    x :: needle <:+: s := by
  induction front with
  | nil => exact h
  | cons c front ih =>
    rw [List.mem_cons, not_or] at hx
    rcases List.infix_cons_iff.mp h with hhere | hlater
    · exact absurd (List.cons_prefix_cons.mp hhere).1 hx.1
    · exact ih hx.2 hlater

/-- An occurrence does not begin in a front without one, as its first character stands there only. -/
theorem fromFirst?_append (hx : x ∉ needle) (hfront : ¬ x :: needle <:+: front) (rest : List Char) :
    fromFirst? (x :: needle) (front ++ (x :: needle ++ rest)) = some (x :: needle ++ rest) := by
  induction front with
  | nil => simp [fromFirst?]
  | cons c front ih =>
    have hhere : ¬ (x :: needle).isPrefixOf (c :: (front ++ (x :: needle ++ rest))) = true := by
      intro hstart
      obtain ⟨rfl, hrest⟩ := List.cons_prefix_cons.mp (List.isPrefixOf_iff_prefix.mp hstart)
      have hwithin := isPrefix_of_append_cons hx hrest
      exact hfront (List.cons_prefix_cons.mpr ⟨rfl, hwithin⟩).isInfix
    rw [List.cons_append, fromFirst?, if_neg hhere]
    exact ih fun hlater => hfront (List.infix_cons hlater)

theorem replaceFrom_append (needle replacement front s : List Char) :
    replaceFrom needle replacement front.length (front ++ s) = replaceFrom needle replacement 0 s := by
  induction front with
  | nil => rfl
  | cons c front ih => exact ih

theorem replaceAll_append_self (hne : needle ≠ []) (replacement s : List Char) :
    replaceAll needle replacement (needle ++ s) = replacement ++ replaceAll needle replacement s := by
  cases needle with
  | nil => exact absurd rfl hne
  | cons c needle =>
    have hstart : (c :: needle).isPrefixOf (c :: (needle ++ s)) = true :=
      List.isPrefixOf_iff_prefix.mpr (List.prefix_append (c :: needle) s)
    have hbehind := replaceFrom_append (c :: needle) replacement needle s
    rw [replaceAll, List.cons_append, replaceFrom, if_pos hstart]
    exact congrArg (replacement ++ ·) hbehind

theorem replaceAll_cons_of_not_isPrefix {c : Char} {s : List Char} (h : ¬ needle <+: c :: s)
    (replacement : List Char) :
    replaceAll needle replacement (c :: s) = c :: replaceAll needle replacement s := by
  rw [replaceAll, replaceFrom, if_neg (mt List.isPrefixOf_iff_prefix.mp h)]
  rfl

theorem replaceAll_append {front : List Char} (hx : x ∉ front) (replacement s : List Char) :
    replaceAll (x :: needle) replacement (front ++ s) =
      front ++ replaceAll (x :: needle) replacement s := by
  induction front with
  | nil => rfl
  | cons c front ih =>
    rw [List.mem_cons, not_or] at hx
    have hhere : ¬ x :: needle <+: c :: (front ++ s) := fun h => hx.1 (List.cons_prefix_cons.mp h).1
    rw [List.cons_append, replaceAll_cons_of_not_isPrefix hhere, ih hx.2, List.cons_append]

theorem intercalate_cons_first (between : List Char) (c : Char) (piece : List Char)
    (pieces : List (List Char)) : between.intercalate ((c :: piece) :: pieces) =
      c :: between.intercalate (piece :: pieces) := by
  cases pieces <;> simp

theorem prefix_intercalate (between piece : List Char) (pieces : List (List Char)) :
    piece <+: between.intercalate (piece :: pieces) := by
  cases pieces with
  | nil => simp
  | cons next pieces => simp [List.intercalate_cons_cons]

/-- The text is cut at the occurrences, and the pieces are put together again with the replacement between
them. -/
theorem exists_pieces_replaceAll (hne : needle ≠ []) (replacement s : List Char) :
    ∃ piece pieces, (∀ p ∈ piece :: pieces, ¬ needle <:+: p) ∧
      needle.intercalate (piece :: pieces) = s ∧
      replacement.intercalate (piece :: pieces) = replaceAll needle replacement s := by
  have hempty : ¬ needle <:+: [] := fun h => hne (List.infix_nil.mp h)
  induction hlength : s.length using Nat.strongRecOn generalizing s with
  | ind length ih =>
    subst hlength
    by_cases hhere : needle <+: s
    · -- an empty piece stands in front of the occurrence
      obtain ⟨rest, rfl⟩ := hhere
      have hshorter : rest.length < (needle ++ rest).length := by
        have hpos := List.length_pos_iff.mpr hne
        rw [List.length_append]
        omega
      obtain ⟨piece, pieces, hpieces, hcut, hput⟩ := ih _ hshorter rest rfl
      refine ⟨[], piece :: pieces, List.forall_mem_cons.mpr ⟨hempty, hpieces⟩, ?_, ?_⟩
      · rw [List.intercalate_cons_cons, hcut, List.nil_append]
      · rw [List.intercalate_cons_cons, hput, List.nil_append, replaceAll_append_self hne]
    · cases s with
      | nil => exact ⟨[], [], List.forall_mem_singleton.mpr hempty, rfl, rfl⟩
      | cons c s =>
        obtain ⟨piece, pieces, hpieces, hcut, hput⟩ := ih _ (Nat.lt_succ_self _) s rfl
        rw [List.forall_mem_cons] at hpieces
        refine ⟨c :: piece, pieces, List.forall_mem_cons.mpr ⟨fun hmore => ?_, hpieces.2⟩, ?_, ?_⟩
        · -- an occurrence in the longer piece begins with it, and so would begin the text
          rcases List.infix_cons_iff.mp hmore with hstart | hlater
          · have hfront := prefix_intercalate needle (c :: piece) pieces
            rw [intercalate_cons_first, hcut] at hfront
            exact hhere (hstart.trans hfront)
          · exact hpieces.1 hlater
        · rw [intercalate_cons_first, hcut]
        · rw [intercalate_cons_first, hput, replaceAll_cons_of_not_isPrefix hhere]

theorem not_isInfix_intercalate (hne : needle ≠ []) (hx : x ∉ needle) {pieces : List (List Char)}
    (h : ∀ piece ∈ pieces, ¬ needle <:+: piece) : ¬ needle <:+: [x].intercalate pieces := by
  induction pieces with
  | nil => exact fun hnil => hne (List.infix_nil.mp hnil)
  | cons piece pieces ih =>
    rw [List.forall_mem_cons] at h
    intro hwhole
    by_cases hlast : pieces = []
    · subst hlast
      rw [List.intercalate_singleton] at hwhole
      exact h.1 hwhole
    · rw [List.intercalate_cons_of_ne_nil hlast, List.append_assoc] at hwhole
      rcases isInfix_of_append_cons hx hwhole with hpiece | hlater
      · exact h.1 hpiece
      · exact ih h.2 hlater

theorem not_isInfix_replaceAll (hne : needle ≠ []) (hx : x ∉ needle) (s : List Char) :
    ¬ needle <:+: replaceAll needle [x] s := by
  obtain ⟨piece, pieces, hpieces, -, hput⟩ := exists_pieces_replaceAll hne [x] s
  rw [← hput]
  exact not_isInfix_intercalate hne hx hpieces

end TorrentSearch.Text
