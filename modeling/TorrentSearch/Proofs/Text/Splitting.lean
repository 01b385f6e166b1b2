import Mathlib.Data.List.DropRight
import TorrentSearch.Text.Blank
import TorrentSearch.Text.RangeTable

/-!
# Texts in pieces

The parts between the occurrences of a separator, and what is left of a text without characters of a
kind at its ends.
-/

namespace TorrentSearch.Text

section Separator

variable {α : Type} [DecidableEq α] {x : α}

theorem splitAtEach_ne_nil (s : List α) : splitAtEach x s ≠ [] := by
  cases s with
  | nil => exact List.cons_ne_nil _ _
  | cons y s =>
    rw [splitAtEach]
    split
    · exact List.cons_ne_nil _ _
    · split <;> exact List.cons_ne_nil _ _

theorem splitAtEach_self_cons (s : List α) : splitAtEach x (x :: s) = [] :: splitAtEach x s := by
  rw [splitAtEach, if_pos rfl]

theorem splitAtEach_cons_of_ne {y : α} (hy : y ≠ x) (s : List α) :
    ∃ part parts, splitAtEach x s = part :: parts ∧
      splitAtEach x (y :: s) = (y :: part) :: parts := by
  cases hs : splitAtEach x s with
  | nil => exact absurd hs (splitAtEach_ne_nil s)
  | cons part parts =>
    refine ⟨part, parts, rfl, ?_⟩
    rw [splitAtEach, if_neg hy, hs]

theorem splitAtEach_append (s t : List α) :
    splitAtEach x (s ++ x :: t) = splitAtEach x s ++ splitAtEach x t := by
  induction s with
  | nil => exact splitAtEach_self_cons t
  | cons y s ih =>
    by_cases hy : y = x
    · subst hy
      rw [List.cons_append, splitAtEach_self_cons, ih, splitAtEach_self_cons, List.cons_append]
    · obtain ⟨part, parts, hs, hys⟩ := splitAtEach_cons_of_ne hy s
      rw [hys, List.cons_append, List.cons_append, splitAtEach, if_neg hy, ih, hs]
      rfl

theorem exists_mem_splitAtEach {y : α} (hy : y ≠ x) {s : List α} (h : y ∈ s) :
    ∃ part ∈ splitAtEach x s, y ∈ part := by
  induction s with
  | nil => cases h
  | cons z s ih =>
    by_cases hz : z = x
    · rw [hz, splitAtEach_self_cons]
      obtain ⟨part, hpart, hmem⟩ := ih ((List.mem_cons.mp h).resolve_left (hz ▸ hy))
      exact ⟨part, List.mem_cons_of_mem _ hpart, hmem⟩
    · obtain ⟨first, parts, hs, hzs⟩ := splitAtEach_cons_of_ne hz s
      rw [hzs]
      rcases List.mem_cons.mp h with rfl | h
      · exact ⟨_, List.mem_cons_self .., List.mem_cons_self ..⟩
      · obtain ⟨part, hpart, hmem⟩ := ih h
        rw [hs] at hpart
        rcases List.mem_cons.mp hpart with rfl | hpart
        · exact ⟨_, List.mem_cons_self .., List.mem_cons_of_mem _ hmem⟩
        · exact ⟨part, List.mem_cons_of_mem _ hpart, hmem⟩

theorem mem_of_mem_splitAtEach {y : α} {part s : List α} (hpart : part ∈ splitAtEach x s)
    (hy : y ∈ part) : y ∈ s := by
  induction s generalizing part with
  | nil =>
    rw [splitAtEach, List.mem_singleton] at hpart
    rwa [hpart] at hy
  | cons z s ih =>
    by_cases hz : z = x
    · rw [hz, splitAtEach_self_cons] at hpart
      rcases List.mem_cons.mp hpart with rfl | hpart
      · cases hy
      · exact List.mem_cons_of_mem _ (ih hpart hy)
    · obtain ⟨first, parts, hs, hzs⟩ := splitAtEach_cons_of_ne hz s
      rw [hs] at ih
      rw [hzs] at hpart
      rcases List.mem_cons.mp hpart with rfl | hpart
      · rcases List.mem_cons.mp hy with rfl | hy
        · exact List.mem_cons_self ..
        · exact List.mem_cons_of_mem _ (ih (List.mem_cons_self ..) hy)
      · exact List.mem_cons_of_mem _ (ih (List.mem_cons_of_mem _ hpart) hy)

end Separator

section Ends

variable {α : Type} {p : α → Bool}

theorem drop_length_takeWhile (p : α → Bool) (s : List α) :
    s.drop (s.takeWhile p).length = s.dropWhile p := by
  induction s with
  | nil => rfl
  | cons c s ih =>
    rw [List.takeWhile_cons, List.dropWhile_cons]
    split
    · exact ih
    · rfl

theorem takeWhile_append_cons {c : α} (hc : p c = false) (s t : List α) :
    (s ++ c :: t).takeWhile p = s.takeWhile p := by
  induction s with
  | nil => exact List.takeWhile_cons_of_neg (by simp [hc])
  | cons d s ih => rw [List.cons_append, List.takeWhile_cons, List.takeWhile_cons, ih]

theorem dropWhile_append_cons {c : α} (hc : p c = false) (s t : List α) :
    (s ++ c :: t).dropWhile p = s.dropWhile p ++ c :: t := by
  induction s with
  | nil => exact List.dropWhile_cons_of_neg (by simp [hc])
  | cons d s ih =>
    rw [List.cons_append, List.dropWhile_cons, List.dropWhile_cons, ih]
    split <;> rfl

theorem dropEndWhile_eq_rdropWhile (p : α → Bool) (s : List α) :
    dropEndWhile p s = s.rdropWhile p :=
  rfl

theorem exists_eq_dropEndWhile_append (p : α → Bool) (s : List α) :
    ∃ dropped, s = dropEndWhile p s ++ dropped ∧ ∀ c ∈ dropped, p c = true :=
  ⟨s.rtakeWhile p, List.rdropWhile_append_rtakeWhile.symm,
    fun _ hc => List.mem_rtakeWhile_imp hc⟩

theorem dropEndWhile_append_cons {c : α} (hc : p c = false) (s t : List α) :
    dropEndWhile p (s ++ c :: t) = s ++ c :: dropEndWhile p t := by
  have hc : ¬p c = true := by simp [hc]
  simp only [dropEndWhile_eq_rdropWhile]
  induction t using List.reverseRecOn with
  | nil => rw [List.rdropWhile_concat_neg p s c hc, List.rdropWhile_nil]
  | append_singleton t d ih =>
    rw [← List.cons_append, ← List.append_assoc, List.rdropWhile_concat, List.rdropWhile_concat]
    split
    · exact ih
    · rw [List.append_assoc, List.cons_append]

theorem stripWhile_eq_nil_iff {s : List α} : stripWhile p s = [] ↔ ∀ c ∈ s, p c = true := by
  rw [stripWhile, dropEndWhile_eq_rdropWhile, List.rdropWhile_eq_nil_iff]
  constructor
  · intro h c hc
    rw [← List.takeWhile_append_dropWhile (p := p) (l := s)] at hc
    rcases List.mem_append.mp hc with hc | hc
    · exact List.mem_takeWhile_imp hc
    · exact h c hc
  · exact fun h c hc => h c ((List.dropWhile_sublist p).subset hc)

end Ends

theorem isEmpty_trim (s : String) : (trim s).isEmpty = isBlankText s := by
  rw [Bool.eq_iff_iff, String.isEmpty_iff, trim, String.ofList_eq_empty_iff, stripWhile_eq_nil_iff, isBlankText,
    List.all_eq_true]

end TorrentSearch.Text
