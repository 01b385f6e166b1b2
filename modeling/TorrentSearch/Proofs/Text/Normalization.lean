import Mathlib.Tactic.Tauto
import TorrentSearch.Text.Normalization

/-!
# What composition keeps

Controls and spaces have no parts and are no parts. So canonical composition neither removes them
nor makes other characters of them, whatever stands around them.
-/

namespace TorrentSearch.Text.Normalization

theorem partsTable_of_ascii {c : Nat} (hc : c < 0x80) : partsTable[c]? = none := by
  rw [partsTable, ← Array.foldl_toList]
  refine List.foldlRecOn (motive := fun m : Std.HashMap Nat (List Nat) => m[c]? = none) _ _
    Std.HashMap.getElem?_empty fun m hm d _ => ?_
  have hcode : (d.code == c) = false := by
    have := d.outsideAscii
    simp only [beq_eq_false_iff_ne, ne_eq]
    omega
  rwa [Std.HashMap.getElem?_insert, hcode, if_neg Bool.false_ne_true]

theorem composites_of_invisible {a b : Nat} (h : a ≤ 0x20 ∨ b ≤ 0x20) :
    composites[(a, b)]? = none := by
  rw [composites, ← Array.foldl_toList]
  refine List.foldlRecOn (motive := fun m : Std.HashMap (Nat × Nat) Nat => m[(a, b)]? = none) _ _
    Std.HashMap.getElem?_empty fun m hm d _ => ?_
  split
  · rename_i x y _ hparts
    have hx := d.parts_visible x (by rw [hparts]; simp)
    have hy := d.parts_visible y (by rw [hparts]; simp)
    have hkey : ((x, y) == (a, b)) = false := by
      simp only [beq_eq_false_iff_ne, ne_eq, Prod.mk.injEq]
      omega
    rwa [Std.HashMap.getElem?_insert, hkey, if_neg Bool.false_ne_true]
  · exact hm

theorem hangulParts?_of_ascii {c : Nat} (hc : c < 0x80) : hangulParts? c = none := by
  unfold hangulParts?
  exact if_neg (by omega)

theorem hangulComposite?_of_invisible {a b : Nat} (h : a ≤ 0x20 ∨ b ≤ 0x20) :
    hangulComposite? a b = none := by
  unfold hangulComposite?
  rw [if_neg (by omega), if_neg (by omega)]

theorem decompose_of_ascii {c : Nat} (hc : c < 0x80) (depth : Nat) : decompose depth c = [c] := by
  cases depth with
  | zero => rfl
  | succ depth => rw [decompose, hangulParts?_of_ascii hc, partsTable_of_ascii hc]; rfl

theorem mem_insertMark {c k : Nat} {out : List (Nat × Nat)} {p : Nat × Nat} :
    p ∈ insertMark c k out ↔ p = (c, k) ∨ p ∈ out := by
  induction out with
  | nil => simp [insertMark]
  | cons q out ih =>
    rw [insertMark]
    split
    · rw [List.mem_cons, ih, List.mem_cons]
      exact or_left_comm
    · rw [List.mem_cons]

theorem mem_foldl_insertMark {s : List Nat} {out : List (Nat × Nat)} {p : Nat × Nat} :
    p ∈ s.foldl (fun out c => insertMark c (combiningClass c) out) out ↔
      p ∈ out ∨ ∃ c ∈ s, p = (c, combiningClass c) := by
  induction s generalizing out with
  | nil => simp
  | cons c s ih =>
    rw [List.foldl_cons, ih, mem_insertMark]
    simp only [List.mem_cons, exists_eq_or_imp]
    tauto

theorem mem_orderMarks {s : List Nat} {c : Nat} (hc : c ∈ s) :
    (c, combiningClass c) ∈ orderMarks s :=
  List.mem_reverse.mpr (mem_foldl_insertMark.mpr (.inr ⟨c, hc, rfl⟩))

/-- The characters that the composer has, in reverse. Marks stand behind one without a class. -/
def Composer.codes (s : Composer) : List Nat :=
  match s.starter with
  | none => s.done
  | some a => s.marks.map (·.1) ++ a :: s.done

theorem mem_codes_none {x : Nat} {done : List Nat} {marks : List (Nat × Nat)} :
    x ∈ Composer.codes ⟨done, none, marks⟩ ↔ x ∈ done :=
  Iff.rfl

theorem mem_codes_some {x a : Nat} {done : List Nat} {marks : List (Nat × Nat)} :
    x ∈ Composer.codes ⟨done, some a, marks⟩ ↔ x ∈ marks.map (·.1) ∨ x = a ∨ x ∈ done := by
  rw [Composer.codes, List.mem_append, List.mem_cons]

/-- A control or a space is neither composed with what follows nor with what stands before it. -/
theorem mem_codes_composeStep {x : Nat} (hx : x ≤ 0x20) (s : Composer) (next : Nat × Nat)
    (h : x ∈ s.codes ∨ x = next.1) : x ∈ (composeStep s next).codes := by
  obtain ⟨c, k⟩ := next
  obtain ⟨done, starter, marks⟩ := s
  unfold composeStep
  cases starter with
  | none =>
    simp only [mem_codes_none] at h ⊢
    split
    · exact mem_codes_some.mpr (.inr h.symm)
    · exact List.mem_cons.mpr h.symm
  | some a =>
    simp only [mem_codes_some] at h ⊢
    split
    · rename_i composite hcomposite
      have hvisible : ¬(a ≤ 0x20 ∨ c ≤ 0x20) := by
        intro hinvisible
        simp only [hangulComposite?_of_invisible hinvisible, composites_of_invisible hinvisible,
          Option.or_none, ite_self, reduceCtorEq] at hcomposite
      rw [mem_codes_some]
      rcases h with (h | rfl | h) | rfl
      · exact .inl h
      · omega
      · exact .inr (.inr h)
      · omega
    · split
      · rw [mem_codes_some, List.mem_append, List.mem_cons]
        tauto
      · rw [mem_codes_some, List.map_cons, List.mem_cons]
        tauto

theorem mem_codes_foldl_composeStep {x : Nat} (hx : x ≤ 0x20) (marks : List (Nat × Nat))
    (s : Composer) (h : x ∈ s.codes ∨ x ∈ marks.map (·.1)) :
    x ∈ (marks.foldl composeStep s).codes := by
  induction marks generalizing s with
  | nil => simpa using h
  | cons next marks ih =>
    rw [List.foldl_cons]
    rcases h with h | h
    · exact ih _ (.inl (mem_codes_composeStep hx s next (.inl h)))
    · rcases List.mem_cons.mp h with h | h
      · exact ih _ (.inl (mem_codes_composeStep hx s next (.inr h)))
      · exact ih _ (.inr h)

theorem mem_compose {x : Nat} (hx : x ≤ 0x20) {s : List Nat} (h : x ∈ s) : x ∈ compose s := by
  unfold compose
  split
  · exact h
  · have hparts : x ∈ s.flatMap (decompose 8) :=
      List.mem_flatMap.mpr ⟨x, h, by simp [decompose_of_ascii (show x < 0x80 by omega)]⟩
    have hcodes := mem_codes_foldl_composeStep hx _ ⟨[], none, []⟩
      (.inr (List.mem_map.mpr ⟨_, mem_orderMarks hparts, rfl⟩))
    simp only [composeMarks, List.mem_reverse, List.mem_append]
    revert hcodes
    obtain ⟨done, starter, marks⟩ :=
      (orderMarks (s.flatMap (decompose 8))).foldl composeStep ⟨[], none, []⟩
    cases starter with
    | none => exact fun hdone => .inr (mem_codes_none.mp hdone)
    | some a =>
      rw [mem_codes_some, Option.toList_some, List.mem_singleton]
      tauto

end TorrentSearch.Text.Normalization
