import TorrentSearch.Cbor.Decode

/-!
# Readers that stop

Reading an item takes from some bytes what belongs to the item and never looks at what stands behind it.
So what can be read at all is read alike whatever is put behind it, and bytes that break off before their
item is complete are no other, shorter item.
-/

namespace TorrentSearch.Cbor

/-- What the reader reads, it reads whatever stands behind. -/
def Stops {α : Type} (read? : Bytes → Option (α × Bytes)) : Prop :=
  ∀ {s : Bytes} {x : α} {rest : Bytes} (t : Bytes),
    read? s = some (x, rest) → read? (s ++ t) = some (x, rest ++ t)

/-- The reader reads nothing where no head can be read. -/
def Headed {α : Type} (read? : Bytes → Option (α × Bytes)) : Prop :=
  ∀ s, Head.read? s = none → read? s = none

/-- If bytes are read to their end, none of their fronts is read as anything. -/
theorem Stops.eq_none {α : Type} {read? : Bytes → Option (α × Bytes)} (h : Stops read?) {s : Bytes} {x : α}
    (hs : read? s = some (x, [])) {front : Bytes} (hfront : front <+: s) (hne : front ≠ s) :
    read? front = none := by
  obtain ⟨t, rfl⟩ := hfront
  cases hread : read? front with
  | none => rfl
  | some found =>
    obtain ⟨y, rest⟩ := found
    have hwhole := (h t hread).symm.trans hs
    simp only [Option.some.injEq, Prod.mk.injEq, List.append_eq_nil_iff] at hwhole
    obtain ⟨-, -, rfl⟩ := hwhole
    exact absurd (List.append_nil front).symm hne

theorem takeOnto?_append_right {α : Type} {n : Nat} {taken s front rest : List α} (t : List α)
    (h : takeOnto? n taken s = some (front, rest)) :
    takeOnto? n taken (s ++ t) = some (front, rest ++ t) := by
  induction n generalizing taken s with
  | zero =>
    simp only [takeOnto?, Option.some.injEq, Prod.mk.injEq] at h ⊢
    exact ⟨h.1, by rw [h.2]⟩
  | succ n ih =>
    cases s with
    | nil => cases h
    | cons x s => exact ih h

theorem stops_takeExactly? (n : Nat) : Stops (takeExactly? (α := UInt8) n) :=
  fun t h => takeOnto?_append_right t h

theorem Head.stops_read? : Stops Head.read? := by
  intro s head rest t h
  cases s with
  | nil => cases h
  | cons b s =>
    simp only [List.cons_append, Head.read?] at h ⊢
    split at h
    · rename_i hshort
      simp only [Option.some.injEq, Prod.mk.injEq] at h
      obtain ⟨rfl, rfl⟩ := h
      rw [if_pos hshort]
    · rename_i hshort
      rw [if_neg hshort]
      split at h
      · rename_i hlong
        obtain ⟨⟨n, s'⟩, htake, heq⟩ := Option.map_eq_some_iff.mp h
        simp only [Prod.mk.injEq] at heq
        obtain ⟨rfl, rfl⟩ := heq
        rw [if_pos hlong, stops_takeExactly? _ t htake]
        rfl
      · rename_i hlong
        rw [if_neg hlong]
        split at h
        · rename_i hopen
          obtain ⟨k, hkind, heq⟩ := Option.map_eq_some_iff.mp h
          simp only [Prod.mk.injEq] at heq
          obtain ⟨rfl, rfl⟩ := heq
          rw [if_pos hopen, hkind]
          rfl
        · cases h

section

variable {α : Type} {read? : Bytes → Option (α × Bytes)}

theorem stops_readMany? (h : Stops read?) (n : Nat) : Stops (readMany? read? n) := by
  intro s xs rest t hread
  induction n generalizing s xs with
  | zero =>
    simp only [readMany?, Option.some.injEq, Prod.mk.injEq] at hread ⊢
    exact ⟨hread.1, by rw [hread.2]⟩
  | succ n ih =>
    simp only [readMany?, Option.bind_eq_bind, Option.bind_eq_some_iff] at hread
    obtain ⟨⟨x, s'⟩, hx, ⟨xs', s''⟩, hxs, heq⟩ := hread
    cases heq
    simp only [readMany?, Option.bind_eq_bind, h t hx, ih hxs, Option.bind_some]
    rfl

theorem readUntilStop?_append (h : Stops read?) (hhead : Headed read?) {fuel fuel' : Nat}
    (hfuel : fuel ≤ fuel') {s rest : Bytes} {xs : List α} (t : Bytes)
    (hread : readUntilStop? read? fuel s = some (xs, rest)) :
    readUntilStop? read? fuel' (s ++ t) = some (xs, rest ++ t) := by
  induction fuel generalizing fuel' s xs with
  | zero => cases hread
  | succ fuel ih =>
    cases fuel' with
    | zero => exact absurd hfuel (Nat.not_succ_le_zero fuel)
    | succ fuel' =>
      have hmore : fuel ≤ fuel' := Nat.le_of_succ_le_succ hfuel
      unfold readUntilStop? at hread ⊢
      cases hs : Head.read? s with
      | none => simp [hs, hhead s hs] at hread
      | some found =>
        obtain ⟨head, behind⟩ := found
        rw [Head.stops_read? t hs]
        rw [hs] at hread
        cases head with
        | stop =>
          cases hread
          rfl
        | _ =>
          simp only [Option.bind_eq_bind, Option.bind_eq_some_iff] at hread ⊢
          obtain ⟨⟨x, s₁⟩, hx, ⟨ys, s₂⟩, hys, heq⟩ := hread
          cases heq
          exact ⟨_, h t hx, _, ih hmore hys, rfl⟩

theorem stops_readValues? (h : Stops read?) (hhead : Headed read?) (length : Option Nat) :
    Stops (readValues? read? length) := by
  intro s xs rest t hread
  cases length with
  | some n => exact stops_readMany? h n t hread
  | none => exact readUntilStop?_append h hhead (by simp) t hread

end

theorem readPieces?_append {isText : Bool} {fuel fuel' nesting : Nat} (hfuel : fuel ≤ fuel')
    {s rest : Bytes} {pieces : List Bytes} (t : Bytes)
    (hread : readPieces? isText fuel nesting s = some (pieces, rest)) :
    readPieces? isText fuel' nesting (s ++ t) = some (pieces, rest ++ t) := by
  induction fuel generalizing fuel' s nesting pieces with
  | zero => cases hread
  | succ fuel ih =>
    cases fuel' with
    | zero => exact absurd hfuel (Nat.not_succ_le_zero fuel)
    | succ fuel' =>
      have hmore : fuel ≤ fuel' := Nat.le_of_succ_le_succ hfuel
      have hpiece {n : Nat} {behind : Bytes}
          (h : ((takeExactly? n behind).bind fun front =>
            (readPieces? isText fuel nesting front.2).bind fun others =>
              some (front.1 :: others.1, others.2)) = some (pieces, rest)) :
          ((takeExactly? n (behind ++ t)).bind fun front =>
            (readPieces? isText fuel' nesting front.2).bind fun others =>
              some (front.1 :: others.1, others.2)) = some (pieces, rest ++ t) := by
        simp only [Option.bind_eq_some_iff] at h ⊢
        obtain ⟨⟨front, s₁⟩, htake, ⟨others, s₂⟩, hothers, heq⟩ := h
        cases heq
        exact ⟨_, stops_takeExactly? n t htake, _, ih hmore hothers, rfl⟩
      unfold readPieces? at hread ⊢
      cases hs : Head.read? s with
      | none => simp [hs] at hread
      | some found =>
        obtain ⟨head, behind⟩ := found
        rw [Head.stops_read? t hs]
        rw [hs] at hread
        cases head with
        | bytes length =>
          cases length <;> cases isText
          · exact ih hmore hread
          · cases hread
          · exact hpiece hread
          · cases hread
        | text length =>
          cases length <;> cases isText
          · cases hread
          · exact ih hmore hread
          · cases hread
          · exact hpiece hread
        | stop =>
          dsimp only at hread ⊢
          split at hread
          · rename_i hout
            rw [if_pos hout]
            cases hread
            rfl
          · rename_i hin
            rw [if_neg hin]
            exact ih hmore hread
        | _ => cases hread

theorem readTags?_append {fuel fuel' : Nat} (hfuel : fuel ≤ fuel') {head last : Head} {s rest : Bytes}
    {tags : List Nat} (t : Bytes) (hread : readTags? fuel head s = some (tags, last, rest)) :
    readTags? fuel' head (s ++ t) = some (tags, last, rest ++ t) := by
  induction fuel generalizing fuel' head s tags with
  | zero => cases head <;> cases hread
  | succ fuel ih =>
    cases fuel' with
    | zero => exact absurd hfuel (Nat.not_succ_le_zero fuel)
    | succ fuel' =>
      have hmore : fuel ≤ fuel' := Nat.le_of_succ_le_succ hfuel
      cases head with
      | tag n =>
        simp only [readTags?, Option.bind_eq_bind, Option.bind_eq_some_iff] at hread ⊢
        obtain ⟨⟨next, s₁⟩, hs, ⟨others, last', s₂⟩, hothers, heq⟩ := hread
        cases heq
        exact ⟨_, Head.stops_read? t hs, _, ih hmore hothers, rfl⟩
      | _ =>
        cases hread
        rfl

section

variable {read? : Bytes → Option (Item × Bytes)} {inner : Option (Bytes → Option (Item × Bytes))}

theorem stops_readPair? (h : Stops read?) : Stops (readPair? read?) := by
  intro s pair rest t hread
  simp only [readPair?, Option.bind_eq_bind, Option.bind_eq_some_iff] at hread ⊢
  obtain ⟨⟨key, s₁⟩, hkey, ⟨value, s₂⟩, hvalue, heq⟩ := hread
  cases heq
  exact ⟨_, h t hkey, _, h t hvalue, rfl⟩

theorem headed_readPair? (h : Headed read?) : Headed (readPair? read?) := by
  intro s hs
  simp [readPair?, h s hs]

theorem stops_readBody? (h : ∀ read? ∈ inner, Stops read? ∧ Headed read?) (head : Head) :
    Stops (readBody? inner head) := by
  intro s item rest t hread
  cases head with
  | unsigned n | negative n | simple n | float bits =>
    cases hread
    rfl
  | bytes length =>
    cases length with
    | some n =>
      obtain ⟨⟨b, s₁⟩, htake, heq⟩ := Option.map_eq_some_iff.mp hread
      cases heq
      exact Option.map_eq_some_iff.mpr ⟨_, stops_takeExactly? n t htake, rfl⟩
    | none =>
      obtain ⟨⟨pieces, s₁⟩, hpieces, heq⟩ := Option.map_eq_some_iff.mp hread
      cases heq
      have hmore : readPieces? false ((s ++ t).length + 1) 0 (s ++ t) = some (pieces, rest ++ t) :=
        readPieces?_append (by simp) t hpieces
      exact Option.map_eq_some_iff.mpr ⟨_, hmore, rfl⟩
  | text length =>
    cases length with
    | some n =>
      simp only [readBody?, Option.bind_eq_bind, Option.bind_eq_some_iff] at hread ⊢
      obtain ⟨⟨b, s₁⟩, htake, text, htext, heq⟩ := hread
      cases heq
      exact ⟨_, stops_takeExactly? n t htake, text, htext, rfl⟩
    | none =>
      simp only [readBody?, Option.bind_eq_bind, Option.bind_eq_some_iff] at hread ⊢
      obtain ⟨⟨pieces, s₁⟩, hpieces, text, htext, heq⟩ := hread
      cases heq
      have hmore : readPieces? true ((s ++ t).length + 1) 0 (s ++ t) = some (pieces, s₁ ++ t) :=
        readPieces?_append (by simp) t hpieces
      exact ⟨_, hmore, text, htext, rfl⟩
  | array length =>
    simp only [readBody?, Option.bind_eq_bind, Option.bind_eq_some_iff] at hread ⊢
    obtain ⟨read?, hinner, ⟨items, s₁⟩, hvalues, heq⟩ := hread
    cases heq
    obtain ⟨hstops, hheaded⟩ := h read? hinner
    exact ⟨read?, hinner, _, stops_readValues? hstops hheaded length t hvalues, rfl⟩
  | map length =>
    simp only [readBody?, Option.bind_eq_bind, Option.bind_eq_some_iff] at hread ⊢
    obtain ⟨read?, hinner, ⟨pairs, s₁⟩, hvalues, heq⟩ := hread
    cases heq
    obtain ⟨hstops, hheaded⟩ := h read? hinner
    exact ⟨read?, hinner, _,
      stops_readValues? (stops_readPair? hstops) (headed_readPair? hheaded) length t hvalues, rfl⟩
  | tag n | stop => cases hread

theorem stops_readItem? (h : ∀ read? ∈ inner, Stops read? ∧ Headed read?) : Stops (readItem? inner) := by
  intro s item rest t hread
  simp only [readItem?, Option.bind_eq_bind, Option.bind_eq_some_iff] at hread ⊢
  obtain ⟨⟨head, s₁⟩, hs, hbody⟩ := hread
  refine ⟨_, Head.stops_read? t hs, ?_⟩
  cases head with
  | tag n =>
    simp only [Option.bind_eq_some_iff] at hbody ⊢
    obtain ⟨⟨tags, head, s₂⟩, htags, ⟨found, s₃⟩, hfound, heq⟩ := hbody
    cases heq
    have hmore : readTags? ((s₁ ++ t).length + 2) (.tag n) (s₁ ++ t) = some (tags, head, s₂ ++ t) :=
      readTags?_append (by simp) t htags
    exact ⟨_, hmore, _, stops_readBody? h head t hfound, rfl⟩
  | _ => exact stops_readBody? h _ t hbody

theorem headed_readItem? (inner : Option (Bytes → Option (Item × Bytes))) : Headed (readItem? inner) := by
  intro s hs
  simp [readItem?, hs]

end

namespace Item

theorem headed_decode? (levels : Nat) : Headed (decode? levels) := by
  cases levels <;> exact headed_readItem? _

theorem stops_decode? (levels : Nat) : Stops (decode? levels) := by
  induction levels with
  | zero => exact stops_readItem? (by simp)
  | succ levels ih =>
    refine stops_readItem? fun read? hread => ?_
    obtain rfl : decode? levels = read? := Option.some.inj hread
    exact ⟨ih, headed_decode? levels⟩

end Item

end TorrentSearch.Cbor
