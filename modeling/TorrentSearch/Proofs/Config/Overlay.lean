import TorrentSearch.Config.Environment

/-!
# Values under values laid over them

A path leads through tables to a value. Where the upper of two trees has a value, that value is laid over
what the lower tree has there, and where the upper tree says nothing the lower one is seen.
-/

namespace TorrentSearch.Toml

theorem lookup_cons_of_ne {key k : String} (h : key ≠ k) (v : Value) (es : Entries) :
    ((k, v) :: es : Entries).lookup key = es.lookup key := by
  rw [List.lookup_cons, beq_eq_false_iff_ne.mpr h]

theorem lookup_setEntry (key k : String) (v : Value) (es : Entries) :
    (setEntry key v es).lookup k = if k = key then some v else es.lookup k := by
  induction es with
  | nil =>
    by_cases hk : k = key
    · rw [if_pos hk, hk, setEntry, List.lookup_cons_self]
    · rw [if_neg hk, setEntry, lookup_cons_of_ne hk]
  | cons e es ih =>
    obtain ⟨k', w⟩ := e
    rw [setEntry]
    split
    · rename_i hkey
      subst hkey
      by_cases hk : k = k'
      · rw [if_pos hk, hk, List.lookup_cons_self]
      · rw [if_neg hk, lookup_cons_of_ne hk, lookup_cons_of_ne hk]
    · rename_i hkey
      by_cases hk : k = k'
      · rw [hk, if_neg hkey, List.lookup_cons_self, List.lookup_cons_self]
      · rw [lookup_cons_of_ne hk, lookup_cons_of_ne hk, ih]

theorem keys_setEntry (key : String) (v : Value) (es : Entries) :
    (setEntry key v es).map Prod.fst =
      if key ∈ es.map Prod.fst then es.map Prod.fst else es.map Prod.fst ++ [key] := by
  induction es with
  | nil => rfl
  | cons e es ih =>
    obtain ⟨k, w⟩ := e
    by_cases hk : k = key
    · simp [setEntry, hk]
    · simp only [setEntry, if_neg hk, List.map_cons, ih, List.mem_cons, Ne.symm hk, false_or]
      split <;> rfl

theorem mem_setEntry {key : String} {v : Value} {es : Entries} {e : String × Value}
    (h : e ∈ setEntry key v es) : e.2 = v ∨ e ∈ es := by
  induction es with
  | nil =>
    rw [setEntry, List.mem_singleton] at h
    exact .inl (h ▸ rfl)
  | cons d es ih =>
    obtain ⟨k, w⟩ := d
    rw [setEntry] at h
    split at h
    · rcases List.mem_cons.mp h with rfl | h
      · exact .inl rfl
      · exact .inr (List.mem_cons_of_mem _ h)
    · rcases List.mem_cons.mp h with rfl | h
      · exact .inr List.mem_cons_self
      · exact (ih h).imp_right (List.mem_cons_of_mem _)

theorem mem_of_lookup {key : String} {v : Value} {es : Entries} (h : es.lookup key = some v) :
    (key, v) ∈ es := by
  obtain ⟨front, back, rfl, -⟩ := List.lookup_eq_some_iff.mp h
  exact List.mem_append_right _ List.mem_cons_self

namespace Value

def IsTable (v : Value) : Prop := ∃ es, v = .table es

def at? : List String → Value → Option Value
  | [], v => some v
  | key :: path, .table es => (es.lookup key).bind (at? path)
  | _ :: _, _ => none

/-- Tables lead along the path up to a key that is not there. -/
def Silent : List String → Value → Prop
  | key :: path, .table es => ∀ v, es.lookup key = some v → Silent path v
  | _, _ => False

/-- No table in the tree names a key twice. -/
inductive Tidy : Value → Prop
  | table {es : Entries} (keys : (es.map Prod.fst).Nodup) (values : ∀ e ∈ es, Tidy e.2) :
      Tidy (.table es)
  | leaf {v : Value} (h : ¬ v.IsTable) : Tidy v

/-- A value over another one, if there is one. -/
def laidOver (old : Option Value) (v : Value) : Value :=
  match old with
  | some old => overlay old v
  | none => v

variable {l u v w : Value} {es : Entries} {p q : List String}

theorem Tidy.keys (h : Tidy (.table es)) : (es.map Prod.fst).Nodup := by
  cases h with
  | table keys _ => exact keys
  | leaf h => exact absurd ⟨es, rfl⟩ h

theorem Tidy.values (h : Tidy (.table es)) : ∀ e ∈ es, Tidy e.2 := by
  cases h with
  | table _ values => exact values
  | leaf h => exact absurd ⟨es, rfl⟩ h

theorem Tidy.of_lookup {key : String} (h : Tidy (.table es)) (hv : es.lookup key = some v) : Tidy v :=
  h.values _ (mem_of_lookup hv)

theorem overlay_of_not_isTable (h : ¬ u.IsTable) : overlay l u = u := by
  cases u with
  | table es => exact absurd ⟨es, rfl⟩ h
  | _ => rfl

theorem lookup_overlayEntries {lower upper : Entries} (hkeys : (upper.map Prod.fst).Nodup)
    (key : String) :
    (overlayEntries lower upper).lookup key =
      match upper.lookup key with
      | some v => some (laidOver (lower.lookup key) v)
      | none => lower.lookup key := by
  induction upper generalizing lower with
  | nil => rfl
  | cons e upper ih =>
    obtain ⟨k, v⟩ := e
    rw [List.map_cons, List.nodup_cons] at hkeys
    rw [overlayEntries, ih hkeys.2, lookup_setEntry]
    by_cases hk : key = k
    · subst hk
      have hnone : upper.lookup key = none := by
        rw [List.lookup_eq_none_iff]
        intro e he
        have hne : key ≠ e.1 := fun heq => hkeys.1 (List.mem_map.mpr ⟨e, he, heq.symm⟩)
        exact bne_iff_ne.mpr hne
      rw [hnone, if_pos rfl, List.lookup_cons_self]
      rfl
    · rw [if_neg hk, lookup_cons_of_ne hk]

theorem at?_append (p q : List String) (v : Value) : at? (p ++ q) v = (at? p v).bind (at? q) := by
  induction p generalizing v with
  | nil => rfl
  | cons key p ih =>
    cases v with
    | table es =>
      rw [List.cons_append, at?, at?]
      cases es.lookup key with
      | none => rfl
      | some w => exact ih w
    | _ => rfl

theorem at?_cons (key : String) (path : List String) (v : Value) :
    at? (key :: path) v = (at? [key] v).bind (at? path) :=
  at?_append [key] path v

theorem at?_singleton (key : String) (es : Entries) : at? [key] (.table es) = es.lookup key := by
  rw [at?]
  cases es.lookup key <;> rfl

theorem exists_overlay_table (hkeys : (es.map Prod.fst).Nodup) :
    ∃ laid, overlay l (.table es) = .table laid ∧ ∀ key, laid.lookup key =
      match es.lookup key with
      | some v => some (laidOver (at? [key] l) v)
      | none => at? [key] l := by
  cases l with
  | table les =>
    refine ⟨overlayEntries les es, rfl, fun key => ?_⟩
    rw [lookup_overlayEntries hkeys, at?_singleton]
  | _ =>
    refine ⟨es, rfl, fun key => ?_⟩
    cases es.lookup key <;> rfl

theorem at?_overlay (hu : u.Tidy) (hw : at? p u = some w) :
    at? p (overlay l u) = some (laidOver (at? p l) w) := by
  induction p generalizing l u with
  | nil =>
    obtain rfl := Option.some.inj hw
    rfl
  | cons key path ih =>
    cases u with
    | table es =>
      obtain ⟨v, hv, hw⟩ := Option.bind_eq_some_iff.mp hw
      obtain ⟨laid, hlaid, hlookup⟩ := exists_overlay_table (l := l) hu.keys
      rw [hlaid, at?_cons, at?_singleton, hlookup, hv, at?_cons key path l]
      cases at? [key] l with
      | some old => exact ih (hu.of_lookup hv) hw
      | none => exact hw
    | _ => cases hw

theorem silent_empty (hp : p ≠ []) : Silent p (.table []) := by
  cases p with
  | nil => exact absurd rfl hp
  | cons key path => exact fun v hv => nomatch hv

theorem Silent.at?_eq_none (h : Silent p u) : at? p u = none := by
  induction p generalizing u with
  | nil => cases u <;> cases h
  | cons key path ih =>
    cases u with
    | table es =>
      rw [at?, Option.bind_eq_none_iff]
      exact fun v hv => ih (h v hv)
    | _ => cases h

theorem Silent.at?_overlay (h : Silent p u) (hu : u.Tidy) : at? p (overlay l u) = at? p l := by
  induction p generalizing l u with
  | nil => cases u <;> cases h
  | cons key path ih =>
    cases u with
    | table es =>
      obtain ⟨laid, hlaid, hlookup⟩ := exists_overlay_table (l := l) hu.keys
      rw [hlaid, at?_cons, at?_singleton, hlookup, at?_cons key path l]
      cases hv : es.lookup key with
      | none => rfl
      | some v =>
        cases at? [key] l with
        | some old => exact ih (h v hv) (hu.of_lookup hv)
        | none => exact (h v hv).at?_eq_none
    | _ => cases h

theorem Silent.overlay (hl : Silent p l) (h : Silent p u) (hu : u.Tidy) : Silent p (overlay l u) := by
  induction p generalizing l u with
  | nil => cases u <;> cases h
  | cons key path ih =>
    cases u with
    | table es =>
      cases l with
      | table les =>
        intro w hw
        rw [lookup_overlayEntries hu.keys] at hw
        cases hv : es.lookup key with
        | none =>
          rw [hv] at hw
          exact hl w hw
        | some v =>
          rw [hv] at hw
          obtain rfl := Option.some.inj hw
          cases hold : les.lookup key with
          | none => exact h v hv
          | some old => exact ih (hl old hold) (h v hv) (hu.of_lookup hv)
      | _ => cases hl
    | _ => cases h

theorem laidOver_of_not_isTable (old : Option Value) (h : ¬ v.IsTable) : laidOver old v = v := by
  cases old with
  | some old => exact overlay_of_not_isTable h
  | none => rfl

theorem IsTable.laidOver (h : v.IsTable) (old : Option Value) : (laidOver old v).IsTable := by
  obtain ⟨es, rfl⟩ := h
  cases old with
  | none => exact ⟨es, rfl⟩
  | some old => cases old <;> exact ⟨_, rfl⟩

open TorrentSearch.Config (nest)

theorem at?_nest (p rest : List String) (v : Value) : at? p (nest v (p ++ rest)) = some (nest v rest) := by
  induction p with
  | nil => rfl
  | cons key p ih => rw [List.cons_append, nest, at?, List.lookup_cons_self, Option.bind_some, ih]

theorem at?_nest_self (p : List String) (v : Value) : at? p (nest v p) = some v := by
  simpa [nest] using at?_nest p [] v

theorem silent_nest (hp : ¬ p <+: q) (hq : ¬ q <+: p) (v : Value) : Silent p (nest v q) := by
  induction q generalizing p with
  | nil => exact absurd List.nil_prefix hq
  | cons key q ih =>
    cases p with
    | nil => exact absurd List.nil_prefix hp
    | cons key' p =>
      intro w hw
      by_cases hkey : key' = key
      · subst hkey
        rw [List.lookup_cons_self, Option.some.injEq] at hw
        subst hw
        exact ih (fun h => hp (List.cons_prefix_cons.mpr ⟨rfl, h⟩))
          (fun h => hq (List.cons_prefix_cons.mpr ⟨rfl, h⟩))
      · rw [lookup_cons_of_ne hkey] at hw
        cases hw

theorem tidy_nest (hv : ¬ v.IsTable) (p : List String) : (nest v p).Tidy := by
  induction p with
  | nil => exact .leaf hv
  | cons key p ih =>
    refine .table (by simp) fun e he => ?_
    obtain rfl := List.mem_singleton.mp he
    exact ih

theorem Tidy.setEntry {key : String} (hes : (Value.table es).Tidy) (hv : v.Tidy) :
    (Value.table (Toml.setEntry key v es)).Tidy := by
  refine .table ?_ fun e he => ?_
  · rw [keys_setEntry]
    split
    · exact hes.keys
    · rename_i hnew
      exact List.nodup_append.mpr ⟨hes.keys, by simp, fun a ha b hb => by
        rw [List.mem_singleton.mp hb]
        exact fun heq => hnew (heq ▸ ha)⟩
  · rcases mem_setEntry he with heq | hold
    · exact heq ▸ hv
    · exact hes.values e hold

theorem Tidy.overlay_nest (hl : l.Tidy) (hv : ¬ v.IsTable) (p : List String) :
    (Value.overlay l (nest v p)).Tidy := by
  induction p generalizing l with
  | nil =>
    rw [nest, overlay_of_not_isTable hv]
    exact .leaf hv
  | cons key p ih =>
    cases l with
    | table es =>
      have hnew : (laidOver (es.lookup key) (nest v p)).Tidy := by
        cases hold : es.lookup key with
        | none => exact tidy_nest hv p
        | some old => exact ih (hl.of_lookup hold)
      exact hl.setEntry hnew
    | _ => exact tidy_nest hv (key :: p)

end Value

end TorrentSearch.Toml
