import Mathlib.Algebra.GroupWithZero.Nat
import Mathlib.Data.List.Nodup
import TorrentSearch.Cbor.Decode

/-!
# Written items

Items of strings, arrays and maps are read back from their shortest written form, whatever stands
behind it, as long as all lengths fit into eight bytes.
-/

namespace TorrentSearch.Cbor

theorem takeOnto?_append {α : Type} (front taken rest : List α) :
    takeOnto? front.length taken (front ++ rest) = some (taken.reverse ++ front, rest) := by
  induction front generalizing taken with
  | nil => simp [takeOnto?]
  | cons x front ih =>
    rw [List.length_cons, List.cons_append, takeOnto?, ih, List.reverse_cons, List.append_assoc]
    rfl

theorem takeExactly?_append {α : Type} {n : Nat} {front : List α} (h : front.length = n)
    (rest : List α) : takeExactly? n (front ++ rest) = some (front, rest) := by
  subst h
  exact takeOnto?_append front [] rest

@[simp] theorem length_bigEndian (count n : Nat) : (bigEndian count n).length = count := by
  induction count with
  | zero => rfl
  | succ count ih => rw [bigEndian, List.length_cons, ih]

private theorem foldl_bigEndian (count n start : Nat) :
    (bigEndian count n).foldl (fun n b => n * 256 + b.toNat) start =
      start * 256 ^ count + n % 256 ^ count := by
  induction count generalizing start with
  | zero => simp [bigEndian, Nat.mod_one]
  | succ count ih =>
    have hbyte : (UInt8.ofNat (n / 256 ^ count % 256)).toNat = n / 256 ^ count % 256 := by
      rw [UInt8.toNat_ofNat']
      exact Nat.mod_mod _ _
    rw [bigEndian, Nat.pow_eq, List.foldl_cons, ih, hbyte, Nat.mod_pow_succ, Nat.pow_succ]
    grind

theorem ofBigEndian_bigEndian {count n : Nat} (h : n < 256 ^ count) :
    ofBigEndian (bigEndian count n) = n := by
  rw [ofBigEndian, foldl_bigEndian, Nat.zero_mul, Nat.zero_add, Nat.mod_eq_of_lt h]

namespace Head

variable {kind low : Nat}

private theorem toNat_first (hkind : kind < 8) (hlow : low < 32) :
    (UInt8.ofNat (kind * 32 + low)).toNat / 32 = kind ∧
      (UInt8.ofNat (kind * 32 + low)).toNat % 32 = low := by
  have hbyte : (UInt8.ofNat (kind * 32 + low)).toNat = kind * 32 + low := by
    rw [UInt8.toNat_ofNat']
    omega
  omega

private theorem read?_short (hkind : kind < 8) (hlow : low < 24) (rest : Bytes) :
    read? (UInt8.ofNat (kind * 32 + low) :: rest) = some (ofNumber kind low low, rest) := by
  obtain ⟨hfirst, hsecond⟩ := toNat_first hkind (show low < 32 by omega)
  simp only [read?, hfirst, hsecond, hlow, if_true]

private theorem read?_long (hkind : kind < 8) (hlow : 24 ≤ low) (hhigh : low < 28)
    {count n : Nat} (hcount : Nat.pow 2 (low - 24) = count) (hn : n < 256 ^ count) (rest : Bytes) :
    read? (UInt8.ofNat (kind * 32 + low) :: bigEndian count n ++ rest) =
      some (ofNumber kind low n, rest) := by
  obtain ⟨hfirst, hsecond⟩ := toNat_first hkind (show low < 32 by omega)
  have hshort : ¬ low < 24 := by omega
  have htake := takeExactly?_append (length_bigEndian count n) rest
  simp only [List.cons_append, read?, hfirst, hsecond, hshort, if_false, hhigh, if_true, hcount,
    htake, Option.map_some, ofBigEndian_bigEndian hn]

/-- For kinds other than the last it does not matter how the number is written. -/
theorem ofNumber_eq (hkind : kind < 7) (low n : Nat) : ofNumber kind low n = ofNumber kind 0 n := by
  rcases kind with _ | _ | _ | _ | _ | _ | _ | kind
  all_goals first | rfl | omega

theorem read?_encodeHead (kind : Nat) {n : Nat} (hkind : kind < 7) (hn : n < 2 ^ 64) (rest : Bytes) :
    read? (encodeHead kind n ++ rest) = some (ofNumber kind 0 n, rest) := by
  have hkind' : kind < 8 := by omega
  unfold encodeHead
  dsimp only
  split
  · rename_i hsmall
    rw [← ofNumber_eq hkind n]
    exact read?_short hkind' hsmall rest
  · split
    · rw [← ofNumber_eq hkind 24]
      exact read?_long hkind' (by decide) (by decide) rfl (by omega) rest
    · split
      · rw [← ofNumber_eq hkind 25]
        exact read?_long hkind' (by decide) (by decide) rfl (by omega) rest
      · split
        · rw [← ofNumber_eq hkind 26]
          exact read?_long hkind' (by decide) (by decide) rfl (by omega) rest
        · rw [← ofNumber_eq hkind 27]
          exact read?_long hkind' (by decide) (by decide) rfl (by omega) rest

end Head

/-- The items that the cache writes, with arrays and maps of at most the given number of levels:
strings, arrays and maps whose lengths stand in front and fit into eight bytes. -/
inductive Item.Storable : Nat → Item → Prop where
  | bytes {levels : Nat} {value : Bytes} (hlength : value.length < 2 ^ 64) :
      Storable levels (.bytes true value)
  | text {levels : Nat} {value : String} (hlength : (Text.Utf8.encode value).length < 2 ^ 64) :
      Storable levels (.text true value)
  | array {levels : Nat} {items : List Item} (hlength : items.length < 2 ^ 64)
      (hitems : ∀ item ∈ items, Storable levels item) : Storable (levels + 1) (.array items)
  | map {levels : Nat} {pairs : List (Item × Item)} (hlength : pairs.length < 2 ^ 64)
      (hkeys : ∀ pair ∈ pairs, Storable levels pair.1)
      (hvalues : ∀ pair ∈ pairs, Storable levels pair.2) : Storable (levels + 1) (.map pairs)

theorem readMany?_encodeItems {read? : Bytes → Option (Item × Bytes)} {items : List Item}
    (h : ∀ item ∈ items, ∀ rest, read? (item.encode ++ rest) = some (item, rest)) (rest : Bytes) :
    readMany? read? items.length (Item.encodeItems items ++ rest) = some (items, rest) := by
  induction items with
  | nil => rfl
  | cons item items ih =>
    have hitem := h item List.mem_cons_self (Item.encodeItems items ++ rest)
    have hitems := ih fun other hother => h other (List.mem_cons_of_mem item hother)
    simp only [List.length_cons, Item.encodeItems, List.append_assoc, readMany?, hitem, hitems,
      Option.bind_eq_bind, Option.bind_some]
    rfl

theorem readMany?_encodePairs {read? : Bytes → Option (Item × Bytes)} {pairs : List (Item × Item)}
    (hkeys : ∀ pair ∈ pairs, ∀ rest, read? (pair.1.encode ++ rest) = some (pair.1, rest))
    (hvalues : ∀ pair ∈ pairs, ∀ rest, read? (pair.2.encode ++ rest) = some (pair.2, rest))
    (rest : Bytes) :
    readMany? (readPair? read?) pairs.length (Item.encodePairs pairs ++ rest) =
      some (pairs, rest) := by
  induction pairs with
  | nil => rfl
  | cons pair pairs ih =>
    obtain ⟨key, value⟩ := pair
    have hkey := hkeys _ List.mem_cons_self (value.encode ++ (Item.encodePairs pairs ++ rest))
    have hvalue := hvalues _ List.mem_cons_self (Item.encodePairs pairs ++ rest)
    have hpairs := ih (fun other hother => hkeys other (List.mem_cons_of_mem _ hother))
      fun other hother => hvalues other (List.mem_cons_of_mem _ hother)
    have hpair : readPair? read? (key.encode ++ (value.encode ++ (Item.encodePairs pairs ++ rest))) =
        some ((key, value), Item.encodePairs pairs ++ rest) := by
      simp only [readPair?, hkey, hvalue, Option.bind_eq_bind, Option.bind_some]
      rfl
    simp only [List.length_cons, Item.encodePairs, List.append_assoc, readMany?, hpair, hpairs,
      Option.bind_eq_bind, Option.bind_some]
    rfl

theorem readItem?_of_head {inner : Option (Bytes → Option (Item × Bytes))} {s body : Bytes}
    {head : Head} (h : Head.read? s = some (head, body)) (htag : ∀ n, head ≠ .tag n) :
    readItem? inner s = readBody? inner head body := by
  rw [readItem?, h, Option.bind_eq_bind, Option.bind_some]
  cases head with
  | tag n => exact absurd rfl (htag n)
  | _ => rfl

namespace Item

theorem decode?_succ (levels : Nat) : decode? (levels + 1) = readItem? (some (decode? levels)) :=
  rfl

theorem exists_decode?_eq (levels : Nat) : ∃ inner, decode? levels = readItem? inner := by
  cases levels with
  | zero => exact ⟨none, rfl⟩
  | succ levels => exact ⟨some (decode? levels), rfl⟩

/-- An item is read back from its written form, and what stands behind it is left. -/
theorem Storable.decode?_encode_append {levels : Nat} {item : Item} (h : item.Storable levels)
    (rest : Bytes) : decode? levels (item.encode ++ rest) = some (item, rest) := by
  -- strings are read at every level, while an array or a map leaves one level less to what is in it
  induction h generalizing rest with
  | @bytes levels value hlength =>
    obtain ⟨inner, hinner⟩ := exists_decode?_eq levels
    have hhead := Head.read?_encodeHead 2 (by decide) hlength (value ++ rest)
    rw [hinner, encode, List.append_assoc, readItem?_of_head hhead (by rintro n ⟨⟩)]
    simp only [Head.ofNumber, readBody?, takeExactly?_append rfl rest, Option.map_some]
  | @text levels value hlength =>
    obtain ⟨inner, hinner⟩ := exists_decode?_eq levels
    have hhead := Head.read?_encodeHead 3 (by decide) hlength
      (Text.Utf8.encode value ++ rest)
    rw [hinner, encode, List.append_assoc, readItem?_of_head hhead (by rintro n ⟨⟩)]
    simp only [Head.ofNumber, readBody?, takeExactly?_append rfl rest, Text.Utf8.decode?_encode,
      Option.bind_eq_bind, Option.bind_some]
    rfl
  | @array levels items hlength hitems ih =>
    have hhead := Head.read?_encodeHead 4 (by decide) hlength (encodeItems items ++ rest)
    have hmany := readMany?_encodeItems ih rest
    rw [decode?_succ, encode, List.append_assoc, readItem?_of_head hhead (by rintro n ⟨⟩)]
    simp only [Head.ofNumber, readBody?, readValues?, hmany, Option.bind_eq_bind, Option.bind_some]
    rfl
  | @map levels pairs hlength hkeys hvalues ihkeys ihvalues =>
    have hhead := Head.read?_encodeHead 5 (by decide) hlength (encodePairs pairs ++ rest)
    have hmany := readMany?_encodePairs ihkeys ihvalues rest
    rw [decode?_succ, encode, List.append_assoc, readItem?_of_head hhead (by rintro n ⟨⟩)]
    simp only [Head.ofNumber, readBody?, readValues?, hmany, Option.bind_eq_bind, Option.bind_some]
    rfl

theorem encodeHead_ne_nil (kind n : Nat) : encodeHead kind n ≠ [] := by
  unfold encodeHead
  dsimp only
  split
  · exact List.cons_ne_nil _ _
  · split
    · exact List.cons_ne_nil _ _
    · split
      · exact List.cons_ne_nil _ _
      · split <;> exact List.cons_ne_nil _ _

theorem length_encode_pos (item : Item) : 0 < item.encode.length := by
  have hhead (kind n : Nat) : 0 < (encodeHead kind n).length :=
    List.length_pos_iff.mpr (encodeHead_ne_nil kind n)
  cases item <;> simp only [encode, List.length_append, List.length_cons] <;>
    first | exact Nat.succ_pos _ | exact hhead _ _ | exact Nat.add_pos_left (hhead _ _) _

theorem length_utf8_le (definite : Bool) (s : String) :
    (Text.Utf8.encode s).length ≤ (text definite s).encode.length := by
  simp [encode]

theorem length_encodeItems_le (items : List Item) :
    (encodeItems items).length ≤ (array items).encode.length := by
  simp [encode]

theorem length_encodePairs_le (pairs : List (Item × Item)) :
    (encodePairs pairs).length ≤ (map pairs).encode.length := by
  simp [encode]

theorem length_le_encodeItems (items : List Item) : items.length ≤ (encodeItems items).length := by
  induction items with
  | nil => exact Nat.le_refl _
  | cons item items ih =>
    have hpos := length_encode_pos item
    rw [encodeItems, List.length_append, List.length_cons]
    omega

theorem length_encode_le_of_mem {item : Item} {items : List Item} (h : item ∈ items) :
    item.encode.length ≤ (encodeItems items).length := by
  induction items with
  | nil => cases h
  | cons other items ih =>
    rw [encodeItems, List.length_append]
    rcases List.mem_cons.mp h with rfl | h
    · omega
    · have hrest := ih h
      omega

theorem length_encode_le_of_mem_pairs {pair : Item × Item} {pairs : List (Item × Item)}
    (h : pair ∈ pairs) : pair.2.encode.length ≤ (encodePairs pairs).length := by
  induction pairs with
  | nil => cases h
  | cons other pairs ih =>
    rw [encodePairs, List.length_append, List.length_append]
    rcases List.mem_cons.mp h with rfl | h
    · omega
    · have hrest := ih h
      omega

theorem shortKey?_ofText {name : String} (h : (Text.Utf8.encode name).length ≤ shortLimit) :
    shortKey? (.text true name) = some (Text.Utf8.encode name) := by
  simp [shortKey?, untagged, h]

private theorem filter_key {keyed : List (Bytes × Item)} (hnodup : (keyed.map Prod.fst).Nodup)
    {key : Bytes} {value : Item} (h : (key, value) ∈ keyed) :
    keyed.filter (fun (k, _) => k == key) = [(key, value)] := by
  induction keyed with
  | nil => cases h
  | cons other keyed ih =>
    rw [List.map_cons, List.nodup_cons] at hnodup
    obtain ⟨hnew, hnodup⟩ := hnodup
    rcases List.mem_cons.mp h with rfl | h
    · have hnone : keyed.filter (fun (k, _) => k == key) = [] := by
        refine List.filter_eq_nil_iff.mpr fun other hother => ?_
        rw [beq_iff_eq]
        rintro rfl
        exact hnew (List.mem_map.mpr ⟨other, hother, rfl⟩)
      rw [List.filter_cons_of_pos (by simp), hnone]
    · have hne : other.1 ≠ key := by
        rintro rfl
        exact hnew (List.mem_map.mpr ⟨_, h, rfl⟩)
      rw [List.filter_cons_of_neg (by simpa using hne)]
      exact ih hnodup h

theorem mapM_eq_some_map {α β : Type} {f : α → Option β} {g : α → β} {l : List α}
    (h : ∀ a ∈ l, f a = some (g a)) : l.mapM f = some (l.map g) := by
  induction l with
  | nil => rfl
  | cons a l ih =>
    have hl := ih fun b hb => h b (List.mem_cons_of_mem a hb)
    simp [List.mapM_cons, h a List.mem_cons_self, hl]

theorem record?_fields (levels : Nat) (fields : List (String × Item))
    (hnodup : (fields.map Prod.fst).Nodup)
    (hshort : ∀ field ∈ fields, (Text.Utf8.encode field.1).length ≤ shortLimit) :
    record? levels (fields.map Prod.fst)
      (.map (fields.map fun field => (.text true field.1, field.2))) =
      some (fields.map Prod.snd) := by
  let keyed := fields.map fun field => (Text.Utf8.encode field.1, field.2)
  have hkeyed : (fields.map fun field => (Item.text true field.1, field.2)).mapM
      (fun pair => (pair.1.shortKey?).map fun b => (b, pair.2)) = some keyed := by
    rw [List.mapM_map]
    refine mapM_eq_some_map fun field hfield => ?_
    simp [shortKey?_ofText (hshort field hfield)]
  have hknown : (fields.map Prod.fst).map Text.Utf8.encode = keyed.map Prod.fst := by
    simp [keyed, Function.comp_def]
  have hvalues : fields.map Prod.snd = keyed.map Prod.snd := by
    simp [keyed, Function.comp_def]
  have hdistinct : (keyed.map Prod.fst).Nodup := by
    rw [← hknown]
    exact hnodup.map Text.Utf8.encode_injective
  have hall : (keyed.all fun entry =>
      (keyed.map Prod.fst).contains entry.1 || entry.2.isPlain levels) = true := by
    refine List.all_eq_true.mpr fun entry hentry => ?_
    rw [Bool.or_eq_true, List.contains_iff_mem]
    exact .inl (List.mem_map_of_mem hentry)
  simp only [record?, untagged, hkeyed, Option.bind_eq_bind, Option.bind_some, hknown, hall, if_true,
    hvalues]
  rw [List.mapM_map]
  refine mapM_eq_some_map fun entry hentry => ?_
  simp [filter_key hdistinct hentry]

end Item

end TorrentSearch.Cbor
