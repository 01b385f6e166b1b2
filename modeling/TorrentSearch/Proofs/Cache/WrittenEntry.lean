import TorrentSearch.Cache.Entry
import TorrentSearch.Proofs.Cbor.Written
import TorrentSearch.Proofs.Time.Rfc3339

/-!
# Written entries

An entry is read back from its bytes as it was, with its instant to the nanosecond and with every text
of its torrents, however long these and the list are.
-/

namespace TorrentSearch

open Cbor (Bytes Item)

theorem Time.Instant.length_encode_text_le (i : Time.Instant) :
    (Text.Utf8.encode i.text).length ≤ 132 := by
  have hchars := i.length_chars_le
  have hbytes := Text.Utf8.length_encode_ofList_le i.chars
  unfold Time.Instant.text
  omega

namespace Torrent

def texts (t : Torrent) : List String := [t.title, t.quality, t.infoHash, t.magnet]

/-- The lengths of the texts are numbers of eight bytes. -/
def Addressable (t : Torrent) : Prop := ∀ s ∈ t.texts, (Text.Utf8.encode s).length < 2 ^ 64

theorem Addressable.storable {t : Torrent} (h : t.Addressable) (levels : Nat) :
    t.toItem.Storable (levels + 1) := by
  have hkey (s : String) (hs : (Text.Utf8.encode s).length < 2 ^ 64) :
      (Item.ofText s).Storable levels := .text hs
  have htitle := h t.title (by simp [texts])
  have hquality := h t.quality (by simp [texts])
  have hhash := h t.infoHash (by simp [texts])
  have hmagnet := h t.magnet (by simp [texts])
  refine .map (by simp) ?_ ?_
  · simp only [List.forall_mem_cons]
    exact ⟨hkey _ (by decide), hkey _ (by decide), hkey _ (by decide), hkey _ (by decide), by simp⟩
  · simp only [List.forall_mem_cons]
    exact ⟨hkey _ htitle, hkey _ hquality, hkey _ hhash, hkey _ hmagnet, by simp⟩

theorem ofItem?_toItem (levels : Nat) (t : Torrent) : ofItem? levels t.toItem = some t := by
  have hfields := Item.record?_fields levels
    [("title", .ofText t.title), ("quality", .ofText t.quality), ("info_hash", .ofText t.infoHash),
      ("magnet_url", .ofText t.magnet)] (by simp)
    (by simp only [List.forall_mem_cons]; decide +revert)
  simp only [List.map_cons, List.map_nil] at hfields
  simp only [ofItem?, toItem, Item.ofText] at hfields ⊢
  rw [hfields]
  rfl

theorem length_encode_le_of_mem_texts (t : Torrent) {s : String} (h : s ∈ t.texts) :
    (Text.Utf8.encode s).length ≤ t.toItem.encode.length := by
  have hpair : ∃ name, (Item.ofText name, Item.ofText s) ∈ [(Item.ofText "title", .ofText t.title),
      (.ofText "quality", .ofText t.quality), (.ofText "info_hash", .ofText t.infoHash),
      (.ofText "magnet_url", .ofText t.magnet)] := by
    simp only [texts, List.mem_cons, List.not_mem_nil, or_false] at h
    rcases h with rfl | rfl | rfl | rfl
    · exact ⟨"title", by simp⟩
    · exact ⟨"quality", by simp⟩
    · exact ⟨"info_hash", by simp⟩
    · exact ⟨"magnet_url", by simp⟩
  obtain ⟨name, hmem⟩ := hpair
  calc
    (Text.Utf8.encode s).length ≤ (Item.ofText s).encode.length := Item.length_utf8_le true s
    _ ≤ (Item.encodePairs _).length := Item.length_encode_le_of_mem_pairs hmem
    _ ≤ t.toItem.encode.length := Item.length_encodePairs_le _

end Torrent

namespace Entry

/-- The lengths of the texts and of the list are numbers of eight bytes. -/
structure Addressable (e : Entry) : Prop where
  torrents : ∀ t ∈ e.results, t.Addressable
  length : e.results.length < 2 ^ 64

theorem Addressable.storable {e : Entry} (h : e.Addressable) (levels : Nat) :
    e.toItem.Storable (levels + 3) := by
  have hcreated : (Text.Utf8.encode e.created.text).length < 2 ^ 64 :=
    Nat.lt_of_le_of_lt e.created.length_encode_text_le (by decide)
  have hresults : (Item.array (e.results.map Torrent.toItem)).Storable (levels + 2) := by
    refine .array (by simpa using h.length) fun item hitem => ?_
    obtain ⟨t, ht, rfl⟩ := List.mem_map.mp hitem
    exact (h.torrents t ht).storable levels
  refine .map (by simp) ?_ ?_
  · simp only [List.forall_mem_cons]
    exact ⟨.text (by decide), .text (by decide), by simp⟩
  · simp only [List.forall_mem_cons]
    exact ⟨.text hcreated, hresults, by simp⟩

theorem ofItem?_toItem (e : Entry) : ofItem? e.toItem = some e := by
  have hfields := Item.record?_fields (maxLevels - 1)
    [("created", .ofText e.created.text), ("results", .array (e.results.map Torrent.toItem))]
    (by simp) (by simp only [List.forall_mem_cons]; decide +revert)
  have hshort : (Text.Utf8.encode e.created.text).length ≤ Item.shortLimit :=
    Nat.le_trans e.created.length_encode_text_le (by decide)
  have hcreated : (Item.ofText e.created.text).shortText? = some e.created.text := by
    simp [Item.ofText, Item.shortText?, Item.untagged, hshort]
  have hresults : results? (maxLevels - 2) (.array (e.results.map Torrent.toItem)) =
      some e.results := by
    have hmap := Item.mapM_eq_some_map (f := Torrent.ofItem? (maxLevels - 2 - 1) ∘ Torrent.toItem)
      (g := id) (l := e.results) fun t _ => Torrent.ofItem?_toItem _ t
    rw [List.map_id] at hmap
    simp only [results?, Item.untagged, List.mapM_map]
    exact hmap
  simp only [List.map_cons, List.map_nil] at hfields
  simp only [ofItem?, toItem, Item.ofText] at hfields hcreated ⊢
  rw [hfields]
  simp only [Option.bind_eq_bind, Option.bind_some, hcreated, hresults, Time.Instant.ofText?_text]
  rfl

theorem Addressable.of_length_encode {e : Entry} (h : e.encode.length < 2 ^ 64) :
    e.Addressable := by
  have hresults : (Item.array (e.results.map Torrent.toItem)).encode.length ≤ e.encode.length := by
    have hmem : (Item.ofText "results", Item.array (e.results.map Torrent.toItem)) ∈
        [(Item.ofText "created", Item.ofText e.created.text),
          (.ofText "results", .array (e.results.map Torrent.toItem))] :=
      List.mem_cons_of_mem _ List.mem_cons_self
    exact Nat.le_trans (Item.length_encode_le_of_mem_pairs hmem) (Item.length_encodePairs_le _)
  have hitems := Item.length_encodeItems_le (e.results.map Torrent.toItem)
  refine ⟨fun t ht s hs => ?_, ?_⟩
  · have htorrent := Item.length_encode_le_of_mem (List.mem_map_of_mem (f := Torrent.toItem) ht)
    have htext := t.length_encode_le_of_mem_texts hs
    omega
  · have hlength := Item.length_le_encodeItems (e.results.map Torrent.toItem)
    rw [List.length_map] at hlength
    omega

theorem Addressable.item_append {e : Entry} (h : e.Addressable) (rest : Bytes) :
    Item.decode? maxLevels (e.encode ++ rest) = some (e.toItem, rest) :=
  (h.storable 253).decode?_encode_append rest

theorem Addressable.decode?_append {e : Entry} (h : e.Addressable) (rest : Bytes) :
    decode? (e.encode ++ rest) = some e := by
  rw [decode?, h.item_append, Option.bind_eq_bind, Option.bind_some]
  exact ofItem?_toItem e

/-- Whatever was found and whenever, its bytes name just that: the results in their order with all
their texts, and the instant in each year and to the nanosecond, within a leap second as well. -/
theorem created_and_results_read_back (created : Time.Instant) (results : List Torrent)
    (hlength : results.length < 2 ^ 64)
    (htexts : ∀ t ∈ results, ∀ s ∈ [t.title, t.quality, t.infoHash, t.magnet],
      (Text.Utf8.encode s).length < 2 ^ 64) :
    decode? (encode ⟨created, results⟩) = some ⟨created, results⟩ := by
  have haddressable : Addressable ⟨created, results⟩ := ⟨htexts, hlength⟩
  have hread := haddressable.decode?_append []
  rwa [List.append_nil] at hread

/-- The last nanosecond of a leap second in the first year, with a list and with texts whose lengths
do not fit into the first byte. -/
theorem created_and_results_read_back_of_leap_second :
    let created : Time.Instant :=
      ⟨Time.firstDay, 86399, 1999999999, by decide, by decide, by decide, by decide⟩
    let t : Torrent := ⟨String.ofList (List.replicate 300 'é'), "2160p 10bit", "", "magnet:?&"⟩
    let results := List.replicate 24 t
    results.length < 2 ^ 64 ∧
      (∀ t ∈ results, ∀ s ∈ [t.title, t.quality, t.infoHash, t.magnet],
        (Text.Utf8.encode s).length < 2 ^ 64) ∧
      decode? (encode ⟨created, results⟩) = some ⟨created, results⟩ := by
  intro created t results
  have hlength : results.length < 2 ^ 64 := by decide
  have htexts : ∀ t ∈ results, ∀ s ∈ [t.title, t.quality, t.infoHash, t.magnet],
      (Text.Utf8.encode s).length < 2 ^ 64 := by
    intro u hu
    rw [List.eq_of_mem_replicate hu]
    have htitle := Text.Utf8.length_encode_ofList_le (List.replicate 300 'é')
    rw [List.length_replicate] at htitle
    simp only [List.forall_mem_cons]
    exact ⟨Nat.lt_of_le_of_lt htitle (by decide), by decide, by decide, by decide, by simp⟩
  exact ⟨hlength, htexts, created_and_results_read_back created results hlength htexts⟩

end Entry

end TorrentSearch
