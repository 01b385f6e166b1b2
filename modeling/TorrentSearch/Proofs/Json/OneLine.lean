import TorrentSearch.Report

/-!
# Written values stand on one line

Control characters are escaped in texts and stand nowhere else in a written value, so that a report
line has no line break in it, whatever sources answer.
-/

namespace TorrentSearch

namespace Json

def OneLine (s : List Char) : Prop := ∀ c ∈ s, 0x20 ≤ c.toNat

theorem oneLine_nil : OneLine [] := fun _ h => by cases h

theorem oneLine_cons {c : Char} {s : List Char} (hc : 0x20 ≤ c.toNat) (hs : OneLine s) :
    OneLine (c :: s) :=
  List.forall_mem_cons.mpr ⟨hc, hs⟩

theorem OneLine.append {s t : List Char} (hs : OneLine s) (ht : OneLine t) : OneLine (s ++ t) :=
  List.forall_mem_append.mpr ⟨hs, ht⟩

theorem le_toNat_lowerHexDigit {n : Nat} (h : n < 16) : 0x20 ≤ (Text.lowerHexDigit n).toNat := by
  have hall : ∀ n < 16, 0x20 ≤ (Text.lowerHexDigit n).toNat := by decide
  exact hall n h

theorem oneLine_escapeChar (c : Char) : OneLine (escapeChar c) := by
  unfold escapeChar
  split
  iterate 7 exact oneLine_cons (by decide) (oneLine_cons (by decide) oneLine_nil)
  split
  · rename_i hcontrol
    have hhigh := le_toNat_lowerHexDigit (n := c.toNat / 16) (by omega)
    have hlow := le_toNat_lowerHexDigit (n := c.toNat % 16) (Nat.mod_lt _ (by decide))
    simp [OneLine, hhigh, hlow]
  · rename_i hplain
    exact oneLine_cons (Nat.le_of_not_lt hplain) oneLine_nil

theorem oneLine_renderText (s : String) : OneLine (renderText s) := by
  refine .append (oneLine_cons (by decide) fun c hc => ?_) (oneLine_cons (by decide) oneLine_nil)
  obtain ⟨d, -, hd⟩ := List.mem_flatMap.mp hc
  exact oneLine_escapeChar d c hd

theorem oneLine_joinWithCommas {texts : List (List Char)} (h : ∀ s ∈ texts, OneLine s) :
    OneLine (joinWithCommas texts) := by
  induction texts with
  | nil => exact oneLine_nil
  | cons s rest ih =>
    rw [List.forall_mem_cons] at h
    cases rest with
    | nil => exact h.1
    | cons t rest => exact h.1.append (oneLine_cons (by decide) (ih h.2))

namespace Value

theorem render_text (s : String) : (text s).render = renderText s := rfl

theorem render_array (items : List Value) :
    (array items).render = ('[' :: joinWithCommas (renderItems items)) ++ [']'] := rfl

theorem render_object (members : List (String × Value)) :
    (object members).render = ('\x7b' :: joinWithCommas (renderMembers members)) ++ ['\x7d'] := rfl

theorem renderItems_eq_map (items : List Value) : renderItems items = items.map render := by
  induction items with
  | nil => rfl
  | cons v rest ih => exact congrArg (v.render :: ·) ih

theorem renderMembers_eq_map (members : List (String × Value)) :
    renderMembers members = members.map fun m => renderText m.1 ++ ':' :: m.2.render := by
  induction members with
  | nil => rfl
  | cons m rest ih => exact congrArg ((renderText m.1 ++ ':' :: m.2.render) :: ·) ih

theorem oneLine_text (s : String) : OneLine (text s).render := by
  rw [render_text]
  exact oneLine_renderText s

theorem oneLine_array {items : List Value} (h : ∀ v ∈ items, OneLine v.render) :
    OneLine (array items).render := by
  have hitems : ∀ s ∈ items.map render, OneLine s := List.forall_mem_map.mpr h
  rw [render_array, renderItems_eq_map]
  exact .append (oneLine_cons (by decide) (oneLine_joinWithCommas hitems))
    (oneLine_cons (by decide) oneLine_nil)

theorem oneLine_object {members : List (String × Value)} (h : ∀ m ∈ members, OneLine m.2.render) :
    OneLine (object members).render := by
  have hmembers : ∀ s ∈ members.map fun m => renderText m.1 ++ ':' :: m.2.render, OneLine s :=
    List.forall_mem_map.mpr fun m hm =>
      (oneLine_renderText m.1).append (oneLine_cons (by decide) (h m hm))
  rw [render_object, renderMembers_eq_map]
  exact .append (oneLine_cons (by decide) (oneLine_joinWithCommas hmembers))
    (oneLine_cons (by decide) oneLine_nil)

end Value

end Json

open Json

theorem Torrent.oneLine_toJson (t : Torrent) : OneLine t.toJson.render := by
  refine Value.oneLine_object ?_
  simp only [List.forall_mem_cons]
  exact ⟨Value.oneLine_text _, Value.oneLine_text _, Value.oneLine_text _, Value.oneLine_text _,
    fun _ h => by cases h⟩

theorem oneLine_reportLine (id : String) (outcome : Except String (List Torrent)) :
    OneLine (reportLine id outcome).toList := by
  have hnone : ∀ m ∈ ([] : List (String × Value)), OneLine m.2.render := fun _ h => by cases h
  unfold reportLine
  rw [String.toList_ofList]
  refine Value.oneLine_object
    (List.forall_mem_cons.mpr ⟨Value.oneLine_text id, List.forall_mem_cons.mpr ⟨?_, hnone⟩⟩)
  cases outcome with
  | error cause => exact Value.oneLine_text cause
  | ok ts =>
    refine Value.oneLine_array fun v hv => ?_
    obtain ⟨t, -, rfl⟩ := List.mem_map.mp hv
    exact t.oneLine_toJson

end TorrentSearch
