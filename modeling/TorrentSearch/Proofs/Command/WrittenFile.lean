import Mathlib.Data.List.Infix
import TorrentSearch.Command.Folder
import TorrentSearch.Proofs.Text.Splitting

/-!
# Files that are written

A file is written beside its place and then moves there. None of this changes which folders there are,
so that all paths lead where they led before.
-/

namespace TorrentSearch.Command.Folder

open Cbor (Bytes)

variable {f g : Folder} {names file : List String} {path : String}

/-- A file can be written at a path, and beside it first. -/
def isWritable (f : Folder) (path : String) : Bool :=
  (f.fileNames? (partPath path)).isSome && (f.fileNames? path).isSome

theorem hasFolder_iff :
    f.hasFolder names = true ↔
      (∃ folder ∈ f.place :: f.folders, names <+: folder) ∨
        ∃ e ∈ f.files, names <+: e.1 ∧ names ≠ e.1 := by
  simp [hasFolder]

theorem hasFolder_of_isPrefix (h : f.hasFolder names = true) {above : List String}
    (habove : above <+: names) : f.hasFolder above = true := by
  rw [hasFolder_iff] at h ⊢
  rcases h with ⟨folder, hfolder, hlead⟩ | ⟨e, he, hlead, hne⟩
  · exact .inl ⟨folder, hfolder, habove.trans hlead⟩
  · refine .inr ⟨e, he, habove.trans hlead, ?_⟩
    rintro rfl
    exact hne (hlead.eq_of_length_le habove.length_le)

/-- What a file lies in has the names of the file without the last one, or fewer. -/
theorem isPrefix_dropLast_of_ne (h : names <+: file) (hne : names ≠ file) :
    names <+: file.dropLast := by
  obtain ⟨rest, rfl⟩ := h
  have hrest : rest ≠ [] := by
    rintro rfl
    exact hne (List.append_nil _).symm
  rw [List.dropLast_append_of_ne_nil hrest]
  exact List.prefix_append _ _

theorem hasFolder_put (hfolder : f.hasFolder file.dropLast = true) (content : Bytes)
    (names : List String) : (f.put file content).hasFolder names = f.hasFolder names := by
  refine Bool.eq_iff_iff.mpr ⟨fun h => ?_, fun h => ?_⟩
  · rcases hasFolder_iff.mp h with hknown | ⟨e, he, hlead, hne⟩
    · exact hasFolder_iff.mpr (.inl hknown)
    · rcases List.mem_cons.mp he with rfl | he
      · exact hasFolder_of_isPrefix hfolder (isPrefix_dropLast_of_ne hlead hne)
      · exact hasFolder_iff.mpr (.inr ⟨e, (List.mem_filter.mp he).1, hlead, hne⟩)
  · refine hasFolder_iff.mpr ((hasFolder_iff.mp h).imp_right ?_)
    rintro ⟨e, he, hlead, hne⟩
    by_cases hfile : e.1 = file
    · exact ⟨(file, content), List.mem_cons_self, hfile ▸ hlead, hfile ▸ hne⟩
    · exact ⟨e, List.mem_cons_of_mem _ (List.mem_filter.mpr ⟨he, by simpa using hfile⟩), hlead, hne⟩

theorem hasFolder_remove (hfolder : f.hasFolder file.dropLast = true) (names : List String) :
    (f.remove file).hasFolder names = f.hasFolder names := by
  refine Bool.eq_iff_iff.mpr ⟨fun h => ?_, fun h => ?_⟩
  · rcases hasFolder_iff.mp h with ⟨folder, hknown, hlead⟩ | ⟨e, he, hlead, hne⟩
    · have hcases : folder = file.dropLast ∨ folder ∈ f.place :: f.folders := by
        simp only [remove, List.mem_cons] at hknown ⊢
        tauto
      rcases hcases with rfl | hknown
      · exact hasFolder_of_isPrefix hfolder hlead
      · exact hasFolder_iff.mpr (.inl ⟨folder, hknown, hlead⟩)
    · exact hasFolder_iff.mpr (.inr ⟨e, (List.mem_filter.mp he).1, hlead, hne⟩)
  · rcases hasFolder_iff.mp h with ⟨folder, hknown, hlead⟩ | ⟨e, he, hlead, hne⟩
    · refine hasFolder_iff.mpr (.inl ⟨folder, ?_, hlead⟩)
      simp only [remove, List.mem_cons] at hknown ⊢
      tauto
    · by_cases hfile : e.1 = file
      · refine hasFolder_iff.mpr (.inl ⟨file.dropLast, ?_, ?_⟩)
        · simp [remove]
        · exact isPrefix_dropLast_of_ne (hfile ▸ hlead) (hfile ▸ hne)
      · exact hasFolder_iff.mpr (.inr ⟨e, List.mem_filter.mpr ⟨he, by simpa using hfile⟩, hlead, hne⟩)

/-- The same folders are there, and relative paths start from the same one. -/
structure SameFolders (f g : Folder) : Prop where
  place : g.place = f.place
  hasFolder (names : List String) : g.hasFolder names = f.hasFolder names

theorem SameFolders.put (h : SameFolders f g) (hfolder : f.hasFolder file.dropLast = true)
    (content : Bytes) : SameFolders f (g.put file content) where
  place := h.place
  hasFolder names := by rw [hasFolder_put (by rwa [h.hasFolder]), h.hasFolder]

theorem SameFolders.remove (h : SameFolders f g) (hfolder : f.hasFolder file.dropLast = true) :
    SameFolders f (g.remove file) where
  place := h.place
  hasFolder names := by rw [hasFolder_remove (by rwa [h.hasFolder]), h.hasFolder]

theorem SameFolders.resolve? (h : SameFolders f g) (path : String) :
    g.resolve? path = f.resolve? path := by
  have hlead : g.lead? = f.lead? := by
    funext names part
    simp only [lead?, h.hasFolder]
  simp only [Folder.resolve?, hlead, h.place]

theorem SameFolders.fileNames? (h : SameFolders f g) (path : String) :
    g.fileNames? path = f.fileNames? path := by
  simp only [Folder.fileNames?, h.resolve?, h.hasFolder]

theorem fileNames?_eq_some_iff :
    f.fileNames? path = some names ↔ f.resolve? path = some names ∧ f.hasFolder names = false := by
  simp [fileNames?, Option.filter_eq_some_iff]

/-- A part of a path that leads to no folder names something in a folder. -/
theorem hasFolder_dropLast_of_lead? {part : String} (h : f.lead? names part = some file)
    (hfile : f.hasFolder file = false) : f.hasFolder file.dropLast = true := by
  unfold lead? at h
  split at h
  · rename_i hnames
    obtain rfl := Option.some.inj h
    unfold follow at hfile ⊢
    split at hfile
    · exact absurd hnames (by simp [hfile])
    · split at hfile
      · exact absurd (hasFolder_of_isPrefix hnames (List.dropLast_prefix _)) (by simp [hfile])
      · rename_i hmoves hforward
        rwa [if_neg hmoves, if_neg hforward, List.dropLast_concat]
  · cases h

theorem hasFolder_dropLast_of_fileNames? (h : f.fileNames? path = some file) :
    f.hasFolder file.dropLast = true := by
  obtain ⟨hresolve, hfile⟩ := fileNames?_eq_some_iff.mp h
  unfold resolve? at hresolve
  split at hresolve
  · cases hresolve
  · have hparts : parts path ≠ [] := by
      simp [parts, Text.splitAtEach_ne_nil]
    rw [← List.dropLast_append_getLast hparts, List.foldlM_append] at hresolve
    obtain ⟨names, -, hlast⟩ := Option.bind_eq_some_iff.mp hresolve
    exact hasFolder_dropLast_of_lead? (by simpa using hlast) hfile

theorem content?_write (h : f.isWritable path = true) (content : Bytes) :
    (f.write path content).content? path = some content := by
  rw [isWritable, Bool.and_eq_true, Option.isSome_iff_exists, Option.isSome_iff_exists] at h
  obtain ⟨⟨part, hpart⟩, file, hfile⟩ := h
  have hput : SameFolders f (f.put part content) :=
    .put ⟨rfl, fun _ => rfl⟩ (hasFolder_dropLast_of_fileNames? hpart) content
  have hmoved : SameFolders f (((f.put part content).remove part).put file content) :=
    (hput.remove (hasFolder_dropLast_of_fileNames? hpart)).put
      (hasFolder_dropLast_of_fileNames? hfile) content
  obtain ⟨hresolve, hnone⟩ := fileNames?_eq_some_iff.mp hfile
  have hwritten : f.write path content = ((f.put part content).remove part).put file content := by
    simp only [write, hpart, hput.fileNames?, hfile]
  have hfound : (f.write path content).find path = .file content := by
    rw [find, hwritten, hmoved.resolve?, hresolve]
    dsimp only
    rw [hmoved.hasFolder, hnone]
    simp [put]
  rw [content?, hfound]

end TorrentSearch.Command.Folder
