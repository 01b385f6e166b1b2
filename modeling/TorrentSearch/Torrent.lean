/-!
# Torrents

A torrent as a search hands it out, and the removal of repeated torrents from a list. Two torrents
with one info hash are the same torrent, whatever their titles say.
-/

namespace TorrentSearch

structure Torrent where
  /-- The title as the source shows it. -/
  title : String
  quality : String
  /-- The info hash in upper-case hexadecimal. -/
  infoHash : String
  /-- The magnet link that carries the info hash. -/
  magnet : String
deriving DecidableEq, Repr, Inhabited

namespace Torrent

/-- The torrents whose info hash is not among those already seen, each hash once. -/
def dedupSeen : List String → List Torrent → List Torrent
  | _, [] => []
  | seen, t :: r =>
    if t.infoHash ∈ seen then dedupSeen seen r else t :: dedupSeen (t.infoHash :: seen) r

/-- The first torrent of every info hash, in the order of the list. -/
def dedup (ts : List Torrent) : List Torrent :=
  dedupSeen [] ts

@[simp] theorem dedupSeen_nil (seen : List String) : dedupSeen seen [] = [] := rfl

theorem dedupSeen_cons_of_mem {seen : List String} {t : Torrent} {r : List Torrent}
    (h : t.infoHash ∈ seen) : dedupSeen seen (t :: r) = dedupSeen seen r := by
  simp [dedupSeen, h]

theorem dedupSeen_cons_of_not_mem {seen : List String} {t : Torrent} {r : List Torrent}
    (h : t.infoHash ∉ seen) :
    dedupSeen seen (t :: r) = t :: dedupSeen (t.infoHash :: seen) r := by
  simp [dedupSeen, h]

end Torrent

end TorrentSearch
