import TorrentSearch.Cbor.Item
import TorrentSearch.Text.RangeTable

/-!
# A folder of files

The files that a run can reach, and the folder from which relative paths start. A folder is there as
long as a file lies in it, and also if it is known to be there.
-/

namespace TorrentSearch.Command

open Cbor (Bytes)

/-- The folder of a run, with all files that can be reached from it. Names lead from the root to what
they name. -/
structure Folder where
  place : List String
  /-- The names of folders that are there whatever lies in them. -/
  folders : List (List String)
  files : List (List String × Bytes)

inductive Found where
  | file (content : Bytes)
  | folder
  | nothing
deriving DecidableEq, Repr

namespace Folder

def parts (path : String) : List String :=
  (Text.splitAtEach '/' path.toList).map String.ofList

/-- A part of a path that does not lead on. -/
def isStill (part : String) : Bool := part.isEmpty || part = "."

/-- The names to which a part of a path leads. -/
def follow (names : List String) (part : String) : List String :=
  if isStill part then names
  else if part = ".." then names.dropLast
  else names ++ [part]

def hasFolder (f : Folder) (names : List String) : Bool :=
  (f.place :: f.folders).any (names.isPrefixOf ·) ||
    f.files.any fun (file, _) => names.isPrefixOf file && names ≠ file

/-- Where a part of a path leads. Only folders lead on. -/
def lead? (f : Folder) (names : List String) (part : String) : Option (List String) :=
  if f.hasFolder names then some (follow names part) else none

/-- The names to which a path leads. No path is empty or has a zero in it. -/
def resolve? (f : Folder) (path : String) : Option (List String) :=
  if path.isEmpty || path.toList.contains '\x00' then none
  else (parts path).foldlM f.lead? (if path.toList.head? = some '/' then [] else f.place)

/-- A folder of files by their paths, below the root. -/
def ofFiles (files : List (String × Bytes)) : Folder :=
  let place := ["work"]
  ⟨place, [], files.map fun (path, content) => ((parts path).foldl follow place, content)⟩

def find (f : Folder) (path : String) : Found :=
  match f.resolve? path with
  | none => .nothing
  | some names =>
    if f.hasFolder names then .folder
    else
      match f.files.lookup names with
      | some content => .file content
      | none => .nothing

def content? (f : Folder) (path : String) : Option Bytes :=
  match f.find path with
  | .file content => some content
  | _ => none

/-- The names of the file that a path can be that of. -/
def fileNames? (f : Folder) (path : String) : Option (List String) :=
  (f.resolve? path).filter fun names => !f.hasFolder names

def put (f : Folder) (names : List String) (content : Bytes) : Folder :=
  { f with files := (names, content) :: f.files.filter fun e => e.1 ≠ names }

/-- There is no file of these names any more. The folder that it lay in stays. -/
def remove (f : Folder) (names : List String) : Folder :=
  { f with
    folders := names.dropLast :: f.folders
    files := f.files.filter fun e => e.1 ≠ names }

/-- The path beside a path at which a file is written first. -/
def partPath (path : String) : String := path ++ ".tmp"

/-- A file is written, if its path allows for it. It is written beside its place and then moves there,
or stays if it cannot. -/
def write (f : Folder) (path : String) (content : Bytes) : Folder :=
  match f.fileNames? (partPath path) with
  | none => f
  | some part =>
    let f := f.put part content
    match f.fileNames? path with
    | none => f
    | some file => (f.remove part).put file content

end Folder

end TorrentSearch.Command
