import TorrentSearch.Toml.Value

/-!
# Tables under construction

A document names its tables step by step: by headers, by keys with dots, and by the paths of both. A
table may be named by its own header once; keys with dots extend only tables that such keys made; and
a finished value is never extended.
-/

namespace TorrentSearch.Toml

inductive Origin where
  | header
  /-- As a part of the path of a header. -/
  | path
  /-- As a part of a key with dots. -/
  | dotted
deriving DecidableEq, Repr

/-- What a key stands for while the document is read. -/
inductive Node where
  | value (v : Value)
  | table (origin : Origin) (entries : List (String × Node))
  /-- Tables of one name, the latest first. -/
  | tables (elements : List (List (String × Node)))
deriving Inhabited

/-- The keys of a table with what they stand for. -/
abbrev Nodes := List (String × Node)

/-- The entries with another node under a key, which keeps its place. -/
def setNode (key : String) (node : Node) : Nodes → Nodes
  | [] => [(key, node)]
  | (k, n) :: rest => if k = key then (k, node) :: rest else (k, n) :: setNode key node rest

/-- Changes the table that a path leads to. Missing tables are made on the way, and of several tables
of one name the latest is taken. By a path of dotted keys, tables with a header are out of reach. -/
def changeAt (dotted : Bool) (change : Option Origin → Nodes → Option Nodes) :
    List String → Option Origin → Nodes → Option Nodes
  | [], origin, nodes => change origin nodes
  | key :: path, _, nodes =>
    match nodes.lookup key with
    | none => do
      let origin := if dotted then Origin.dotted else .path
      let inner ← changeAt dotted change path (some origin) []
      return setNode key (.table origin inner) nodes
    | some (.value _) => none
    | some (.table origin inner) =>
      if dotted ∧ origin = .header then none
      else do
        let inner ← changeAt dotted change path (some origin) inner
        return setNode key (.table origin inner) nodes
    | some (.tables (latest :: earlier)) => do
      let latest ← changeAt dotted change path (some .header) latest
      return setNode key (.tables (latest :: earlier)) nodes
    | some (.tables []) => none

/-- Puts a value under a key with dots. The last table on the way has to be made by dotted keys,
unless the key has no dots. -/
def insertKey (path : List String) (key : String) (v : Value) (nodes : Nodes) : Option Nodes :=
  changeAt true (fun origin inner =>
    if path ≠ [] ∧ origin ≠ some .dotted then none
    else if (inner.lookup key).isSome then none
    else some (inner ++ [(key, .value v)])) path none nodes

/-- Puts a table with a header under a path. -/
def insertTable (path : List String) (key : String) (table : Nodes) (nodes : Nodes) :
    Option Nodes :=
  changeAt false (fun _ inner => some (setNode key (.table .header table) inner)) path none nodes

def insertElement (path : List String) (key : String) (table : Nodes) (nodes : Nodes) :
    Option Nodes :=
  changeAt false (fun _ inner =>
    match inner.lookup key with
    | none => some (setNode key (.tables [table]) inner)
    | some (.tables elements) => some (setNode key (.tables (table :: elements)) inner)
    | some _ => none) path none nodes

/-- The entries that a header finds under its path: those of a table that only paths named so far, or
none. Fails if the header may not stand there. -/
def openTable (path : List String) (key : String) : Nodes → Option Nodes
  | nodes =>
    match path with
    | [] =>
      match nodes.lookup key with
      | none => some []
      | some (.table .path inner) => some inner
      | some _ => none
    | step :: path =>
      match nodes.lookup step with
      | none => some []
      | some (.table _ inner) => openTable path key inner
      | some (.tables (latest :: _)) => openTable path key latest
      | some _ => none

/-- Whether tables of one name may be added under a path. -/
def canAddElement (path : List String) (key : String) : Nodes → Bool
  | nodes =>
    match path with
    | [] =>
      match nodes.lookup key with
      | none | some (.tables _) => true
      | some _ => false
    | step :: path =>
      match nodes.lookup step with
      | none => true
      | some (.table _ inner) => canAddElement path key inner
      | some (.tables (latest :: _)) => canAddElement path key latest
      | some _ => false

namespace Node

mutual

def toValue : Node → Value
  | value v => v
  | table _ nodes => .table (toEntries nodes)
  | tables elements => .array (toTables elements).reverse

def toEntries : List (String × Node) → Entries
  | [] => []
  | (key, node) :: rest => (key, toValue node) :: toEntries rest

def toTables : List (List (String × Node)) → List Value
  | [] => []
  | nodes :: rest => .table (toEntries nodes) :: toTables rest

end

end Node

end TorrentSearch.Toml
