import TorrentSearch.Counters

/-!
# Counters as text

The counters as families of named samples, and their text: for each family that has samples a help
line, a type line and one line a sample, the families in the order of their names.
-/

namespace TorrentSearch.Counters

/-- A count with the labels that tell it from the others of its family, in the order of their
names. -/
structure Sample where
  labels : List (String × String)
  count : Nat
deriving DecidableEq, Repr

structure Family where
  name : String
  help : String
  samples : List Sample
deriving DecidableEq, Repr

/-- Numbers that were observed, by labels, for the counts of those below some bounds. -/
structure Histogram where
  name : String
  help : String
  bounds : List (Nat × String)
  sumText : Nat → String
  series : List (List (String × String) × List Nat)

def samplesOf {α : Type} (labels : α → List (String × String)) (t : Tally α) : List Sample :=
  t.counts.map fun (a, n) => ⟨labels a, n⟩

/-- The name under which a check's success is counted. -/
def statusLabel (success : Bool) : String :=
  if success then "success" else "error"

def families (c : Counters) : List Family :=
  [ { name := "torrentfed_source_requests_total"
      help := "Total source checks"
      samples := samplesOf (fun (source, success) =>
        [("source", source), ("status", statusLabel success)]) c.checks },
    { name := "torrentfed_zero_link_pages_total"
      help := "Search result pages without any torrent link"
      samples := samplesOf (fun source => [("source", source)]) c.zeroLinkPages },
    { name := "torrentfed_skipped_pages_total"
      help := "Torrent detail pages that produced no result"
      samples := samplesOf (fun (source, reason) =>
        [("reason", reason.label), ("source", source)]) c.skippedPages },
    { name := "torrentfed_cache_lookups_total"
      help := "Total result cache lookups"
      samples := samplesOf (fun (source, outcome) =>
        [("outcome", outcome.label), ("source", source)]) c.lookups },
    { name := "torrentfed_aggregate_requests_total"
      help := "Total aggregated searches"
      samples := samplesOf (fun outcome => [("result", outcome.label)]) c.searches },
    { name := "torrentfed_slow_source_detached_total"
      help := "Slow source checks that outlived the grace period"
      samples := samplesOf (fun source => [("source", source)]) c.detached } ]

/-- The bounds for the number of torrents that a search returns. -/
def resultBounds : List Nat := [0, 1, 2, 5, 10, 25, 50]

/-- Milliseconds as seconds, with no zeros at the end. -/
def secondsText (millis : Nat) : String :=
  let fraction := Text.paddedDecimal 3 (millis % 1000)
  let fraction := Text.dropEndWhile (· = '0') fraction
  String.ofList ((Nat.repr (millis / 1000)).toList ++
    if fraction.isEmpty then [] else '.' :: fraction)

def resultHistogram (c : Counters) : Histogram where
  name := "torrentfed_aggregate_results"
  help := "Number of results returned per aggregated search"
  bounds := resultBounds.map fun b => (b, Nat.repr b)
  sumText := Nat.repr
  series := [([], c.resultCounts)]

def durationsOf (c : Counters) (source : String) : List Nat :=
  (c.durations.filter fun d => d.1 = source).map (·.2)

/-- The sources whose checks came to an end, each once. -/
def checkedSources (c : Counters) : List String :=
  (c.durations.map (·.1)).eraseDups

def durationHistogram (c : Counters) : Histogram where
  name := "torrentfed_source_duration_seconds"
  help := "Duration of source checks, cache hits included"
  bounds := [10, 50, 100, 250, 500, 1000, 2500, 5000, 10000, 30000].map fun b => (b, secondsText b)
  sumText := secondsText
  series := c.checkedSources.map fun source => ([("source", source)], c.durationsOf source)

def labelChar (c : Char) : List Char :=
  match c with
  | '\\' => ['\\', '\\']
  | '"' => ['\\', '"']
  | '\n' => ['\\', 'n']
  | c => [c]

/-- A name with labels and a value on one line. -/
def sampleLine (name : String) (labels : List (String × String)) (value : String) : String :=
  let label (l : String × String) : String :=
    l.1 ++ "=\"" ++ String.ofList (l.2.toList.flatMap labelChar) ++ "\""
  let braced :=
    if labels.isEmpty then "" else "\x7b" ++ ",".intercalate (labels.map label) ++ "\x7d"
  name ++ braced ++ " " ++ value

/-- The first text list is not behind the second one. -/
def notBehind : List String → List String → Bool
  | a :: as, b :: bs => if a = b then notBehind as bs else a < b
  | [], _ => true
  | _ :: _, [] => false

/-- Labelled things in the order of their labels' values. -/
def sortByLabels {α : Type} (labels : α → List (String × String)) (l : List α) : List α :=
  l.mergeSort fun a b => notBehind ((labels a).map (·.2)) ((labels b).map (·.2))

def headLines (name help kind : String) : List String :=
  ["# HELP " ++ name ++ " " ++ help, "# TYPE " ++ name ++ " " ++ kind]

def Family.lines (f : Family) : List String :=
  if f.samples.isEmpty then []
  else headLines f.name f.help "counter" ++
    (sortByLabels Sample.labels f.samples).map fun s =>
      sampleLine f.name s.labels (Nat.repr s.count)

def Histogram.seriesLines (h : Histogram) (series : List (String × String) × List Nat) :
    List String :=
  let (labels, numbers) := series
  let sum := numbers.foldl (· + ·) 0
  let bucket (bound : String) (n : Nat) : String :=
    sampleLine (h.name ++ "_bucket") (labels ++ [("le", bound)]) (Nat.repr n)
  (h.bounds.map fun (b, text) => bucket text (atMost b numbers)) ++
    [bucket "+Inf" numbers.length, sampleLine (h.name ++ "_sum") labels (h.sumText sum),
      sampleLine (h.name ++ "_count") labels (Nat.repr numbers.length)]

def Histogram.lines (h : Histogram) : List String :=
  if h.series.isEmpty then []
  else headLines h.name h.help "histogram" ++
    (sortByLabels (·.1) h.series).flatMap h.seriesLines

/-- The lines of all families in the order of their names. -/
def lines (c : Counters) : List String :=
  let named := (c.families.map fun f => (f.name, f.lines)) ++
    [c.resultHistogram, c.durationHistogram].map fun h => (h.name, h.lines)
  (named.mergeSort fun a b => a.1 < b.1).flatMap (·.2)

end TorrentSearch.Counters
