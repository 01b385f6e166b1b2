import TorrentSearch.Cache.Lookup
import TorrentSearch.Page.SkipReason

/-!
# Counters

What happened so far, counted: checks of sources, skipped pages, cache lookups and searches. A `Tally`
counts events by what tells them apart.
-/

namespace TorrentSearch

/-- How often each value occurred, in the order of first occurrence. -/
structure Tally (α : Type) where
  counts : List (α × Nat)
deriving Repr

namespace Tally

variable {α : Type} [DecidableEq α]

def empty : Tally α := ⟨[]⟩

/-- The counts with one more occurrence of a value. -/
def bumpIn (a : α) : List (α × Nat) → List (α × Nat)
  | [] => [(a, 1)]
  | (b, n) :: rest => if a = b then (b, n + 1) :: rest else (b, n) :: bumpIn a rest

/-- The tally with one more occurrence of a value. -/
def bump (t : Tally α) (a : α) : Tally α :=
  ⟨bumpIn a t.counts⟩

def countIn (a : α) : List (α × Nat) → Nat
  | [] => 0
  | (b, n) :: rest => if a = b then n else countIn a rest

def count (t : Tally α) (a : α) : Nat :=
  countIn a t.counts

theorem countIn_bumpIn (a b : α) (l : List (α × Nat)) :
    countIn b (bumpIn a l) = countIn b l + if a = b then 1 else 0 := by
  induction l with
  | nil => simp [bumpIn, countIn, eq_comm]
  | cons p rest ih =>
    by_cases hac : a = p.1 <;> by_cases hbc : b = p.1 <;> grind [bumpIn, countIn]

theorem count_bump (t : Tally α) (a b : α) :
    (t.bump a).count b = t.count b + if a = b then 1 else 0 :=
  countIn_bumpIn a b t.counts

end Tally

inductive SearchOutcome where
  | found
  | empty
  /-- With the failure of all sources that answered. -/
  | failed
  | pending
deriving DecidableEq, Repr

def SearchOutcome.label : SearchOutcome → String
  | found => "found"
  | empty => "empty"
  | failed => "failed"
  | pending => "pending"

structure Counters where
  checks : Tally (String × Bool)
  /-- How many milliseconds the checks of a source took, the latest first. -/
  durations : List (String × Nat)
  zeroLinkPages : Tally String
  /-- Detail pages without torrents, by source and cause. -/
  skippedPages : Tally (String × Page.SkipReason)
  lookups : Tally (String × Cache.Lookup.Outcome)
  searches : Tally SearchOutcome
  /-- How many torrents the successful searches returned, the latest first. -/
  resultCounts : List Nat
  /-- Searches that left their slow source at work, by source. -/
  detached : Tally String
deriving Repr

namespace Counters

def zero : Counters where
  checks := .empty
  durations := []
  zeroLinkPages := .empty
  skippedPages := .empty
  lookups := .empty
  searches := .empty
  resultCounts := []
  detached := .empty

instance : Inhabited Counters := ⟨zero⟩

/-- A check of a source came to its end. -/
def observeCheck (c : Counters) (source : String) (success : Bool) (millis : Nat) : Counters :=
  { c with
    checks := c.checks.bump (source, success)
    durations := (source, millis) :: c.durations }

def observeLookup (c : Counters) (source : String) (outcome : Cache.Lookup.Outcome) : Counters :=
  { c with lookups := c.lookups.bump (source, outcome) }

def observeZeroLinkPage (c : Counters) (source : String) : Counters :=
  { c with zeroLinkPages := c.zeroLinkPages.bump source }

def observeSkippedPage (c : Counters) (source : String) (reason : Page.SkipReason) : Counters :=
  { c with skippedPages := c.skippedPages.bump (source, reason) }

def observeDetached (c : Counters) (source : String) : Counters :=
  { c with detached := c.detached.bump source }

/-- A search came to its end; a successful one returned so many torrents. -/
def observeSearch (c : Counters) (outcome : SearchOutcome) (results : Option Nat) : Counters :=
  { c with
    searches := c.searches.bump outcome
    resultCounts := results.toList ++ c.resultCounts }

/-- How many of the numbers are at most the bound. -/
def atMost (bound : Nat) (ns : List Nat) : Nat :=
  ns.countP (· ≤ bound)

end Counters

end TorrentSearch
