import TorrentSearch.Source.Error
import TorrentSearch.Time.Instant
import TorrentSearch.Torrent

/-!
# Sources with prescribed answers

A stub is a source whose answers are set from outside, for trying out what is built on sources. It
keeps a record of its checks.
-/

namespace TorrentSearch.Source

abbrev Outcome := Except Error (List Torrent)

/-- A source with prescribed answers, and what happened to it so far. -/
structure Stub where
  name : String
  results : List Torrent := []
  error : Option Error := none
  /-- The next attempt fails with this cause. -/
  nextError : Option Error := none
  /-- The milliseconds that a check takes which the cache does not answer. -/
  delay : Option Nat := none
  supportsRetries : Bool := false
  /-- The cache is asked first, and its entries may be so old. -/
  maxAge : Option Time.Span := none
  /-- The checks so far with their attempts, the latest first. -/
  checks : List (String × Nat) := []
  /-- How many checks came to an end. -/
  completed : Nat := 0
deriving Repr

namespace Stub

def attempt (s : Stub) : Outcome × Stub :=
  match s.error, s.nextError with
  | some e, _ => (.error e, s)
  | none, some e => (.error e, { s with nextError := none })
  | none, none => (.ok s.results, s)

/-- Attempts until one succeeds, at most so many after the first one. -/
def attempts (s : Stub) : Nat → Outcome × Stub
  | 0 => s.attempt
  | more + 1 =>
    match s.attempt with
    | (.ok results, s) => (.ok results, s)
    | (.error _, s) => attempts s more

def record (id : String) (attempts : Nat) (s : Stub) : Stub :=
  { s with checks := (id, attempts) :: s.checks }

def complete (s : Stub) : Stub :=
  { s with completed := s.completed + 1 }

def debugText (s : Stub) : String :=
  "MockSource \x7b name: " ++ Text.quoted s.name ++ ", supports_retries: " ++
    toString s.supportsRetries ++ ", cache: " ++ toString s.maxAge.isSome ++ " \x7d"

end Stub

end TorrentSearch.Source
