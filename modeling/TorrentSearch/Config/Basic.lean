import TorrentSearch.Time.Instant

/-!
# Configuration

The settings of a search with their defaults: the cache, the federation of sources, and the sources
themselves.
-/

namespace TorrentSearch

namespace Config

structure CacheSettings where
  maxBytes : Nat := 134217728
  maxAgeSecs : Nat := 86400
  /-- Where the cache is kept between runs. -/
  persistPath : Option String := none
deriving DecidableEq, Repr

structure FederationSettings where
  /-- How long the slow source is waited for once the fast ones answered. -/
  gracePeriodMs : Nat := 1000
  /-- How often a failed check is repeated by sources that can. -/
  retries : Nat := 1
deriving DecidableEq, Repr

/-- Settings of the source with a programming interface. -/
structure YtsSettings where
  enabled : Bool := true
  baseUrl : String := "https://yts.mx"
deriving DecidableEq, Repr

structure IbitSettings where
  enabled : Bool := true
  baseUrl : String := "https://ibit.am"
  pageDelayMs : Nat := 150
deriving DecidableEq, Repr

structure SourcesSettings where
  timeoutSecs : Nat := 5
  yts : YtsSettings := {}
  ibit : IbitSettings := {}
deriving DecidableEq, Repr

end Config

structure Config where
  cache : Config.CacheSettings := {}
  federation : Config.FederationSettings := {}
  sources : Config.SourcesSettings := {}
deriving DecidableEq, Repr

namespace Config

def CacheSettings.maxAge (c : CacheSettings) : Time.Span :=
  .ofSeconds c.maxAgeSecs

def FederationSettings.gracePeriod (f : FederationSettings) : Time.Span :=
  .ofMillis f.gracePeriodMs

def SourcesSettings.timeout (s : SourcesSettings) : Time.Span :=
  .ofSeconds s.timeoutSecs

def maxAttempts : Nat := 4294967295

/-- The attempts that a number of retries allows for. -/
def attemptsOf (retries : Nat) : Nat :=
  min (retries + 1) maxAttempts

/-- The attempts that sources which can retry are allowed. -/
def FederationSettings.attempts (f : FederationSettings) : Nat :=
  attemptsOf f.retries

end Config

end TorrentSearch
