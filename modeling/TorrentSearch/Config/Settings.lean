import TorrentSearch.Config.Basic
import TorrentSearch.Toml.Value

/-!
# Settings from values

The reading of settings from tables. Settings that are not named have their defaults, and names that
are no settings are passed over. An array gives the settings of a section in their order.
-/

namespace TorrentSearch.Config

open Toml (Value Entries)

/-- The values of a section's settings, in the order of their names, as far as they are given. A date
gives none. -/
def section? (names : List String) : Value → Option (List (Option Value))
  | .table entries => some (names.map fun name => entries.lookup name)
  | .array items => some ((List.range names.length).map fun i => items[i]?)
  | .datetime _ => some (names.map fun _ => none)
  | _ => none

/-- A value that is read if it is given, and a default. -/
def orDefault {α : Type} (default : α) (read? : Value → Option α) : Option Value → Option α
  | none => some default
  | some v => read? v

def natural? (greatest : Nat) : Value → Option Nat
  | .integer (.ofNat n) => if n ≤ greatest then some n else none
  | _ => none

def maxWord64 : Nat := 18446744073709551615

def maxWord32 : Nat := 4294967295

def boolean? : Value → Option Bool
  | .boolean b => some b
  | _ => none

def text? : Value → Option String
  | .text s => some s
  | _ => none

def cache? (v : Value) : Option CacheSettings := do
  match ← section? ["max_bytes", "max_age_secs", "persist_path"] v with
  | [maxBytes, maxAge, path] =>
    let default : CacheSettings := {}
    return {
      maxBytes := ← orDefault default.maxBytes (natural? maxWord64) maxBytes
      maxAgeSecs := ← orDefault default.maxAgeSecs (natural? maxWord64) maxAge
      persistPath := ← orDefault none (fun v => (text? v).map some) path }
  | _ => none

def federation? (v : Value) : Option FederationSettings := do
  match ← section? ["grace_period_ms", "retries"] v with
  | [grace, retries] =>
    let default : FederationSettings := {}
    return {
      gracePeriodMs := ← orDefault default.gracePeriodMs (natural? maxWord64) grace
      retries := ← orDefault default.retries (natural? maxWord32) retries }
  | _ => none

/-- The section of the source with a programming interface. -/
def yts? (v : Value) : Option YtsSettings := do
  match ← section? ["enabled", "base_url"] v with
  | [enabled, baseUrl] =>
    let default : YtsSettings := {}
    return {
      enabled := ← orDefault default.enabled boolean? enabled
      baseUrl := ← orDefault default.baseUrl text? baseUrl }
  | _ => none

def ibit? (v : Value) : Option IbitSettings := do
  match ← section? ["enabled", "base_url", "page_delay_ms"] v with
  | [enabled, baseUrl, pageDelay] =>
    let default : IbitSettings := {}
    return {
      enabled := ← orDefault default.enabled boolean? enabled
      baseUrl := ← orDefault default.baseUrl text? baseUrl
      pageDelayMs := ← orDefault default.pageDelayMs (natural? maxWord64) pageDelay }
  | _ => none

def sources? (v : Value) : Option SourcesSettings := do
  match ← section? ["timeout_secs", "yts", "ibit"] v with
  | [timeout, yts, ibit] =>
    let default : SourcesSettings := {}
    return {
      timeoutSecs := ← orDefault default.timeoutSecs (natural? maxWord64) timeout
      yts := ← orDefault {} yts? yts
      ibit := ← orDefault {} ibit? ibit }
  | _ => none

def ofEntries? (entries : Entries) : Option Config := do
  match ← section? ["cache", "aggregator", "sources"] (.table entries) with
  | [cache, federation, sources] =>
    return {
      cache := ← orDefault {} cache? cache
      federation := ← orDefault {} federation? federation
      sources := ← orDefault {} sources? sources }
  | _ => none

end TorrentSearch.Config
