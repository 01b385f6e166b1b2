import TorrentSearch.Cache.Store
import TorrentSearch.Config.Basic
import TorrentSearch.Config.Error
import TorrentSearch.Url.Parse

/-!
# Sensible configurations

A configuration makes sense if some source is enabled, the enabled ones have absolute URLs of web
pages, time limits are not zero, and the cache can hold at least one regular value.
-/

namespace TorrentSearch.Config

def ensure (condition : Bool) (text : String) : Except Error Unit :=
  if condition then .ok () else .error (.invalid text)

/-- Refuses a base URL that is no absolute URL of web pages. -/
def validateBaseUrl (name url : String) : Except Error Unit :=
  match Url.ofText url with
  | .error e => .error (.invalid (name ++ " is not a valid URL: " ++ e.message))
  | .ok u => ensure u.isHttp (name ++ " must be an http or https URL")

/-- Refuses a configuration that makes no sense, with the first cause. -/
def validate (c : Config) : Except Error Unit := do
  ensure (c.sources.yts.enabled || c.sources.ibit.enabled)
    "at least one of sources.yts and sources.ibit must be enabled"
  ensure (c.sources.timeoutSecs ≠ 0) "sources.timeout_secs cannot be 0"
  if c.sources.yts.enabled then validateBaseUrl "sources.yts.base_url" c.sources.yts.baseUrl
  if c.sources.ibit.enabled then validateBaseUrl "sources.ibit.base_url" c.sources.ibit.baseUrl
  ensure (c.cache.maxAgeSecs ≠ 0) "cache.max_age_secs cannot be 0"
  ensure (Cache.maxRegularLength ≤ c.cache.maxBytes)
    ("cache.max_bytes must be at least " ++ Nat.repr Cache.maxRegularLength)

end TorrentSearch.Config
