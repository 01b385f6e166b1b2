/-!
# Skipped pages

Why a detail page gives no torrent.
-/

namespace TorrentSearch.Page

/-- The cause for which a detail page gives no torrent. -/
inductive SkipReason where
  | request
  /-- The response has a status other than 200. -/
  | badStatus
  /-- No magnet link stands in the page. -/
  | noMagnet
  | noTitle
  | unsupportedQuality
  /-- No info hash can be recovered from the link. -/
  | noInfoHash
  /-- The link to the page cannot be routed through the base URL. -/
  | badLink
deriving DecidableEq, Repr

namespace SkipReason

def all : List SkipReason :=
  [request, badStatus, noMagnet, noTitle, unsupportedQuality, noInfoHash, badLink]

def label : SkipReason → String
  | request => "request"
  | badStatus => "bad_status"
  | noMagnet => "no_magnet"
  | noTitle => "no_title"
  | unsupportedQuality => "unsupported_quality"
  | noInfoHash => "no_info_hash"
  | badLink => "bad_link"

end SkipReason

end TorrentSearch.Page
