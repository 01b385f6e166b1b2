import TorrentSearch.Text.Blank
import TorrentSearch.Text.Ascii
import TorrentSearch.Text.Search

/-!
# Quality of a release

A quality is a resolution with the marks "ten bits per channel" and "filmed in a cinema". It is read
off the markers in a magnet link or off a field that names the resolution alone.
-/

namespace TorrentSearch

inductive Resolution where
  | p720
  | p1080
  | p2160
deriving DecidableEq, Repr

namespace Resolution

/-- The resolutions in the order in which a text is searched for them. -/
def all : List Resolution := [p720, p1080, p2160]

def text : Resolution → String
  | p720 => "720p"
  | p1080 => "1080p"
  | p2160 => "2160p"

end Resolution

structure Quality where
  resolution : Resolution
  tenBit : Bool
  cam : Bool
deriving DecidableEq, Repr

namespace Quality

/-- The mark of a release that was filmed in a cinema. -/
def camMark : String := " (\u26a0\ufe0fcam)"

def text (q : Quality) : String :=
  q.resolution.text ++ (if q.tenBit then " 10bit" else "") ++ (if q.cam then camMark else "")

/-- The quality that the markers in a magnet link name; none without a known resolution. -/
def ofMagnet? (magnet : String) : Option Quality :=
  let has (marker : String) : Bool := Text.occursIn marker.toList magnet.toList
  (Resolution.all.find? fun r => has r.text).map fun r => ⟨r, has "10bit", has "HDCAM"⟩

/-- The quality that a field names, blanks around it and the case of its letters aside. -/
def ofField? (value : String) (tenBit : Bool) : Option Quality :=
  let field := (Text.trim value).toList
  (Resolution.all.find? fun r => Text.eqIgnoringCase field r.text.toList).map fun r =>
    ⟨r, tenBit, false⟩

end Quality

end TorrentSearch
