/-!
# Blank characters

The characters with the Unicode property `White_Space`, and the removal of such characters from the
two ends of a text. An identifier, a link or a title that is blank all through counts as absent.
-/

namespace TorrentSearch.Text

def isBlank (c : Char) : Bool :=
  let n := c.toNat
  (0x09 ≤ n && n ≤ 0x0d) || n = 0x20 || n = 0x85 || n = 0xa0 || n = 0x1680 ||
    (0x2000 ≤ n && n ≤ 0x200a) || n = 0x2028 || n = 0x2029 || n = 0x202f || n = 0x205f ||
    n = 0x3000

/-- The list without its longest tail on which `p` holds. -/
def dropEndWhile {α : Type} (p : α → Bool) (s : List α) : List α :=
  (s.reverse.dropWhile p).reverse

/-- The list without its longest head and its longest tail on which `p` holds. -/
def stripWhile {α : Type} (p : α → Bool) (s : List α) : List α :=
  dropEndWhile p (s.dropWhile p)

/-- The text without the blanks at its two ends. -/
def trim (s : String) : String :=
  String.ofList (stripWhile isBlank s.toList)

def isBlankText (s : String) : Bool :=
  s.toList.all isBlank

end TorrentSearch.Text
