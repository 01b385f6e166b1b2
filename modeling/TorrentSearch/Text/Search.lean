/-!
# Searching in texts

Occurrences of one text in another: whether there is one, where the leftmost one starts, and the
replacement of all of them from left to right. `lazyCapture` and `quotedCapture` find the leftmost
place where a whole pattern fits and give the part of it that is asked for.
-/

namespace TorrentSearch.Text

def occursIn (needle : List Char) : List Char → Bool
  | [] => needle.isEmpty
  | c :: r => needle.isPrefixOf (c :: r) || occursIn needle r

/-- The rest of the text from the leftmost occurrence of `needle` on. -/
def fromFirst? (needle : List Char) : List Char → Option (List Char)
  | [] => if needle.isEmpty then some [] else none
  | c :: r => if needle.isPrefixOf (c :: r) then some (c :: r) else fromFirst? needle r

/-- The text with every occurrence of `needle`, from left to right and without overlap, replaced.
The counter tells how many characters of the current occurrence are still to be left out. -/
def replaceFrom (needle replacement : List Char) : Nat → List Char → List Char
  | _, [] => []
  | skip + 1, _ :: r => replaceFrom needle replacement skip r
  | 0, c :: r =>
    if needle.isPrefixOf (c :: r) then
      replacement ++ replaceFrom needle replacement (needle.length - 1) r
    else c :: replaceFrom needle replacement 0 r

/-- The text with every occurrence of a non-empty `needle` replaced. -/
def replaceAll (needle replacement s : List Char) : List Char :=
  replaceFrom needle replacement 0 s

/-- The shortest stretch, on one line, that `stop` follows. -/
def stretchTo? (stop : List Char) : List Char → Option (List Char)
  | [] => if stop.isEmpty then some [] else none
  | c :: r =>
    if stop.isPrefixOf (c :: r) then some []
    else if c = '\n' then none
    else (stretchTo? stop r).map (c :: ·)

/-- The shortest non-empty stretch, on one line, that `stop` follows. It may begin with `stop`. -/
def nonemptyStretchTo? (stop : List Char) : List Char → Option (List Char)
  | [] => none
  | c :: r => if c = '\n' then none else (stretchTo? stop r).map (c :: ·)

/-- At the leftmost `lead` that a non-empty stretch of its line and then `stop` follow: the shortest
such stretch. -/
def lazyCapture? (lead stop : List Char) : List Char → Option (List Char)
  | [] => none
  | c :: r =>
    let here :=
      if lead.isPrefixOf (c :: r) then nonemptyStretchTo? stop ((c :: r).drop lead.length) else none
    match here with
    | some stretch => some stretch
    | none => lazyCapture? lead stop r

/-- The non-empty stretch up to the next quote, if there is a quote. -/
def stretchToQuote? (quote : Char) (s : List Char) : Option (List Char) :=
  let body := s.takeWhile (· ≠ quote)
  if body.isEmpty || body.length = s.length then none else some body

/-- At the leftmost quote that `lead`, at least one more character and the next quote follow: the
text between the two quotes, `lead` included. -/
def quotedCapture? (quote : Char) (lead : List Char) : List Char → Option (List Char)
  | [] => none
  | c :: r =>
    let here :=
      if c = quote ∧ lead.isPrefixOf r then
        (stretchToQuote? quote (r.drop lead.length)).map (lead ++ ·)
      else none
    match here with
    | some found => some found
    | none => quotedCapture? quote lead r

end TorrentSearch.Text
