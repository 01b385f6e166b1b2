import TorrentSearch.Text.Blank
import TorrentSearch.Url.Basic

/-!
# Reading URLs

The reading of absolute URLs as browsers do it: controls and spaces around the text and tabs and line
breaks within it do not count, letters of the scheme and the host are lowered, and what may not stand
in a part is written as an escape there.
-/

namespace TorrentSearch.Url

def isControlOrSpace (c : Char) : Bool :=
  c.toNat ≤ 0x20

def isLineSpace (c : Char) : Bool :=
  c = '\t' || c = '\n' || c = '\r'

def clean (s : List Char) : List Char :=
  (Text.stripWhile isControlOrSpace s).filter fun c => !isLineSpace c

/-- The characters that a fragment holds as they are. -/
def inFragment (c : Char) : Bool :=
  !Host.isControl c && !" \"<>\x60".toList.contains c

/-- The characters that a path holds as they are. -/
def inPath (c : Char) : Bool :=
  inFragment c && !"#?\x7b\x7d".toList.contains c

/-- The characters that a query holds as they are. -/
def inQuery (special : Bool) (c : Char) : Bool :=
  !Host.isControl c && !" \"#<>".toList.contains c && !(special && c = '\'')

/-- The characters that a user name or a password holds as they are. -/
def inUserinfo (c : Char) : Bool :=
  inPath c && !"/:;=@[\\]^|".toList.contains c

def isSlash (special : Bool) (c : Char) : Bool :=
  c = '/' || (special && c = '\\')

def endsAuthority (special : Bool) (c : Char) : Bool :=
  isSlash special c || c = '?' || c = '#'

/-- A character that a scheme may have behind its first letter. -/
def isSchemeChar (c : Char) : Bool :=
  c.isAlphanum || c = '+' || c = '-' || c = '.'

/-- The scheme in lower case and the text behind its colon. -/
def scheme? (s : List Char) : Option (List Char × List Char) :=
  let name := s.takeWhile isSchemeChar
  match s.drop name.length with
  | ':' :: rest =>
    if name.head?.any Char.isAlpha then some (name.map Char.toLower, rest) else none
  | _ => none

/-- The text before the last occurrence of a character and the text behind it. -/
def splitAtLast? (x : Char) : List Char → Option (List Char × List Char)
  | [] => none
  | c :: r =>
    match splitAtLast? x r with
    | some (before, after) => some (c :: before, after)
    | none => if c = x then some ([], r) else none

/-- A user name and perhaps a password with `@` behind them, or nothing if both are empty. -/
def renderUserinfo (s : List Char) : List Char :=
  let user := s.takeWhile (· ≠ ':')
  let password := (s.drop user.length).drop 1
  let escape := Text.Percent.encode inUserinfo
  if user.isEmpty && password.isEmpty then []
  else escape user ++ (if password.isEmpty then [] else ':' :: escape password) ++ ['@']

/-- The userinfo of an authority with the text behind it. -/
def userinfo? (authority : List Char) (isLast : Bool) :
    Except Error (List Char × List Char) :=
  match splitAtLast? '@' authority with
  | none => .ok ([], authority)
  | some ([], rest) => if rest.isEmpty && !isLast then .error .emptyHost else .ok ([], rest)
  | some (info, rest) => .ok (renderUserinfo info, rest)

/-- The length of a host's text, which ends at a colon outside of brackets. -/
def hostLength : Bool → List Char → Nat
  | _, [] => 0
  | inBrackets, c :: r =>
    if c = ':' ∧ !inBrackets then 0
    else hostLength (if c = '[' then true else if c = ']' then false else inBrackets) r + 1

/-- The port that a text names, none if it is empty or the scheme's own. -/
def port? (own : Option Nat) (s : List Char) : Except Error (Option Nat) :=
  if s.isEmpty then .ok none
  else
    match Text.readDigits? 10 s with
    | some n => if 65535 < n then .error .invalidPort else .ok (if own = some n then none else some n)
    | none => .error .invalidPort

/-- The host of an authority. Where hosts are looked up, it is not empty. -/
def hostOf (kind : SchemeKind) (text : List Char) : Except Error Host :=
  match kind with
  | .foreign => Host.parseForeign text
  | _ => if text.isEmpty then .error .emptyHost else Host.parse text

/-- The port that the URLs of a scheme leave out. -/
def SchemeKind.ownPort? : SchemeKind → Option Nat
  | network n => some n
  | _ => none

/-- An authority and, where a backslash ends the port, the text from there on. `isLast` tells that
nothing stands behind the authority. -/
def authority? (kind : SchemeKind) (text : List Char) (isLast : Bool) :
    Except Error (Authority × List Char) := do
  let (info, rest) ← userinfo? text isLast
  let hostText := rest.take (hostLength false rest)
  let behind := rest.drop hostText.length
  let host ← hostOf kind hostText
  if host = .name [] && !behind.isEmpty then .error .emptyHost
  else
    let portText := (behind.drop 1).takeWhile (· ≠ '\\')
    let port ← port? kind.ownPort? portText
    if host = .name [] && !info.isEmpty then .error .emptyHost
    else return (⟨info, host, port⟩, (behind.drop 1).drop portText.length)

def isSingleDot (segment : List Char) : Bool :=
  let s := segment.map Char.toLower
  s = ".".toList || s = "%2e".toList

def isDoubleDot (segment : List Char) : Bool :=
  let s := segment.map Char.toLower
  s = "..".toList || s = ".%2e".toList || s = "%2e.".toList || s = "%2e%2e".toList

/-- A drive of a file system as a segment: a letter with a colon. -/
def isDrive : List Char → Bool
  | [letter, ':'] => letter.isAlpha
  | _ => false

/-- A drive whose colon may be written as a bar. -/
def isLooseDrive : List Char → Bool
  | [letter, mark] => letter.isAlpha && (mark = ':' || mark = '|')
  | _ => false

/-- The segments without the last one. A file's drive stays. -/
def leaveFolder (isFile : Bool) (segments : List (List Char)) : List (List Char) :=
  match segments with
  | [] => []
  | last :: rest => if isFile && isDrive last then segments else rest

/-- Goes along the segments of a path; the segments so far are in reverse. -/
def walk (isFile : Bool) : List (List Char) → List (List Char) → List (List Char)
  | done, [] => done
  | done, [last] =>
    if isDoubleDot last then [] :: leaveFolder isFile done
    else if isSingleDot last then [] :: done
    else if isFile && isLooseDrive last then (last.take 1 ++ [':']) :: done
    else last :: done
  | done, segment :: rest =>
    if isDoubleDot segment then walk isFile (leaveFolder isFile done) rest
    else if isSingleDot segment then walk isFile done rest
    else walk isFile (segment :: done) rest

def joinSegments (segments : List (List Char)) : List Char :=
  segments.flatMap fun s => '/' :: s

/-- The written path of a text that stands behind a first slash. -/
def renderPath (kind : SchemeKind) (s : List Char) : List Char :=
  let slashed := if kind.isSpecial then s.map fun c => if c = '\\' then '/' else c else s
  let segments := (Text.splitAtEach '/' slashed).map (Text.Percent.encode inPath)
  let path := joinSegments (walk (kind = .file) [] segments).reverse
  match kind with
  | .file => '/' :: path.dropWhile (· = '/')
  | _ => path

/-- A text in the parts before `?`, between `?` and `#`, and behind `#`. -/
def splitTail (s : List Char) : List Char × Option (List Char) × Option (List Char) :=
  let beforeFragment := s.takeWhile (· ≠ '#')
  let fragment := (s.drop beforeFragment.length).tail?
  let path := beforeFragment.takeWhile (· ≠ '?')
  (path, (beforeFragment.drop path.length).tail?, fragment)

/-- A URL of a scheme, an authority and a written path, with the query and the fragment that are
still to be written. -/
def assemble (scheme : List Char) (authority : Option Authority) (path : List Char)
    (query fragment : Option (List Char)) : Url where
  scheme := scheme
  authority := authority
  path := path
  query := query.map (Text.Percent.encode (inQuery (SchemeKind.of scheme).isSpecial))
  fragment := fragment.map (Text.Percent.encode inFragment)

/-- The written path of what stands behind an authority. A special URL has at least a slash. -/
def pathBehindAuthority (kind : SchemeKind) (s : List Char) : List Char :=
  match s with
  | [] => if kind.isSpecial then ['/'] else []
  | c :: r => if isSlash kind.isSpecial c then renderPath kind r else renderPath kind (c :: r)

def parseAuthority (scheme : List Char) (kind : SchemeKind) (s : List Char) : Except Error Url := do
  let text := s.takeWhile fun c => !endsAuthority kind.isSpecial c
  let (before, query, fragment) := splitTail (s.drop text.length)
  let (authority, more) ← authority? kind text (s.length = text.length)
  return assemble scheme (some authority) (pathBehindAuthority kind (more ++ before)) query fragment

def parseFile (scheme : List Char) (s : List Char) : Except Error Url := do
  match s with
  | a :: b :: r =>
    if isSlash true a && isSlash true b then
      let hostText := r.takeWhile fun c => !endsAuthority true c
      if isLooseDrive hostText then
        let (path, query, fragment) := splitTail r
        return assemble scheme (some ⟨[], .name [], none⟩) (renderPath .file path) query fragment
      else
        let host ← if hostText.isEmpty then .ok (.name []) else Host.parse hostText
        let host := if host = .name "localhost".toList then .name [] else host
        let (path, query, fragment) := splitTail (r.drop hostText.length)
        return assemble scheme (some ⟨[], host, none⟩) (pathBehindAuthority .file path) query fragment
    else withoutHost
  | _ => withoutHost
where
  withoutHost : Except Error Url :=
    let (path, query, fragment) := splitTail s
    .ok (assemble scheme (some ⟨[], .name [], none⟩) (renderPath .file path) query fragment)

/-- Reads what stands behind the colon of a foreign scheme. -/
def parseForeign (scheme : List Char) (s : List Char) : Except Error Url :=
  match s with
  | '/' :: '/' :: r => parseAuthority scheme .foreign r
  | _ =>
    let (before, query, fragment) := splitTail s
    let path :=
      match before with
      | '/' :: r => renderPath .foreign r
      | _ => Text.Percent.encode (fun c => !Host.isControl c) before
    .ok (assemble scheme none path query fragment)

def parse (s : List Char) : Except Error Url :=
  match scheme? (clean s) with
  | none => .error .relative
  | some (scheme, rest) =>
    match SchemeKind.of scheme with
    | .foreign => parseForeign scheme rest
    | .file => parseFile scheme rest
    | kind => parseAuthority scheme kind (rest.dropWhile (isSlash true))

def ofText (s : String) : Except Error Url :=
  parse s.toList

end TorrentSearch.Url
