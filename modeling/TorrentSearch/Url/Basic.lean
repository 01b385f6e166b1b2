import TorrentSearch.Url.Host

/-!
# URLs

Absolute URLs in the parts that the URL standard gives them, and their written form. The path, the
query and the fragment are kept as they are written, with escapes.
-/

namespace TorrentSearch

/-- What stands between `//` and the path. -/
structure Url.Authority where
  /-- User name and password with the `@` behind them, or nothing. -/
  userinfo : List Char
  host : Url.Host
  /-- A port other than the scheme's own. -/
  port : Option Nat
deriving DecidableEq, Repr

structure Url where
  scheme : List Char
  authority : Option Url.Authority
  path : List Char
  query : Option (List Char)
  fragment : Option (List Char)
deriving DecidableEq, Repr

namespace Url

inductive SchemeKind where
  /-- URLs of files, whose host may be absent. -/
  | file
  /-- A scheme with a host that is looked up, and with its own port. -/
  | network (port : Nat)
  | foreign
deriving DecidableEq, Repr

def SchemeKind.of (scheme : List Char) : SchemeKind :=
  if scheme = "http".toList ∨ scheme = "ws".toList then network 80
  else if scheme = "https".toList ∨ scheme = "wss".toList then network 443
  else if scheme = "ftp".toList then network 21
  else if scheme = "file".toList then file
  else foreign

def SchemeKind.isSpecial : SchemeKind → Bool
  | foreign => false
  | _ => true

def isHttp (u : Url) : Bool :=
  u.scheme = "http".toList || u.scheme = "https".toList

def Authority.render (a : Authority) : List Char :=
  a.userinfo ++ a.host.render ++
    match a.port with
    | some n => ':' :: (Nat.repr n).toList
    | none => []

def pathAndQuery (u : Url) : List Char :=
  u.path ++
    match u.query with
    | some q => '?' :: q
    | none => []

/-- The URL without its fragment as it is written. Without an authority, a path may not look like
one. -/
def renderRequest (u : Url) : List Char :=
  let front :=
    match u.authority with
    | some a => '/' :: '/' :: a.render
    | none => if "//".toList.isPrefixOf u.path then ['/', '.'] else []
  u.scheme ++ ':' :: front ++ u.pathAndQuery

def render (u : Url) : List Char :=
  u.renderRequest ++
    match u.fragment with
    | some f => '#' :: f
    | none => []

end Url

end TorrentSearch
