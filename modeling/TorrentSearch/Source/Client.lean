import TorrentSearch.Search.Orderly
import TorrentSearch.Url.Parse

/-!
# Requests of sources

A source requests a URL that it has put together as a text. Only URLs of web pages can be requested,
and not all of them. What is shown of a URL in messages is its written form without user name and
password.
-/

namespace TorrentSearch.Source

open Search (Work)

def withoutUser (u : Url) : Url :=
  { u with authority := u.authority.map fun a => { a with userinfo := [] } }

/-- The greatest length of a URL that can be requested. -/
def maxUrlLength : Nat := 65534

/-- A URL of a web page that a request can name: it is not too long, and its host has no quotes and
no braces. -/
def isRequestable (u : Url) : Bool :=
  let host := (u.authority.map fun a => a.host.render).getD []
  u.isHttp && (Text.Utf8.encode (String.ofList u.render)).length ≤ maxUrlLength &&
    host.all fun c => !(['"', '\x60', '\x7b', '\x7d'].contains c)

/-- What is said about a body that breaks off, or that is not what it should be. -/
def badBody : String := "error decoding response body"

/-- The outcome of a request of a URL that is shown in a form of its own. -/
def received (url shown : String) : Http.Reply → Except Error Http.Response
  | .response r => .ok r
  | .dropped => .error (.request url ("error sending request for url (" ++ shown ++ ")"))
  | .late => .error .timeout

/-- The response to a request under a time limit in milliseconds, if there is one. -/
def get (url : String) (timeout : Nat) : Work (Except Error Http.Response) :=
  match Url.ofText url with
  | .error _ => .done (.error (.request url "builder error"))
  | .ok u =>
    let u := withoutUser u
    let shown := String.ofList u.render
    if isRequestable u then
      .request (String.ofList u.renderRequest) timeout fun reply => .done (received url shown reply)
    else .done (.error (.request url ("builder error for url (" ++ shown ++ ")")))

theorem plain_get (url : String) (timeout : Nat) : (get url timeout).Plain := by
  unfold get
  split
  · exact .done _
  · dsimp only
    split
    · exact .request _ _ fun _ => .done _
    · exact .done _

end TorrentSearch.Source
