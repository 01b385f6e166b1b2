import TorrentSearch.Text.Blank
import TorrentSearch.Text.Quoted

/-!
# Why a source has no answer

The causes for which the check of one source fails, with their wording, and the test for identifiers
that no source can search for.
-/

namespace TorrentSearch.Source

/-- The cause for which a check failed. -/
inductive Error where
  | request (url reason : String)
  /-- The response has a status other than the expected one. -/
  | badStatus (url : String) (status : Nat)
  | timeout
  /-- The response is not what it should be. -/
  | parse (text : String)
  /-- Nothing can be searched for under this identifier. -/
  | invalidIdentifier (id : String)
  | internal (text : String)
deriving DecidableEq, Repr

def Error.message : Error → String
  | request url reason => "Couldn't GET " ++ url ++ ": " ++ reason
  | badStatus url status => "Bad GET response from " ++ url ++ ": HTTP " ++ Nat.repr status
  | timeout => "Request timeout"
  | parse text => "Couldn't parse response: " ++ text
  | invalidIdentifier id => "Invalid identifier: " ++ Text.quoted id
  | internal text => "Internal error: " ++ text

def validateIdentifier (id : String) : Except Error Unit :=
  if Text.isBlankText id then .error (.invalidIdentifier id) else .ok ()

theorem validateIdentifier_eq_ok_iff {id : String} :
    validateIdentifier id = .ok () ↔ Text.isBlankText id = false := by
  unfold validateIdentifier
  split <;> simp_all

end TorrentSearch.Source
