/-!
# The network

What comes back for a request of a URL, and when. A network may answer by everything that was
requested before.
-/

namespace TorrentSearch.Http

/-- The body of a response, as far as it comes. -/
inductive Body where
  | whole (bytes : List UInt8)
  | cut
  /-- The body is not complete in the time that was given. -/
  | late
deriving DecidableEq, Repr

def Body.whole? : Body → Option (List UInt8)
  | whole bytes => some bytes
  | cut | late => none

structure Response where
  status : Nat
  /-- The type of the body as the server declares it. -/
  contentType : Option String
  body : Body
  /-- What the body says in a charset of the Far East. -/
  farEastern : String := ""
deriving DecidableEq, Repr

namespace Response

/-- The body under a status, as it arrives: some responses never have one. -/
def ofBody (status : Nat) (body : List UInt8) (contentType : Option String := none) : Response where
  status := status
  contentType := contentType
  body := .whole (if status = 204 ∨ status = 304 then [] else body)

def notFound : Response := .ofBody 404 []

def isSuccess (r : Response) : Bool :=
  200 ≤ r.status && r.status < 300

end Response

inductive Reply where
  | response (r : Response)
  /-- No connection, or one that ends before the status. -/
  | dropped
  /-- No status in the time that was given. -/
  | late
deriving DecidableEq, Repr

/-- Who asked waits for a body until his time is over. -/
def Reply.stalls : Reply → Bool
  | .response r => r.isSuccess && r.body = .late
  | .dropped | .late => false

/-- A reply with the milliseconds that it takes, up to its status if its body is late; without a number
it never comes. -/
structure Delivery where
  after : Option Nat
  reply : Reply
deriving DecidableEq, Repr

/-- The milliseconds until a requester with a time limit goes on, and what he goes on with. -/
def Delivery.within (timeout : Nat) (d : Delivery) : Nat × Reply :=
  match d.after with
  | some millis =>
    if millis < timeout then (if d.reply.stalls then timeout else millis, d.reply)
    else (timeout, .late)
  | none => (timeout, .late)

structure Network where
  /-- What a request of a URL brings after the earlier requests, of which the latest comes first; none
  if no server can be reached. -/
  deliver : (earlier : List String) → (url : String) → Option Delivery

def Network.down : Network := ⟨fun _ _ => none⟩

end TorrentSearch.Http
