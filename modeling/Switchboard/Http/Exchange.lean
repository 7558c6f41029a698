import Switchboard.Data.Json.Reader
import Switchboard.Failure

/-!
# Requests and replies

A network is what it will reply, together with the requests that have been made. A plan is how an
answer comes about: at once, or from the outcome of one request. So a plan makes one request at most,
and its outcome hangs on the network only through the reply.

Requests have an address that can be sent. What a client does with one that is no address, or of which
a part has more than 65536 characters, is left out.
-/

namespace Switchboard

structure Request where
  url : String
  params : Fields
deriving DecidableEq, Repr

inductive Response where
  | received (status : Nat) (body : List Nat)
  /-- Nothing was received. -/
  | failed (message : String)
deriving DecidableEq, Repr

structure Network where
  responses : List Response
  requests : List Request

inductive Plan (α : Type) where
  | answer (result : Except Failure α)
  | ask (request : Request) (next : Except Failure Value → Except Failure α)

namespace Response

/-- What a request gets when the network has nothing left to reply. -/
def exhausted : Response := failed "script exhausted"

/-- The value that a response brings. Only statuses from 200 to 299 stand for success. -/
def value (url : String) : Response → Except Failure Value
  | failed message => .error (.unavailable ("Request to " ++ url ++ " failed: " ++ message) none none)
  | received status body =>
    if status < 200 ∨ 300 ≤ status then
      .error (.unavailable ("HTTP " ++ String.ofList (digitsOf status) ++ " from " ++ url) none
        (some status))
    else
      match Json.readBytes body with
      | .ok v => .ok v
      | .error .tooDeep => .error .tooDeep
      | .error _ => .error (.unavailable ("Malformed JSON from " ++ url) none none)

end Response

namespace Network

def take (network : Network) : Response × Network :=
  match network.responses with
  | [] => (.exhausted, network)
  | response :: rest => (response, { network with responses := rest })

def note (network : Network) (request : Request) : Network :=
  { network with requests := network.requests ++ [request] }

/-- Makes a request through a client. A closed client refuses it. -/
def get (network : Network) (isOpen : Bool) (request : Request) : Except Failure Value × Network :=
  let noted := network.note request
  if isOpen then
    let (response, after) := noted.take
    (response.value request.url, after)
  else (.error .closed, noted)

end Network

namespace Plan

def andThen {α β : Type} (plan : Plan α) (f : Except Failure α → Except Failure β) : Plan β :=
  match plan with
  | answer result => answer (f result)
  | ask request next => ask request fun outcome => f (next outcome)

def map {α β : Type} (f : α → β) (plan : Plan α) : Plan β := plan.andThen (·.map f)

def perform {α : Type} (plan : Plan α) (isOpen : Bool) (network : Network) :
    Except Failure α × Network :=
  match plan with
  | answer result => (result, network)
  | ask request next =>
    let (outcome, after) := network.get isOpen request
    (next outcome, after)

end Plan

end Switchboard
