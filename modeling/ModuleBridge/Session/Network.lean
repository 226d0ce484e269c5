import ModuleBridge.Error

/-!
# Requests and what becomes of them

A network keeps the requests that were posted and knows what becomes of each: no reply, or a reply
with a status and a body. What becomes of a request may depend on all requests before it. A reply
may have come from another address, to which the request was sent on: that is part of what becomes
of it, and it is one request.
-/

namespace ModuleBridge.Session

/-- A posted request. -/
structure Request where
  url : String
  contentType : String
  body : String
  deriving DecidableEq, Repr

/-- A reply. -/
structure Reply where
  status : Nat
  /-- The words that go with the status. -/
  reason : String
  body : List UInt8
  deriving DecidableEq, Repr

/-- What becomes of a request. -/
inductive Outcome
  /-- There is no reply, for the reasons given, outermost first. -/
  | unanswered (reasons : List String)
  | replied (reply : Reply)
  deriving DecidableEq, Repr

/-- The reasons for there being no reply if no connection can be made. -/
def Outcome.unconnected (failure : SystemFailure) : Outcome :=
  .unanswered ["client error (Connect)", "tcp connect error", failure.message]

/-- The reasons for there being no reply if the connection is closed instead. -/
def Outcome.dropped : Outcome :=
  .unanswered ["client error (SendRequest)", "connection closed before message completed"]

/-- A network. -/
structure Network where
  /-- What becomes of the last of the requests posted. -/
  outcome : List Request → Outcome
  /-- The requests posted so far. -/
  posted : List Request := []

/-- What an operation on a network gives, and the network after it. -/
abbrev Traffic (α : Type) := Network → Except Error α × Network

/-- Posts a request. -/
def Network.post (network : Network) (request : Request) : Outcome × Network :=
  let posted := network.posted ++ [request]
  (network.outcome posted, { network with posted := posted })

end ModuleBridge.Session
