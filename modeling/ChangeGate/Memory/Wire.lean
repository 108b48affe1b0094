import ChangeGate.Http.Message

/-!
# A wire in memory

A wire on which the answers to come are written down. Each request is recorded and takes the
next of them; where none is left, the server answers that it has none. A wire that is cut
carries nothing.
-/

namespace ChangeGate.Memory

open ChangeGate.Http

/-- What becomes of a request. -/
inductive Reply where
  | response (response : Response)
  /-- The server hangs up. -/
  | hangUp
  deriving DecidableEq, Repr, Inhabited

/-- A wire: the replies to come and the requests so far. -/
structure Wire where
  connected : Bool := true
  replies : List Reply := []
  requests : List Request := []
  deriving DecidableEq, Repr, Inhabited

namespace Wire

/-- The response when no reply is left. -/
def noReply : Response := ⟨500, "no response"⟩

/-- A response as it arrives: some statuses come without a body. -/
def arriving (response : Response) : Response :=
  if response.status = 204 ∨ response.status = 304 then { response with body := "" }
  else response

/-- What a request gets for a reply. -/
def outcome : Reply → Except String Response
  | .response response => .ok (arriving response)
  | .hangUp => .error "connection closed"

/-- Send a request. -/
def exchange (request : Request) (wire : Wire) : Except String Response × Wire :=
  if wire.connected then
    let reply := wire.replies.head?.getD (.response noReply)
    (outcome reply,
      { wire with replies := wire.replies.tail, requests := wire.requests ++ [request] })
  else
    (.error "not connected", wire)

end Wire

end ChangeGate.Memory
