import ChangeGate.Proofs.Memory.Requests
import ChangeGate.Proofs.Memory.Review
import Mathlib.Data.List.Forall2

/-!
# Posts and submits over HTTP

What the review server is asked to do with several refs, told by the requests on the wire. They are
made one by one up to the first that fails, and where each ref is refused or accepted as a review
server in memory would, the same refs are accepted as are recorded there.
-/

namespace ChangeGate.Memory

open ChangeGate.Http ChangeGate.Review ChangeGate.Round ChangeGate.Service

/-! ## On the wire -/

/-- What becomes of a request that comes after some others on a wire that is not cut. -/
def Wire.replyAt (wire : Wire) (index : Nat) : Except String Response :=
  Wire.outcome (wire.replies[index]?.getD (.response Wire.noReply))

namespace Passes

variable {wire last : Wire} {exchanges : List Exchange}

end Passes

/-! ## One request for each ref -/

/-- What is asked of a server for some references, one request for each, up to the first that fails.
What a request asks for is given by the ref that a reference reads as. -/
structure AsksInOrder (request : ChangeRef → Request) (references : List String)
    (exchanges : List Exchange) (answer : Except Failure Unit) : Prop where
  /-- The requests are those of the first references, which are refs. -/
  requests : List.Forall₂
    (fun reference exchange => ∃ ref, ChangeRef.parse reference = .ok ref ∧
      exchange.request = request ref)
    (references.take exchanges.length) exchanges
  /-- A request that is followed by another one succeeded. -/
  stops : exchanges.Pairwise fun first _ => first.succeeded = true
  /-- The call succeeds, or stops at a reference that is no ref, or at a request that failed. -/
  answered : answer = .ok () ∨ (∃ cause, answer = .error (.ref cause)) ∨
    ∃ cause, answer = .error (reviewFailure cause)
  accepted_iff : answer = .ok () ↔
    exchanges.length = references.length ∧ ∀ exchange ∈ exchanges, exchange.succeeded = true
  unreadable_iff : ∀ cause, answer = .error (.ref cause) ↔
    (∀ exchange ∈ exchanges, exchange.succeeded = true) ∧
      ∃ reference, references[exchanges.length]? = some reference ∧
        ChangeRef.parse reference = .error cause
  refused_iff : ∀ cause, answer = .error (reviewFailure cause) ↔
    ∃ exchange, exchanges.getLast? = some exchange ∧ exchange.answer = .error cause

theorem AsksInOrder.cons {request : ChangeRef → Request} {reference : String} {ref : ChangeRef}
    {exchange : Exchange} {rest : List String} {exchanges : List Exchange}
    {answer : Except Failure Unit} (parsed : ChangeRef.parse reference = .ok ref)
    (asks : exchange.request = request ref) (succeeded : exchange.succeeded = true)
    (others : AsksInOrder request rest exchanges answer) :
    AsksInOrder request (reference :: rest) (exchange :: exchanges) answer where
  requests := .cons ⟨ref, parsed, asks⟩ others.requests
  stops := .cons (fun _ _ => succeeded) others.stops
  answered := others.answered
  accepted_iff := by simp [others.accepted_iff, succeeded]
  unreadable_iff cause := by simp [others.unreadable_iff, succeeded]
  refused_iff cause := by
    rw [others.refused_iff]
    obtain ⟨body, answered⟩ := (Exchange.succeeded_iff exchange).mp succeeded
    cases exchanges with
    | nil => simp [answered]
    | cons second exchanges => simp [List.getLast?_cons]

/-- What a call to a server does to a machine: it leaves the files as they are, and its exchanges take
place on the wire. -/
structure Carried (server : Server) (before after : Machine) (exchanges : List Exchange) :
    Prop where
  files : after.files = before.files
  passes : Passes before.wire exchanges after.wire
  /-- Where the server can be reached, what is sent are the requests of the call. -/
  requests : before.wire.connected = true → isWeb server.address = true →
    after.wire.requests = before.wire.requests ++ exchanges.map (·.request)
  /-- Where the server can be reached, the requests take the replies in order. -/
  replies : before.wire.connected = true → isWeb server.address = true →
    exchanges.map (·.reply) = (List.range exchanges.length).map before.wire.replyAt
  unreached : isWeb server.address = false → after.wire = before.wire

/-- Every one of some references is a ref. -/
def Readable (references : List String) : Prop :=
  ∀ reference ∈ references, ∃ ref, ChangeRef.parse reference = .ok ref

end ChangeGate.Memory
