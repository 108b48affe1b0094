import ChangeGate.Failure
import ChangeGate.Review.Change

/-!
# A review server in memory

A review server that lists fixed changes, records every call, and fails where it is told to.
-/

namespace ChangeGate.Memory

open ChangeGate.Review

/-- A message posted on a ref. -/
structure Post where
  reference : String
  message : String
  verified : Bool
  deriving DecidableEq, Repr, Inhabited

/-- A review server: what it lists, where it fails, and the calls it took. -/
structure ReviewState where
  changes : List Change := []
  failQueries : Bool := false
  failPostsTo : List String := []
  failSubmitsTo : List String := []
  queries : List String := []
  posts : List Post := []
  submits : List String := []
  deriving DecidableEq, Repr, Inhabited

namespace ReviewState

/-- Answer a query with the listed changes. -/
def query (state : ReviewState) (text : String) : Except Failure (List Change) × ReviewState :=
  let answer :=
    if state.failQueries then .error (.review (.refused (.query text))) else .ok state.changes
  (answer, { state with queries := state.queries ++ [text] })

/-- Post a message on some refs, in order, up to the first one that fails. -/
def post (message : String) (verified : Bool) :
    List String → ReviewState → Except Failure Unit × ReviewState
  | [], state => (.ok (), state)
  | reference :: rest, state =>
      if state.failPostsTo.contains reference then
        (.error (.review (.refused (.post reference))), state)
      else
        post message verified rest
          { state with posts := state.posts ++ [⟨reference, message, verified⟩] }

/-- Submit some refs, in order, up to the first one that fails. -/
def submit : List String → ReviewState → Except Failure Unit × ReviewState
  | [], state => (.ok (), state)
  | reference :: rest, state =>
      if state.failSubmitsTo.contains reference then
        (.error (.review (.refused (.submit reference))), state)
      else
        submit rest { state with submits := state.submits ++ [reference] }

end ReviewState

end ChangeGate.Memory
