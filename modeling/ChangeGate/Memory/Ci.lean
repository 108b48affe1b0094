import ChangeGate.Ci.Build
import ChangeGate.Failure

/-!
# A build server in memory

A build server with a queue and a list of started builds, which records every call and fails
where it is told to. A started build is recorded and does not enter the queue by itself.
-/

namespace ChangeGate.Memory

open ChangeGate.Ci

/-- A build that was asked for. -/
structure AddedBuild where
  job : String
  params : BuildParams
  deriving DecidableEq, Repr, Inhabited

/-- The joined refs a build was asked for with. -/
def AddedBuild.refs (build : AddedBuild) : String :=
  ((build.params[refsParam]?).bind (·.head?)).getD ""

/-- A build server: what it lists, where it fails, and the calls it took. -/
structure CiState where
  queued : List QueuedBuild := []
  started : List StartedBuild := []
  lastStatus : BuildStatus := {}
  failStarts : Bool := false
  failCancels : Bool := false
  failStatus : Bool := false
  added : List AddedBuild := []
  cancelledQueued : List UInt64 := []
  stopped : List (String × UInt64) := []
  deriving DecidableEq, Repr, Inhabited

namespace CiState

/-- Take every queued build with an identifier out of the queue. -/
def cancelQueued (id : UInt64) (state : CiState) : Except Failure Unit × CiState :=
  if state.failCancels then (.error (.ci (.refused (.cancelQueued id))), state)
  else
    (.ok (),
      { state with
        queued := state.queued.filter (·.id ≠ id)
        cancelledQueued := state.cancelledQueued ++ [id] })

/-- A started build that no longer runs when it has a number. -/
def halt (number : UInt64) (build : StartedBuild) : StartedBuild :=
  if build.number = number then { build with building := false } else build

/-- Stop every started build with a number. -/
def stop (job : String) (number : UInt64) (state : CiState) : Except Failure Unit × CiState :=
  if state.failCancels then (.error (.ci (.refused (.stop job number))), state)
  else
    (.ok (),
      { state with
        started := state.started.map (halt number)
        stopped := state.stopped ++ [(job, number)] })

/-- Record a build that is asked for. -/
def start (job : String) (params : BuildParams) (state : CiState) :
    Except Failure Unit × CiState :=
  if state.failStarts then (.error (.ci (.refused (.start job))), state)
  else (.ok (), { state with added := state.added ++ [⟨job, params⟩] })

/-- How the last completed build ended. -/
def status (state : CiState) (job : String) : Except Failure BuildStatus :=
  if state.failStatus then .error (.ci (.refused (.status job))) else .ok state.lastStatus

end CiState

/-- Where a person can start a build by hand. -/
def manualLink (job : String) (params : BuildParams) : String :=
  let query := params.toList.map fun (name, values) => name ++ "=" ++ String.intercalate "," values
  "memory://" ++ job ++ "/buildWithParameters?" ++ String.intercalate "&" query

end ChangeGate.Memory
