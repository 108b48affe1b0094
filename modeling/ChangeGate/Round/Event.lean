import ChangeGate.Failure

/-!
# Events of a round

What a round makes known while it runs, in order. Every event has a name under which it can be
found, and a failure that does not end the round is an event too.
-/

namespace ChangeGate.Round

/-- Why a round stopped before it compared anything. -/
inductive StopReason where
  | lastBuildFailed
  | noCiHost
  | noSeenRefs
  deriving DecidableEq, Repr, Inhabited

/-- The wording of a stop reason. -/
def StopReason.text : StopReason → String
  | .lastBuildFailed => "last completed build failed"
  | .noCiHost => "no CI host configured"
  | .noSeenRefs => "no previous refs"

/-- What a round tried to do when something failed that does not end it. -/
inductive Attempt where
  | readStatus
  | reportRejected
  | acknowledge
  | postLink
  | cancelStale
  | startBuild
  deriving DecidableEq, Repr, Inhabited

/-- The wording of an attempt. -/
def Attempt.text : Attempt → String
  | .readStatus => "last completed build status"
  | .reportRejected => "post multi-part error"
  | .acknowledge => "acknowledge skipped group"
  | .postLink => "post manual-trigger link"
  | .cancelStale => "cancel outdated build"
  | .startBuild => "add presubmit build"

/-- How the handling of a group ended, in short. -/
inductive GroupState where
  | dispatched
  | skipped
  | errored
  deriving DecidableEq, Repr, Inhabited

/-- The wording of a group state. -/
def GroupState.text : GroupState → String
  | .dispatched => "dispatched"
  | .skipped => "skipped"
  | .errored => "errored"

/-- Where a cancelled build was. -/
inductive BuildPlace where
  | queue
  | running
  deriving DecidableEq, Repr, Inhabited

/-- The wording of a build place. -/
def BuildPlace.text : BuildPlace → String
  | .queue => "queued"
  | .running => "ongoing"

/-- Something a round makes known. -/
inductive Event where
  | runStarted (query logFile : String)
  | runSkipped (reason : StopReason)
  | groupOutcome (group : String) (state : GroupState)
  | buildCancelled (refs : String) (place : BuildPlace)
  | groupSubmitted (group : String)
  | runFinished (sent skipped errored submitted : Nat)
  | recoverableError (attempt : Attempt) (failure : Failure)
  deriving DecidableEq, Repr, Inhabited

/-- The name of an event. -/
def Event.name : Event → String
  | .runStarted .. => "run.started"
  | .runSkipped _ => "run.skipped"
  | .groupOutcome .. => "group.outcome"
  | .buildCancelled .. => "build.cancelled"
  | .groupSubmitted _ => "group.submitted"
  | .runFinished .. => "run.finished"
  | .recoverableError .. => "run.recoverable_error"

/-- What an event tells. -/
inductive Detail where
  | text (value : String)
  | count (value : Nat)
  deriving DecidableEq, Repr, Inhabited

/-- The details of an event, each under its name. -/
def Event.details : Event → List (String × Detail)
  | .runStarted query logFile => [("query", .text query), ("log_file", .text logFile)]
  | .runSkipped reason => [("reason", .text reason.text)]
  | .groupOutcome group state => [("group", .text group), ("outcome", .text state.text)]
  | .buildCancelled refs place => [("refs", .text refs), ("kind", .text place.text)]
  | .groupSubmitted group => [("group", .text group)]
  | .runFinished sent skipped errored submitted =>
      [("sent", .count sent), ("skipped", .count skipped), ("errored", .count errored),
        ("submitted", .count submitted)]
  | .recoverableError attempt failure =>
      [("context", .text attempt.text), ("error", .text failure.message)]

/-- The names of the fields that an event has in the log. -/
def Event.fieldNames (event : Event) : List String :=
  let timing := match event with
    | .runFinished .. => ["duration_ms"]
    | _ => []
  "event" :: timing ++ event.details.map (·.1)

/-- Events that warn, unlike those that inform. -/
def Event.isWarning : Event → Bool
  | .recoverableError .. => true
  | _ => false

end ChangeGate.Round
