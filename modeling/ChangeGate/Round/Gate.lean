import ChangeGate.Round.Clearing
import ChangeGate.Round.Report
import ChangeGate.Round.Verdict

/-!
# The gate

Carrying out the verdict on each group. What fails stays in its group: the gate goes on with
the next one.
-/

namespace ChangeGate.Round

open ChangeGate.Ci ChangeGate.Review ChangeGate.Service ChangeGate.Text

/-- What is posted on a group that asks for no tests. -/
def optedOutMessage : String := "Presubmit tests skipped.\n"

/-- What is posted on a group without tests. -/
def noTestsMessage : String := "No tests found.\n"

/-- What is posted on a group that needs a person to start the build. -/
def manualMessage (link : String) : String :=
  "A team member will manually trigger presubmit tests for this change:\n" ++ link ++ "\n"

/-- What is posted on the change that a rejected set is reported on. -/
def rejectedMessage (rejected : RejectedSet) : String :=
  "failed to process multi-part CL " ++ rejected.change.reference ++ ":\n"
    ++ rejected.issue.message ++ "\n"

variable {m : Type → Type} [Monad m]

/-- The outcome of an attempt that failed, which is also made known. -/
def failAttempt (services : Services m) (attempt : Attempt) (failure : Failure) : m Outcome := do
  services.emit (.recoverableError attempt failure)
  pure (.errored attempt failure)

/-- Skip a group with a message on each of its refs. -/
def skipWithPost (services : Services m) (group : Group) (message : String) (verified : Bool)
    (attempt : Attempt) (reason : SkipReason) : m Outcome := do
  match ← services.review.post message group.references verified with
  | .ok () => pure (.skipped reason)
  | .error failure => failAttempt services attempt failure

/-- Make known what went wrong while clearing. -/
def emitFailures (services : Services m) : List Failure → m Unit
  | [] => pure ()
  | failure :: rest => do
      services.emit (.recoverableError .cancelStale failure)
      emitFailures services rest

/-- Clear the way for a build and start it. -/
def startBuild (services : Services m) (job : String) (group : Group) (params : BuildParams)
    (tests : List String) : m Outcome := do
  let cleared ← clearStale services job group.patchsets
  emitFailures services cleared.failures
  match ← services.ci.start job params with
  | .ok () => pure (.dispatched tests)
  | .error failure => failAttempt services .startBuild failure

/-- Carry out the verdict on a group. -/
def carryOut (services : Services m) (job : String) (group : Group) : Verdict → m Outcome
  | .empty => pure (.skipped .emptyGroup)
  | .optedOut => skipWithPost services group optedOutMessage true .acknowledge .optedOut
  | .noTests => skipWithPost services group noTestsMessage true .acknowledge .noTests
  | .askPerson params =>
      skipWithPost services group (manualMessage (services.ci.manualLink job params)) false
        .postLink .untrustedOwner
  | .build params tests => startBuild services job group params tests

/-- Handle one group and report on it. -/
def handleGroup (settings : Settings) (services : Services m) (group : Group) :
    m GroupReport := do
  let group := considered settings group
  let outcome ← carryOut services settings.ci.job group (verdict settings group)
  services.emit (.groupOutcome group.label outcome.state)
  pure ⟨group.label, group.members.length, outcome⟩

/-- Handle some groups in order. -/
def handleGroups (settings : Settings) (services : Services m) :
    List Group → m (List GroupReport)
  | [] => pure []
  | group :: rest => do
      let report ← handleGroup settings services group
      let reports ← handleGroups settings services rest
      pure (report :: reports)

/-- Report a rejected set on its change; whether the post succeeded. -/
def reportRejected (services : Services m) (rejected : RejectedSet) : m Bool := do
  match ← services.review.post (rejectedMessage rejected) [rejected.change.reference] false with
  | .ok () => pure true
  | .error failure =>
      services.emit (.recoverableError .reportRejected failure)
      pure false

/-- Report some rejected sets in order; how many posts succeeded. -/
def reportAllRejected (services : Services m) : List RejectedSet → m Nat
  | [] => pure 0
  | rejected :: rest => do
      let posted ← reportRejected services rejected
      let others ← reportAllRejected services rest
      pure (if posted then others + 1 else others)

end ChangeGate.Round
