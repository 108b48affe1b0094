import ChangeGate.Review.Fresh
import ChangeGate.Review.Landing
import ChangeGate.Round.Gate

/-!
# A round

A round compares the open changes with what the last round saw, hands what is new to the gate,
records what it saw, and lands what may land. It stops early when the last build failed, when
there is no build server, or when there is no record to compare with. Nothing is recorded after
a failed last build, nor when the record or the open changes cannot be read.
-/

namespace ChangeGate.Round

open ChangeGate.Ci ChangeGate.Review ChangeGate.Service

variable {m : Type → Type} [Monad m]

/-- Submit some groups in order, up to the first failure; how many changes were submitted. -/
def landAll (services : Services m) : List Group → m (Except Failure Nat)
  | [] => pure (.ok 0)
  | group :: rest => do
      match ← services.review.submit group.references with
      | .error failure => pure (.error failure)
      | .ok () =>
          services.emit (.groupSubmitted group.label)
          match ← landAll services rest with
          | .error failure => pure (.error failure)
          | .ok others => pure (.ok (group.members.length + others))

/-- End a round with a report. -/
def finish (services : Services m) (report : Report) : m (Except Failure Report) := do
  services.emit report.finishedEvent
  pure (.ok report)

/-- End a round early. -/
def stop (services : Services m) (reason : StopReason) : m (Except Failure Report) := do
  services.emit (.runSkipped reason)
  finish services { stopped := some reason }

/-- Whether the last completed build failed. A status that cannot be read counts as no
failure. -/
def lastBuildFailed (settings : Settings) (services : Services m) : m Bool := do
  if settings.dispatchEnabled then
    match ← services.ci.lastStatus settings.ci.job with
    | .ok status => pure status.isFailure
    | .error failure =>
        services.emit (.recoverableError .readStatus failure)
        pure false
  else
    pure false

/-- Why a round with a record and a build server, or without them, ends before comparing. -/
def stopReason? (settings : Settings) (seen : Patchsets) : Option StopReason :=
  if !settings.dispatchEnabled then some .noCiHost
  else if seen.isEmpty then some .noSeenRefs
  else none

/-- Handle what is new among the open changes, record them, and land what may land. -/
def handleChanges (settings : Settings) (services : Services m) (seen : Patchsets)
    (changes : List Change) : m (Except Failure Report) := do
  let fresh := (Grouping.ofChanges changes).fresh seen
  let reportedSets ← reportAllRejected services fresh.rejected
  let groups ← handleGroups settings services fresh.groups
  match ← services.saveSeen (SeenLog.record changes) with
  | .error failure => pure (.error failure)
  | .ok () =>
      match ← landAll services (landable changes) with
      | .error failure => pure (.error failure)
      | .ok submitted => finish services { groups, submitted, reportedSets }

/-- Go on with the open changes after the record was read. -/
def proceed (settings : Settings) (services : Services m) (seen : Patchsets)
    (changes : List Change) : m (Except Failure Report) := do
  match stopReason? settings seen with
  | none => handleChanges settings services seen changes
  | some reason =>
      match ← services.saveSeen (SeenLog.record changes) with
      | .error failure => pure (.error failure)
      | .ok () => stop services reason

/-- Read the record and the open changes, and go on with them. -/
def compareWithSeen (settings : Settings) (services : Services m) :
    m (Except Failure Report) := do
  match ← services.loadSeen with
  | .error failure => pure (.error failure)
  | .ok seen =>
      match ← services.review.query settings.review.query with
      | .error failure => pure (.error failure)
      | .ok changes => proceed settings services seen changes

/-- Run one round. -/
def run (settings : Settings) (services : Services m) : m (Except Failure Report) := do
  services.emit (.runStarted settings.review.query services.log.path)
  if ← lastBuildFailed settings services then
    stop services .lastBuildFailed
  else
    compareWithSeen settings services

end ChangeGate.Round
