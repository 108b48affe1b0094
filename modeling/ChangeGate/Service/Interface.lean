import ChangeGate.Ci.Build
import ChangeGate.Failure
import ChangeGate.Review.Change
import ChangeGate.Round.Event
import ChangeGate.SeenLog

/-!
# The services of a round

A round talks to a review server, a build server and the log of refs seen, and it reports what
it does as events. It is written for any implementation of these services in any monad.
-/

namespace ChangeGate.Service

open ChangeGate.Ci ChangeGate.Review ChangeGate.Round

/-- A review server. -/
structure ReviewServer (m : Type → Type) where
  /-- The open changes that a query selects. -/
  query : String → m (Except Failure (List Change))
  /-- Post a message on each of some refs, with or without the vote that they are verified. -/
  post : (message : String) → (references : List String) → (verified : Bool) →
    m (Except Failure Unit)
  /-- Submit each of some refs, in order, up to the first failure. -/
  submit : List String → m (Except Failure Unit)

/-- A build server. -/
structure CiServer (m : Type → Type) where
  /-- The queued builds of a job. -/
  queued : String → m (Except Failure (List QueuedBuild))
  /-- The started builds of a job. -/
  started : String → m (Except Failure (List StartedBuild))
  /-- Take a build out of the queue. -/
  cancelQueued : UInt64 → m (Except Failure Unit)
  /-- Stop a started build of a job. -/
  stop : String → UInt64 → m (Except Failure Unit)
  /-- Queue a build of a job. -/
  start : String → BuildParams → m (Except Failure Unit)
  /-- How the last completed build of a job ended. -/
  lastStatus : String → m (Except Failure BuildStatus)
  /-- Where a person can start a build of a job by hand. -/
  manualLink : String → BuildParams → String

/-- The file that holds the log of refs seen. -/
structure LogStore (m : Type → Type) where
  path : String
  read : m (Except FileError ByteArray)
  /-- Replace the file as a whole, or leave it as it is. -/
  replace : ByteArray → m (Except FileError Unit)

/-- Everything a round talks to. -/
structure Services (m : Type → Type) where
  review : ReviewServer m
  ci : CiServer m
  log : LogStore m
  emit : Event → m Unit

variable {m : Type → Type} [Monad m]

/-- The record that the log holds. -/
def Services.loadSeen (services : Services m) : m (Except Failure Patchsets) := do
  pure (SeenLog.load (← services.log.read))

/-- Replace the log by the record of some changes. -/
def Services.saveSeen (services : Services m) (seen : Patchsets) : m (Except Failure Unit) := do
  match ← services.log.replace (SeenLog.render seen).toUTF8 with
  | .ok () => pure (.ok ())
  | .error cause => pure (.error (.file cause))

end ChangeGate.Service
