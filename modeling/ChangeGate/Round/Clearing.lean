import ChangeGate.Ci.Stale
import ChangeGate.Service.Interface

/-!
# Clearing stale builds

Before a build is started, the queued and then the running builds that it makes stale are
cancelled, each on its own: a build whose refs cannot be read, or that cannot be cancelled,
leaves the others to be looked at. A build without refs is not one of ours.
-/

namespace ChangeGate.Round

open ChangeGate.Ci ChangeGate.Review ChangeGate.Service

/-- How many builds were cancelled, and what went wrong. -/
structure Cleared where
  cancelled : Nat := 0
  failures : List Failure := []
  deriving DecidableEq, Repr, Inhabited

/-- One clearing after another. -/
def Cleared.append (first second : Cleared) : Cleared :=
  ⟨first.cancelled + second.cancelled, first.failures ++ second.failures⟩

variable {m : Type → Type} [Monad m]

/-- Cancel one build if it is stale. -/
def clearBuild (services : Services m) (current : Patchsets) (place : BuildPlace)
    (refs : String) (cancel : m (Except Failure Unit)) : m Cleared := do
  if refs.isEmpty then pure {}
  else
    match isStale refs current with
    | .error cause => pure { failures := [.ref cause] }
    | .ok false => pure {}
    | .ok true =>
        match ← cancel with
        | .error failure => pure { failures := [failure] }
        | .ok () =>
            services.emit (.buildCancelled refs place)
            pure { cancelled := 1 }

/-- Cancel the stale ones among some queued builds. -/
def clearQueued (services : Services m) (current : Patchsets) : List QueuedBuild → m Cleared
  | [] => pure {}
  | build :: rest => do
      let first ←
        clearBuild services current .queue build.refs (services.ci.cancelQueued build.id)
      let others ← clearQueued services current rest
      pure (first.append others)

/-- Cancel the stale ones among some started builds of a job. -/
def clearStarted (services : Services m) (job : String) (current : Patchsets) :
    List StartedBuild → m Cleared
  | [] => pure {}
  | build :: rest => do
      let first ←
        clearBuild services current .running build.refs (services.ci.stop job build.number)
      let others ← clearStarted services job current rest
      pure (first.append others)

/-- Clear the queue. A queue that cannot be listed is a failure of its own. -/
def clearQueue (services : Services m) (job : String) (current : Patchsets) : m Cleared := do
  match ← services.ci.queued job with
  | .error failure => pure { failures := [failure] }
  | .ok builds => clearQueued services current builds

/-- Clear the builds that still run. -/
def clearRunning (services : Services m) (job : String) (current : Patchsets) : m Cleared := do
  match ← services.ci.started job with
  | .error failure => pure { failures := [failure] }
  | .ok builds => clearStarted services job current (builds.filter (·.building))

/-- Cancel the builds of a job that a group with these patchsets makes stale. -/
def clearStale (services : Services m) (job : String) (current : Patchsets) : m Cleared := do
  let queue ← clearQueue services job current
  let running ← clearRunning services job current
  pure (queue.append running)

end ChangeGate.Round
