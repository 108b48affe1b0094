import ChangeGate.Memory.Ci
import ChangeGate.Memory.LogFile
import ChangeGate.Memory.Review
import ChangeGate.Service.Interface

/-!
# A world in memory

Both servers, the log and the events of a round as one value, and the services over it.
-/

namespace ChangeGate.Memory

open ChangeGate.Ci ChangeGate.Review ChangeGate.Round ChangeGate.Service

/-- Both servers, the log, and the events made known so far. -/
structure World where
  review : ReviewState := {}
  ci : CiState := {}
  log : LogFile := .missing
  events : List Event := []
  deriving DecidableEq, Inhabited

/-- A computation that may change the world. -/
abbrev WorldM := StateM World

/-- The review server of the world. -/
def reviewServer : ReviewServer WorldM where
  query text := fun world =>
    let (answer, review) := world.review.query text
    (answer, { world with review })
  post message references verified := fun world =>
    let (answer, review) := world.review.post message verified references
    (answer, { world with review })
  submit references := fun world =>
    let (answer, review) := world.review.submit references
    (answer, { world with review })

/-- The build server of the world. -/
def ciServer : CiServer WorldM where
  queued _ := fun world => (.ok world.ci.queued, world)
  started _ := fun world => (.ok world.ci.started, world)
  cancelQueued id := fun world =>
    let (answer, ci) := world.ci.cancelQueued id
    (answer, { world with ci })
  stop job number := fun world =>
    let (answer, ci) := world.ci.stop job number
    (answer, { world with ci })
  start job params := fun world =>
    let (answer, ci) := world.ci.start job params
    (answer, { world with ci })
  lastStatus job := fun world => (world.ci.status job, world)
  manualLink := manualLink

/-- The log of the world under a path. -/
def logStore (path : String) : LogStore WorldM where
  path := path
  read := fun world => (world.log.read, world)
  replace content := fun world =>
    let (answer, log) := world.log.replace content
    (answer, { world with log })

/-- The services of the world. -/
def services (path : String) : Services WorldM where
  review := reviewServer
  ci := ciServer
  log := logStore path
  emit event := fun world => ((), { world with events := world.events ++ [event] })

end ChangeGate.Memory
