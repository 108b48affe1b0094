import ChangeGate.Memory.World
import ChangeGate.Round.Run

/-!
# Sessions

A sequence of steps on one world: steps that set up what the servers list and where they fail,
steps that touch the log from outside, and steps that run a round or a part of one. After a step
one can observe what was recorded since the last observation.
-/

namespace ChangeGate.Memory

open ChangeGate.Ci ChangeGate.Review ChangeGate.Round ChangeGate.Service

/-- The settings in force and the world. -/
structure Session where
  settings : Settings := {}
  world : World := {}
  deriving DecidableEq, Inhabited

/-- A step that sets something up and has no answer of its own. -/
inductive Setup where
  | settings (settings : Settings)
  | changes (changes : List Change)
  | failQueries (on : Bool)
  | failStarts (on : Bool)
  | failCancels (on : Bool)
  | failStatus (on : Bool)
  | failPostsTo (reference : String)
  | failSubmitsTo (reference : String)
  | queued (builds : List QueuedBuild)
  | started (builds : List StartedBuild)
  | lastStatus (status : BuildStatus)
  deriving DecidableEq

/-- A step with an answer. -/
inductive Step where
  /-- Someone else writes the log. -/
  | writeLog (content : ByteArray)
  /-- Someone else removes the log. -/
  | removeLog
  /-- Someone else puts a directory in the place of the log. -/
  | obstructLog
  | load
  | saveChanges (changes : List Change)
  | saveSeen (seen : Patchsets)
  | run
  | handle (groups : List Group)
  | clear (current : Patchsets)
  | reportRejected (changes : List Change)
  | land (changes : List Change)
  deriving DecidableEq

/-- The answer of a step. -/
inductive Answer where
  | seen (result : Except Failure Patchsets)
  | done (result : Except Failure Unit)
  | report (result : Except Failure Report)
  | handled (reports : List GroupReport)
  | cleared (result : Cleared)
  | posted (count : Nat)
  | landed (result : Except Failure Nat)

namespace Session

/-- The services of a session. -/
def services (session : Session) : Services WorldM :=
  Memory.services session.settings.gate.logFile

/-- Set something up. -/
def setUp (session : Session) (setup : Setup) : Session :=
  let ⟨settings, world⟩ := session
  let { review, ci, .. } := world
  let withReview (review : ReviewState) : Session := ⟨settings, { world with review }⟩
  let withCi (ci : CiState) : Session := ⟨settings, { world with ci }⟩
  match setup with
  | .settings settings => ⟨settings, world⟩
  | .changes changes => withReview { review with changes }
  | .failQueries on => withReview { review with failQueries := on }
  | .failPostsTo reference =>
      withReview { review with failPostsTo := review.failPostsTo ++ [reference] }
  | .failSubmitsTo reference =>
      withReview { review with failSubmitsTo := review.failSubmitsTo ++ [reference] }
  | .failStarts on => withCi { ci with failStarts := on }
  | .failCancels on => withCi { ci with failCancels := on }
  | .failStatus on => withCi { ci with failStatus := on }
  | .queued builds => withCi { ci with queued := builds }
  | .started builds => withCi { ci with started := builds }
  | .lastStatus status => withCi { ci with lastStatus := status }

/-- The computation of a step. -/
def compute (session : Session) : Step → WorldM Answer
  | .writeLog content => fun world =>
      (.done (.ok ()), { world with log := world.log.put (.file content) })
  | .removeLog => fun world => (.done (.ok ()), { world with log := world.log.put .missing })
  | .obstructLog => fun world => (.done (.ok ()), { world with log := world.log.put .folder })
  | .load => .seen <$> session.services.loadSeen
  | .saveChanges changes => .done <$> session.services.saveSeen (SeenLog.record changes)
  | .saveSeen seen => .done <$> session.services.saveSeen seen
  | .run => .report <$> Round.run session.settings session.services
  | .handle groups => .handled <$> handleGroups session.settings session.services groups
  | .clear current => .cleared <$> clearStale session.services session.settings.ci.job current
  | .reportRejected changes =>
      .posted <$> reportAllRejected session.services (Grouping.ofChanges changes).rejected
  | .land changes => .landed <$> landAll session.services (landable changes)

/-- Take a step. -/
def step (session : Session) (step : Step) : Answer × Session :=
  let (answer, world) := (session.compute step).run session.world
  (answer, { session with world })

/-- The session after its records were observed. -/
def forget (session : Session) : Session :=
  let { review, ci, log, .. } := session.world
  let review := { review with queries := [], posts := [], submits := [] }
  let ci := { ci with added := [], cancelledQueued := [], stopped := [] }
  { session with world := { review, ci, log, events := [] } }

end Session

end ChangeGate.Memory
