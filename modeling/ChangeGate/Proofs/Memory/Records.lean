import ChangeGate.Memory.Session
import ChangeGate.Proofs.Memory.Review
import ChangeGate.Proofs.Round.Simulation

/-!
# What steps record

The calls and the events that a world keeps are a record that no program reads. A program does the
same whatever was recorded before it, and what it records itself is put behind that. So a step of a
session can be observed on its own, with everything before it forgotten.
-/

namespace ChangeGate.Memory

open ChangeGate.Ci ChangeGate.Review ChangeGate.Round ChangeGate.Service

/-! ## Worlds with an earlier record -/

/-- A review server with the calls that another one took before its own. -/
def ReviewState.recordedAfter (state earlier : ReviewState) : ReviewState :=
  { state with
    queries := earlier.queries ++ state.queries
    posts := earlier.posts ++ state.posts
    submits := earlier.submits ++ state.submits }

/-- A build server with the calls that another one took before its own. -/
def CiState.recordedAfter (state earlier : CiState) : CiState :=
  { state with
    added := earlier.added ++ state.added
    cancelledQueued := earlier.cancelledQueued ++ state.cancelledQueued
    stopped := earlier.stopped ++ state.stopped }

/-- A world with what another one recorded before its own record. -/
def World.recordedAfter (world earlier : World) : World where
  review := world.review.recordedAfter earlier.review
  ci := world.ci.recordedAfter earlier.ci
  log := world.log
  events := earlier.events ++ world.events

namespace ReviewState

variable (state earlier : ReviewState)

theorem query_recordedAfter (text : String) :
    (state.recordedAfter earlier).query text =
      ((state.query text).1, (state.query text).2.recordedAfter earlier) := by
  cases fails : state.failQueries <;> simp [query, recordedAfter, fails]

theorem post_recordedAfter (message : String) (verified : Bool) (references : List String) :
    (state.recordedAfter earlier).post message verified references =
      ((state.post message verified references).1,
        (state.post message verified references).2.recordedAfter earlier) := by
  simp [post_eq, recordedAfter, postsUpToRefusal, postRefusedBy?]

theorem submit_recordedAfter (references : List String) :
    (state.recordedAfter earlier).submit references =
      ((state.submit references).1, (state.submit references).2.recordedAfter earlier) := by
  rcases state.accepts_or_refused references with
    accepts | ⟨before, reference, after, rfl, accepts, refused⟩
  · have acceptsToo : (state.recordedAfter earlier).Accepts references := accepts
    rw [submit_of_accepts _ acceptsToo, submit_of_accepts _ accepts]
    simp [recordedAfter]
  · have acceptsToo : (state.recordedAfter earlier).Accepts before := accepts
    rw [submit_of_refused _ acceptsToo refused, submit_of_refused _ accepts refused]
    simp [recordedAfter]

end ReviewState

namespace CiState

variable (state earlier : CiState)

theorem cancelQueued_recordedAfter (id : UInt64) :
    (state.recordedAfter earlier).cancelQueued id =
      ((state.cancelQueued id).1, (state.cancelQueued id).2.recordedAfter earlier) := by
  cases fails : state.failCancels <;> simp [cancelQueued, recordedAfter, fails]

theorem stop_recordedAfter (job : String) (number : UInt64) :
    (state.recordedAfter earlier).stop job number =
      ((state.stop job number).1, (state.stop job number).2.recordedAfter earlier) := by
  cases fails : state.failCancels <;> simp [stop, recordedAfter, fails]

theorem start_recordedAfter (job : String) (params : BuildParams) :
    (state.recordedAfter earlier).start job params =
      ((state.start job params).1, (state.start job params).2.recordedAfter earlier) := by
  cases fails : state.failStarts <;> simp [start, recordedAfter, fails]

end CiState

/-! ## Programs -/

/-- A program that answers the same whatever was recorded before it, and records behind that. -/
def Appends {α : Type} (program : WorldM α) : Prop :=
  ∀ world earlier : World, program.run (world.recordedAfter earlier) =
    ((program.run world).1, (program.run world).2.recordedAfter earlier)

/-- Programs that are the same and only append to the record. -/
def appending : Simulation WorldM WorldM where
  Related program other := program = other ∧ Appends program
  related_pure _ := ⟨rfl, fun _ _ => rfl⟩
  related_bind := by
    rintro α β program other next otherNext ⟨rfl, first⟩ later
    refine ⟨congrArg _ (funext fun answer => (later answer).1), ?_⟩
    intro world earlier
    rw [StateT.run_bind, first world earlier, StateT.run_bind]
    exact (later _).2 _ earlier

/-- A call to the review server appends if it does so on that server alone. -/
theorem appends_review {α : Type} (call : ReviewState → α × ReviewState)
    (appends : ∀ state earlier, call (state.recordedAfter earlier) =
      ((call state).1, (call state).2.recordedAfter earlier)) :
    Appends fun world =>
      let (answer, review) := call world.review
      (answer, { world with review }) := by
  intro world earlier
  exact congrArg (fun (answer, review) =>
    (answer, ({ world.recordedAfter earlier with review } : World)))
    (appends world.review earlier.review)

/-- A call to the build server appends if it does so on that server alone. -/
theorem appends_ci {α : Type} (call : CiState → α × CiState)
    (appends : ∀ state earlier, call (state.recordedAfter earlier) =
      ((call state).1, (call state).2.recordedAfter earlier)) :
    Appends fun world =>
      let (answer, ci) := call world.ci
      (answer, { world with ci }) := by
  intro world earlier
  exact congrArg (fun (answer, ci) => (answer, ({ world.recordedAfter earlier with ci } : World)))
    (appends world.ci earlier.ci)

theorem appends_emit (path : String) (event : Event) : Appends ((services path).emit event) := by
  intro world earlier
  have behind : earlier.events ++ world.events ++ [event] =
      earlier.events ++ (world.events ++ [event]) := List.append_assoc ..
  exact congrArg (fun events => ((), { world.recordedAfter earlier with events })) behind

/-- Every call to a world appends to its record. -/
theorem appending_serves (path : String) : appending.Serves (services path) (services path) where
  query text := ⟨rfl, appends_review (·.query text) (·.query_recordedAfter · text)⟩
  post message references verified :=
    ⟨rfl, appends_review (·.post message verified references)
      (·.post_recordedAfter · message verified references)⟩
  submit references :=
    ⟨rfl, appends_review (·.submit references) (·.submit_recordedAfter · references)⟩
  queued _ := ⟨rfl, fun _ _ => rfl⟩
  started _ := ⟨rfl, fun _ _ => rfl⟩
  cancelQueued id := ⟨rfl, appends_ci (·.cancelQueued id) (·.cancelQueued_recordedAfter · id)⟩
  stop job number := ⟨rfl, appends_ci (·.stop job number) (·.stop_recordedAfter · job number)⟩
  start job params := ⟨rfl, appends_ci (·.start job params) (·.start_recordedAfter · job params)⟩
  lastStatus _ := ⟨rfl, fun _ _ => rfl⟩
  manualLink _ _ := rfl
  logPath := rfl
  read := ⟨rfl, fun _ _ => rfl⟩
  replace _ := ⟨rfl, fun _ _ => rfl⟩
  emit event := ⟨rfl, appends_emit path event⟩

/-- What is made of an answer changes nothing about the record. -/
theorem Appends.map {α β : Type} {program : WorldM α} (appends : Appends program) (f : α → β) :
    Appends (f <$> program) := by
  intro world earlier
  rw [StateT.run_map, appends world earlier, StateT.run_map]
  rfl

namespace Session

/-- Every step appends to the record. -/
theorem appends_compute (session : Session) (step : Step) : Appends (session.compute step) := by
  have serves := appending_serves session.settings.gate.logFile
  cases step with
  | writeLog | removeLog | obstructLog => exact fun _ _ => rfl
  | load => exact (Simulation.loadSeen serves).2.map _
  | saveChanges changes => exact (Simulation.saveSeen serves _).2.map _
  | saveSeen seen => exact (Simulation.saveSeen serves seen).2.map _
  | run => exact (Simulation.run serves session.settings).2.map _
  | handle groups => exact (Simulation.handleGroups serves session.settings groups).2.map _
  | clear current => exact (Simulation.clearStale serves session.settings.ci.job current).2.map _
  | reportRejected changes => exact (Simulation.reportAllRejected serves _).2.map _
  | land changes => exact (Simulation.landAll serves _).2.map _

/-- A session is what it forgets, before what is left. -/
theorem recordedAfter_forget (session : Session) :
    session.forget.world.recordedAfter session.world = session.world := by
  simp [forget, World.recordedAfter, ReviewState.recordedAfter, CiState.recordedAfter]

/-- A step does what it does when all records are forgotten, behind them. -/
theorem step_eq_of_forget (session : Session) (step : Step) :
    session.step step =
      ((session.forget.step step).1,
        { session with
          world := (session.forget.step step).2.world.recordedAfter session.world }) := by
  have appends := session.appends_compute step session.forget.world session.world
  rw [session.recordedAfter_forget] at appends
  rw [Session.step, appends]
  rfl

end Session

end ChangeGate.Memory
