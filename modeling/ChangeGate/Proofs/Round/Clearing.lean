import ChangeGate.Proofs.Memory.Observation

/-!
# What clearing may do

Clearing the way for a build lists and cancels builds of one job and makes known what it did. It
touches the queue and the running builds and nothing else, and it posts, starts and submits
nothing.
-/

namespace ChangeGate.Round

open ChangeGate.Ci ChangeGate.Memory ChangeGate.Review ChangeGate.Service

/-- Clearing builds of a job: only the queue, the running builds, what was cancelled and the
events change. -/
def clearing (job : String) : Discipline where
  Within before after := ∃ queued started cancelledQueued stopped events,
    after =
      { before with
        ci := { before.ci with queued, started, cancelledQueued, stopped }
        events }
  Allows
    | .queued listed => listed = job
    | .started listed => listed = job
    | .cancelQueued _ => True
    | .stop stoppedIn _ => stoppedIn = job
    | .emit (.buildCancelled ..) => True
    | .emit (.recoverableError .cancelStale _) => True
    | _ => False
  refl _ := ⟨_, _, _, _, _, rfl⟩
  trans := by
    rintro first second third ⟨_, _, _, _, _, rfl⟩ ⟨_, _, _, _, _, rfl⟩
    exact ⟨_, _, _, _, _, rfl⟩

variable {path job : String}

theorem clearing_governs_emit {event : Event} (allowed : (clearing job).Allows (.emit event)) :
    (clearing job).Governs ((observed path).emit event) :=
  Discipline.governs_call allowed (fun _ => rfl) fun _ => ⟨_, _, _, _, _, rfl⟩

theorem clearing_governs_cancelQueued (id : UInt64) :
    (clearing job).Governs ((observed path).ci.cancelQueued id) := by
  have allowed : (clearing job).Allows (.cancelQueued id) := trivial
  apply Discipline.governs_call allowed (fun _ => rfl)
  intro world
  rw [observe_cancelQueued, CiState.cancelQueued]
  split
  · exact (clearing job).refl world
  · exact ⟨_, _, _, _, _, rfl⟩

theorem clearing_governs_stop (number : UInt64) :
    (clearing job).Governs ((observed path).ci.stop job number) := by
  have allowed : (clearing job).Allows (.stop job number) := rfl
  apply Discipline.governs_call allowed (fun _ => rfl)
  intro world
  rw [observe_stop, CiState.stop]
  split
  · exact (clearing job).refl world
  · exact ⟨_, _, _, _, _, rfl⟩

theorem clearing_governs_clearBuild (current : Patchsets) (place : BuildPlace) (refs : String)
    {cancel : JournalT WorldM (Except Failure Unit)} (cancels : (clearing job).Governs cancel) :
    (clearing job).Governs (clearBuild (observed path) current place refs cancel) := by
  simp only [clearBuild]
  split
  · exact Discipline.governs_pure _
  · split
    · exact Discipline.governs_pure _
    · exact Discipline.governs_pure _
    · apply Discipline.governs_bind cancels
      intro answer
      cases answer with
      | error failure => exact Discipline.governs_pure _
      | ok =>
          have told : (clearing job).Allows (.emit (.buildCancelled refs place)) := trivial
          apply Discipline.governs_bind (clearing_governs_emit told)
          intro _
          exact Discipline.governs_pure _

theorem clearing_governs_clearEach {Build : Type} (current : Patchsets) (place : BuildPlace)
    (refs : Build → String) {cancel : Build → JournalT WorldM (Except Failure Unit)}
    (cancels : ∀ build, (clearing job).Governs (cancel build)) (builds : List Build) :
    (clearing job).Governs (clearEach (observed path) current place refs cancel builds) := by
  induction builds with
  | nil => exact Discipline.governs_pure _
  | cons build rest inductionHypothesis =>
      apply Discipline.governs_bind
        (clearing_governs_clearBuild current _ _ (cancels build))
      intro first
      exact Discipline.governs_bind inductionHypothesis fun _ => Discipline.governs_pure _

theorem clearing_governs_clearQueued (current : Patchsets) (builds : List QueuedBuild) :
    (clearing job).Governs (clearQueued (observed path) current builds) := by
  rw [clearQueued_eq]
  exact clearing_governs_clearEach current _ _
    (fun build => clearing_governs_cancelQueued build.id) builds

theorem clearing_governs_clearStarted (current : Patchsets) (builds : List StartedBuild) :
    (clearing job).Governs (clearStarted (observed path) job current builds) := by
  rw [clearStarted_eq]
  exact clearing_governs_clearEach current _ _
    (fun build => clearing_governs_stop build.number) builds

theorem clearing_governs_clearQueue (current : Patchsets) :
    (clearing job).Governs (clearQueue (observed path) job current) := by
  have allowed : (clearing job).Allows (.queued job) := rfl
  have lists : (clearing job).Governs ((observed path).ci.queued job) :=
    Discipline.governs_call allowed (fun _ => rfl) (clearing job).refl
  apply Discipline.governs_bind lists
  intro answer
  cases answer with
  | error failure => exact Discipline.governs_pure _
  | ok builds => exact clearing_governs_clearQueued current builds

theorem clearing_governs_clearRunning (current : Patchsets) :
    (clearing job).Governs (clearRunning (observed path) job current) := by
  have allowed : (clearing job).Allows (.started job) := rfl
  have lists : (clearing job).Governs ((observed path).ci.started job) :=
    Discipline.governs_call allowed (fun _ => rfl) (clearing job).refl
  apply Discipline.governs_bind lists
  intro answer
  cases answer with
  | error failure => exact Discipline.governs_pure _
  | ok builds => exact clearing_governs_clearStarted current _

variable (path job) in
/-- Clearing keeps to the queue and the running builds of its job. -/
theorem clearing_governs_clearStale (current : Patchsets) :
    (clearing job).Governs (clearStale (observed path) job current) := by
  apply Discipline.governs_bind (clearing_governs_clearQueue current)
  intro queue
  exact Discipline.governs_bind (clearing_governs_clearRunning current) fun _ =>
    Discipline.governs_pure _

end ChangeGate.Round
