import ChangeGate.Proofs.Round.Course
import ChangeGate.Proofs.SeenLog

/-!
# The log over a round

A round leaves the log as it was, or replaces it as a whole by the record of the open changes it
read. Which of the two is decided before anything is handled. A log that can be loaded stays one.
-/

namespace ChangeGate.Memory.LogFile

open ChangeGate.Review

/-- What the log leads to can be loaded as a record. A missing log is an empty one. -/
def Loadable (log : LogFile) : Prop :=
  ∃ seen, SeenLog.load log.read = .ok seen

/-- A log that was replaced holds what was written. -/
theorem replace_of_ok {log : LogFile} {content : ByteArray}
    (succeeds : (log.replace content).1 = .ok ()) : (log.replace content).2 = .file content := by
  cases log with
  | missing => rfl
  | file => rfl
  | locked => cases succeeds
  | folder => cases succeeds
  | barred => cases succeeds
  | unmade => cases succeeds
  | unusable => cases succeeds

/-- Replacing the log puts the content in its place, or leaves it alone, or makes a folder where a
failing write does. -/
theorem replace_cases (log : LogFile) (content : ByteArray) :
    (log.replace content).2 = .file content ∨ (log.replace content).2 = log ∨
      (log = .unmade ∧ (log.replace content).2 = .folder) := by
  cases log with
  | missing => exact Or.inl rfl
  | file => exact Or.inl rfl
  | locked => exact Or.inr (Or.inl rfl)
  | folder => exact Or.inr (Or.inl rfl)
  | barred => exact Or.inr (Or.inl rfl)
  | unmade => exact Or.inr (Or.inr ⟨rfl, rfl⟩)
  | unusable => exact Or.inr (Or.inl rfl)

end ChangeGate.Memory.LogFile

namespace ChangeGate.Round

open ChangeGate.Ci ChangeGate.Memory ChangeGate.Review ChangeGate.Service

/-- A file with the record of some open changes is loaded as that record. -/
theorem load_recordBytes (changes : List Change) :
    SeenLog.load (LogFile.file (recordBytes changes)).read = .ok (SeenLog.record changes) :=
  SeenLog.load_render (SeenLog.record changes)

section
variable (path : String) (settings : Settings) (seen : Patchsets) (changes : List Change)
  (world : World)

/-- How a round that compares goes on: the rejected sets, the groups, the record, and what may
land. -/
theorem observe_proceed_of_compares {settings : Settings} {seen : Patchsets}
    (compares : stopReason? settings seen = none) :
    let fresh := (Grouping.ofChanges changes).fresh seen
    let reported := observe (reportAllRejected (observed path) fresh.rejected) world
    let handled := observe (handleGroups settings (observed path) fresh.groups) reported.after
    let ended :=
      observe
        (saveThen (observed path) (SeenLog.record changes)
          (landThenFinish (observed path) changes handled.answer reported.answer))
        handled.after
    observe (proceed settings (observed path) seen changes) world =
      ⟨ended.answer, reported.calls ++ (handled.calls ++ ended.calls), ended.after⟩ := by
  rw [proceed_of_compares (observed path) changes compares]
  rfl

/-- Reporting and handling leave the log alone, and where the servers fail. -/
theorem handling_within_proceed (fresh : Grouping) :
    (handling True True).Within world
      (observe (handleGroups settings (observed path) fresh.groups)
        (observe (reportAllRejected (observed path) fresh.rejected) world).after).after :=
  (handling True True).trans (handling_governs_reportAllRejected fresh.rejected world).1
    (handling_governs_handleGroups settings fresh.groups _).1

/-- From the record on, a failure is one of writing, or one of what follows. -/
theorem saveThen_log (next : JournalT WorldM (Except Failure Report))
    (governed : landing.Governs next) :
    let written := world.log.replace (recordBytes changes)
    let done := observe (saveThen (observed path) (SeenLog.record changes) next) world
    done.after.log = written.2 ∧
      (∀ cause, written.1 = .error cause → done.answer = .error (.file cause)) ∧
      ∀ failure, done.answer = .error failure →
        (∃ cause, written.1 = .error cause ∧ failure = .file cause) ∨
          (written.1 = .ok () ∧
            (observe next { world with log := written.2 }).answer = .error failure) := by
  obtain ⟨⟨submits, events, after⟩, -⟩ := saveThen_within path changes next governed world
  refine ⟨by rw [after], ?_⟩
  simp only [observe_saveThen]
  cases (world.log.replace (recordBytes changes)).1 with
  | error cause =>
      constructor
      · intro other same
        rw [Except.error.inj same]
        rfl
      · intro failure failed
        exact Or.inl ⟨cause, rfl, (Except.error.inj failed).symm⟩
  | ok =>
      constructor
      · intro cause unwritten
        cases unwritten
      · intro failure failed
        exact Or.inr ⟨rfl, failed⟩

/-- Once the open changes are read, the log becomes what replacing it makes of it, whatever else
goes wrong. A failure is one of writing or of submitting. -/
theorem proceed_log :
    let written := world.log.replace (recordBytes changes)
    let done := observe (proceed settings (observed path) seen changes) world
    done.after.log = written.2 ∧
      (∀ cause, written.1 = .error cause → done.answer = .error (.file cause)) ∧
      ∀ failure, done.answer = .error failure →
        (∃ cause, written.1 = .error cause ∧ failure = .file cause) ∨
          (written.1 = .ok () ∧ ∃ group ∈ landable changes, ∃ reference ∈ group.references,
            world.review.failSubmitsTo.contains reference = true ∧
              failure = .review (.refused (.submit reference))) := by
  cases stops : stopReason? settings seen with
  | some reason =>
      obtain ⟨log, unwritten, failures⟩ :=
        saveThen_log path changes world (stop (observed path) reason) (landing_governs_stop reason)
      rw [proceed_of_stopReason (observed path) changes stops]
      refine ⟨log, unwritten, ?_⟩
      intro failure failed
      rcases failures failure failed with isWriting | ⟨-, stopped⟩
      · exact Or.inl isWriting
      · rw [answer_stop] at stopped
        cases stopped
  | none =>
      let fresh := (Grouping.ofChanges changes).fresh seen
      let reported := observe (reportAllRejected (observed path) fresh.rejected) world
      let handled := observe (handleGroups settings (observed path) fresh.groups) reported.after
      obtain ⟨posts, queued, started, added, cancelledQueued, halted, events, after⟩ :
          (handling True True).Within world handled.after :=
        handling_within_proceed path settings world fresh
      -- Handling comes first, but it leaves alone what decides on writing and submitting.
      have logKept : handled.after.log = world.log := by rw [after]
      have refusalsKept : handled.after.review.failSubmitsTo = world.review.failSubmitsTo := by
        rw [after]
      obtain ⟨log, unwritten, failures⟩ := saveThen_log path changes handled.after
        (landThenFinish (observed path) changes handled.answer reported.answer)
        (landing_governs_landThenFinish changes _ _)
      rw [logKept] at log unwritten failures
      rw [observe_proceed_of_compares path changes world stops]
      refine ⟨log, unwritten, ?_⟩
      intro failure failed
      rcases failures failure failed with isWriting | ⟨written, unlanded⟩
      · exact Or.inl isWriting
      · obtain ⟨group, member, reference, memberReference, refused, named⟩ :=
          landThenFinish_error changes _ _ _ unlanded
        simp only [refusalsKept] at refused
        exact Or.inr ⟨written, group, member, reference, memberReference, refused, named⟩

/-! ## The whole round -/

/-- A round leaves the log alone unless it read the open changes, and then it replaces it by their
record. -/
theorem log_after_run :
    (observe (run settings (observed path)) world).after.log =
      match reading settings world with
      | .snapshot _ changes => (world.log.replace (recordBytes changes)).2
      | _ => world.log := by
  rcases snapshot_or_endsEarly path settings world with ⟨seen, changes, read⟩ | ⟨noSnapshot, ends⟩
  · obtain ⟨opened, events, -, course⟩ := observe_run_of_snapshot path read
    obtain ⟨log, -, -⟩ := proceed_log path settings seen changes
      { world with review := (world.review.query settings.review.query).2, events }
    rw [course, read]
    exact log
  · obtain ⟨queries, events, after⟩ := ends.within
    rw [after]
    cases read : reading settings world with
    | snapshot seen changes => exact absurd read (noSnapshot seen changes)
    | _ => rfl

/-- A round keeps a log loadable. -/
theorem loadable_after_run (loadable : world.log.Loadable) (made : world.log ≠ .unmade) :
    (observe (run settings (observed path)) world).after.log.Loadable ∧
      (observe (run settings (observed path)) world).after.log ≠ .unmade := by
  rw [log_after_run]
  cases reading settings world with
  | snapshot seen changes =>
      dsimp only
      rcases LogFile.replace_cases world.log (recordBytes changes) with
        replaced | kept | ⟨unmade, -⟩
      · rw [replaced]
        exact ⟨⟨_, load_recordBytes changes⟩, by simp⟩
      · rw [kept]
        exact ⟨loadable, made⟩
      · exact absurd unmade made
  | red => exact ⟨loadable, made⟩
  | unreadable => exact ⟨loadable, made⟩
  | unanswered => exact ⟨loadable, made⟩

/-- What a round does to the log and what it does not do before, in all the ways it can go. -/
structure LogAtomic (done : Observation (Except Failure Report)) : Prop where
  /-- The round was observed as it runs. -/
  runs : (run settings (services path)).run world = (done.answer, done.after)
  /-- After a failed last build nothing is queried, posted, built, cancelled, submitted or
  written. -/
  red : Red settings world →
    done.answer = .ok { stopped := some .lastBuildFailed } ∧
      (∃ events, done.after = { world with events }) ∧ ∀ call ∈ done.calls, telling.Allows call
  /-- Neither is it when the log cannot be loaded. -/
  unreadable : ¬ Red settings world → ∀ failure, SeenLog.load world.log.read = .error failure →
    done.answer = .error failure ∧
      (∃ events, done.after = { world with events }) ∧ ∀ call ∈ done.calls, telling.Allows call
  /-- When the query fails, it is all that was sent. -/
  unanswered : ¬ Red settings world → ∀ seen failure, SeenLog.load world.log.read = .ok seen →
    (world.review.query settings.review.query).1 = .error failure →
    done.answer = .error failure ∧
      (∃ events,
        done.after =
          { world with
            review :=
              { world.review with
                queries := world.review.queries ++ [settings.review.query] }
            events }) ∧
      ∀ call ∈ done.calls, telling.Allows call ∨ call = .query settings.review.query
  /-- Otherwise, where the log can be written, it is the record of the open changes. -/
  recorded : ¬ Red settings world → ∀ seen changes, SeenLog.load world.log.read = .ok seen →
    (world.review.query settings.review.query).1 = .ok changes →
    (world.log.replace (recordBytes changes)).1 = .ok () →
    done.after.log = .file (recordBytes changes)
  /-- A round fails only in loading, querying, writing or submitting. When it fails in submitting,
  the new log is in place. -/
  failures : ∀ failure, done.answer = .error failure →
    SeenLog.load world.log.read = .error failure ∨
    (world.review.query settings.review.query).1 = .error failure ∨
    ∃ changes, (world.review.query settings.review.query).1 = .ok changes ∧
      ((∃ cause, (world.log.replace (recordBytes changes)).1 = .error cause ∧
          failure = .file cause) ∨
        (done.after.log = .file (recordBytes changes) ∧
          ∃ group ∈ landable changes, ∃ reference ∈ group.references,
            world.review.failSubmitsTo.contains reference = true ∧
              failure = .review (.refused (.submit reference))))

/-- Every round treats the log so. -/
theorem logAtomic_run :
    LogAtomic path settings world (observe (run settings (observed path)) world) where
  runs := run_eq_of_erasure (Simulation.run (erasure_serves_observed path) settings) world
  red red := observe_run_of_red path red
  unreadable running failure unreadable := observe_run_of_unreadable path running unreadable
  unanswered running seen failure loaded unanswered := by
    obtain ⟨answer, ⟨events, after⟩, allowed⟩ :=
      observe_run_of_unanswered path running loaded unanswered
    exact ⟨answer, ⟨events, after⟩, allowed⟩
  recorded running seen changes loaded answered written := by
    rw [log_after_run, reading_eq_snapshot running loaded answered]
    exact LogFile.replace_of_ok written
  failures failure failed := by
    by_cases red : Red settings world
    · rw [(observe_run_of_red path red).1] at failed
      cases failed
    cases loaded : SeenLog.load world.log.read with
    | error cause =>
        rw [(observe_run_of_unreadable path red loaded).1] at failed
        exact Or.inl (congrArg Except.error (Except.error.inj failed))
    | ok seen =>
        cases answered : (world.review.query settings.review.query).1 with
        | error cause =>
            rw [(observe_run_of_unanswered path red loaded answered).1] at failed
            exact Or.inr (Or.inl (congrArg Except.error (Except.error.inj failed)))
        | ok changes =>
            refine Or.inr (Or.inr ⟨changes, rfl, ?_⟩)
            have read := reading_eq_snapshot red loaded answered
            have log := log_after_run path settings world
            rw [read] at log
            obtain ⟨opened, events, -, course⟩ := observe_run_of_snapshot path read
            obtain ⟨-, -, failures⟩ := proceed_log path settings seen changes
              { world with review := (world.review.query settings.review.query).2, events }
            rw [course] at failed
            rcases failures failure failed with isWriting | ⟨written, isSubmitting⟩
            · exact Or.inl isWriting
            · exact Or.inr ⟨log.trans (LogFile.replace_of_ok written), isSubmitting⟩

end

end ChangeGate.Round
