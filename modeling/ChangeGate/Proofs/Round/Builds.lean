import ChangeGate.Proofs.Round.Handover
import ChangeGate.Proofs.Round.Independence

/-!
# The builds of a round

However a round goes, it works on builds only where it handles the groups that it hands over, one
after another. Reporting rejected sets, writing the log and landing leave the build server alone.
What the servers list and where they fail is the same after a round as before it.
-/

namespace ChangeGate.Round

open ChangeGate.Ci ChangeGate.Memory ChangeGate.Review ChangeGate.Service

variable (path : String)

theorem ci_reportAllRejected (rejected : List RejectedSet) (world : World) :
    (observe (reportAllRejected (observed path) rejected) world).after.ci = world.ci := by
  induction rejected generalizing world with
  | nil => rfl
  | cons first rest inductionHypothesis =>
      have one : (observe (reportRejected (observed path) first) world).after.ci = world.ci := by
        rw [reportRejected, observe_bind, observe_post]
        cases (world.review.post (rejectedMessage first) false [first.change.reference]).1 with
        | ok => rfl
        | error failure => rfl
      rw [reportAllRejected]
      simp only [observe_bind, observe_pure, inductionHypothesis, one]

/-- The groups are handled as if no rejected set had been reported before. -/
theorem handleGroups_after_reports (settings : Settings) (fresh : Grouping) (world : World) :
    let reported := observe (reportAllRejected (observed path) fresh.rejected) world
    let handled := observe (handleGroups settings (observed path) fresh.groups) reported.after
    handled.answer = fresh.groups.map (reportOn settings world) ∧
      handled.after.ci = fresh.groups.foldl (ciAfter settings) world.ci := by
  intro reported handled
  obtain ⟨reports, ci⟩ := handleGroups_eq settings path reported.after fresh.groups
  obtain ⟨posts, queued, started, added, cancelledQueued, stopped, events, after⟩ :
      (handling True True).Within world reported.after :=
    (handling_governs_reportAllRejected fresh.rejected world).1
  have alike (group : Group) :
      reportOn settings reported.after group = reportOn settings world group :=
    reportOn_congr settings (by rw [after]) (by rw [after]) group
  rw [ci_reportAllRejected path] at ci
  exact ⟨reports.trans (List.map_congr_left fun group _ => alike group), ci⟩

theorem ci_saveThen (changes : List Change) {next : JournalT WorldM (Except Failure Report)}
    (governed : landing.Governs next) (world : World) :
    (observe (saveThen (observed path) (SeenLog.record changes) next) world).after.ci =
      world.ci := by
  obtain ⟨⟨submits, events, after⟩, -⟩ := saveThen_within path changes next governed world
  rw [after]

variable (settings : Settings) (seen : Patchsets) (changes : List Change) (world : World)

theorem ci_proceed_of_stopReason {reason : StopReason}
    (stops : stopReason? settings seen = some reason) :
    (observe (proceed settings (observed path) seen changes) world).after.ci = world.ci := by
  rw [proceed_of_stopReason (observed path) changes stops]
  exact ci_saveThen path changes (landing_governs_stop reason) world

/-- With a build server in use, what is new among the open changes is handled in turn. -/
theorem ci_proceed :
    (observe (proceed settings (observed path) seen changes) world).after.ci =
      (if settings.dispatchEnabled then (Grouping.ofChanges changes).fresh seen
        else ⟨[], []⟩).groups.foldl (ciAfter settings) world.ci := by
  cases enabled : settings.dispatchEnabled with
  | false =>
      have stops : stopReason? settings seen = some .noCiHost := by simp [stopReason?, enabled]
      exact ci_proceed_of_stopReason path settings seen changes world stops
  | true =>
      cases recorded : seen.isEmpty with
      | true =>
          have stops : stopReason? settings seen = some .noSeenRefs := by
            simp [stopReason?, enabled, recorded]
          have nothing : (Grouping.ofChanges changes).fresh seen = ⟨[], []⟩ := if_pos recorded
          rw [nothing]
          exact ci_proceed_of_stopReason path settings seen changes world stops
      | false =>
          have compares : stopReason? settings seen = none := by
            simp [stopReason?, enabled, recorded]
          rw [observe_proceed_of_compares path changes world compares, if_pos rfl]
          rw [← (handleGroups_after_reports path settings _ world).2]
          exact ci_saveThen path changes (landing_governs_landThenFinish changes _ _) _

/-- A round handles the groups that it hands over in turn, and does nothing else to the build
server. -/
theorem ci_run :
    (observe (run settings (observed path)) world).after.ci =
      (handed settings world).groups.foldl (ciAfter settings) world.ci := by
  rcases snapshot_or_endsEarly path settings world with ⟨seen, changes, read⟩ | ⟨noSnapshot, ends⟩
  · obtain ⟨opened, events, -, course⟩ := observe_run_of_snapshot path read
    rw [course, handed, read]
    exact ci_proceed path settings seen changes _
  · obtain ⟨queries, events, after⟩ := ends.within
    rw [after, handed_of_noSnapshot noSnapshot]
    rfl

/-! ## What a round leaves alone -/

/-- Running rounds: the calls taken, the builds, the log and the events change, and neither what is
set up on the servers nor where they fail. -/
def running : Discipline where
  Within before after :=
    ∃ queries posts submits queued started added cancelledQueued stopped log events,
      after =
        { review := { before.review with queries, posts, submits }
          ci := { before.ci with queued, started, added, cancelledQueued, stopped }
          log
          events }
  Allows _ := True
  refl _ := ⟨_, _, _, _, _, _, _, _, _, _, rfl⟩
  trans := by
    rintro first second third ⟨_, _, _, _, _, _, _, _, _, _, rfl⟩
      ⟨_, _, _, _, _, _, _, _, _, _, rfl⟩
    exact ⟨_, _, _, _, _, _, _, _, _, _, rfl⟩

theorem running_within_saveThen {next : JournalT WorldM (Except Failure Report)}
    (governed : landing.Governs next) :
    running.Within world
      (observe (saveThen (observed path) (SeenLog.record changes) next) world).after := by
  obtain ⟨⟨submits, events, after⟩, -⟩ := saveThen_within path changes next governed world
  rw [after]
  exact ⟨_, _, _, _, _, _, _, _, _, _, rfl⟩

theorem running_within_proceed :
    running.Within world
      (observe (proceed settings (observed path) seen changes) world).after := by
  cases stops : stopReason? settings seen with
  | some reason =>
      rw [proceed_of_stopReason (observed path) changes stops]
      exact running_within_saveThen path changes world (landing_governs_stop reason)
  | none =>
      rw [observe_proceed_of_compares path changes world stops]
      obtain ⟨_, _, _, _, _, _, _, after⟩ :=
        handling_within_proceed path settings world ((Grouping.ofChanges changes).fresh seen)
      have handled : running.Within world _ := ⟨_, _, _, _, _, _, _, _, _, _, after⟩
      exact running.trans handled (running_within_saveThen path changes _
        (landing_governs_landThenFinish changes _ _))

/-- A round leaves alone what was set up before it. -/
theorem running_within_run :
    running.Within world (observe (run settings (observed path)) world).after := by
  rcases snapshot_or_endsEarly path settings world with ⟨seen, changes, read⟩ | ⟨-, ends⟩
  · obtain ⟨opened, events, -, course⟩ := observe_run_of_snapshot path read
    have queried : running.Within world
        { world with review := (world.review.query settings.review.query).2, events } :=
      ⟨_, _, _, _, _, _, _, _, _, _, rfl⟩
    rw [course]
    exact running.trans queried (running_within_proceed path settings seen changes _)
  · obtain ⟨queries, events, after⟩ := ends.within
    rw [after]
    exact ⟨_, _, _, _, _, _, _, _, _, _, rfl⟩

end ChangeGate.Round
