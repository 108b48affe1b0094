import ChangeGate.Proofs.Review.Reordering
import ChangeGate.Proofs.Round.Landing

/-!
# Rounds on the same changes in another order

The order in which the server lists the open changes does not matter: two rounds that differ in
nothing else both fail, or come to the same result up to the order of the groups.
-/

namespace ChangeGate.Round

open ChangeGate.Ci ChangeGate.Memory ChangeGate.Review ChangeGate.Service

/-- Two reports say the same of the same groups, up to their order. -/
structure Report.SameUpToOrder (report other : Report) : Prop where
  groups : report.groups.Perm other.groups
  sent : report.sent = other.sent
  skipped : report.skipped = other.skipped
  errored : report.errored = other.errored
  submitted : report.submitted = other.submitted
  stopped : report.stopped = other.stopped

theorem Report.sameUpToOrder_of_groups {report other : Report}
    (groups : report.groups.Perm other.groups) (submitted : report.submitted = other.submitted)
    (stopped : report.stopped = other.stopped) : report.SameUpToOrder other where
  groups := groups
  sent := by
    have dispatched := groups.filter fun group => group.outcome.state = .dispatched
    rw [Report.sent, Report.sent]
    apply dispatched.foldr_eq'
    intro group _ another _ others
    exact Nat.add_left_comm _ _ _
  skipped := groups.countP_eq _
  errored := groups.countP_eq _
  submitted := submitted
  stopped := stopped

/-- Two rounds, each told by its answer and the world after it, both fail, or come to the same
result up to the order of the groups. -/
structure SameUpToOrder (first second : Except Failure Report × World) : Prop where
  fails : ∀ failure, first.1 = .error failure ↔ second.1 = .error failure
  reports : ∀ report other, first.1 = .ok report → second.1 = .ok other →
    report.SameUpToOrder other
  log : first.2.log = second.2.log
  /-- The same builds are added, each as often. -/
  added : first.2.ci.added.Perm second.2.ci.added
  /-- The same refs are submitted, each as often. -/
  submits : first.2.review.submits.Perm second.2.review.submits
  /-- The same builds stay in the queue. -/
  queued : first.2.ci.queued = second.2.ci.queued
  /-- The same builds are known as started, and the same of them still run. -/
  started : first.2.ci.started = second.2.ci.started

section
variable {world : World} {answer other : Except Failure Report} {after otherAfter : World}

/-- Rounds with one answer that left the log, the builds and the submits alike are the same. -/
theorem sameUpToOrder_of_eq (answers : answer = other) (log : after.log = otherAfter.log)
    (ci : after.ci = otherAfter.ci) (submits : after.review.submits = otherAfter.review.submits) :
    SameUpToOrder (answer, after) (other, otherAfter) where
  fails failure := by rw [answers]
  reports report twin reported twinReported := by
    rw [answers, twinReported] at reported
    obtain rfl : twin = report := Except.ok.inj reported
    exact Report.sameUpToOrder_of_groups (List.Perm.refl _) rfl rfl
  log := log
  added := .of_eq (congrArg (·.added) ci)
  submits := .of_eq submits
  queued := congrArg (·.queued) ci
  started := congrArg (·.started) ci

theorem Ends.sameUpToOrder {record : ByteArray} {landed otherLanded : List String}
    {report otherReport : Report} (ends : Ends world record landed report answer after)
    (otherEnds : Ends world record otherLanded otherReport other otherAfter)
    (lands : landed.Perm otherLanded) (reports : report.SameUpToOrder otherReport)
    (added : after.ci.added.Perm otherAfter.ci.added)
    (queued : after.ci.queued = otherAfter.ci.queued)
    (started : after.ci.started = otherAfter.ci.started) :
    SameUpToOrder (answer, after) (other, otherAfter) := by
  have log := ends.log.trans otherEnds.log.symm
  cases written : (world.log.replace record).1 with
  | error cause =>
      obtain ⟨failed, submits⟩ := ends.unwritten cause written
      obtain ⟨otherFailed, otherSubmits⟩ := otherEnds.unwritten cause written
      refine ⟨fun failure => by rw [failed, otherFailed], ?_, log, added, ?_, queued, started⟩
      · intro report other reported
        rw [failed] at reported
        cases reported
      · exact .of_eq (submits.trans otherSubmits.symm)
  | ok =>
      obtain ⟨reported, submits⟩ := ends.written written
      obtain ⟨otherReported, otherSubmits⟩ := otherEnds.written written
      rw [reported, otherReported]
      refine ⟨?_, ?_, log, added, ?_, queued, started⟩
      · intro failure
        constructor <;> intro failed <;> cases failed
      · intro first second isFirst isSecond
        rwa [← Except.ok.inj isFirst, ← Except.ok.inj isSecond]
      · simp only [submits, otherSubmits]
        exact lands.append_left _

end

section
variable (settings : Settings) (path : String)

/-- Groups in another order leave the build server the same, apart from the order of what was
added. -/
theorem foldl_ciAfter_perm {groups others : List Group} (same : groups.Perm others)
    (ci : CiState) :
    let after := groups.foldl (ciAfter settings) ci
    let otherAfter := others.foldl (ciAfter settings) ci
    after.added.Perm otherAfter.added ∧ after.queued = otherAfter.queued ∧
      after.started = otherAfter.started := by
  have stale : anyMakesStale settings groups = anyMakesStale settings others :=
    funext fun _ => same.any_eq
  refine ⟨?_, ?_, ?_⟩
  · rw [added_foldl_ciAfter, added_foldl_ciAfter]
    exact (same.flatMap_right _).append_left _
  · rw [queued_foldl_ciAfter, queued_foldl_ciAfter, stale]
  · rw [started_foldl_ciAfter, started_foldl_ciAfter, stale]

/-- The world in which the review server lists these changes. -/
def listing (world : World) (changes : List Change) : World :=
  { world with review := { world.review with changes } }

variable {listed other : List Change}

/-- Where every listed change may be submitted, so may what lands. -/
theorem accepts_landable {review : ReviewState}
    (accepts : ∀ change ∈ listed, review.failSubmitsTo.contains change.reference = false) :
    review.Accepts ((landable listed).flatMap (·.references)) := by
  intro reference member
  obtain ⟨group, lands, isReference⟩ := List.mem_flatMap.mp member
  obtain ⟨change, isMember, rfl⟩ := List.mem_map.mp isReference
  exact accepts change (mem_of_mem_landable lands isMember)

/-- Going on with the open changes in another order does the same to the build server. -/
theorem ci_proceed_of_perm (seen : Patchsets) (same : listed.Perm other) {first second : World}
    (ci : first.ci = second.ci) :
    let after := (observe (proceed settings (observed path) seen listed) first).after.ci
    let otherAfter := (observe (proceed settings (observed path) seen other) second).after.ci
    after.added.Perm otherAfter.added ∧ after.queued = otherAfter.queued ∧
      after.started = otherAfter.started := by
  simp only [ci_proceed, ci]
  apply foldl_ciAfter_perm
  split
  · exact perm_groups_fresh seen same
  · exact List.Perm.refl _

/-- Going on with the open changes in another order comes to the same. -/
theorem proceed_of_perm (seen : Patchsets) (same : listed.Perm other) {first second : World}
    (alike : ∃ changes events, second = { listing first changes with events })
    (accepts : ∀ change ∈ listed, first.review.failSubmitsTo.contains change.reference = false) :
    let done := observe (proceed settings (observed path) seen listed) first
    let twin := observe (proceed settings (observed path) seen other) second
    SameUpToOrder (done.answer, done.after) (twin.answer, twin.after) := by
  obtain ⟨changes, events, rfl⟩ := alike
  let second : World := { listing first changes with events }
  obtain ⟨added, queued, started⟩ :=
    ci_proceed_of_perm settings path seen same (show first.ci = second.ci from rfl)
  have record : recordBytes other = recordBytes listed := by
    rw [recordBytes, recordBytes, SeenLog.record_congr same]
  cases stops : stopReason? settings seen with
  | some reason =>
      have ends := ends_of_stopReason path listed first stops
      have twinEnds := ends_of_stopReason path other second stops
      rw [record] at twinEnds
      exact ends.sameUpToOrder (twinEnds.congr rfl rfl) (List.Perm.refl _)
        (Report.sameUpToOrder_of_groups (List.Perm.refl _) rfl rfl) added queued started
  | none =>
      have lands := perm_landable same
      obtain ⟨reportedSets, ends⟩ :=
        ends_of_compares path listed first stops (accepts_landable accepts)
      obtain ⟨otherSets, twinEnds⟩ := ends_of_compares path other second stops
        (accepts_landable fun change member => accepts change (same.mem_iff.mpr member))
      rw [record] at twinEnds
      refine ends.sameUpToOrder (twinEnds.congr rfl rfl) (lands.flatMap_right _) ?_ added queued
        started
      exact Report.sameUpToOrder_of_groups ((perm_groups_fresh seen same).map _)
        (lands.flatMap_right _).length_eq rfl

/-- Whatever is listed, a round reads it, or ends before that in one way. -/
theorem reads_or_endsAlike (world : World) :
    (∃ seen, ∀ changes, reading settings (listing world changes) = .snapshot seen changes) ∨
      ∃ answer, ∀ changes,
        let done := observe (run settings (observed path)) (listing world changes)
        done.answer = answer ∧ done.after.log = world.log ∧ done.after.ci = world.ci ∧
          done.after.review.submits = world.review.submits := by
  by_cases red : Red settings world
  · refine Or.inr ⟨.ok { stopped := some .lastBuildFailed }, fun changes => ?_⟩
    obtain ⟨answer, ⟨events, after⟩, -⟩ :=
      observe_run_of_red path (show Red settings (listing world changes) from red)
    simp only [after]
    exact ⟨answer, rfl, rfl, rfl⟩
  have running (changes : List Change) : ¬ Red settings (listing world changes) := red
  cases loaded : SeenLog.load world.log.read with
  | error failure =>
      refine Or.inr ⟨.error failure, fun changes => ?_⟩
      obtain ⟨answer, ⟨events, after⟩, -⟩ :=
        observe_run_of_unreadable path (running changes) loaded
      simp only [after]
      exact ⟨answer, rfl, rfl, rfl⟩
  | ok seen =>
      by_cases fails : world.review.failQueries = true
      · let refusal : Failure := .review (.refused (.query settings.review.query))
        refine Or.inr ⟨.error refusal, fun changes => ?_⟩
        obtain ⟨answer, ⟨events, after⟩, -⟩ :=
          observe_run_of_unanswered path (running changes) loaded (if_pos fails)
        simp only [after]
        exact ⟨answer, rfl, rfl, rfl⟩
      · refine Or.inl ⟨seen, fun changes => ?_⟩
        exact reading_eq_snapshot (running changes) loaded (if_neg fails)

/-- The order in which the server lists the open changes does not matter to a round. -/
theorem run_of_perm (world : World) (same : listed.Perm other)
    (accepts : ∀ change ∈ listed, world.review.failSubmitsTo.contains change.reference = false) :
    SameUpToOrder ((run settings (services path)).run (listing world listed))
      ((run settings (services path)).run (listing world other)) := by
  have runs := run_eq_of_erasure (Simulation.run (erasure_serves_observed path) settings)
  rw [runs, runs]
  rcases reads_or_endsAlike settings path world with ⟨seen, read⟩ | ⟨answer, ends⟩
  · obtain ⟨opened, events, -, course⟩ := observe_run_of_snapshot path (read listed)
    obtain ⟨otherOpened, otherEvents, -, otherCourse⟩ := observe_run_of_snapshot path (read other)
    rw [course, otherCourse]
    exact proceed_of_perm settings path seen same ⟨_, otherEvents, rfl⟩ accepts
  · obtain ⟨answers, log, ci, submits⟩ := ends listed
    obtain ⟨otherAnswers, otherLog, otherCi, otherSubmits⟩ := ends other
    exact sameUpToOrder_of_eq (answers.trans otherAnswers.symm) (log.trans otherLog.symm)
      (ci.trans otherCi.symm) (submits.trans otherSubmits.symm)

end

/-- Two changes that are listed in either order come to the same. -/
theorem run_of_perm_of_two_changes :
    let settings : Settings := { ci := { host := "ci" } }
    let first : Change := { number := 1, patchset := 2 }
    let second : Change := { number := 2, patchset := 1 }
    let world : World :=
      { log := .file (SeenLog.render (Patchsets.put ∅ ⟨1, 1⟩)).toUTF8 }
    SameUpToOrder ((run settings (services "log")).run (listing world [first, second]))
      ((run settings (services "log")).run (listing world [second, first])) := by
  intro settings first second world
  exact run_of_perm settings "log" world (List.Perm.swap second first []) fun change member => rfl

end ChangeGate.Round
