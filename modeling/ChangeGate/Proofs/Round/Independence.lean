import ChangeGate.Proofs.Round.Cleared
import ChangeGate.Proofs.Round.Gate
import ChangeGate.Proofs.Round.Handling

/-!
# Groups are handled independently

What becomes of a group is told by the group, the refs that refuse a post and whether builds start.
The build server takes one build for each group that may be built, and is left with the builds that
none of these groups makes stale, in whatever order they are handled.
-/

namespace ChangeGate.Round

open ChangeGate.Ci ChangeGate.Memory ChangeGate.Review ChangeGate.Service

/-! ## One verdict -/

namespace Verdict

variable (job : String) (known : Group)

/-- The outcome of a verdict that is carried out on a world. -/
def outcome (world : World) : Verdict → Outcome
  | .empty => .skipped .emptyGroup
  | .optedOut =>
      postOutcome .acknowledge .optedOut (world.review.postRefusedBy? known.references)
  | .noTests => postOutcome .acknowledge .noTests (world.review.postRefusedBy? known.references)
  | .askPerson _ =>
      postOutcome .postLink .untrustedOwner (world.review.postRefusedBy? known.references)
  | .build _ tests => startOutcome world job tests

/-- The builds that are started for a verdict. -/
def builds (failStarts : Bool) : Verdict → List AddedBuild
  | .build params _ => if failStarts then [] else [⟨job, params⟩]
  | _ => []

/-- A verdict that is carried out cancels builds with these joined refs. -/
def makesStale (refs : String) : Verdict → Bool
  | .build .. => toCancel known.patchsets refs
  | _ => false

/-- What carrying out a verdict makes of a build server. -/
def ciAfter (ci : CiState) : Verdict → CiState
  | .build params _ =>
      { clearedCi job known.patchsets ci with
        added := if ci.failStarts then ci.added else ci.added ++ [⟨job, params⟩] }
  | _ => ci

end Verdict

/-- Carrying out a verdict has its outcome and changes the build server so. -/
theorem carryOut_eq (path job : String) (world : World) (known : Group) (verdict : Verdict) :
    let carried := observe (carryOut (observed path) job known verdict) world
    carried.answer = verdict.outcome job known world ∧
      carried.after.ci = verdict.ciAfter job known world.ci := by
  cases verdict with
  | empty => exact ⟨rfl, rfl⟩
  | optedOut =>
      simp only [carryOut, observe_skipWithPost]
      exact ⟨rfl, rfl⟩
  | noTests =>
      simp only [carryOut, observe_skipWithPost]
      exact ⟨rfl, rfl⟩
  | askPerson params =>
      simp only [carryOut, observe_skipWithPost]
      exact ⟨rfl, rfl⟩
  | build params tests =>
      simp only [carryOut, observe_startBuild, ci_clearStale]
      exact ⟨rfl, rfl⟩

namespace Verdict

variable (job : String) (known : Group) (ci : CiState) (verdict : Verdict)

theorem outcome_congr {before after : World}
    (refusals : after.review.failPostsTo = before.review.failPostsTo)
    (starts : after.ci.failStarts = before.ci.failStarts) :
    verdict.outcome job known after = verdict.outcome job known before := by
  cases verdict with
  | empty => rfl
  | build params tests => simp only [outcome, startOutcome, starts]
  | _ => simp only [outcome, ReviewState.postRefusedBy?, refusals]

theorem failStarts_ciAfter : (verdict.ciAfter job known ci).failStarts = ci.failStarts := by
  cases verdict with
  | build params tests => exact failStarts_clearedCi job known.patchsets ci
  | _ => rfl

theorem failCancels_ciAfter : (verdict.ciAfter job known ci).failCancels = ci.failCancels := by
  cases verdict with
  | build params tests => exact failCancels_clearedCi job known.patchsets ci
  | _ => rfl

theorem added_ciAfter :
    (verdict.ciAfter job known ci).added = ci.added ++ verdict.builds job ci.failStarts := by
  cases verdict with
  | build params tests =>
      simp only [ciAfter, builds]
      split <;> simp
  | _ => exact (List.append_nil _).symm

theorem queued_ciAfter :
    (verdict.ciAfter job known ci).queued =
      if ci.failCancels then ci.queued
      else queueWithout (fun refs => verdict.makesStale known refs) ci.queued := by
  cases verdict with
  | build params tests =>
      simp only [ciAfter, makesStale, clearedCi]
      split <;> rfl
  | _ => simp only [ciAfter, makesStale, queueWithout_none, ite_self]

theorem started_ciAfter :
    (verdict.ciAfter job known ci).started =
      if ci.failCancels then ci.started
      else startedWithout (fun refs => verdict.makesStale known refs) ci.started := by
  cases verdict with
  | build params tests =>
      simp only [ciAfter, makesStale, clearedCi]
      split <;> rfl
  | _ => simp only [ciAfter, makesStale, startedWithout_none, ite_self]

end Verdict

/-! ## One group after another -/

section
variable (settings : Settings)

/-- The verdict on the members of a group in known projects. -/
def verdictOn (group : Group) : Verdict :=
  verdict settings (considered settings group)

/-- The report on a group that is handled on a world. -/
def reportOn (world : World) (group : Group) : GroupReport :=
  let known := considered settings group
  { group := known.label
    changes := known.members.length
    outcome := (verdictOn settings group).outcome settings.ci.job known world }

theorem reportOn_congr {before after : World}
    (refusals : after.review.failPostsTo = before.review.failPostsTo)
    (starts : after.ci.failStarts = before.ci.failStarts) (group : Group) :
    reportOn settings after group = reportOn settings before group :=
  congrArg (GroupReport.mk _ _) (Verdict.outcome_congr _ _ _ refusals starts)

/-- What handling a group makes of a build server. -/
def ciAfter (ci : CiState) (group : Group) : CiState :=
  (verdictOn settings group).ciAfter settings.ci.job (considered settings group) ci

/-- The builds that are started for a group. -/
def buildsFor (failStarts : Bool) (group : Group) : List AddedBuild :=
  (verdictOn settings group).builds settings.ci.job failStarts

/-- One of the groups makes builds with these joined refs stale. -/
def anyMakesStale (groups : List Group) (refs : String) : Bool :=
  groups.any fun group => (verdictOn settings group).makesStale (considered settings group) refs

variable (path : String) (world : World)

theorem handleGroup_eq (group : Group) :
    let handled := observe (handleGroup settings (observed path) group) world
    handled.answer = reportOn settings world group ∧
      handled.after.ci = ciAfter settings world.ci group := by
  obtain ⟨outcome, ci⟩ := carryOut_eq path settings.ci.job world (considered settings group)
    (verdict settings (considered settings group))
  rw [observe_handleGroup]
  exact ⟨congrArg _ outcome, ci⟩

/-- Every group is reported on as if it were handled alone, and changes the build server in turn. -/
theorem handleGroups_eq (groups : List Group) :
    let handled := observe (handleGroups settings (observed path) groups) world
    handled.answer = groups.map (reportOn settings world) ∧
      handled.after.ci = groups.foldl (ciAfter settings) world.ci := by
  induction groups generalizing world with
  | nil => exact ⟨rfl, rfl⟩
  | cons group rest inductionHypothesis =>
      let handled := observe (handleGroup settings (observed path) group) world
      obtain ⟨report, ci⟩ := handleGroup_eq settings path world group
      obtain ⟨reports, others⟩ := inductionHypothesis handled.after
      -- Where posts and starts fail is the same for the groups that follow.
      obtain ⟨posts, queued, started, added, cancelledQueued, stopped, events, after⟩ :
          (handling True True).Within world handled.after :=
        (handling_governs_handleGroup settings group world).1
      have alike (other : Group) :
          reportOn settings handled.after other = reportOn settings world other :=
        reportOn_congr settings (by rw [after]) (by rw [after]) other
      simp only [handleGroups, observe_bind, observe_pure, List.map_cons, List.foldl_cons]
      rw [← report, ← ci]
      exact ⟨congrArg _ (reports.trans (List.map_congr_left fun other _ => alike other)), others⟩

end

/-! ## What the build server is left with -/

section
variable (settings : Settings) (ci : CiState) (groups : List Group)

theorem added_foldl_ciAfter :
    (groups.foldl (ciAfter settings) ci).added =
      ci.added ++ groups.flatMap (buildsFor settings ci.failStarts) := by
  induction groups generalizing ci with
  | nil => simp
  | cons group rest inductionHypothesis =>
      rw [List.foldl_cons, inductionHypothesis, ciAfter, Verdict.added_ciAfter,
        Verdict.failStarts_ciAfter, List.append_assoc]
      rfl

theorem queued_foldl_ciAfter :
    (groups.foldl (ciAfter settings) ci).queued =
      if ci.failCancels then ci.queued
      else queueWithout (anyMakesStale settings groups) ci.queued := by
  induction groups generalizing ci with
  | nil => exact (ite_eq_left_iff.mpr fun _ => queueWithout_none ci.queued).symm
  | cons group rest inductionHypothesis =>
      rw [List.foldl_cons, inductionHypothesis, ciAfter, Verdict.queued_ciAfter,
        Verdict.failCancels_ciAfter]
      cases ci.failCancels with
      | true => rfl
      | false => exact queueWithout_queueWithout _ _ _

theorem started_foldl_ciAfter :
    (groups.foldl (ciAfter settings) ci).started =
      if ci.failCancels then ci.started
      else startedWithout (anyMakesStale settings groups) ci.started := by
  induction groups generalizing ci with
  | nil => exact (ite_eq_left_iff.mpr fun _ => startedWithout_none ci.started).symm
  | cons group rest inductionHypothesis =>
      rw [List.foldl_cons, inductionHypothesis, ciAfter, Verdict.started_ciAfter,
        Verdict.failCancels_ciAfter]
      cases ci.failCancels with
      | true => rfl
      | false => exact startedWithout_startedWithout _ _ _

end

end ChangeGate.Round
