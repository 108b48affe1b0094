import ChangeGate.Proofs.Round.Independence
import ChangeGate.Proofs.Round.Trace
import Mathlib.Data.List.Forall2

/-!
# Failures stay where they are

Groups and rejected sets are gone through one by one on the same servers. Each has the result that
it has alone, and adds the builds and the posts that it adds alone, since nothing that is done for
one of them has a part in what decides about another: where the servers refuse posts and builds.
-/

namespace ChangeGate.Round

open ChangeGate.Ci ChangeGate.Memory ChangeGate.Review ChangeGate.Service

/-- What one of several items comes to: its result, and what is added for it. -/
structure Share (β : Type) where
  result : β
  builds : List AddedBuild
  posts : List Post

/-- A run answers with the total of the results of some shares, and leaves behind what they add, in
order. -/
structure Leaves {β α : Type} (total : List β → α) (shares : List (Share β)) (world : World)
    (done : α × World) : Prop where
  answer : done.1 = total (shares.map (·.result))
  builds : done.2.ci.added = world.ci.added ++ shares.flatMap (·.builds)
  posts : done.2.review.posts = world.review.posts ++ shares.flatMap (·.posts)

/-- A program goes through items so that each has the same share in what comes of all of them as in
what comes of it alone. -/
def Confined {ι β α : Type} (program : List ι → WorldM α) (total : List β → α) (items : List ι)
    (world : World) : Prop :=
  ∃ shares : List (Share β),
    List.Forall₂ (fun item share => Leaves total [share] world ((program [item]).run world))
      items shares ∧
    Leaves total shares world ((program items).run world)

/-- It does if what comes of any items is told by a share of each. -/
theorem confined_of_leaves {ι β α : Type} {program : List ι → WorldM α} {total : List β → α}
    {world : World} {share : ι → Share β}
    (leaves : ∀ items, Leaves total (items.map share) world ((program items).run world))
    (items : List ι) : Confined program total items world :=
  ⟨items.map share, List.forall₂_map_right_iff.mpr (List.forall₂_same.mpr fun item _ =>
    leaves [item]), leaves items⟩

/-! ## Groups -/

/-- Posts are made and refused alike where the same refs refuse them. -/
theorem postsUpToRefusal_congr {review other : ReviewState}
    (refusals : other.failPostsTo = review.failPostsTo) (message : String) (verified : Bool)
    (references : List String) :
    other.postsUpToRefusal message verified references =
      review.postsUpToRefusal message verified references := by
  rw [ReviewState.postsUpToRefusal, refusals, ReviewState.postsUpToRefusal]

namespace Verdict

variable (job : String) (known : Group) (review : ReviewState)

/-- The posts that are made for a verdict. -/
def posts : Verdict → List Post
  | .empty => []
  | .optedOut => review.postsUpToRefusal optedOutMessage true known.references
  | .noTests => review.postsUpToRefusal noTestsMessage true known.references
  | .askPerson params =>
      review.postsUpToRefusal (manualMessage (manualLink job params)) false known.references
  | .build .. => []

theorem posts_congr {review other : ReviewState}
    (refusals : other.failPostsTo = review.failPostsTo) (verdict : Verdict) :
    verdict.posts job known other = verdict.posts job known review := by
  cases verdict with
  | empty => rfl
  | build params tests => rfl
  | _ => exact postsUpToRefusal_congr refusals _ _ _

end Verdict

/-- Carrying out a verdict makes its posts. -/
theorem posts_carryOut (path job : String) (world : World) (known : Group) (verdict : Verdict) :
    (observe (carryOut (observed path) job known verdict) world).after.review.posts =
      world.review.posts ++ verdict.posts job known world.review := by
  cases verdict with
  | empty => exact (List.append_nil _).symm
  | optedOut => rw [carryOut, observe_skipWithPost, Verdict.posts]
  | noTests => rw [carryOut, observe_skipWithPost, Verdict.posts]
  | askPerson params =>
      rw [carryOut, observe_skipWithPost, Verdict.posts]
      rfl
  | build params tests =>
      obtain ⟨queued, started, cancelledQueued, stopped, events, after⟩ :=
        (clearing_governs_clearStale path job known.patchsets world).1
      rw [carryOut, observe_startBuild, Verdict.posts, List.append_nil]
      simp only [after]

section
variable (settings : Settings) (path : String) (world : World)

/-- The posts that are made for a group. -/
def postsFor (review : ReviewState) (group : Group) : List Post :=
  (verdictOn settings group).posts settings.ci.job (considered settings group) review

theorem posts_handleGroup (group : Group) :
    (observe (handleGroup settings (observed path) group) world).after.review.posts =
      world.review.posts ++ postsFor settings world.review group := by
  rw [observe_handleGroup]
  exact posts_carryOut path settings.ci.job world (considered settings group) _

/-- Handling groups makes the posts that each of them gets. -/
theorem posts_handleGroups (groups : List Group) :
    (observe (handleGroups settings (observed path) groups) world).after.review.posts =
      world.review.posts ++ groups.flatMap (postsFor settings world.review) := by
  induction groups generalizing world with
  | nil => exact (List.append_nil _).symm
  | cons group rest inductionHypothesis =>
      have own := posts_handleGroup settings path world group
      -- Where posts fail is the same for the groups that follow.
      obtain ⟨posts, queued, started, added, cancelledQueued, stopped, events, after⟩ :
          (handling True True).Within world
            (observe (handleGroup settings (observed path) group) world).after :=
        (handling_governs_handleGroup settings group world).1
      have alike : postsFor settings
          (observe (handleGroup settings (observed path) group) world).after.review =
            postsFor settings world.review :=
        funext fun other => Verdict.posts_congr _ _ (by rw [after]) _
      simp only [handleGroups, observe_bind, observe_pure, inductionHypothesis, own, alike,
        List.flatMap_cons, List.append_assoc]

/-- What a group comes to. -/
def groupShare (group : Group) : Share GroupReport where
  result := reportOn settings world group
  builds := buildsFor settings world.ci.failStarts group
  posts := postsFor settings world.review group

/-- What comes of some groups is told by a share of each. -/
theorem leaves_handleGroups (groups : List Group) :
    Leaves id (groups.map (groupShare settings world)) world
      ((handleGroups settings (services path) groups).run world) := by
  obtain ⟨reports, ci⟩ := handleGroups_eq settings path world groups
  rw [run_eq_of_erasure (Simulation.handleGroups (erasure_serves_observed path) settings groups)]
  constructor
  case answer =>
    rw [reports, List.map_map]
    rfl
  case builds =>
    rw [ci, added_foldl_ciAfter, List.flatMap_map]
    rfl
  case posts =>
    rw [posts_handleGroups, List.flatMap_map]
    rfl

end

/-! ## Rejected sets -/

section
variable (review : ReviewState) (rejected : RejectedSet)

/-- The ref of the change that a rejected set is reported on, if it refuses the report. -/
def reportRefusedBy? : Option String :=
  review.postRefusedBy? [rejected.change.reference]

/-- The notes of reporting a rejected set. -/
def reportNotes : List Note :=
  match reportRefusedBy? review rejected with
  | none => [⟨.post (rejectedMessage rejected) [rejected.change.reference] false, .ok ()⟩]
  | some reference =>
      let failure : Failure := .review (.refused (.post reference))
      [⟨.post (rejectedMessage rejected) [rejected.change.reference] false, .error failure⟩,
        .tell (.recoverableError .reportRejected failure)]

/-- The posts that reporting a rejected set makes. -/
def reportPosts : List Post :=
  review.postsUpToRefusal (rejectedMessage rejected) false [rejected.change.reference]

end

section
variable (path : String) (world : World)

theorem follow_post (message : String) (references : List String) (verified : Bool) :
    follow ((services path).noted.review.post message references verified) world =
      let posted := world.review.post message verified references
      ⟨posted.1, [⟨.post message references verified, posted.1⟩],
        { world with review := posted.2 }⟩ := rfl

/-- What reporting a rejected set does is told by where posts are refused. -/
theorem follow_reportRejected (rejected : RejectedSet) :
    ∃ events, follow (reportRejected (services path).noted rejected) world =
      ⟨(reportRefusedBy? world.review rejected).isNone, reportNotes world.review rejected,
        { world with
          review :=
            { world.review with
              posts := world.review.posts ++ reportPosts world.review rejected }
          events }⟩ := by
  rw [reportRejected, follow_bind, follow_post, ReviewState.post_eq, reportNotes, ← reportPosts,
    ← reportRefusedBy?]
  cases reportRefusedBy? world.review rejected with
  | none => exact ⟨_, rfl⟩
  | some reference => exact ⟨_, rfl⟩

theorem reportRefusedBy?_congr {review other : ReviewState}
    (refusals : other.failPostsTo = review.failPostsTo) :
    reportRefusedBy? other = reportRefusedBy? review := by
  funext rejected
  rw [reportRefusedBy?, ReviewState.postRefusedBy?, refusals]
  rfl

theorem reportNotes_congr {review other : ReviewState}
    (refusals : other.failPostsTo = review.failPostsTo) :
    reportNotes other = reportNotes review := by
  funext rejected
  rw [reportNotes, reportRefusedBy?_congr refusals, reportNotes]

theorem reportPosts_congr {review other : ReviewState}
    (refusals : other.failPostsTo = review.failPostsTo) :
    reportPosts other = reportPosts review :=
  funext fun _ => postsUpToRefusal_congr refusals _ _ _

/-- Reporting rejected sets reports each of them in turn, and counts the posts that were made. -/
theorem follow_reportAllRejected (rejected : List RejectedSet) :
    ∃ events, follow (reportAllRejected (services path).noted rejected) world =
      ⟨rejected.countP fun set => (reportRefusedBy? world.review set).isNone,
        rejected.flatMap (reportNotes world.review),
        { world with
          review :=
            { world.review with
              posts := world.review.posts ++ rejected.flatMap (reportPosts world.review) }
          events }⟩ := by
  induction rejected generalizing world with
  | nil => exact ⟨world.events, by simp [reportAllRejected]⟩
  | cons first rest inductionHypothesis =>
      obtain ⟨events, reported⟩ := follow_reportRejected path world first
      let review : ReviewState :=
        { world.review with posts := world.review.posts ++ reportPosts world.review first }
      -- Where posts fail is the same for the sets that follow.
      have refusals : review.failPostsTo = world.review.failPostsTo := rfl
      obtain ⟨otherEvents, others⟩ := inductionHypothesis { world with review, events }
      rw [reportRefusedBy?_congr refusals, reportNotes_congr refusals,
        reportPosts_congr refusals] at others
      refine ⟨otherEvents, ?_⟩
      rw [reportAllRejected, follow_bind, reported]
      simp only [follow_bind, follow_pure, others, List.countP_cons, List.flatMap_cons,
        List.append_nil, List.append_assoc, review]
      cases reportRefusedBy? world.review first with
      | none => rfl
      | some reference => rfl

theorem run_reportAllRejected (rejected : List RejectedSet) :
    (reportAllRejected (services path) rejected).run world =
      ((follow (reportAllRejected (services path).noted rejected) world).answer,
        (follow (reportAllRejected (services path).noted rejected) world).after) :=
  run_eq_of_forgetting
    (Simulation.reportAllRejected (forgetting_serves_noted (services path)) rejected) world

/-- What a rejected set comes to: whether it is reported, and its posts. -/
def rejectedShare (rejected : RejectedSet) : Share Bool where
  result := (reportRefusedBy? world.review rejected).isNone
  builds := []
  posts := reportPosts world.review rejected

/-- What comes of some rejected sets is told by a share of each. -/
theorem leaves_reportAllRejected (rejected : List RejectedSet) :
    Leaves (·.countP id) (rejected.map (rejectedShare world)) world
      ((reportAllRejected (services path) rejected).run world) := by
  obtain ⟨events, followed⟩ := follow_reportAllRejected path world rejected
  rw [run_reportAllRejected, followed]
  constructor
  case answer =>
    rw [List.map_map, List.countP_map]
    rfl
  case builds => simp [List.flatMap_map, rejectedShare]
  case posts =>
    rw [List.flatMap_map]
    rfl

/-- Reporting a rejected set takes one attempt. -/
theorem reported_reportNotes (review : ReviewState) (rejected : RejectedSet) :
    Trace.Reported rejected (reportNotes review rejected)
      (reportRefusedBy? review rejected).isNone := by
  rw [reportNotes]
  cases reportRefusedBy? review rejected with
  | none => exact .posted
  | some reference => exact .refused _

/-- Every rejected set takes one attempt to post on its change, which comes out as it does when this
set alone is reported, and the attempts that succeed are counted. -/
def AttemptsEach (path : String) (rejected : List RejectedSet) (world : World) : Prop :=
  let report (sets : List RejectedSet) :=
    follow (reportAllRejected (services path).noted sets) world
  (reportAllRejected (services path) rejected).run world =
      ((report rejected).answer, (report rejected).after) ∧
    ∃ posted, Trace.Each
        (fun set notes posted => Trace.Reported set notes posted ∧ (report [set]).notes = notes)
        rejected (report rejected).notes posted ∧
      (report rejected).answer = posted.countP id

theorem attemptsEach_reportAllRejected (rejected : List RejectedSet) :
    AttemptsEach path rejected world := by
  obtain ⟨events, followed⟩ := follow_reportAllRejected path world rejected
  refine ⟨run_reportAllRejected path world rejected,
    rejected.map fun set => (reportRefusedBy? world.review set).isNone, ?_, ?_⟩
  · beta_reduce
    rw [followed]
    apply Trace.each_flatMap
    intro set
    obtain ⟨aloneEvents, alone⟩ := follow_reportAllRejected path world [set]
    refine ⟨reported_reportNotes world.review set, ?_⟩
    rw [alone, List.flatMap_singleton]
  · beta_reduce
    rw [followed, List.countP_map]
    rfl

end

/-! ## Both -/

/-- Handling a group and reporting a rejected set come to what they come to alone, whatever fails
for the others. -/
theorem failures_confined (settings : Settings) (path : String) (world : World)
    (groups : List Group) (rejected : List RejectedSet) :
    Confined (handleGroups settings (services path)) id groups world ∧
      Confined (reportAllRejected (services path)) (·.countP id) rejected world ∧
      AttemptsEach path rejected world :=
  ⟨confined_of_leaves (leaves_handleGroups settings path world) groups,
    confined_of_leaves (leaves_reportAllRejected path world) rejected,
    attemptsEach_reportAllRejected path world rejected⟩

end ChangeGate.Round
