import ChangeGate.Proofs.Memory.Review
import ChangeGate.Proofs.Round.Clearing

/-!
# The gate on one group

What handling a group does to a world, for every group and every world. The members in known
projects decide alone. Unless all of them ask for tests, have tests and are trusted, no build is
started or cancelled: the group gets at most a message. Otherwise the way is cleared and one
build is started, and nothing is posted.
-/

namespace ChangeGate.Round

open ChangeGate.Ci ChangeGate.Memory ChangeGate.Review ChangeGate.Service

/-! ## How handling ends -/

/-- The events that tell of a failed attempt. -/
def Outcome.failureEvents : Outcome → List Event
  | .dispatched _ => []
  | .skipped _ => []
  | .errored attempt failure => [.recoverableError attempt failure]

/-- The end of handling a group after some calls: a failed attempt is made known, then the
outcome. -/
def concluded (group : Group) (outcome : Outcome) (calls : List Call) (world : World) :
    Observation GroupReport :=
  let events := outcome.failureEvents ++ [.groupOutcome group.label outcome.state]
  { answer := ⟨group.label, group.members.length, outcome⟩
    calls := calls ++ events.map .emit
    after := { world with events := world.events ++ events } }

/-- The outcome of a post, told by the ref that refuses it. -/
def postOutcome (attempt : Attempt) (reason : SkipReason) : Option String → Outcome
  | none => .skipped reason
  | some reference => .errored attempt (.review (.refused (.post reference)))

/-- A group that gets a message on its refs, in order and up to the first that refuses it. -/
def answered (group : Group) (message : String) (verified : Bool) (attempt : Attempt)
    (reason : SkipReason) (world : World) : Observation GroupReport :=
  let posts := world.review.posts
    ++ world.review.postsUpToRefusal message verified group.references
  concluded group
    (postOutcome attempt reason (world.review.postRefusedBy? group.references))
    [.post message group.references verified]
    { world with review := { world.review with posts } }

/-- The outcome of starting a build. -/
def startOutcome (world : World) (job : String) (tests : List String) : Outcome :=
  if world.ci.failStarts then .errored .startBuild (.ci (.refused (.start job)))
  else .dispatched tests

/-- The builds started so far, after one more was asked for. -/
def addedAfter (world : World) (job : String) (params : BuildParams) : List AddedBuild :=
  if world.ci.failStarts then world.ci.added else world.ci.added ++ [⟨job, params⟩]

/-- A group whose way is cleared and whose build is started. What went wrong while clearing is
made known before the start. -/
def built (path job : String) (group : Group) (params : BuildParams) (tests : List String)
    (world : World) : Observation GroupReport :=
  let cleared := observe (clearStale (observed path) job group.patchsets) world
  let failures := cleared.answer.failures.map (Event.recoverableError .cancelStale)
  concluded group (startOutcome world job tests)
    (cleared.calls ++ failures.map .emit ++ [.start job params])
    { cleared.after with
      ci := { cleared.after.ci with added := addedAfter world job params }
      events := cleared.after.events ++ failures }

/-! ## What the parts of the gate do -/

section
variable (path : String) (world : World)

theorem observe_skipWithPost (group : Group) (message : String) (verified : Bool)
    (attempt : Attempt) (reason : SkipReason) :
    observe (skipWithPost (observed path) group message verified attempt reason) world =
      let outcome := postOutcome attempt reason (world.review.postRefusedBy? group.references)
      { answer := outcome
        calls := .post message group.references verified :: outcome.failureEvents.map .emit
        after :=
          { world with
            review :=
              { world.review with
                posts := world.review.posts
                  ++ world.review.postsUpToRefusal message verified group.references }
            events := world.events ++ outcome.failureEvents } } := by
  rw [skipWithPost, observe_bind, observe_post, ReviewState.post_eq]
  cases world.review.postRefusedBy? group.references with
  | none =>
      simp only [ReviewState.postAnswer, postOutcome, Outcome.failureEvents, observe_pure,
        List.map_nil, List.append_nil]
  | some reference =>
      simp only [ReviewState.postAnswer, postOutcome, Outcome.failureEvents, failAttempt,
        observe_bind, observe_emit, observe_pure, List.map_cons, List.map_nil, List.append_nil,
        List.singleton_append]

theorem observe_emitFailures (failures : List Failure) :
    observe (emitFailures (observed path) failures) world =
      let events := failures.map (Event.recoverableError .cancelStale)
      ⟨(), events.map .emit, { world with events := world.events ++ events }⟩ := by
  induction failures generalizing world with
  | nil =>
      rw [emitFailures, observe_pure]
      simp only [List.map_nil, List.append_nil]
  | cons failure rest inductionHypothesis =>
      rw [emitFailures, observe_bind, observe_emit, inductionHypothesis]
      simp only [List.map_cons, List.append_assoc, List.singleton_append]

theorem observe_startBuild (job : String) (group : Group) (params : BuildParams)
    (tests : List String) :
    observe (startBuild (observed path) job group params tests) world =
      let cleared := observe (clearStale (observed path) job group.patchsets) world
      let failures := cleared.answer.failures.map (Event.recoverableError .cancelStale)
      let outcome := startOutcome world job tests
      { answer := outcome
        calls := cleared.calls ++ failures.map .emit ++ [.start job params]
          ++ outcome.failureEvents.map .emit
        after :=
          { cleared.after with
            ci := { cleared.after.ci with added := addedAfter world job params }
            events := cleared.after.events ++ failures ++ outcome.failureEvents } } := by
  obtain ⟨queued, started, cancelledQueued, stopped, events, after⟩ :=
    (clearing_governs_clearStale path job group.patchsets world).1
  rw [startBuild, observe_bind, observe_bind, observe_emitFailures, observe_bind, observe_start]
  simp only [after, CiState.start, startOutcome, addedAfter]
  cases world.ci.failStarts with
  | true =>
      simp only [if_true, failAttempt, Outcome.failureEvents, observe_bind, observe_emit,
        observe_pure, List.map_cons, List.map_nil, List.append_nil, List.append_assoc,
        List.cons_append, List.nil_append]
  | false =>
      simp only [Bool.false_eq_true, if_false, Outcome.failureEvents, observe_pure,
        List.map_nil, List.append_nil, List.append_assoc]

/-- Handling a group carries out the verdict on its members in known projects and reports the
outcome. -/
theorem observe_handleGroup (settings : Settings) (group : Group) :
    observe (handleGroup settings (observed path) group) world =
      let known := considered settings group
      let carried :=
        observe (carryOut (observed path) settings.ci.job known (verdict settings known)) world
      let event := Event.groupOutcome known.label carried.answer.state
      { answer := ⟨known.label, known.members.length, carried.answer⟩
        calls := carried.calls ++ [.emit event]
        after := { carried.after with events := carried.after.events ++ [event] } } := by
  rw [handleGroup, observe_bind, observe_bind, observe_emit, observe_pure]
  rfl

end

/-! ## The verdict -/

section
variable (settings : Settings) (known : Group)

theorem hasOptedOut_iff :
    hasOptedOut known = true ↔ ∃ change ∈ known.members, change.directive = .skip := by
  simp only [hasOptedOut, List.any_eq_true, decide_eq_true_eq]

theorem hasUntrustedOwner_iff :
    hasUntrustedOwner settings known = true ↔
      ∃ change ∈ known.members, settings.trusts change.owner = false := by
  simp only [hasUntrustedOwner, List.any_eq_true, Bool.not_eq_true']

/-- A group that may be built: it has members, all of them ask for tests and are trusted, and
there are tests to run. -/
structure Buildable : Prop where
  present : known.members ≠ []
  asksForTests : ∀ change ∈ known.members, change.directive = .run
  hasTests : settings.testsToRun known.projects ≠ []
  trusted : ∀ change ∈ known.members, settings.trusts change.owner = true

variable {settings known}

theorem verdict_eq_empty (absent : known.members = []) : verdict settings known = .empty := by
  rw [verdict, absent]
  rfl

theorem verdict_eq_optedOut (asked : ∃ change ∈ known.members, change.directive = .skip) :
    verdict settings known = .optedOut := by
  have optedOut : hasOptedOut known = true := (hasOptedOut_iff known).mpr asked
  obtain ⟨change, member, -⟩ := asked
  have present : known.members.isEmpty = false :=
    List.isEmpty_eq_false_iff.mpr (List.ne_nil_of_mem member)
  rw [verdict, present, optedOut]
  rfl

/-- Past the opt-out the tests and then the owners decide. -/
theorem verdict_of_asksForTests (present : known.members ≠ [])
    (asksForTests : ∀ change ∈ known.members, change.directive = .run) :
    verdict settings known =
      if settings.testsToRun known.projects = [] then .noTests
      else if hasUntrustedOwner settings known then
        .askPerson (paramsFor known (settings.testsToRun known.projects))
      else
        .build (paramsFor known (settings.testsToRun known.projects))
          (settings.testsToRun known.projects) := by
  have nonempty : known.members.isEmpty = false := List.isEmpty_eq_false_iff.mpr present
  have noOptOut : hasOptedOut known = false := by
    rw [Bool.eq_false_iff]
    intro optedOut
    obtain ⟨change, member, skips⟩ := (hasOptedOut_iff known).mp optedOut
    exact absurd (skips.symm.trans (asksForTests change member)) (by decide)
  rw [verdict, nonempty, noOptOut]
  cases settings.testsToRun known.projects with
  | nil => rfl
  | cons first rest => rfl

theorem verdict_eq_noTests (present : known.members ≠ [])
    (asksForTests : ∀ change ∈ known.members, change.directive = .run)
    (noTests : settings.testsToRun known.projects = []) :
    verdict settings known = .noTests := by
  rw [verdict_of_asksForTests present asksForTests, if_pos noTests]

theorem verdict_eq_askPerson (asksForTests : ∀ change ∈ known.members, change.directive = .run)
    (hasTests : settings.testsToRun known.projects ≠ [])
    (distrusted : ∃ change ∈ known.members, settings.trusts change.owner = false) :
    verdict settings known =
      .askPerson (paramsFor known (settings.testsToRun known.projects)) := by
  have untrusted := (hasUntrustedOwner_iff settings known).mpr distrusted
  obtain ⟨change, member, -⟩ := distrusted
  have present := List.ne_nil_of_mem member
  rw [verdict_of_asksForTests present asksForTests, if_neg hasTests, if_pos untrusted]

theorem verdict_eq_build (buildable : Buildable settings known) :
    verdict settings known =
      .build (paramsFor known (settings.testsToRun known.projects))
        (settings.testsToRun known.projects) := by
  have noneUntrusted : ¬ hasUntrustedOwner settings known = true := by
    intro untrusted
    obtain ⟨change, member, distrusted⟩ := (hasUntrustedOwner_iff settings known).mp untrusted
    exact absurd (buildable.trusted change member) (by rw [distrusted]; decide)
  rw [verdict_of_asksForTests buildable.present buildable.asksForTests]
  rw [if_neg buildable.hasTests, if_neg noneUntrusted]

end

/-! ## The law of the gate -/

/-- A group that gets a message is answered by it. -/
theorem observe_handleGroup_of_skipWithPost {settings : Settings} {path : String} {world : World}
    {group : Group} {message : String} {verified : Bool} {attempt : Attempt} {reason : SkipReason}
    (carried : carryOut (observed path) settings.ci.job (considered settings group)
        (verdict settings (considered settings group)) =
      skipWithPost (observed path) (considered settings group) message verified attempt reason) :
    observe (handleGroup settings (observed path) group) world =
      answered (considered settings group) message verified attempt reason world := by
  rw [observe_handleGroup]
  simp only [carried, observe_skipWithPost, answered, concluded, List.map_append, List.map_cons,
    List.map_nil, List.append_assoc, List.cons_append, List.nil_append]

/-- A group without members is passed over. -/
theorem observe_handleGroup_of_empty {settings : Settings} {path : String} {world : World}
    {group : Group} (decided : verdict settings (considered settings group) = .empty) :
    observe (handleGroup settings (observed path) group) world =
      concluded (considered settings group) (.skipped .emptyGroup) [] world := by
  rw [observe_handleGroup]
  simp only [decided, carryOut, observe_pure, concluded, Outcome.failureEvents, List.nil_append,
    List.map_cons, List.map_nil]

/-- A group whose build is to be started gets it built. -/
theorem observe_handleGroup_of_startBuild {settings : Settings} {path : String} {world : World}
    {group : Group} {params : BuildParams} {tests : List String}
    (decided : verdict settings (considered settings group) = .build params tests) :
    observe (handleGroup settings (observed path) group) world =
      built path settings.ci.job (considered settings group) params tests world := by
  rw [observe_handleGroup]
  simp only [decided, carryOut, observe_startBuild, built, concluded, List.map_append,
    List.map_cons, List.map_nil, List.append_assoc, List.cons_append, List.nil_append]

/-- A message leaves the builds and the log alone, and is all that is sent. -/
theorem answered_startsNone (group : Group) (message : String) (verified : Bool)
    (attempt : Attempt) (reason : SkipReason) (world : World) :
    let handled := answered group message verified attempt reason world
    handled.after.ci = world.ci ∧ handled.after.log = world.log ∧
      ∀ call ∈ handled.calls,
        (∃ message verified, call = .post message group.references verified) ∨
          ∃ event, call = .emit event := by
  refine ⟨rfl, rfl, ?_⟩
  intro call member
  rcases List.mem_append.mp member with isPost | isEvent
  · exact Or.inl ⟨message, verified, List.mem_singleton.mp isPost⟩
  · obtain ⟨event, -, isCall⟩ := List.mem_map.mp isEvent
    exact Or.inr ⟨event, isCall.symm⟩

/-- A message ends in an error exactly when a ref refuses it. -/
theorem answered_errored_iff (group : Group) (message : String) (verified : Bool)
    (attempt : Attempt) (reason : SkipReason) (world : World) :
    (answered group message verified attempt reason world).answer.outcome.state = .errored ↔
      (world.review.postRefusedBy? group.references).isSome = true := by
  simp only [answered, concluded]
  cases world.review.postRefusedBy? group.references with
  | none => simp [postOutcome, Outcome.state]
  | some reference => simp [postOutcome, Outcome.state]

/-- Starting a build posts and writes nothing, starts one build, and otherwise only clears. -/
theorem built_startsOne (path job : String) (group : Group) (params : BuildParams)
    (tests : List String) (world : World) :
    let handled := built path job group params tests world
    handled.after.review = world.review ∧ handled.after.log = world.log ∧
      handled.after.ci.added = addedAfter world job params ∧
      ∀ call ∈ handled.calls,
        (clearing job).Allows call ∨ call = .start job params ∨ ∃ event, call = .emit event := by
  obtain ⟨⟨queued, started, cancelledQueued, stopped, events, after⟩, allowed⟩ :=
    clearing_governs_clearStale path job group.patchsets world
  have reviewKept : (observe (clearStale (observed path) job group.patchsets) world).after.review
      = world.review := by rw [after]
  have logKept : (observe (clearStale (observed path) job group.patchsets) world).after.log
      = world.log := by rw [after]
  refine ⟨reviewKept, logKept, rfl, ?_⟩
  intro call member
  simp only [built, concluded, List.mem_append] at member
  rcases member with ((cleared | isFailure) | isStart) | isEvent
  · exact Or.inl (allowed call cleared)
  · obtain ⟨event, -, isCall⟩ := List.mem_map.mp isFailure
    exact Or.inr (Or.inr ⟨event, isCall.symm⟩)
  · exact Or.inr (Or.inl (List.mem_singleton.mp isStart))
  · obtain ⟨event, -, isCall⟩ := List.mem_map.mp isEvent
    exact Or.inr (Or.inr ⟨event, isCall.symm⟩)

/-- Starting a build ends in an error exactly when the start is refused. -/
theorem built_errored_iff (path job : String) (group : Group) (params : BuildParams)
    (tests : List String) (world : World) :
    (built path job group params tests world).answer.outcome.state = .errored ↔
      world.ci.failStarts = true := by
  simp only [built, concluded, startOutcome]
  cases world.ci.failStarts with
  | true => simp [Outcome.state]
  | false => simp [Outcome.state]

/-- What handling a group comes to on a world, where `known` are the members in known projects. -/
structure Gated (settings : Settings) (path : String) (world : World) (group known : Group)
    (handled : Observation GroupReport) : Prop where
  /-- The handling was observed as it runs. -/
  runs : (handleGroup settings (services path) group).run world = (handled.answer, handled.after)
  /-- A group without members is passed over, and no server is called. -/
  passedOver : known.members = [] →
    handled = concluded known (.skipped .emptyGroup) [] world
  /-- A member that asks for no tests speaks for the group. -/
  optedOut : (∃ change ∈ known.members, change.directive = .skip) →
    handled = answered known optedOutMessage true .acknowledge .optedOut world
  /-- A group without tests is told so. -/
  noTests : known.members ≠ [] → (∀ change ∈ known.members, change.directive = .run) →
    settings.testsToRun known.projects = [] →
    handled = answered known noTestsMessage true .acknowledge .noTests world
  /-- A member of an owner who is not trusted calls for a person to start the build. -/
  asksPerson : (∀ change ∈ known.members, change.directive = .run) →
    settings.testsToRun known.projects ≠ [] →
    (∃ change ∈ known.members, settings.trusts change.owner = false) →
    handled =
      answered known
        (manualMessage (manualLink settings.ci.job
          (buildParams known.references known.projects (settings.testsToRun known.projects))))
        false .postLink .untrustedOwner world
  /-- Any other group gets the way cleared for it and its build started. -/
  builds : Buildable settings known →
    handled =
      built path settings.ci.job known
        (buildParams known.references known.projects (settings.testsToRun known.projects))
        (settings.testsToRun known.projects) world
  /-- A group that may be built gets exactly one build, unless starting it fails. Nothing is
  posted, and every other call belongs to the clearing. -/
  startsOne : Buildable settings known →
    let params :=
      buildParams known.references known.projects (settings.testsToRun known.projects)
    handled.after.review = world.review ∧ handled.after.log = world.log ∧
      handled.after.ci.added = addedAfter world settings.ci.job params ∧
      ∀ call ∈ handled.calls,
        (clearing settings.ci.job).Allows call ∨ call = .start settings.ci.job params ∨
          ∃ event, call = .emit event
  /-- For any other group no build is started or cancelled, and only posts are sent. -/
  startsNone : ¬ Buildable settings known →
    handled.after.ci = world.ci ∧ handled.after.log = world.log ∧
      ∀ call ∈ handled.calls,
        (∃ message verified, call = .post message known.references verified) ∨
          ∃ event, call = .emit event
  /-- Handling ends in an error exactly when a post, or the start of the build, is refused. -/
  erroredIff : handled.answer.outcome.state = .errored ↔
    (Buildable settings known ∧ world.ci.failStarts = true) ∨
      (¬ Buildable settings known ∧ known.members ≠ [] ∧
        (world.review.postRefusedBy? known.references).isSome = true)

/-- The five ways to treat a group exclude each other and leave none out. -/
theorem gate_cases (settings : Settings) (known : Group) :
    known.members = [] ∨
    (∃ change ∈ known.members, change.directive = .skip) ∨
    (known.members ≠ [] ∧ (∀ change ∈ known.members, change.directive = .run) ∧
      settings.testsToRun known.projects = []) ∨
    ((∀ change ∈ known.members, change.directive = .run) ∧
      settings.testsToRun known.projects ≠ [] ∧
      ∃ change ∈ known.members, settings.trusts change.owner = false) ∨
    Buildable settings known := by
  by_cases absent : known.members = []
  · exact Or.inl absent
  by_cases asked : ∃ change ∈ known.members, change.directive = .skip
  · exact Or.inr (Or.inl asked)
  have asksForTests : ∀ change ∈ known.members, change.directive = .run := by
    intro change member
    cases directive : change.directive with
    | run => rfl
    | skip => exact absurd ⟨change, member, directive⟩ asked
  by_cases noTests : settings.testsToRun known.projects = []
  · exact Or.inr (Or.inr (Or.inl ⟨absent, asksForTests, noTests⟩))
  by_cases untrusted : ∃ change ∈ known.members, settings.trusts change.owner = false
  · exact Or.inr (Or.inr (Or.inr (Or.inl ⟨asksForTests, noTests, untrusted⟩)))
  have trusted : ∀ change ∈ known.members, settings.trusts change.owner = true := by
    intro change member
    rw [← Bool.not_eq_false]
    intro distrusted
    exact untrusted ⟨change, member, distrusted⟩
  exact Or.inr (Or.inr (Or.inr (Or.inr ⟨absent, asksForTests, noTests, trusted⟩)))

section
variable (settings : Settings) (path : String) (world : World) (group : Group)

variable {settings group} in
/-- A member that asks for no tests speaks for its group. -/
theorem observe_handleGroup_of_optedOut
    (asked : ∃ change ∈ (considered settings group).members, change.directive = .skip) :
    observe (handleGroup settings (observed path) group) world =
      answered (considered settings group) optedOutMessage true .acknowledge .optedOut world := by
  apply observe_handleGroup_of_skipWithPost
  rw [verdict_eq_optedOut asked]
  rfl

variable {settings group} in
/-- A group without tests is told so. -/
theorem observe_handleGroup_of_noTests (present : (considered settings group).members ≠ [])
    (asksForTests : ∀ change ∈ (considered settings group).members, change.directive = .run)
    (noTests : settings.testsToRun (considered settings group).projects = []) :
    observe (handleGroup settings (observed path) group) world =
      answered (considered settings group) noTestsMessage true .acknowledge .noTests world := by
  apply observe_handleGroup_of_skipWithPost
  rw [verdict_eq_noTests present asksForTests noTests]
  rfl

variable {settings group} in
/-- A member of an owner who is not trusted calls for a person. -/
theorem observe_handleGroup_of_untrusted
    (asksForTests : ∀ change ∈ (considered settings group).members, change.directive = .run)
    (hasTests : settings.testsToRun (considered settings group).projects ≠ [])
    (distrusted : ∃ change ∈ (considered settings group).members,
      settings.trusts change.owner = false) :
    let known := considered settings group
    observe (handleGroup settings (observed path) group) world =
      answered known
        (manualMessage (manualLink settings.ci.job
          (buildParams known.references known.projects (settings.testsToRun known.projects))))
        false .postLink .untrustedOwner world := by
  apply observe_handleGroup_of_skipWithPost
  rw [verdict_eq_askPerson asksForTests hasTests distrusted]
  rfl

/-- A group that may not be built is passed over when it has no members, and gets a message when
it has some. -/
theorem observe_handleGroup_of_not_buildable
    (unbuildable : ¬ Buildable settings (considered settings group)) :
    let known := considered settings group
    let handled := observe (handleGroup settings (observed path) group) world
    (known.members = [] ∧ handled = concluded known (.skipped .emptyGroup) [] world) ∨
      (known.members ≠ [] ∧ ∃ message verified attempt reason,
        handled = answered known message verified attempt reason world) := by
  rcases gate_cases settings (considered settings group) with
    absent | asked | ⟨present, asksForTests, noTests⟩ | ⟨asksForTests, hasTests, distrusted⟩
      | buildable
  · exact Or.inl ⟨absent, observe_handleGroup_of_empty (verdict_eq_empty absent)⟩
  · obtain ⟨change, member, -⟩ := id asked
    exact Or.inr ⟨List.ne_nil_of_mem member, _, _, _, _,
      observe_handleGroup_of_optedOut path world asked⟩
  · exact Or.inr ⟨present, _, _, _, _,
      observe_handleGroup_of_noTests path world present asksForTests noTests⟩
  · obtain ⟨change, member, -⟩ := id distrusted
    exact Or.inr ⟨List.ne_nil_of_mem member, _, _, _, _,
      observe_handleGroup_of_untrusted path world asksForTests hasTests distrusted⟩
  · exact absurd buildable unbuildable

/-- A group that may be built gets its build. -/
theorem observe_handleGroup_of_buildable
    (buildable : Buildable settings (considered settings group)) :
    let known := considered settings group
    observe (handleGroup settings (observed path) group) world =
      built path settings.ci.job known
        (buildParams known.references known.projects (settings.testsToRun known.projects))
        (settings.testsToRun known.projects) world :=
  observe_handleGroup_of_startBuild (verdict_eq_build buildable)

/-- A group that may not be built has no build started or cancelled for it. -/
theorem handleGroup_startsNone (unbuildable : ¬ Buildable settings (considered settings group)) :
    let handled := observe (handleGroup settings (observed path) group) world
    handled.after.ci = world.ci ∧ handled.after.log = world.log ∧
      ∀ call ∈ handled.calls,
        (∃ message verified,
          call = .post message (considered settings group).references verified) ∨
          ∃ event, call = .emit event := by
  rcases observe_handleGroup_of_not_buildable settings path world group unbuildable with
    ⟨absent, passed⟩ | ⟨present, message, verified, attempt, reason, posted⟩
  · simp only [passed]
    refine ⟨rfl, rfl, ?_⟩
    intro call member
    exact Or.inr ⟨_, List.mem_singleton.mp member⟩
  · simp only [posted]
    exact answered_startsNone _ message verified attempt reason world

/-- Handling ends in an error exactly when a post, or the start of the build, is refused. -/
theorem handleGroup_errored_iff :
    let known := considered settings group
    (observe (handleGroup settings (observed path) group) world).answer.outcome.state = .errored ↔
      (Buildable settings known ∧ world.ci.failStarts = true) ∨
        (¬ Buildable settings known ∧ known.members ≠ [] ∧
          (world.review.postRefusedBy? known.references).isSome = true) := by
  -- A group that may be built never posts, and any other one never starts a build.
  by_cases buildable : Buildable settings (considered settings group)
  · rw [observe_handleGroup_of_buildable settings path world group buildable, built_errored_iff]
    constructor
    · intro refused
      exact Or.inl ⟨buildable, refused⟩
    · rintro (⟨-, refused⟩ | ⟨unbuildable, -⟩)
      · exact refused
      · exact absurd buildable unbuildable
  · rcases observe_handleGroup_of_not_buildable settings path world group buildable with
      ⟨absent, passed⟩ | ⟨present, message, verified, attempt, reason, posted⟩
    · rw [passed]
      constructor
      · intro errored
        exact absurd errored (by simp [concluded, Outcome.state])
      · rintro (⟨other, -⟩ | ⟨-, present, -⟩)
        · exact absurd other buildable
        · exact absurd absent present
    · rw [posted, answered_errored_iff]
      constructor
      · intro refused
        exact Or.inr ⟨buildable, present, refused⟩
      · rintro (⟨other, -⟩ | ⟨-, -, refused⟩)
        · exact absurd other buildable
        · exact refused

/-- The gate lets a group through to the build server only when it may be built, and treats every
other group with the message its members in known projects call for. -/
theorem handleGroup_gated :
    Gated settings path world group
      ⟨group.members.filter fun change => settings.knowsProject change.project⟩
      (observe (handleGroup settings (observed path) group) world) where
  runs :=
    run_eq_of_erasure (Simulation.handleGroup (erasure_serves_observed path) settings group) world
  passedOver absent := observe_handleGroup_of_empty (verdict_eq_empty absent)
  optedOut asked := observe_handleGroup_of_optedOut path world asked
  noTests present asksForTests noTests :=
    observe_handleGroup_of_noTests path world present asksForTests noTests
  asksPerson asksForTests hasTests distrusted :=
    observe_handleGroup_of_untrusted path world asksForTests hasTests distrusted
  builds buildable := observe_handleGroup_of_buildable settings path world group buildable
  startsOne buildable := by
    rw [observe_handleGroup_of_buildable settings path world group buildable]
    exact built_startsOne path _ _ _ _ world
  startsNone unbuildable := handleGroup_startsNone settings path world group unbuildable
  erroredIff := handleGroup_errored_iff settings path world group

end

/-- A change of a trusted owner in a project with a test gets its build. The builds of an earlier
patchset make way for it, and those of a later patchset and of another change do not. -/
theorem handleGroup_gated_of_trusted :
    let settings : Settings :=
      { gate := { trustedDomains := ["example.org"] }
        projects := Std.ExtTreeMap.empty.insert "p" { tests := ["t"] } }
    let change : Change :=
      { number := 1, patchset := 2, project := "p", owner := "a@example.org" }
    let waits (id : UInt64) (refs : String) : QueuedBuild := ⟨id, .ofList [(refsParam, refs)]⟩
    let runs (number : UInt64) (refs : String) : StartedBuild :=
      ⟨number, true, .ofList [(refsParam, refs)]⟩
    let world : World :=
      { ci :=
          { queued := [waits 4 "refs/changes/01/1/1", waits 5 "refs/changes/01/1/3"]
            started := [runs 6 "refs/changes/01/1/1", runs 7 "refs/changes/02/2/1"] } }
    (observe (handleGroup settings (observed "log") ⟨[change]⟩) world).after.ci =
      { queued := [waits 5 "refs/changes/01/1/3"]
        started :=
          [{ runs 6 "refs/changes/01/1/1" with building := false }, runs 7 "refs/changes/02/2/1"]
        cancelledQueued := [4]
        stopped := [("presubmit-test", 6)]
        added := [⟨"presubmit-test", buildParams [change.reference] ["p"] ["t"]⟩] } := by
  intro settings change waits runs world
  have projectTests : settings.projectTests ["p"] = ["t"] := by decide
  have runNames : settings.runNames "t" = ["t"] := by decide
  have tests : settings.testsToRun ["p"] = ["t"] := by
    rw [Settings.testsToRun, projectTests, List.flatMap_singleton, runNames,
      List.mergeSort_singleton]
  have projects : (⟨[change]⟩ : Group).projects = ["p"] := by decide
  have gated : Gated settings "log" world ⟨[change]⟩ ⟨[change]⟩ _ :=
    handleGroup_gated settings "log" world ⟨[change]⟩
  have buildable : Buildable settings ⟨[change]⟩ := by
    refine ⟨List.cons_ne_nil _ _, ?_, ?_, ?_⟩
    · intro other member
      rw [List.mem_singleton.mp member]
      decide
    · exact tests ▸ List.cons_ne_nil _ _
    · intro other member
      rw [List.mem_singleton.mp member]
      decide
  rw [gated.builds buildable, projects, tests]
  decide +kernel

end ChangeGate.Round
