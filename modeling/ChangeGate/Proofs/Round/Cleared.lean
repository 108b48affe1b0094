import ChangeGate.Proofs.Round.Cancelling

/-!
# What clearing does and reports

Clearing goes through the queued builds and then through those that run, as they are listed. Every
stale one of them is asked to be cancelled, and a build that cannot be read or cancelled is reported
and keeps no other from being cancelled. When the server cancels builds, exactly the stale ones are
gone, and nothing is left to clear. When it does not, nothing changes.
-/

namespace ChangeGate.Round

open ChangeGate.Ci ChangeGate.Memory ChangeGate.Review ChangeGate.Service

/-- Why the joined refs of a build cannot be read. A build without refs has none to read. -/
def unreadable? (refs : String) : Option Failure :=
  if refs.isEmpty then none
  else
    match builtPatchsets refs with
    | .error cause => some (.ref cause)
    | .ok _ => none

/-- What goes wrong with a build when the server refuses to cancel it. -/
def refusedFailure? (current : Patchsets) (refs : String) (refusal : Failure) : Option Failure :=
  if toCancel current refs then some refusal else unreadable? refs

/-- A build that is to be cancelled has refs, which can be read and are superseded. -/
theorem toCancel_iff {current : Patchsets} {refs : String} :
    toCancel current refs = true ↔
      refs ≠ "" ∧ ∃ built, builtPatchsets refs = .ok built ∧ superseded built current = true := by
  rw [toCancel, isStale]
  cases read : builtPatchsets refs with
  | error cause => simp [bind, Except.bind, Except.toOption]
  | ok built => simp [bind, Except.bind, pure, Except.pure, Except.toOption]

theorem unreadable?_of_toCancel {current : Patchsets} {refs : String}
    (stale : toCancel current refs = true) : unreadable? refs = none := by
  obtain ⟨-, built, read, -⟩ := toCancel_iff.mp stale
  rw [unreadable?, read, ite_self]

theorem isStale_of_toCancel {current : Patchsets} {refs : String}
    (stale : toCancel current refs = true) :
    refs.isEmpty = false ∧ isStale refs current = .ok true := by
  obtain ⟨present, built, read, isSuperseded⟩ := toCancel_iff.mp stale
  refine ⟨by simpa using present, ?_⟩
  rw [isStale, read, ← isSuperseded]
  rfl

/-! ## One build -/

section
variable {path : String} {current : Patchsets} {place : BuildPlace} {refs : String}
  {cancel : JournalT WorldM (Except Failure Unit)} {world : World}

/-- Nothing happens to a build that is not stale, and it is reported if it cannot be read. -/
theorem observe_clearBuild_of_kept (kept : toCancel current refs = false) :
    observe (clearBuild (observed path) current place refs cancel) world =
      ⟨⟨0, (unreadable? refs).toList⟩, [], world⟩ := by
  rw [toCancel] at kept
  rw [clearBuild, unreadable?]
  cases absent : refs.isEmpty with
  | true => rfl
  | false =>
      rw [isStale] at kept ⊢
      cases read : builtPatchsets refs with
      | error cause => rfl
      | ok built =>
          cases isSuperseded : superseded built current with
          | false =>
              simp only [bind, Except.bind, pure, Except.pure, isSuperseded]
              rfl
          | true => simp [absent, read, isSuperseded, bind, Except.bind, pure, Except.pure,
              Except.toOption] at kept

/-- A stale build that is cancelled is made known. -/
theorem observe_clearBuild_of_cancelled (stale : toCancel current refs = true) {call : Call}
    {ci : CiState} (cancels : observe cancel world = ⟨.ok (), [call], { world with ci }⟩) :
    observe (clearBuild (observed path) current place refs cancel) world =
      ⟨⟨1, []⟩, [call, .emit (.buildCancelled refs place)],
        { world with ci, events := world.events ++ [.buildCancelled refs place] }⟩ := by
  obtain ⟨present, isStale⟩ := isStale_of_toCancel stale
  rw [clearBuild, present, if_neg Bool.false_ne_true, isStale]
  simp only [observe_bind, cancels]
  rfl

/-- A stale build that is not cancelled is reported. -/
theorem observe_clearBuild_of_refused (stale : toCancel current refs = true) {call : Call}
    {failure : Failure} (refuses : observe cancel world = ⟨.error failure, [call], world⟩) :
    observe (clearBuild (observed path) current place refs cancel) world =
      ⟨⟨0, [failure]⟩, [call], world⟩ := by
  obtain ⟨present, isStale⟩ := isStale_of_toCancel stale
  rw [clearBuild, present, if_neg Bool.false_ne_true, isStale]
  simp only [observe_bind, refuses]
  rfl

end

/-! ## Builds in order -/

section
variable {path : String} {Build : Type} {current : Patchsets} {place : BuildPlace}
  {refs : Build → String} {cancel : Build → JournalT WorldM (Except Failure Unit)}
  {call : Build → Call}

/-- A build is cleared before those that follow it, on the world that it leaves. -/
theorem observe_clearEach_cons {build : Build} {rest : List Build}
    {first others : Observation Cleared} {world : World}
    (one : observe (clearBuild (observed path) current place (refs build) (cancel build)) world =
      first)
    (later : observe (clearEach (observed path) current place refs cancel rest) first.after =
      others) :
    observe (clearEach (observed path) current place refs cancel (build :: rest)) world =
      ⟨first.answer.append others.answer, first.calls ++ others.calls, others.after⟩ := by
  rw [clearEach, observe_bind, observe_bind, observe_pure, one, later, List.append_nil]

/-- Where every build is cancelled, the stale ones are, in order, and the others are reported if
they cannot be read. -/
theorem observe_clearEach_of_accepted {effect : Build → CiState → CiState}
    (keeps : ∀ build ci, (effect build ci).failCancels = ci.failCancels)
    (cancels : ∀ build world, world.ci.failCancels = false →
      observe (cancel build) world =
        ⟨.ok (), [call build], { world with ci := effect build world.ci }⟩)
    (builds : List Build) {world : World} (accepts : world.ci.failCancels = false) :
    let stale := builds.filter fun build => toCancel current (refs build)
    observe (clearEach (observed path) current place refs cancel builds) world =
      ⟨⟨stale.length, builds.filterMap fun build => unreadable? (refs build)⟩,
        stale.flatMap fun build => [call build, .emit (.buildCancelled (refs build) place)],
        { world with
          ci := stale.foldl (fun ci build => effect build ci) world.ci
          events := world.events ++ stale.map fun build =>
            .buildCancelled (refs build) place }⟩ := by
  intro stale
  induction builds generalizing world with
  | nil =>
      simp only [stale, List.filter_nil, List.map_nil, List.append_nil]
      rfl
  | cons build rest inductionHypothesis =>
      cases isStale : toCancel current (refs build) with
      | false =>
          have kept : stale = rest.filter fun build => toCancel current (refs build) := by
            simp [stale, isStale]
          rw [observe_clearEach_cons (observe_clearBuild_of_kept isStale)
            (inductionHypothesis accepts), List.filterMap_cons, kept]
          cases unreadable? (refs build) with
          | none => simp [Cleared.append]
          | some failure => simp [Cleared.append]
      | true =>
          have cancelled : stale =
              build :: rest.filter fun build => toCancel current (refs build) := by
            simp [stale, isStale]
          -- The builds that follow are cleared on a server that still cancels builds.
          have stillAccepts : (effect build world.ci).failCancels = false :=
            (keeps build world.ci).trans accepts
          rw [observe_clearEach_cons
            (observe_clearBuild_of_cancelled isStale (cancels build world accepts))
            (inductionHypothesis stillAccepts), List.filterMap_cons, cancelled,
            unreadable?_of_toCancel isStale]
          simp [Cleared.append, Nat.add_comm]

/-- Where no build is cancelled, the stale ones are asked to be, in order, and are reported like the
ones that cannot be read. -/
theorem observe_clearEach_of_refused {refusal : Build → Failure} {world : World}
    (refuses : ∀ build, observe (cancel build) world =
      ⟨.error (refusal build), [call build], world⟩) (builds : List Build) :
    observe (clearEach (observed path) current place refs cancel builds) world =
      ⟨⟨0, builds.filterMap fun build => refusedFailure? current (refs build) (refusal build)⟩,
        (builds.filter fun build => toCancel current (refs build)).map call, world⟩ := by
  induction builds with
  | nil => rfl
  | cons build rest inductionHypothesis =>
      cases isStale : toCancel current (refs build) with
      | false =>
          rw [observe_clearEach_cons (observe_clearBuild_of_kept isStale) inductionHypothesis,
            List.filterMap_cons, refusedFailure?, isStale]
          cases unreadable? (refs build) with
          | none => simp [Cleared.append, isStale]
          | some failure => simp [Cleared.append, isStale]
      | true =>
          rw [observe_clearEach_cons (observe_clearBuild_of_refused isStale (refuses build))
            inductionHypothesis, List.filterMap_cons, refusedFailure?, isStale]
          simp [Cleared.append, isStale]

end

/-! ## The queue and then what runs -/

/-- The queued builds that are to be cancelled. -/
def staleQueued (current : Patchsets) (ci : CiState) : List QueuedBuild :=
  ci.queued.filter fun build => toCancel current build.refs

/-- The builds that still run and are to be cancelled. -/
def staleRunning (current : Patchsets) (ci : CiState) : List StartedBuild :=
  (ci.started.filter (·.building)).filter fun build => toCancel current build.refs

theorem map_number_staleRunning (current : Patchsets) (ci : CiState) :
    (staleRunning current ci).map (·.number) = staleNumbers (toCancel current) ci.started := by
  simp only [staleRunning, staleNumbers, List.filter_filter, Bool.and_comm]

/-- The failures of builds in the queue and then of those that still run, as they are listed. -/
def listedFailures (queued? : QueuedBuild → Option Failure)
    (running? : StartedBuild → Option Failure) (ci : CiState) : List Failure :=
  ci.queued.filterMap queued? ++ (ci.started.filter (·.building)).filterMap running?

/-- What asking to cancel a queued build and making it known calls. -/
def cancelCalls (build : QueuedBuild) : List Call :=
  [.cancelQueued build.id, .emit (.buildCancelled build.refs .queue)]

/-- What asking to stop a running build of a job and making it known calls. -/
def stopCalls (job : String) (build : StartedBuild) : List Call :=
  [.stop job build.number, .emit (.buildCancelled build.refs .running)]

section
variable {path : String} (job : String) (current : Patchsets) {world : World}

/-- Where builds are cancelled, stale ones are taken out of the queue. -/
theorem observe_clearEach_queued (builds : List QueuedBuild)
    (accepts : world.ci.failCancels = false) :
    let stale := builds.filter fun build => toCancel current build.refs
    observe (clearEach (observed path) current .queue (·.refs)
        (fun build => (observed path).ci.cancelQueued build.id) builds) world =
      ⟨⟨stale.length, builds.filterMap (unreadable? ·.refs)⟩, stale.flatMap cancelCalls,
        { world with
          ci :=
            { world.ci with
              queued := dropAll (stale.map (·.id)) world.ci.queued
              cancelledQueued := world.ci.cancelledQueued ++ stale.map (·.id) }
          events := world.events ++ stale.map fun build =>
            .buildCancelled build.refs .queue }⟩ := by
  intro stale
  have keeps (build : QueuedBuild) (ci : CiState) :
      (ci.cancelQueued build.id).2.failCancels = ci.failCancels := by
    rw [CiState.cancelQueued]
    split <;> rfl
  have cancels (build : QueuedBuild) (world : World) (accepts : world.ci.failCancels = false) :
      observe ((observed path).ci.cancelQueued build.id) world =
        ⟨.ok (), [.cancelQueued build.id],
          { world with ci := (world.ci.cancelQueued build.id).2 }⟩ := by
    rw [observe_cancelQueued, CiState.cancelQueued, accepts]
    rfl
  have dropped := foldl_cancelQueued (stale.map (·.id)) world.ci
  rw [List.foldl_map, if_neg (by simp [accepts])] at dropped
  rw [observe_clearEach_of_accepted keeps cancels builds accepts, dropped]
  rfl

/-- Where builds are cancelled, stale ones that were started are stopped. -/
theorem observe_clearEach_started (builds : List StartedBuild)
    (accepts : world.ci.failCancels = false) :
    let stale := builds.filter fun build => toCancel current build.refs
    observe (clearEach (observed path) current .running (·.refs)
        (fun build => (observed path).ci.stop job build.number) builds) world =
      ⟨⟨stale.length, builds.filterMap (unreadable? ·.refs)⟩, stale.flatMap (stopCalls job),
        { world with
          ci :=
            { world.ci with
              started := haltAll (stale.map (·.number)) world.ci.started
              stopped := world.ci.stopped ++ stale.map fun build => (job, build.number) }
          events := world.events ++ stale.map fun build =>
            .buildCancelled build.refs .running }⟩ := by
  intro stale
  have keeps (build : StartedBuild) (ci : CiState) :
      (ci.stop job build.number).2.failCancels = ci.failCancels := by
    rw [CiState.stop]
    split <;> rfl
  have stops (build : StartedBuild) (world : World) (accepts : world.ci.failCancels = false) :
      observe ((observed path).ci.stop job build.number) world =
        ⟨.ok (), [.stop job build.number],
          { world with ci := (world.ci.stop job build.number).2 }⟩ := by
    rw [observe_stop, CiState.stop, accepts]
    rfl
  have halted := foldl_stop job (stale.map (·.number)) world.ci
  rw [List.foldl_map, List.map_map, if_neg (by simp [accepts])] at halted
  rw [observe_clearEach_of_accepted keeps stops builds accepts, halted]
  rfl

end

section
variable {path job : String} {current : Patchsets} {world : World}

/-- What runs is listed after the queue was cleared, and is cleared next. -/
theorem observe_clearStale {queue running : Observation Cleared}
    (inQueue : observe (clearEach (observed path) current .queue (·.refs)
      (fun build => (observed path).ci.cancelQueued build.id) world.ci.queued) world = queue)
    (thatRun : observe (clearEach (observed path) current .running (·.refs)
      (fun build => (observed path).ci.stop job build.number)
      (queue.after.ci.started.filter (·.building))) queue.after = running) :
    observe (clearStale (observed path) job current) world =
      ⟨queue.answer.append running.answer,
        (.queued job :: queue.calls) ++ (.started job :: running.calls), running.after⟩ := by
  have first : observe (clearQueue (observed path) job current) world =
      ⟨queue.answer, .queued job :: queue.calls, queue.after⟩ := by
    rw [clearQueue, observe_bind, observe_queued]
    dsimp only
    rw [clearQueued_eq, inQueue, List.singleton_append]
  have later : observe (clearRunning (observed path) job current) queue.after =
      ⟨running.answer, .started job :: running.calls, running.after⟩ := by
    rw [clearRunning, observe_bind, observe_started]
    dsimp only
    rw [clearStarted_eq, thatRun, List.singleton_append]
  rw [clearStale, observe_bind, observe_bind, observe_pure, first, later, List.append_nil]

/-- Where builds are cancelled, exactly the stale ones are. -/
theorem observe_clearStale_of_accepted (accepts : world.ci.failCancels = false) :
    observe (clearStale (observed path) job current) world =
      ⟨⟨(staleQueued current world.ci).length + (staleRunning current world.ci).length,
          listedFailures (unreadable? ·.refs) (unreadable? ·.refs) world.ci⟩,
        (.queued job :: (staleQueued current world.ci).flatMap cancelCalls) ++
          (.started job :: (staleRunning current world.ci).flatMap (stopCalls job)),
        { world with
          ci :=
            { world.ci with
              queued := dropAll ((staleQueued current world.ci).map (·.id)) world.ci.queued
              started := haltAll ((staleRunning current world.ci).map (·.number)) world.ci.started
              cancelledQueued :=
                world.ci.cancelledQueued ++ (staleQueued current world.ci).map (·.id)
              stopped :=
                world.ci.stopped ++ (staleRunning current world.ci).map fun build =>
                  (job, build.number) }
          events := world.events ++
            (((staleQueued current world.ci).map fun build => .buildCancelled build.refs .queue) ++
              (staleRunning current world.ci).map fun build =>
                .buildCancelled build.refs .running) }⟩ := by
  rw [observe_clearStale (observe_clearEach_queued current world.ci.queued accepts)
    (observe_clearEach_started job current _ accepts), ← List.append_assoc]
  rfl

/-- Where no build is cancelled, nothing changes, and each stale one is reported. -/
theorem observe_clearStale_of_refused (refuses : world.ci.failCancels = true) :
    observe (clearStale (observed path) job current) world =
      ⟨⟨0, listedFailures
          (fun build =>
            refusedFailure? current build.refs (.ci (.refused (.cancelQueued build.id))))
          (fun build =>
            refusedFailure? current build.refs (.ci (.refused (.stop job build.number))))
          world.ci⟩,
        (.queued job :: (staleQueued current world.ci).map fun build => .cancelQueued build.id) ++
          (.started job :: (staleRunning current world.ci).map fun build => .stop job build.number),
        world⟩ := by
  have cancels (build : QueuedBuild) :
      observe ((observed path).ci.cancelQueued build.id) world =
        ⟨.error (.ci (.refused (.cancelQueued build.id))), [.cancelQueued build.id], world⟩ := by
    rw [observe_cancelQueued, CiState.cancelQueued, if_pos refuses]
  have stops (build : StartedBuild) :
      observe ((observed path).ci.stop job build.number) world =
        ⟨.error (.ci (.refused (.stop job build.number))), [.stop job build.number], world⟩ := by
    rw [observe_stop, CiState.stop, if_pos refuses]
  rw [observe_clearStale (observe_clearEach_of_refused cancels _)
    (observe_clearEach_of_refused stops _)]
  rfl

variable (path job current world) in
/-- Either way this is what becomes of the build server. -/
theorem ci_clearStale :
    (observe (clearStale (observed path) job current) world).after.ci =
      clearedCi job current world.ci := by
  rw [clearedCi]
  by_cases refuses : world.ci.failCancels = true
  · rw [observe_clearStale_of_refused refuses, if_pos refuses]
  · rw [observe_clearStale_of_accepted (Bool.eq_false_iff.mpr refuses), if_neg refuses,
      startedWithout, ← map_number_staleRunning, List.map_map]
    rfl

/-- With nothing to cancel, clearing changes nothing. -/
theorem observe_clearStale_of_nil (accepts : world.ci.failCancels = false)
    (noneQueued : staleQueued current world.ci = [])
    (noneRuns : staleRunning current world.ci = []) :
    ∃ failures, observe (clearStale (observed path) job current) world =
      ⟨⟨0, failures⟩, [.queued job, .started job], world⟩ := by
  refine ⟨listedFailures (unreadable? ·.refs) (unreadable? ·.refs) world.ci, ?_⟩
  rw [observe_clearStale_of_accepted accepts, noneQueued, noneRuns]
  simp only [List.map_nil, List.append_nil, dropAll_nil, haltAll_nil]
  rfl

end

/-! ## Exactness -/

section
variable {current : Patchsets} {before after : CiState}

/-- No stale build is left in the queue. -/
theorem staleQueued_eq_nil
    (left : after.queued = dropAll ((staleQueued current before).map (·.id)) before.queued) :
    staleQueued current after = [] := by
  have none : staleIds (toCancel current) after.queued = [] := by
    apply List.eq_nil_iff_forall_not_mem.mpr
    intro id member
    have isLeft : after.queued = queueWithout (toCancel current) before.queued := left
    rw [isLeft, mem_staleIds_queueWithout] at member
    exact member.1 member.2
  exact List.map_eq_nil_iff.mp none

/-- No stale build is left that runs. -/
theorem staleRunning_eq_nil
    (left : after.started =
      haltAll ((staleRunning current before).map (·.number)) before.started) :
    staleRunning current after = [] := by
  have none : staleNumbers (toCancel current) after.started = [] := by
    apply List.eq_nil_iff_forall_not_mem.mpr
    intro number member
    rw [left, map_number_staleRunning, ← startedWithout,
      mem_staleNumbers_startedWithout] at member
    exact member.1 member.2
  rw [← map_number_staleRunning] at none
  exact List.map_eq_nil_iff.mp none

end

/-- What clearing does where builds are cancelled. -/
structure CancelsExactly (path job : String) (current : Patchsets) (world : World)
    (cleared : Observation Cleared) : Prop where
  /-- The stale builds are cancelled as they are listed, the queued ones first, and no others. -/
  calls : cleared.calls =
    (.queued job :: (staleQueued current world.ci).flatMap cancelCalls) ++
      (.started job :: (staleRunning current world.ci).flatMap (stopCalls job))
  /-- Every cancelled build is counted. -/
  cancelled : cleared.answer.cancelled =
    (staleQueued current world.ci).length + (staleRunning current world.ci).length
  /-- The builds with refs that cannot be read are reported, and nothing else. -/
  failures : cleared.answer.failures =
    listedFailures (unreadable? ·.refs) (unreadable? ·.refs) world.ci
  /-- The queue is left without the builds that have a cancelled identifier. -/
  queue : cleared.after.ci.queued = world.ci.queued.filter fun build =>
    build.id ∉ (staleQueued current world.ci).map (·.id)
  /-- The started builds that have a stopped number no longer run, and the others are as before. -/
  started : cleared.after.ci.started = world.ci.started.map fun build =>
    if build.number ∈ (staleRunning current world.ci).map (·.number) then
      { build with building := false }
    else build
  /-- Apart from that the server only keeps a record of it, and it is made known. -/
  others : ∃ events, cleared.after =
    { world with
      ci :=
        { world.ci with
          queued := cleared.after.ci.queued
          started := cleared.after.ci.started
          cancelledQueued := world.ci.cancelledQueued ++ (staleQueued current world.ci).map (·.id)
          stopped := world.ci.stopped ++ (staleRunning current world.ci).map fun build =>
            (job, build.number) }
      events := world.events ++ events }
  /-- Clearing once more cancels nothing and changes nothing. -/
  again : ∃ failures, observe (clearStale (observed path) job current) cleared.after =
    ⟨⟨0, failures⟩, [.queued job, .started job], cleared.after⟩

/-- What clearing does where no build is cancelled. -/
structure ReportsRefusals (job : String) (current : Patchsets) (world : World)
    (cleared : Observation Cleared) : Prop where
  /-- It is tried for every stale build all the same. -/
  calls : cleared.calls =
    (.queued job :: (staleQueued current world.ci).map fun build => .cancelQueued build.id) ++
      (.started job :: (staleRunning current world.ci).map fun build => .stop job build.number)
  cancelled : cleared.answer.cancelled = 0
  /-- The builds that are stale or have refs that cannot be read are reported. -/
  failures : cleared.answer.failures = listedFailures
    (fun build => refusedFailure? current build.refs (.ci (.refused (.cancelQueued build.id))))
    (fun build => refusedFailure? current build.refs (.ci (.refused (.stop job build.number))))
    world.ci
  unchanged : cleared.after = world

/-- Clearing cancels exactly the stale builds or changes nothing, as the server allows. -/
theorem clearStale_exact (path job : String) (current : Patchsets) (world : World) :
    let cleared := observe (clearStale (observed path) job current) world
    (clearStale (services path) job current).run world = (cleared.answer, cleared.after) ∧
      (world.ci.failCancels = false → CancelsExactly path job current world cleared) ∧
      (world.ci.failCancels = true → ReportsRefusals job current world cleared) := by
  intro cleared
  refine ⟨?_, ?_, ?_⟩
  · have erased := Simulation.clearStale (erasure_serves_observed path) job current
    exact run_eq_of_erasure erased world
  · intro accepts
    have isCleared : cleared = _ := observe_clearStale_of_accepted accepts
    constructor
    case calls => rw [isCleared]
    case cancelled => rw [isCleared]
    case failures => rw [isCleared]
    case queue =>
      rw [isCleared]
      rfl
    case started =>
      rw [isCleared]
      rfl
    case others =>
      rw [isCleared]
      exact ⟨_, rfl⟩
    case again =>
      rw [isCleared]
      exact observe_clearStale_of_nil accepts (staleQueued_eq_nil rfl) (staleRunning_eq_nil rfl)
  · intro refuses
    have isCleared : cleared = _ := observe_clearStale_of_refused refuses
    constructor
    case calls => rw [isCleared]
    case cancelled => rw [isCleared]
    case failures => rw [isCleared]
    case unchanged => rw [isCleared]

/-- Of four queued builds and two that were started, one of each is stale. An identifier that is
listed twice is gone altogether, and refs that cannot be read are reported. -/
theorem clearStale_exact_of_mixed_builds :
    let refs (text : String) : ParamValues := .ofList [(refsParam, text)]
    let current := Patchsets.ofRefs [⟨7, 2⟩]
    let ci : CiState :=
      { queued := [⟨1, refs "a/b/c/7/1"⟩, ⟨2, refs "7/2"⟩, ⟨1, refs "a/b/c/8/1"⟩, ⟨3, ∅⟩]
        started := [⟨4, true, refs "a/b/c/7/1:a/b/c/8/1"⟩, ⟨5, false, refs "a/b/c/7/1"⟩] }
    let cleared := observe (clearStale (observed "log") "gate" current) { ci }
    let refused :=
      observe (clearStale (observed "log") "gate" current) { ci := { ci with failCancels := true } }
    (cleared.answer.cancelled = 2 ∧
      cleared.answer.failures = [.ref (.wrongShape "7/2" 2)] ∧
      cleared.after.ci.queued = [⟨2, refs "7/2"⟩, ⟨3, ∅⟩] ∧
      cleared.after.ci.started.map (·.building) = [false, false]) ∧
    refused.answer.cancelled = 0 ∧
      refused.answer.failures =
        [.ci (.refused (.cancelQueued 1)), .ref (.wrongShape "7/2" 2),
          .ci (.refused (.stop "gate" 4))] := by
  intro refs current ci cleared refused
  have accepted : CancelsExactly "log" "gate" current { ci } cleared :=
    (clearStale_exact "log" "gate" current { ci }).2.1 rfl
  have reported :
      ReportsRefusals "gate" current { ci := { ci with failCancels := true } } refused :=
    (clearStale_exact "log" "gate" current { ci := { ci with failCancels := true } }).2.2 rfl
  refine ⟨⟨?_, ?_, ?_, ?_⟩, reported.cancelled, ?_⟩
  · rw [accepted.cancelled]
    decide
  · rw [accepted.failures]
    decide
  · rw [accepted.queue]
    decide
  · rw [accepted.started]
    decide
  · rw [reported.failures]
    decide

end ChangeGate.Round
