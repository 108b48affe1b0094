import ChangeGate.Round.Run

/-!
# Rounds over related services

A round is one program for all services. When every operation of two collections of services is
related by a relation that sequencing keeps, the rounds over them are related too. Each program of
the round has a lemma of its own, along the calls that it makes.
-/

namespace ChangeGate.Round

open ChangeGate.Ci ChangeGate.Review ChangeGate.Service

/-! ## One loop for both places -/

section
variable {m : Type → Type} [Monad m] {Build : Type}

/-- Cancel the stale ones among some builds that each have refs and can be cancelled. -/
def clearEach (services : Services m) (current : Patchsets) (place : BuildPlace)
    (refs : Build → String) (cancel : Build → m (Except Failure Unit)) : List Build → m Cleared
  | [] => pure {}
  | build :: rest => do
      let first ← clearBuild services current place (refs build) (cancel build)
      let others ← clearEach services current place refs cancel rest
      pure (first.append others)

variable (services : Services m) (job : String) (current : Patchsets)

/-- Queued builds are gone through by this loop, and so are those that were started. -/
theorem clearQueued_eq (builds : List QueuedBuild) :
    clearQueued services current builds =
      clearEach services current .queue (·.refs) (fun build => services.ci.cancelQueued build.id)
        builds := by
  induction builds with
  | nil => rfl
  | cons build rest inductionHypothesis => rw [clearQueued, clearEach, inductionHypothesis]

theorem clearStarted_eq (builds : List StartedBuild) :
    clearStarted services job current builds =
      clearEach services current .running (·.refs) (fun build => services.ci.stop job build.number)
        builds := by
  induction builds with
  | nil => rfl
  | cons build rest inductionHypothesis => rw [clearStarted, clearEach, inductionHypothesis]

end

/-! ## Simulations -/

/-- A relation between computations in two monads that sequencing keeps. -/
structure Simulation (m n : Type → Type) [Monad m] [Monad n] where
  Related : {α : Type} → m α → n α → Prop
  related_pure : ∀ {α : Type} (answer : α), Related (pure answer) (pure answer)
  related_bind : ∀ {α β : Type} {first : m α} {other : n α} {next : α → m β} {otherNext : α → n β},
    Related first other → (∀ answer, Related (next answer) (otherNext answer)) →
      Related (first >>= next) (other >>= otherNext)

namespace Simulation

variable {m n : Type → Type} [Monad m] [Monad n]

/-- Services whose operations are related one by one. -/
structure Serves (simulation : Simulation m n) (services : Services m) (others : Services n) :
    Prop where
  query : ∀ text, simulation.Related (services.review.query text) (others.review.query text)
  post : ∀ message references verified,
    simulation.Related (services.review.post message references verified)
      (others.review.post message references verified)
  submit : ∀ references,
    simulation.Related (services.review.submit references) (others.review.submit references)
  queued : ∀ job, simulation.Related (services.ci.queued job) (others.ci.queued job)
  started : ∀ job, simulation.Related (services.ci.started job) (others.ci.started job)
  cancelQueued : ∀ id,
    simulation.Related (services.ci.cancelQueued id) (others.ci.cancelQueued id)
  stop : ∀ job number, simulation.Related (services.ci.stop job number) (others.ci.stop job number)
  start : ∀ job params,
    simulation.Related (services.ci.start job params) (others.ci.start job params)
  lastStatus : ∀ job, simulation.Related (services.ci.lastStatus job) (others.ci.lastStatus job)
  manualLink : ∀ job params, services.ci.manualLink job params = others.ci.manualLink job params
  logPath : services.log.path = others.log.path
  read : simulation.Related services.log.read others.log.read
  replace : ∀ content,
    simulation.Related (services.log.replace content) (others.log.replace content)
  emit : ∀ event, simulation.Related (services.emit event) (others.emit event)

variable {simulation : Simulation m n} {services : Services m} {others : Services n}

/-! ## The log -/

theorem loadSeen (serves : simulation.Serves services others) :
    simulation.Related services.loadSeen others.loadSeen :=
  simulation.related_bind serves.read fun _ => simulation.related_pure _

theorem saveSeen (serves : simulation.Serves services others) (seen : Patchsets) :
    simulation.Related (services.saveSeen seen) (others.saveSeen seen) := by
  apply simulation.related_bind (serves.replace _)
  intro answer
  cases answer with
  | ok => exact simulation.related_pure _
  | error cause => exact simulation.related_pure _

/-! ## Clearing -/

theorem clearBuild (serves : simulation.Serves services others) (current : Patchsets)
    (place : BuildPlace) (refs : String) {cancel : m (Except Failure Unit)}
    {otherCancel : n (Except Failure Unit)} (cancels : simulation.Related cancel otherCancel) :
    simulation.Related (Round.clearBuild services current place refs cancel)
      (Round.clearBuild others current place refs otherCancel) := by
  simp only [Round.clearBuild]
  split
  · exact simulation.related_pure _
  · split
    · exact simulation.related_pure _
    · exact simulation.related_pure _
    · apply simulation.related_bind cancels
      intro answer
      cases answer with
      | error failure => exact simulation.related_pure _
      | ok =>
          exact simulation.related_bind (serves.emit _) fun _ => simulation.related_pure _

theorem clearEach {Build : Type} (serves : simulation.Serves services others)
    (current : Patchsets) (place : BuildPlace) (refs : Build → String)
    {cancel : Build → m (Except Failure Unit)} {otherCancel : Build → n (Except Failure Unit)}
    (cancels : ∀ build, simulation.Related (cancel build) (otherCancel build))
    (builds : List Build) :
    simulation.Related (Round.clearEach services current place refs cancel builds)
      (Round.clearEach others current place refs otherCancel builds) := by
  induction builds with
  | nil => exact simulation.related_pure _
  | cons build rest inductionHypothesis =>
      apply simulation.related_bind (clearBuild serves current _ _ (cancels build))
      intro first
      exact simulation.related_bind inductionHypothesis fun _ => simulation.related_pure _

theorem clearQueued (serves : simulation.Serves services others) (current : Patchsets)
    (builds : List QueuedBuild) :
    simulation.Related (Round.clearQueued services current builds)
      (Round.clearQueued others current builds) := by
  rw [clearQueued_eq, clearQueued_eq]
  exact clearEach serves current _ _ (fun build => serves.cancelQueued build.id) builds

theorem clearStarted (serves : simulation.Serves services others) (job : String)
    (current : Patchsets) (builds : List StartedBuild) :
    simulation.Related (Round.clearStarted services job current builds)
      (Round.clearStarted others job current builds) := by
  rw [clearStarted_eq, clearStarted_eq]
  exact clearEach serves current _ _ (fun build => serves.stop job build.number) builds

theorem clearQueue (serves : simulation.Serves services others) (job : String)
    (current : Patchsets) :
    simulation.Related (Round.clearQueue services job current)
      (Round.clearQueue others job current) := by
  apply simulation.related_bind (serves.queued job)
  intro answer
  cases answer with
  | error failure => exact simulation.related_pure _
  | ok builds => exact clearQueued serves current builds

theorem clearRunning (serves : simulation.Serves services others) (job : String)
    (current : Patchsets) :
    simulation.Related (Round.clearRunning services job current)
      (Round.clearRunning others job current) := by
  apply simulation.related_bind (serves.started job)
  intro answer
  cases answer with
  | error failure => exact simulation.related_pure _
  | ok builds => exact clearStarted serves job current _

theorem clearStale (serves : simulation.Serves services others) (job : String)
    (current : Patchsets) :
    simulation.Related (Round.clearStale services job current)
      (Round.clearStale others job current) := by
  apply simulation.related_bind (clearQueue serves job current)
  intro queue
  exact simulation.related_bind (clearRunning serves job current) fun _ =>
    simulation.related_pure _

/-! ## The gate -/

theorem failAttempt (serves : simulation.Serves services others) (attempt : Attempt)
    (failure : Failure) :
    simulation.Related (Round.failAttempt services attempt failure)
      (Round.failAttempt others attempt failure) :=
  simulation.related_bind (serves.emit _) fun _ => simulation.related_pure _

theorem skipWithPost (serves : simulation.Serves services others) (group : Group)
    (message : String) (verified : Bool) (attempt : Attempt) (reason : SkipReason) :
    simulation.Related (Round.skipWithPost services group message verified attempt reason)
      (Round.skipWithPost others group message verified attempt reason) := by
  apply simulation.related_bind (serves.post message group.references verified)
  intro answer
  cases answer with
  | ok => exact simulation.related_pure _
  | error failure => exact failAttempt serves attempt failure

theorem emitFailures (serves : simulation.Serves services others) (failures : List Failure) :
    simulation.Related (Round.emitFailures services failures)
      (Round.emitFailures others failures) := by
  induction failures with
  | nil => exact simulation.related_pure _
  | cons failure rest inductionHypothesis =>
      exact simulation.related_bind (serves.emit _) fun _ => inductionHypothesis

theorem startBuild (serves : simulation.Serves services others) (job : String) (group : Group)
    (params : BuildParams) (tests : List String) :
    simulation.Related (Round.startBuild services job group params tests)
      (Round.startBuild others job group params tests) := by
  apply simulation.related_bind (clearStale serves job group.patchsets)
  intro cleared
  apply simulation.related_bind (emitFailures serves cleared.failures)
  intro _
  apply simulation.related_bind (serves.start job params)
  intro answer
  cases answer with
  | ok => exact simulation.related_pure _
  | error failure => exact failAttempt serves .startBuild failure

theorem carryOut (serves : simulation.Serves services others) (job : String) (group : Group)
    (verdict : Verdict) :
    simulation.Related (Round.carryOut services job group verdict)
      (Round.carryOut others job group verdict) := by
  cases verdict with
  | empty => exact simulation.related_pure _
  | optedOut => exact skipWithPost serves group _ _ _ _
  | noTests => exact skipWithPost serves group _ _ _ _
  | askPerson params =>
      simp only [Round.carryOut]
      rw [serves.manualLink]
      exact skipWithPost serves group _ _ _ _
  | build params tests => exact startBuild serves job group params tests

theorem handleGroup (serves : simulation.Serves services others) (settings : Settings)
    (group : Group) :
    simulation.Related (Round.handleGroup settings services group)
      (Round.handleGroup settings others group) := by
  apply simulation.related_bind (carryOut serves settings.ci.job _ _)
  intro outcome
  exact simulation.related_bind (serves.emit _) fun _ => simulation.related_pure _

theorem handleGroups (serves : simulation.Serves services others) (settings : Settings)
    (groups : List Group) :
    simulation.Related (Round.handleGroups settings services groups)
      (Round.handleGroups settings others groups) := by
  induction groups with
  | nil => exact simulation.related_pure _
  | cons group rest inductionHypothesis =>
      apply simulation.related_bind (handleGroup serves settings group)
      intro report
      exact simulation.related_bind inductionHypothesis fun _ => simulation.related_pure _

theorem reportRejected (serves : simulation.Serves services others) (rejected : RejectedSet) :
    simulation.Related (Round.reportRejected services rejected)
      (Round.reportRejected others rejected) := by
  apply simulation.related_bind (serves.post _ _ _)
  intro answer
  cases answer with
  | ok => exact simulation.related_pure _
  | error failure =>
      exact simulation.related_bind (serves.emit _) fun _ => simulation.related_pure _

theorem reportAllRejected (serves : simulation.Serves services others)
    (rejected : List RejectedSet) :
    simulation.Related (Round.reportAllRejected services rejected)
      (Round.reportAllRejected others rejected) := by
  induction rejected with
  | nil => exact simulation.related_pure _
  | cons first rest inductionHypothesis =>
      apply simulation.related_bind (reportRejected serves first)
      intro posted
      exact simulation.related_bind inductionHypothesis fun _ => simulation.related_pure _

/-! ## The round -/

theorem landAll (serves : simulation.Serves services others) (groups : List Group) :
    simulation.Related (Round.landAll services groups) (Round.landAll others groups) := by
  induction groups with
  | nil => exact simulation.related_pure _
  | cons group rest inductionHypothesis =>
      apply simulation.related_bind (serves.submit group.references)
      intro answer
      cases answer with
      | error failure => exact simulation.related_pure _
      | ok =>
          apply simulation.related_bind (serves.emit _)
          intro _
          apply simulation.related_bind inductionHypothesis
          intro landed
          cases landed with
          | error failure => exact simulation.related_pure _
          | ok others => exact simulation.related_pure _

theorem finish (serves : simulation.Serves services others) (report : Report) :
    simulation.Related (Round.finish services report) (Round.finish others report) :=
  simulation.related_bind (serves.emit _) fun _ => simulation.related_pure _

theorem stop (serves : simulation.Serves services others) (reason : StopReason) :
    simulation.Related (Round.stop services reason) (Round.stop others reason) :=
  simulation.related_bind (serves.emit _) fun _ => finish serves _

theorem lastBuildFailed (serves : simulation.Serves services others) (settings : Settings) :
    simulation.Related (Round.lastBuildFailed settings services)
      (Round.lastBuildFailed settings others) := by
  simp only [Round.lastBuildFailed]
  split
  · apply simulation.related_bind (serves.lastStatus _)
    intro answer
    cases answer with
    | ok status => exact simulation.related_pure _
    | error failure =>
        exact simulation.related_bind (serves.emit _) fun _ => simulation.related_pure _
  · exact simulation.related_pure _

theorem handleChanges (serves : simulation.Serves services others) (settings : Settings)
    (seen : Patchsets) (changes : List Change) :
    simulation.Related (Round.handleChanges settings services seen changes)
      (Round.handleChanges settings others seen changes) := by
  apply simulation.related_bind (reportAllRejected serves _)
  intro reportedSets
  apply simulation.related_bind (handleGroups serves settings _)
  intro groups
  apply simulation.related_bind (saveSeen serves _)
  intro saved
  cases saved with
  | error failure => exact simulation.related_pure _
  | ok =>
      apply simulation.related_bind (landAll serves _)
      intro landed
      cases landed with
      | error failure => exact simulation.related_pure _
      | ok submitted => exact finish serves _

theorem proceed (serves : simulation.Serves services others) (settings : Settings)
    (seen : Patchsets) (changes : List Change) :
    simulation.Related (Round.proceed settings services seen changes)
      (Round.proceed settings others seen changes) := by
  simp only [Round.proceed]
  split
  · exact handleChanges serves settings seen changes
  · apply simulation.related_bind (saveSeen serves _)
    intro saved
    cases saved with
    | error failure => exact simulation.related_pure _
    | ok => exact stop serves _

theorem compareWithSeen (serves : simulation.Serves services others) (settings : Settings) :
    simulation.Related (Round.compareWithSeen settings services)
      (Round.compareWithSeen settings others) := by
  apply simulation.related_bind (loadSeen serves)
  intro loaded
  cases loaded with
  | error failure => exact simulation.related_pure _
  | ok seen =>
      apply simulation.related_bind (serves.query _)
      intro answer
      cases answer with
      | error failure => exact simulation.related_pure _
      | ok changes => exact proceed serves settings seen changes

/-- Rounds over related services are related. -/
theorem run (serves : simulation.Serves services others) (settings : Settings) :
    simulation.Related (Round.run settings services) (Round.run settings others) := by
  simp only [Round.run]
  rw [serves.logPath]
  apply simulation.related_bind (serves.emit _)
  intro _
  apply simulation.related_bind (lastBuildFailed serves settings)
  intro failed
  cases failed with
  | true => exact stop serves .lastBuildFailed
  | false => exact compareWithSeen serves settings

end Simulation

end ChangeGate.Round
