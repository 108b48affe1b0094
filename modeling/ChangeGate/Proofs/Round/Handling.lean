import ChangeGate.Proofs.Memory.Review
import ChangeGate.Proofs.Round.Clearing
import ChangeGate.Round.Gate

/-!
# What handling may do

Reporting rejected sets and handling groups posts and works on the builds, and leaves the log, the
open changes and what was submitted as they are. Each rejected set takes exactly one attempt to
post, and each group makes one outcome known, in order.
-/

namespace ChangeGate.Round

open ChangeGate.Ci ChangeGate.Memory ChangeGate.Review ChangeGate.Service

/-- Handling: posts are added, builds are added and cancelled, and events are made known. Rejected
sets are reported only where `rejections` holds, and the outcome of a group is made known only
where `outcomes` does. -/
def handling (rejections outcomes : Prop) : Discipline where
  Within before after := ∃ posts queued started added cancelledQueued stopped events,
    after =
      { before with
        review := { before.review with posts }
        ci := { before.ci with queued, started, added, cancelledQueued, stopped }
        events }
  Allows
    | .post message _ _ => rejections ∨ ∀ rejected, message ≠ rejectedMessage rejected
    | .queued _ => True
    | .started _ => True
    | .cancelQueued _ => True
    | .stop .. => True
    | .start .. => True
    | .emit (.groupOutcome ..) => outcomes
    | .emit (.buildCancelled ..) => True
    | .emit (.recoverableError ..) => True
    | _ => False
  refl _ := ⟨_, _, _, _, _, _, _, rfl⟩
  trans := by
    rintro first second third ⟨_, _, _, _, _, _, _, rfl⟩ ⟨_, _, _, _, _, _, _, rfl⟩
    exact ⟨_, _, _, _, _, _, _, rfl⟩

variable {rejections outcomes : Prop} {path : String}

/-! ## Messages -/

/-- A text starts as its first part does. -/
theorem head?_append {first : Char} {text : String} (rest : String)
    (starts : text.toList.head? = some first) : (text ++ rest).toList.head? = some first := by
  rw [String.toList_append, List.head?_append, starts, Option.some_or]

theorem head?_rejectedMessage (rejected : RejectedSet) :
    (rejectedMessage rejected).toList.head? = some 'f' := by
  have starts : "failed to process multi-part CL ".toList.head? = some 'f' := by decide
  exact head?_append _ (head?_append _ (head?_append _ (head?_append _ starts)))

theorem head?_manualMessage (link : String) :
    (manualMessage link).toList.head? = some 'A' := by
  have starts :
      "A team member will manually trigger presubmit tests for this change:\n".toList.head? =
        some 'A' := by decide
  exact head?_append _ (head?_append _ starts)

/-- A message that starts in another way reports no rejected set. -/
theorem ne_rejectedMessage {message : String} {first : Char}
    (starts : message.toList.head? = some first) (other : first ≠ 'f') (rejected : RejectedSet) :
    message ≠ rejectedMessage rejected := by
  intro same
  rw [same, head?_rejectedMessage] at starts
  exact other (Option.some.inj starts).symm

/-! ## Single calls -/

theorem handling_governs_emit {event : Event}
    (allowed : (handling rejections outcomes).Allows (.emit event)) :
    (handling rejections outcomes).Governs ((observed path).emit event) :=
  Discipline.governs_call allowed (fun _ => rfl) fun _ => ⟨_, _, _, _, _, _, _, rfl⟩

theorem handling_governs_post {message : String} (references : List String) (verified : Bool)
    (other : rejections ∨ ∀ rejected, message ≠ rejectedMessage rejected) :
    (handling rejections outcomes).Governs
      ((observed path).review.post message references verified) := by
  have allowed : (handling rejections outcomes).Allows (.post message references verified) := other
  apply Discipline.governs_call allowed (fun _ => rfl)
  intro world
  rw [observe_post, ReviewState.post_eq]
  exact ⟨_, _, _, _, _, _, _, rfl⟩

theorem handling_governs_start (job : String) (params : BuildParams) :
    (handling rejections outcomes).Governs ((observed path).ci.start job params) := by
  have allowed : (handling rejections outcomes).Allows (.start job params) := trivial
  apply Discipline.governs_call allowed (fun _ => rfl)
  intro world
  rw [observe_start, CiState.start]
  split
  · exact (handling rejections outcomes).refl world
  · exact ⟨_, _, _, _, _, _, _, rfl⟩

/-- Clearing is handling. -/
theorem handling_governs_clearStale (job : String) (current : Patchsets) :
    (handling rejections outcomes).Governs (clearStale (observed path) job current) := by
  apply (clearing_governs_clearStale path job current).mono
  · rintro before after ⟨_, _, _, _, _, rfl⟩
    exact ⟨_, _, _, _, _, _, _, rfl⟩
  · intro call allowed
    cases call with
    | emit event =>
        cases event with
        | buildCancelled => trivial
        | recoverableError => trivial
        | _ => exact absurd allowed id
    | queued => trivial
    | started => trivial
    | cancelQueued => trivial
    | stop => trivial
    | _ => exact absurd allowed id

/-! ## Groups and rejected sets -/

theorem handling_governs_failAttempt (attempt : Attempt) (failure : Failure) :
    (handling rejections outcomes).Governs (failAttempt (observed path) attempt failure) := by
  have told : (handling rejections outcomes).Allows
      (.emit (.recoverableError attempt failure)) := trivial
  exact Discipline.governs_bind (handling_governs_emit told) fun _ => Discipline.governs_pure _

theorem handling_governs_skipWithPost (group : Group) {message : String} (verified : Bool)
    (attempt : Attempt) (reason : SkipReason)
    (other : ∀ rejected, message ≠ rejectedMessage rejected) :
    (handling rejections outcomes).Governs
      (skipWithPost (observed path) group message verified attempt reason) := by
  apply Discipline.governs_bind
    (handling_governs_post group.references verified (Or.inr other))
  intro answer
  cases answer with
  | ok => exact Discipline.governs_pure _
  | error failure => exact handling_governs_failAttempt attempt failure

theorem handling_governs_emitFailures (failures : List Failure) :
    (handling rejections outcomes).Governs (emitFailures (observed path) failures) := by
  induction failures with
  | nil => exact Discipline.governs_pure _
  | cons failure rest inductionHypothesis =>
      have told : (handling rejections outcomes).Allows
          (.emit (.recoverableError .cancelStale failure)) := trivial
      exact Discipline.governs_bind (handling_governs_emit told) fun _ => inductionHypothesis

theorem handling_governs_startBuild (job : String) (group : Group) (params : BuildParams)
    (tests : List String) :
    (handling rejections outcomes).Governs (startBuild (observed path) job group params tests) := by
  apply Discipline.governs_bind (handling_governs_clearStale job group.patchsets)
  intro cleared
  apply Discipline.governs_bind (handling_governs_emitFailures cleared.failures)
  intro _
  apply Discipline.governs_bind (handling_governs_start job params)
  intro answer
  cases answer with
  | ok => exact Discipline.governs_pure _
  | error failure => exact handling_governs_failAttempt .startBuild failure

theorem handling_governs_carryOut (job : String) (group : Group) (verdict : Verdict) :
    (handling rejections outcomes).Governs (carryOut (observed path) job group verdict) := by
  cases verdict with
  | empty => exact Discipline.governs_pure _
  | optedOut =>
      have starts : optedOutMessage.toList.head? = some 'P' := by decide
      exact handling_governs_skipWithPost group _ _ _ (ne_rejectedMessage starts (by decide))
  | noTests =>
      have starts : noTestsMessage.toList.head? = some 'N' := by decide
      exact handling_governs_skipWithPost group _ _ _ (ne_rejectedMessage starts (by decide))
  | askPerson params =>
      have starts := head?_manualMessage ((observed path).ci.manualLink job params)
      exact handling_governs_skipWithPost group _ _ _ (ne_rejectedMessage starts (by decide))
  | build params tests => exact handling_governs_startBuild job group params tests

theorem handling_governs_handleGroup (settings : Settings) (group : Group) :
    (handling rejections True).Governs (handleGroup settings (observed path) group) := by
  apply Discipline.governs_bind (handling_governs_carryOut settings.ci.job _ _)
  intro outcome
  have told : (handling rejections True).Allows
      (.emit (.groupOutcome (considered settings group).label outcome.state)) := trivial
  exact Discipline.governs_bind (handling_governs_emit told) fun _ => Discipline.governs_pure _

theorem handling_governs_handleGroups (settings : Settings) (groups : List Group) :
    (handling rejections True).Governs (handleGroups settings (observed path) groups) := by
  induction groups with
  | nil => exact Discipline.governs_pure _
  | cons group rest inductionHypothesis =>
      apply Discipline.governs_bind (handling_governs_handleGroup settings group)
      intro report
      exact Discipline.governs_bind inductionHypothesis fun _ => Discipline.governs_pure _

theorem handling_governs_reportRejected (rejected : RejectedSet) :
    (handling True outcomes).Governs (reportRejected (observed path) rejected) := by
  apply Discipline.governs_bind (handling_governs_post _ _ (Or.inl trivial))
  intro answer
  cases answer with
  | ok => exact Discipline.governs_pure _
  | error failure =>
      have told : (handling True outcomes).Allows
          (.emit (.recoverableError .reportRejected failure)) := trivial
      exact Discipline.governs_bind (handling_governs_emit told) fun _ => Discipline.governs_pure _

theorem handling_governs_reportAllRejected (rejected : List RejectedSet) :
    (handling True outcomes).Governs (reportAllRejected (observed path) rejected) := by
  induction rejected with
  | nil => exact Discipline.governs_pure _
  | cons first rest inductionHypothesis =>
      apply Discipline.governs_bind (handling_governs_reportRejected first)
      intro posted
      exact Discipline.governs_bind inductionHypothesis fun _ => Discipline.governs_pure _

/-! ## What the journal says -/

/-- The outcome of a group that a call makes known. -/
def outcome? : Call → Option (String × GroupState)
  | .emit (.groupOutcome group state) => some (group, state)
  | _ => none

/-- The call posts a message, or tries to. -/
def isPost : Call → Bool
  | .post .. => true
  | _ => false

/-- The attempt to report a rejected set. -/
def rejectionPost (rejected : RejectedSet) : Call :=
  .post (rejectedMessage rejected) [rejected.change.reference] false

/-- Handling that keeps outcomes to itself makes none known. -/
theorem outcome?_of_allows {call : Call} (allowed : (handling True False).Allows call) :
    outcome? call = none := by
  cases call with
  | emit event =>
      cases event with
      | groupOutcome => exact absurd allowed id
      | _ => rfl
  | _ => rfl

/-- Handling that reports no rejected set makes no attempt to. -/
theorem ne_rejectionPost_of_allows {call : Call} (allowed : (handling False outcomes).Allows call)
    (rejected : RejectedSet) : call ≠ rejectionPost rejected := by
  intro isReport
  rw [isReport] at allowed
  exact allowed.elim id fun other => other rejected rfl

theorem filterMap_outcome?_of_governs {α : Type} {program : JournalT WorldM α}
    (governed : (handling True False).Governs program) (world : World) :
    (observe program world).calls.filterMap outcome? = [] := by
  rw [List.filterMap_eq_nil_iff]
  intro call member
  exact outcome?_of_allows ((governed world).2 call member)

variable (path)

/-- Handling a group makes one outcome known, that of its report. -/
theorem outcomes_handleGroup (settings : Settings) (group : Group) (world : World) :
    let handled := observe (handleGroup settings (observed path) group) world
    handled.answer.group = (considered settings group).label ∧
      handled.calls.filterMap outcome? =
        [(handled.answer.group, handled.answer.outcome.state)] := by
  have quiet : (observe (carryOut (observed path) settings.ci.job (considered settings group)
      (verdict settings (considered settings group))) world).calls.filterMap outcome? = [] :=
    filterMap_outcome?_of_governs (handling_governs_carryOut _ _ _) world
  refine ⟨rfl, ?_⟩
  -- Carrying out the verdict tells no outcome, so the one told at the end is the only one.
  rw [handleGroup, observe_bind, observe_bind, observe_emit, observe_pure]
  rw [List.filterMap_append, quiet]
  rfl

/-- Handling groups makes the outcome of each known, in order. -/
theorem outcomes_handleGroups (settings : Settings) (groups : List Group) (world : World) :
    let handled := observe (handleGroups settings (observed path) groups) world
    handled.answer.map (·.group) = groups.map (fun group => (considered settings group).label) ∧
      handled.calls.filterMap outcome? =
        handled.answer.map fun report => (report.group, report.outcome.state) := by
  induction groups generalizing world with
  | nil => exact ⟨rfl, rfl⟩
  | cons group rest inductionHypothesis =>
      obtain ⟨label, outcome⟩ := outcomes_handleGroup path settings group world
      obtain ⟨labels, others⟩ :=
        inductionHypothesis (observe (handleGroup settings (observed path) group) world).after
      rw [handleGroups]
      simp only [observe_bind, observe_pure, List.append_nil, List.map_cons,
        List.filterMap_append]
      rw [labels, others, outcome]
      exact ⟨congrArg (· :: _) label, rfl⟩

/-- Reporting rejected sets makes one attempt to post for each, in order. -/
theorem posts_reportAllRejected (rejected : List RejectedSet) (world : World) :
    (observe (reportAllRejected (observed path) rejected) world).calls.filter isPost =
      rejected.map rejectionPost := by
  induction rejected generalizing world with
  | nil => rfl
  | cons first rest inductionHypothesis =>
      have attempt : (observe (reportRejected (observed path) first) world).calls.filter isPost =
          [rejectionPost first] := by
        rw [reportRejected, observe_bind, observe_post]
        cases (world.review.post (rejectedMessage first) false [first.change.reference]).1 with
        | ok => rfl
        | error failure => rfl
      rw [reportAllRejected]
      simp only [observe_bind, observe_pure, List.append_nil, List.filter_append, attempt,
        inductionHypothesis, List.map_cons, List.singleton_append]

end ChangeGate.Round
