import ChangeGate.Proofs.Memory.Records
import ChangeGate.Proofs.Memory.Rounds

/-!
# Rounds that leave no trace

A round that runs after a failed last build has only looked and told. Any number of such rounds can
be left out of a session: every other step shows the same, and whatever is done later shows the same
too. What the session would have handled then is handled by the first round after a build that did
not fail.
-/

namespace ChangeGate.Memory

open ChangeGate.Ci ChangeGate.Review ChangeGate.Round ChangeGate.Service

/-- What is done in a session. -/
inductive Action where
  | setUp (setup : Setup)
  | take (step : Step)
  deriving DecidableEq

/-- What a step shows: its answer, and the world after it, in which only the step is recorded. -/
structure Shown where
  answer : Answer
  world : World

namespace Session

/-- The session after something is done in it. -/
def act (session : Session) : Action → Session
  | .setUp setup => session.setUp setup
  | .take step => (session.step step).2

/-- The session after everything is done in it, in order. -/
def played (session : Session) (actions : List Action) : Session :=
  actions.foldl act session

/-- What is shown where something is done; where something is set up, nothing is. -/
def shown? (session : Session) : Action → Option Shown
  | .setUp _ => none
  | .take step =>
      let (answer, after) := session.forget.step step
      some ⟨answer, after.world⟩

/-- What is shown in the course of a session, in order. -/
def transcript (session : Session) : List Action → List (Option Shown)
  | [] => []
  | action :: rest => session.shown? action :: (session.act action).transcript rest

end Session

/-- The entries of a list that are marked to be kept. -/
def kept {α : Type} (marks : List Bool) (entries : List α) : List α :=
  ((marks.zip entries).filter (·.1)).map (·.2)

@[simp] theorem kept_nil {α : Type} (marks : List Bool) : kept marks ([] : List α) = [] := by
  simp [kept]

@[simp] theorem kept_cons {α : Type} (mark : Bool) (marks : List Bool) (entry : α)
    (entries : List α) :
    kept (mark :: marks) (entry :: entries) =
      if mark then entry :: kept marks entries else kept marks entries := by
  cases mark <;> rfl

namespace Session

/-- Every action of a session is marked, and what is not kept is a round that runs while the last
completed build is known to have failed. -/
def LeavesOutRed : Session → List Action → List Bool → Prop
  | _, [], [] => True
  | session, action :: rest, mark :: marks =>
      (mark = false → action = .take .run ∧ Red session.settings session.world) ∧
        (session.act action).LeavesOutRed rest marks
  | _, _, _ => False

/-- Two sessions are the same but for the events that were made known in them. -/
def SameButEvents (first second : Session) : Prop :=
  ∃ events, second = { first with world := { first.world with events } }

/-! ## Single actions -/

namespace SameButEvents

variable {first second : Session}

theorem refl (session : Session) : SameButEvents session session := ⟨session.world.events, rfl⟩

theorem of_left {third : Session} (same : SameButEvents first second)
    (sameThird : SameButEvents first third) : SameButEvents second third := by
  obtain ⟨_, rfl⟩ := same
  obtain ⟨events, rfl⟩ := sameThird
  exact ⟨events, rfl⟩

/-- Nothing shows which events were made known before. -/
theorem shown?_eq (same : SameButEvents first second) (action : Action) :
    second.shown? action = first.shown? action := by
  obtain ⟨_, rfl⟩ := same
  rfl

/-- The same action leads to sessions that are the same but for their events. -/
theorem act (same : SameButEvents first second) (action : Action) :
    SameButEvents (first.act action) (second.act action) := by
  obtain ⟨events, rfl⟩ := same
  cases action with
  | setUp setup =>
      cases setup with
      | _ => exact ⟨_, rfl⟩
  | take step =>
      rw [Session.act, Session.act, first.step_eq_of_forget,
        ({ first with world := { first.world with events } } : Session).step_eq_of_forget]
      exact ⟨_, rfl⟩

theorem transcript_eq (same : SameButEvents first second) (actions : List Action) :
    second.transcript actions = first.transcript actions := by
  induction actions generalizing first second with
  | nil => rfl
  | cons action rest inductionHypothesis =>
      rw [transcript, transcript, same.shown?_eq action, inductionHypothesis (same.act action)]

end SameButEvents

/-- A round after a failed last build changes nothing but the events. -/
theorem sameButEvents_run_of_red {session : Session} (red : Red session.settings session.world) :
    SameButEvents session (session.act (.take .run)) := by
  obtain ⟨-, ⟨events, after⟩, -⟩ := observe_run_of_red session.settings.gate.logFile red
  have world : (session.step .run).2.world = { session.world with events } :=
    session.world_step_run.trans after
  refine ⟨events, ?_⟩
  rw [← world]
  rfl

/-! ## Whole sessions -/

/-- Leaving rounds out keeps a session the same as one with them, but for the events. -/
theorem played_and_transcript_kept {first second : Session} (same : SameButEvents first second)
    {actions : List Action} {marks : List Bool} (leavesOut : first.LeavesOutRed actions marks) :
    SameButEvents (first.played actions) (second.played (kept marks actions)) ∧
      second.transcript (kept marks actions) = kept marks (first.transcript actions) := by
  -- By induction on the actions: both sessions take those that are kept, and only the first takes a
  -- round that is left out, which changes nothing but its events.
  induction actions generalizing first second marks with
  | nil => exact ⟨by simpa [played] using same, by simp [transcript]⟩
  | cons action rest inductionHypothesis =>
      match marks with
      | true :: marks =>
          obtain ⟨-, others⟩ := leavesOut
          obtain ⟨sameAfter, transcripts⟩ := inductionHypothesis (same.act action) others
          refine ⟨by simpa [played] using sameAfter, ?_⟩
          simp only [kept_cons, if_true, transcript, transcripts, same.shown?_eq action]
      | false :: marks =>
          obtain ⟨isOut, others⟩ := leavesOut
          obtain ⟨rfl, red⟩ := isOut rfl
          obtain ⟨sameAfter, transcripts⟩ :=
            inductionHypothesis ((sameButEvents_run_of_red red).of_left same) others
          refine ⟨by simpa [played] using sameAfter, ?_⟩
          simpa [transcript] using transcripts

/-- The rounds that are left out of a session leave no trace in it. -/
structure Traceless (session : Session) (actions : List Action) (marks : List Bool) : Prop where
  /-- Every other step shows the same. -/
  shown : session.transcript (kept marks actions) = kept marks (session.transcript actions)
  /-- Both servers with all that they recorded, and the log, are the same in the end. -/
  final : SameButEvents (session.played actions) (session.played (kept marks actions))
  /-- Whatever is done later shows the same. -/
  later : ∀ more, (session.played (kept marks actions)).transcript more =
    (session.played actions).transcript more

/-- Any number of rounds after failed builds leave no trace in a session. -/
theorem traceless_of_leavesOutRed {session : Session} {actions : List Action} {marks : List Bool}
    (leavesOut : session.LeavesOutRed actions marks) : session.Traceless actions marks := by
  obtain ⟨final, shown⟩ := played_and_transcript_kept (SameButEvents.refl session) leavesOut
  exact ⟨shown, final, final.transcript_eq⟩

/-- A change is first listed while the last build failed, and two rounds run before one did not. -/
theorem traceless_of_two_red_rounds :
    let settings : Settings := { ci := { host := "http://ci" } }
    let session : Session := { settings, world := { log := .file "refs/changes/01/1/1\n".toUTF8 } }
    let change : Change := { number := 7, patchset := 2, project := "p", owner := "a@x.org" }
    let actions : List Action :=
      [.setUp (.lastStatus ⟨3, some "FAILURE"⟩), .take .run, .setUp (.changes [change]), .take .load,
        .take .run, .setUp (.lastStatus ⟨4, some "SUCCESS"⟩), .take .run]
    let marks := [true, false, true, true, false, true, true]
    session.LeavesOutRed actions marks ∧ session.Traceless actions marks := by
  intro settings session change actions marks
  have leavesOut : session.LeavesOutRed actions marks := by
    have firstRed : Red settings (session.played (actions.take 1)).world := by decide
    have secondRed : Red settings (session.played (actions.take 4)).world := by decide
    exact ⟨by simp, fun _ => ⟨rfl, firstRed⟩, by simp, by simp, fun _ => ⟨rfl, secondRed⟩, by simp,
      by simp, trivial⟩
  exact ⟨leavesOut, traceless_of_leavesOutRed leavesOut⟩

end Session

end ChangeGate.Memory
