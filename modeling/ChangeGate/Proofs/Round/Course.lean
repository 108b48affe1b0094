import ChangeGate.Proofs.Memory.Review
import ChangeGate.Proofs.Round.Handling
import ChangeGate.Round.Run

/-!
# The course of a round

A round looks at the last build, reads the log and the open changes, and goes on with them. There
is one equation for each way it can go. Before it goes on it changes nothing but the events and
the record of queries; what it does after the log was replaced leaves the log and the builds
alone.
-/

namespace ChangeGate.Round

open ChangeGate.Ci ChangeGate.Memory ChangeGate.Review ChangeGate.Service

/-! ## Looking and telling -/

/-- Looking at the last build and at the log and telling of it: nothing but the events
changes. -/
def telling : Discipline where
  Within before after := ∃ events, after = { before with events }
  Allows
    | .lastStatus _ => True
    | .read => True
    | .emit (.groupOutcome ..) => False
    | .emit (.buildCancelled ..) => False
    | .emit _ => True
    | _ => False
  refl _ := ⟨_, rfl⟩
  trans := by
    rintro first second third ⟨_, rfl⟩ ⟨_, rfl⟩
    exact ⟨_, rfl⟩

variable {path : String}

theorem telling_governs_emit {event : Event} (allowed : telling.Allows (.emit event)) :
    telling.Governs ((observed path).emit event) :=
  Discipline.governs_call allowed (fun _ => rfl) fun _ => ⟨_, rfl⟩

theorem telling_governs_finish (report : Report) :
    telling.Governs (finish (observed path) report) := by
  have told : telling.Allows (.emit report.finishedEvent) := trivial
  exact Discipline.governs_bind (telling_governs_emit told) fun _ => Discipline.governs_pure _

theorem telling_governs_stop (reason : StopReason) :
    telling.Governs (stop (observed path) reason) := by
  have told : telling.Allows (.emit (.runSkipped reason)) := trivial
  exact Discipline.governs_bind (telling_governs_emit told) fun _ => telling_governs_finish _

theorem telling_governs_lastBuildFailed (settings : Settings) :
    telling.Governs (lastBuildFailed settings (observed path)) := by
  have allowed : telling.Allows (.lastStatus settings.ci.job) := trivial
  have looks : telling.Governs ((observed path).ci.lastStatus settings.ci.job) :=
    Discipline.governs_call allowed (fun _ => rfl) telling.refl
  rw [lastBuildFailed]
  split
  · apply Discipline.governs_bind looks
    intro answer
    cases answer with
    | ok status => exact Discipline.governs_pure _
    | error failure =>
        have told : telling.Allows (.emit (.recoverableError .readStatus failure)) := trivial
        exact Discipline.governs_bind (telling_governs_emit told) fun _ =>
          Discipline.governs_pure _
  · exact Discipline.governs_pure _

/-! ## Landing -/

/-- Landing: changes are submitted and events are made known. -/
def landing : Discipline where
  Within before after := ∃ submits events,
    after = { before with review := { before.review with submits }, events }
  Allows
    | .submit _ => True
    | .emit (.groupOutcome ..) => False
    | .emit (.buildCancelled ..) => False
    | .emit _ => True
    | _ => False
  refl _ := ⟨_, _, rfl⟩
  trans := by
    rintro first second third ⟨_, _, rfl⟩ ⟨_, _, rfl⟩
    exact ⟨_, _, rfl⟩

theorem landing_governs_emit {event : Event} (allowed : landing.Allows (.emit event)) :
    landing.Governs ((observed path).emit event) :=
  Discipline.governs_call allowed (fun _ => rfl) fun _ => ⟨_, _, rfl⟩

theorem landing_governs_submit (references : List String) :
    landing.Governs ((observed path).review.submit references) := by
  have allowed : landing.Allows (.submit references) := trivial
  apply Discipline.governs_call allowed (fun _ => rfl)
  intro world
  obtain ⟨⟨submits, after⟩, -⟩ := ReviewState.submit_cases references world.review
  exact ⟨submits, world.events, by rw [observe_submit, after]⟩

theorem landing_governs_landAll (groups : List Group) :
    landing.Governs (landAll (observed path) groups) := by
  induction groups with
  | nil => exact Discipline.governs_pure _
  | cons group rest inductionHypothesis =>
      apply Discipline.governs_bind (landing_governs_submit group.references)
      intro answer
      cases answer with
      | error failure => exact Discipline.governs_pure _
      | ok =>
          have told : landing.Allows (.emit (.groupSubmitted group.label)) := trivial
          apply Discipline.governs_bind (landing_governs_emit told)
          intro _
          apply Discipline.governs_bind inductionHypothesis
          intro landed
          cases landed with
          | error failure => exact Discipline.governs_pure _
          | ok others => exact Discipline.governs_pure _

theorem landing_governs_finish (report : Report) :
    landing.Governs (finish (observed path) report) := by
  have told : landing.Allows (.emit report.finishedEvent) := trivial
  exact Discipline.governs_bind (landing_governs_emit told) fun _ => Discipline.governs_pure _

/-- Landing fails only where the server refuses to submit a ref of one of the groups. -/
theorem landAll_error (groups : List Group) (world : World) {failure : Failure}
    (failed : (observe (landAll (observed path) groups) world).answer = .error failure) :
    ∃ group ∈ groups, ∃ reference ∈ group.references,
      world.review.failSubmitsTo.contains reference = true ∧
        failure = .review (.refused (.submit reference)) := by
  induction groups generalizing world with
  | nil => exact absurd failed (by simp [landAll])
  | cons group rest inductionHypothesis =>
      obtain ⟨⟨submits, after⟩, refusals⟩ :=
        ReviewState.submit_cases group.references world.review
      rw [landAll, observe_bind, observe_submit] at failed
      cases answered : (world.review.submit group.references).1 with
      | error refusal =>
          rw [answered] at failed
          obtain ⟨reference, member, refused, named⟩ := refusals refusal answered
          obtain rfl : refusal = failure := Except.error.inj failed
          exact ⟨group, List.mem_cons_self, reference, member, refused, named⟩
      | ok =>
          rw [answered] at failed
          simp only [observe_bind, observe_emit] at failed
          cases landed : (observe (landAll (observed path) rest)
              { world with
                review := (world.review.submit group.references).2
                events := world.events ++ [.groupSubmitted group.label] }).answer with
          | error refusal =>
              rw [landed] at failed
              obtain rfl : refusal = failure := Except.error.inj failed
              obtain ⟨other, member, reference, referenceMember, refused, named⟩ :=
                inductionHypothesis _ landed
              -- What was submitted before has no say in which refs are refused.
              rw [after] at refused
              exact ⟨other, List.mem_cons_of_mem group member, reference, referenceMember, refused,
                named⟩
          | ok others =>
              rw [landed] at failed
              exact absurd failed (by simp)

/-! ## What a round reads -/

/-- A build server is in use and tells that the last completed build failed. -/
def Red (settings : Settings) (world : World) : Prop :=
  settings.dispatchEnabled = true ∧
    (world.ci.status settings.ci.job).toOption.any (·.isFailure) = true

instance (settings : Settings) (world : World) : Decidable (Red settings world) :=
  inferInstanceAs (Decidable (_ ∧ _))

/-- What a round reads before it does anything. -/
inductive Reading where
  /-- The last completed build failed, and nothing else is read. -/
  | red
  /-- The log cannot be loaded. -/
  | unreadable (failure : Failure)
  /-- The query for the open changes fails. -/
  | unanswered (failure : Failure)
  /-- The record of the log and the open changes. -/
  | snapshot (seen : Patchsets) (changes : List Change)

/-- What a round reads on a world. -/
def reading (settings : Settings) (world : World) : Reading :=
  if Red settings world then .red
  else
    match SeenLog.load world.log.read with
    | .error failure => .unreadable failure
    | .ok seen =>
        match (world.review.query settings.review.query).1 with
        | .error failure => .unanswered failure
        | .ok changes => .snapshot seen changes

variable {settings : Settings} {world : World}

theorem reading_eq_red (red : Red settings world) : reading settings world = .red :=
  if_pos red

theorem reading_eq_unreadable (running : ¬ Red settings world) {failure : Failure}
    (unreadable : SeenLog.load world.log.read = .error failure) :
    reading settings world = .unreadable failure := by
  rw [reading, if_neg running, unreadable]

theorem reading_eq_unanswered (running : ¬ Red settings world) {seen : Patchsets}
    {failure : Failure} (loaded : SeenLog.load world.log.read = .ok seen)
    (unanswered : (world.review.query settings.review.query).1 = .error failure) :
    reading settings world = .unanswered failure := by
  rw [reading, if_neg running, loaded]
  dsimp only
  rw [unanswered]

theorem reading_eq_snapshot (running : ¬ Red settings world) {seen : Patchsets}
    {changes : List Change} (loaded : SeenLog.load world.log.read = .ok seen)
    (answered : (world.review.query settings.review.query).1 = .ok changes) :
    reading settings world = .snapshot seen changes := by
  rw [reading, if_neg running, loaded]
  dsimp only
  rw [answered]

/-- What was read tells what could be read. -/
theorem of_reading_eq_snapshot {seen : Patchsets} {changes : List Change}
    (read : reading settings world = .snapshot seen changes) :
    ¬ Red settings world ∧ SeenLog.load world.log.read = .ok seen ∧
      (world.review.query settings.review.query).1 = .ok changes := by
  by_cases red : Red settings world
  · rw [reading_eq_red red] at read
    cases read
  cases loaded : SeenLog.load world.log.read with
  | error failure =>
      rw [reading_eq_unreadable red loaded] at read
      cases read
  | ok known =>
      cases answered : (world.review.query settings.review.query).1 with
      | error failure =>
          rw [reading_eq_unanswered red loaded answered] at read
          cases read
      | ok listed =>
          rw [reading_eq_snapshot red loaded answered] at read
          cases read
          exact ⟨red, rfl, rfl⟩

/-! ## How a round goes -/

section
variable (path settings world)

/-- A round stops on a failed last build, and on no other. -/
theorem answer_lastBuildFailed :
    (observe (lastBuildFailed settings (observed path)) world).answer =
      decide (Red settings world) := by
  rw [lastBuildFailed]
  cases enabled : settings.dispatchEnabled with
  | false => simp [Red, enabled]
  | true =>
      rw [if_pos rfl, observe_bind, observe_lastStatus]
      cases told : world.ci.status settings.ci.job with
      | ok status => simp [Red, enabled, told, Except.toOption]
      | error failure => simp [Red, enabled, told, Except.toOption]

/-- A round looks at the last build, and then stops or compares. -/
theorem observe_run :
    ∃ opened events, (∀ call ∈ opened, telling.Allows call) ∧
      observe (run settings (observed path)) world =
        let later :=
          observe
            (if Red settings world then stop (observed path) .lastBuildFailed
              else compareWithSeen settings (observed path))
            { world with events }
        ⟨later.answer, opened ++ later.calls, later.after⟩ := by
  let begins : Call := .emit (.runStarted settings.review.query path)
  let begun : World :=
    { world with events := world.events ++ [.runStarted settings.review.query path] }
  -- Only the events differ from the world before, so the last build reads the same on both.
  let looked := observe (lastBuildFailed settings (observed path)) begun
  obtain ⟨⟨events, after⟩, allowed⟩ : telling.Within begun looked.after ∧ _ :=
    telling_governs_lastBuildFailed settings begun
  have answer : looked.answer = decide (Red settings world) :=
    answer_lastBuildFailed path settings begun
  have course : observe (run settings (observed path)) world =
      let later :=
        observe
          (if looked.answer then stop (observed path) .lastBuildFailed
            else compareWithSeen settings (observed path))
          looked.after
      ⟨later.answer, begins :: (looked.calls ++ later.calls), later.after⟩ := rfl
  refine ⟨begins :: looked.calls, events, ?_, ?_⟩
  · intro call member
    rcases List.mem_cons.mp member with isFirst | isLater
    · rw [isFirst]
      trivial
    · exact allowed call isLater
  · rw [course, answer, after]
    simp only [decide_eq_true_eq, List.cons_append]
    rfl

/-- Stopping ends in a report of the reason. -/
theorem answer_stop (reason : StopReason) :
    (observe (stop (observed path) reason) world).answer = .ok { stopped := some reason } := rfl

end

variable (path) in
/-- After a failed last build a round stops, and has only looked and told. -/
theorem observe_run_of_red (red : Red settings world) :
    let done := observe (run settings (observed path)) world
    done.answer = .ok { stopped := some .lastBuildFailed } ∧
      telling.Within world done.after ∧ ∀ call ∈ done.calls, telling.Allows call := by
  obtain ⟨opened, events, allowed, course⟩ := observe_run path settings world
  obtain ⟨within, allowedLater⟩ :
      telling.Within _ (observe (stop (observed path) .lastBuildFailed) { world with events }).after
        ∧ _ :=
    telling_governs_stop .lastBuildFailed { world with events }
  rw [course, if_pos red]
  refine ⟨rfl, telling.trans ⟨events, rfl⟩ within, ?_⟩
  exact List.forall_mem_append.mpr ⟨allowed, allowedLater⟩

variable (path) in
/-- Without a record to compare with a round fails, and has only looked and told. -/
theorem observe_run_of_unreadable (running : ¬ Red settings world) {failure : Failure}
    (unreadable : SeenLog.load world.log.read = .error failure) :
    let done := observe (run settings (observed path)) world
    done.answer = .error failure ∧
      telling.Within world done.after ∧ ∀ call ∈ done.calls, telling.Allows call := by
  obtain ⟨opened, events, allowed, course⟩ := observe_run path settings world
  rw [course, if_neg running]
  have compared : observe (compareWithSeen settings (observed path)) { world with events } =
      ⟨.error failure, [.read], { world with events }⟩ := by
    simp only [compareWithSeen, Services.loadSeen, observe_bind, observe_read, observe_pure,
      unreadable, List.append_nil]
  rw [compared]
  refine ⟨rfl, ⟨events, rfl⟩, ?_⟩
  refine List.forall_mem_append.mpr ⟨allowed, ?_⟩
  intro call member
  rw [List.mem_singleton.mp member]
  trivial

/-- Reading the log and querying is looking, apart from the query. -/
theorem reads_allowed (text : String) :
    ∀ call ∈ [Call.read, .query text], telling.Allows call ∨ call = .query text := by
  intro call member
  rcases List.mem_cons.mp member with isRead | isQuery
  · rw [isRead]
    exact Or.inl trivial
  · exact Or.inr (List.mem_singleton.mp isQuery)

variable (path) in
/-- A round that gets no answer to its query fails, and the query is all that it sent. -/
theorem observe_run_of_unanswered (running : ¬ Red settings world) {seen : Patchsets}
    {failure : Failure} (loaded : SeenLog.load world.log.read = .ok seen)
    (unanswered : (world.review.query settings.review.query).1 = .error failure) :
    let done := observe (run settings (observed path)) world
    done.answer = .error failure ∧
      telling.Within { world with review := (world.review.query settings.review.query).2 }
        done.after ∧
      ∀ call ∈ done.calls, telling.Allows call ∨ call = .query settings.review.query := by
  obtain ⟨opened, events, allowed, course⟩ := observe_run path settings world
  rw [course, if_neg running]
  have compared : observe (compareWithSeen settings (observed path)) { world with events } =
      ⟨.error failure, [.read, .query settings.review.query],
        { world with review := (world.review.query settings.review.query).2, events }⟩ := by
    simp only [compareWithSeen, Services.loadSeen, observe_bind, observe_read, observe_pure,
      loaded, observe_query, unanswered, List.append_nil, List.singleton_append]
  rw [compared]
  refine ⟨rfl, ⟨events, rfl⟩, ?_⟩
  refine List.forall_mem_append.mpr ⟨fun call member => Or.inl (allowed call member), ?_⟩
  exact reads_allowed settings.review.query

variable (path) in
/-- A round that read the record and the open changes goes on with them. -/
theorem observe_run_of_snapshot {seen : Patchsets} {changes : List Change}
    (read : reading settings world = .snapshot seen changes) :
    ∃ opened events,
      (∀ call ∈ opened, telling.Allows call ∨ call = .query settings.review.query) ∧
        observe (run settings (observed path)) world =
          let later :=
            observe (proceed settings (observed path) seen changes)
              { world with review := (world.review.query settings.review.query).2, events }
          ⟨later.answer, opened ++ later.calls, later.after⟩ := by
  obtain ⟨running, loaded, answered⟩ := of_reading_eq_snapshot read
  obtain ⟨opened, events, allowed, course⟩ := observe_run path settings world
  refine ⟨opened ++ [.read, .query settings.review.query], events, ?_, ?_⟩
  · refine List.forall_mem_append.mpr ⟨fun call member => Or.inl (allowed call member), ?_⟩
    exact reads_allowed settings.review.query
  · rw [course, if_neg running]
    simp only [compareWithSeen, Services.loadSeen, observe_bind, observe_read, observe_pure,
      loaded, observe_query, answered, List.append_nil, List.append_assoc, List.cons_append,
      List.nil_append]

/-- A round that ends before the open changes are gone through: it has looked and told, and at most
sent its query, and it reports on no group. -/
structure EndsEarly (settings : Settings) (world : World)
    (done : Observation (Except Failure Report)) : Prop where
  within : ∃ queries,
    telling.Within { world with review := { world.review with queries } } done.after
  calls : ∀ call ∈ done.calls, telling.Allows call ∨ call = .query settings.review.query
  noGroups : ∀ report, done.answer = .ok report → report.groups = []

variable (path settings world) in
/-- A round reads the record and the open changes, or ends early. -/
theorem snapshot_or_endsEarly :
    (∃ seen changes, reading settings world = .snapshot seen changes) ∨
      ((∀ seen changes, reading settings world ≠ .snapshot seen changes) ∧
        EndsEarly settings world (observe (run settings (observed path)) world)) := by
  by_cases red : Red settings world
  · obtain ⟨answer, within, allowed⟩ := observe_run_of_red path red
    refine Or.inr ⟨?_, ⟨world.review.queries, within⟩,
      fun call member => Or.inl (allowed call member), ?_⟩
    · intro seen changes read
      rw [reading_eq_red red] at read
      cases read
    · intro report finished
      rw [answer] at finished
      cases finished
      rfl
  cases loaded : SeenLog.load world.log.read with
  | error failure =>
      obtain ⟨answer, within, allowed⟩ := observe_run_of_unreadable path red loaded
      refine Or.inr ⟨?_, ⟨world.review.queries, within⟩,
        fun call member => Or.inl (allowed call member), ?_⟩
      · intro seen changes read
        rw [reading_eq_unreadable red loaded] at read
        cases read
      · intro report finished
        rw [answer] at finished
        cases finished
  | ok seen =>
      cases answered : (world.review.query settings.review.query).1 with
      | error failure =>
          obtain ⟨answer, within, allowed⟩ := observe_run_of_unanswered path red loaded answered
          refine Or.inr ⟨?_, ⟨_, within⟩, allowed, ?_⟩
          · intro seen changes read
            rw [reading_eq_unanswered red loaded answered] at read
            cases read
          · intro report finished
            rw [answer] at finished
            cases finished
      | ok changes => exact Or.inl ⟨seen, changes, reading_eq_snapshot red loaded answered⟩

/-! ## How a round ends -/

section
variable {m : Type → Type} [Monad m]

/-- Replace the log by a record and go on, unless it cannot be replaced. -/
def saveThen (services : Services m) (seen : Patchsets) (next : m (Except Failure Report)) :
    m (Except Failure Report) := do
  match ← services.saveSeen seen with
  | .error failure => pure (.error failure)
  | .ok () => next

/-- Land what may land, and report on the round. -/
def landThenFinish (services : Services m) (changes : List Change) (groups : List GroupReport)
    (reportedSets : Nat) : m (Except Failure Report) := do
  match ← landAll services (landable changes) with
  | .error failure => pure (.error failure)
  | .ok submitted => finish services { groups, submitted, reportedSets }

variable (services : Services m) {settings : Settings} {seen : Patchsets} (changes : List Change)

/-- A round that stops early records what it saw first. -/
theorem proceed_of_stopReason {reason : StopReason}
    (stops : stopReason? settings seen = some reason) :
    proceed settings services seen changes =
      saveThen services (SeenLog.record changes) (stop services reason) := by
  rw [proceed, stops]
  rfl

/-- A round that compares handles what is new, records what it saw, and lands what may land. -/
theorem proceed_of_compares (compares : stopReason? settings seen = none) :
    proceed settings services seen changes =
      (reportAllRejected services ((Grouping.ofChanges changes).fresh seen).rejected >>=
        fun reportedSets =>
          handleGroups settings services ((Grouping.ofChanges changes).fresh seen).groups >>=
            fun groups =>
              saveThen services (SeenLog.record changes)
                (landThenFinish services changes groups reportedSets)) := by
  rw [proceed, compares]
  rfl

end

theorem landing_governs_stop (reason : StopReason) :
    landing.Governs (stop (observed path) reason) := by
  have told : landing.Allows (.emit (.runSkipped reason)) := trivial
  exact Discipline.governs_bind (landing_governs_emit told) fun _ => landing_governs_finish _

theorem landing_governs_landThenFinish (changes : List Change) (groups : List GroupReport)
    (reportedSets : Nat) :
    landing.Governs (landThenFinish (observed path) changes groups reportedSets) := by
  apply Discipline.governs_bind (landing_governs_landAll (landable changes))
  intro landed
  cases landed with
  | error failure => exact Discipline.governs_pure _
  | ok submitted => exact landing_governs_finish _

/-- Landing and reporting fails only where the server refuses to submit a ref that may land. -/
theorem landThenFinish_error (changes : List Change) (groups : List GroupReport)
    (reportedSets : Nat) (world : World) {failure : Failure}
    (failed :
      (observe (landThenFinish (observed path) changes groups reportedSets) world).answer =
        .error failure) :
    ∃ group ∈ landable changes, ∃ reference ∈ group.references,
      world.review.failSubmitsTo.contains reference = true ∧
        failure = .review (.refused (.submit reference)) := by
  rw [landThenFinish, observe_bind] at failed
  cases landed : (observe (landAll (observed path) (landable changes)) world).answer with
  | error refusal =>
      rw [landed] at failed
      obtain rfl : refusal = failure := Except.error.inj failed
      exact landAll_error (landable changes) world landed
  | ok submitted =>
      rw [landed] at failed
      cases failed

/-- The report is on the groups that were handled. -/
theorem landThenFinish_ok (changes : List Change) (groups : List GroupReport)
    (reportedSets : Nat) (world : World) {report : Report}
    (finished :
      (observe (landThenFinish (observed path) changes groups reportedSets) world).answer =
        .ok report) :
    report.groups = groups := by
  rw [landThenFinish, observe_bind] at finished
  cases landed : (observe (landAll (observed path) (landable changes)) world).answer with
  | error refusal =>
      rw [landed] at finished
      cases finished
  | ok submitted =>
      rw [landed] at finished
      cases finished
      rfl

/-- The bytes that record some open changes. -/
def recordBytes (changes : List Change) : ByteArray :=
  (SeenLog.render (SeenLog.record changes)).toUTF8

/-- What is sent from the record of the log on. -/
def endingAllows (changes : List Change) (call : Call) : Prop :=
  landing.Allows call ∨ call = .replace (recordBytes changes)

variable (path) in
/-- The log is replaced, and what follows goes on from there if that succeeds. -/
theorem observe_saveThen (changes : List Change) (next : JournalT WorldM (Except Failure Report))
    (world : World) :
    observe (saveThen (observed path) (SeenLog.record changes) next) world =
      let written := world.log.replace (recordBytes changes)
      let later :=
        observe
          (match written.1 with
            | .error cause => pure (.error (.file cause))
            | .ok () => next)
          { world with log := written.2 }
      ⟨later.answer, .replace (recordBytes changes) :: later.calls, later.after⟩ := by
  rw [saveThen, Services.saveSeen, observe_bind, observe_bind, observe_replace]
  simp only [recordBytes]
  cases (world.log.replace (SeenLog.render (SeenLog.record changes)).toUTF8).1 with
  | error cause => rfl
  | ok => rfl

variable (path) in
/-- From the record on, the log is what replacing it made of it, and at most some changes are
submitted. -/
theorem saveThen_within (changes : List Change) (next : JournalT WorldM (Except Failure Report))
    (governed : landing.Governs next) (world : World) :
    let done := observe (saveThen (observed path) (SeenLog.record changes) next) world
    landing.Within { world with log := (world.log.replace (recordBytes changes)).2 } done.after ∧
      ∀ call ∈ done.calls, endingAllows changes call := by
  have goesOn : landing.Governs
      (match (world.log.replace (recordBytes changes)).1 with
        | .error cause => pure (.error (.file cause))
        | .ok () => next) := by
    cases (world.log.replace (recordBytes changes)).1 with
    | error cause => exact Discipline.governs_pure _
    | ok => exact governed
  rw [observe_saveThen]
  refine ⟨(goesOn _).1, ?_⟩
  intro call member
  rcases List.mem_cons.mp member with isReplace | isLater
  · exact Or.inr isReplace
  · exact Or.inl ((goesOn _).2 call isLater)

end ChangeGate.Round
