import ChangeGate.Proofs.Review.Due
import ChangeGate.Proofs.Round.Landing

/-!
# What a round submits

A round submits the refs of the groups that are due, in order, up to the first one that the review
server refuses. It succeeds if none refuses. A round that ends before that submits nothing, and it
may succeed all the same: after a failed build, without a build server, and without a record to
compare with. A round that cannot write the log ends before that, and fails.
-/

namespace ChangeGate.Round

open ChangeGate.Ci ChangeGate.Memory ChangeGate.Review ChangeGate.Service

/-! ## Calls that submit -/

/-- The refs that a call submits, if it is one that submits. -/
def submitted? : Call → Option (List String)
  | .submit references => some references
  | _ => none

/-- The refs of each call that submitted some, in order. -/
def tried {α : Type} (done : Observation α) : List (List String) :=
  done.calls.filterMap submitted?

theorem filterMap_submitted?_of_telling {calls : List Call} {text : String}
    (allowed : ∀ call ∈ calls, telling.Allows call ∨ call = .query text) :
    calls.filterMap submitted? = [] := by
  rw [List.filterMap_eq_nil_iff]
  intro call member
  rcases allowed call member with told | rfl
  · cases call with
    | submit references => cases told
    | _ => rfl
  · rfl

theorem filterMap_submitted?_of_handling {calls : List Call}
    (allowed : ∀ call ∈ calls, (handling True True).Allows call) :
    calls.filterMap submitted? = [] := by
  rw [List.filterMap_eq_nil_iff]
  intro call member
  have handled := allowed call member
  cases call with
  | submit references => cases handled
  | _ => rfl

theorem filterMap_submitted?_landingCalls (groups : List Group) :
    (groups.flatMap landingCalls).filterMap submitted? = groups.map (·.references) := by
  induction groups with
  | nil => rfl
  | cons group rest inductionHypothesis =>
      rw [List.flatMap_cons, List.filterMap_append, inductionHypothesis]
      rfl

/-! ## How far groups land -/

/-- How far some groups land: all of them do, or one has a first ref that is refused, and neither
the rest of it nor a later group is tried. Told are the refs that are submitted, those of each call
that tries to submit some, and how many changes that is. -/
inductive Lands (review : ReviewState) (groups : List Group) :
    List String → List (List String) → Except Failure Nat → Prop where
  | all (accepts : review.Accepts (groups.flatMap (·.references))) :
      Lands review groups (groups.flatMap (·.references)) (groups.map (·.references))
        (.ok (groups.flatMap (·.references)).length)
  | refused (landed : List Group) {group : Group} {others : List Group} {before after : List String}
      {reference : String} (isGroups : groups = landed ++ group :: others)
      (isGroup : group.references = before ++ reference :: after)
      (accepts : review.Accepts (landed.flatMap (·.references) ++ before))
      (refused : review.failSubmitsTo.contains reference = true) :
      Lands review groups (landed.flatMap (·.references) ++ before)
        (landed.map (·.references) ++ [group.references])
        (.error (.review (.refused (.submit reference))))

/-- Only where the review server refuses has a say in how far groups land. -/
theorem Lands.congr {before review : ReviewState} {groups : List Group} {submitted : List String}
    {tried : List (List String)} {answer : Except Failure Nat}
    (lands : Lands before groups submitted tried answer)
    (same : before.failSubmitsTo = review.failSubmitsTo) :
    Lands review groups submitted tried answer := by
  cases lands with
  | all accepts => exact .all fun reference member => same ▸ accepts reference member
  | refused landed isGroups isGroup accepts refused =>
      exact .refused landed isGroups isGroup
        (fun reference member => same ▸ accepts reference member) (same ▸ refused)

theorem length_flatMap_references (groups : List Group) :
    (groups.flatMap (·.references)).length = (groups.flatMap (·.members)).length := by
  simp [Group.references]

/-- None of the refs of some groups refuses, or there is a first one in one of the groups. -/
theorem accepts_or_refused_in (review : ReviewState) (groups : List Group) :
    review.Accepts (groups.flatMap (·.references)) ∨
      ∃ landed group others before reference after, groups = landed ++ group :: others ∧
        group.references = before ++ reference :: after ∧
        review.Accepts (landed.flatMap (·.references)) ∧ review.Accepts before ∧
        review.failSubmitsTo.contains reference = true := by
  induction groups with
  | nil => exact Or.inl (List.forall_mem_nil _)
  | cons group rest inductionHypothesis =>
      rcases review.accepts_or_refused group.references with
        accepted | ⟨before, reference, after, isGroup, accepts, refused⟩
      · rcases inductionHypothesis with
          others | ⟨landed, other, others, before, reference, after, rfl, isOther, landedAccept,
            accepts, refused⟩
        · left
          rw [List.flatMap_cons]
          exact List.forall_mem_append.mpr ⟨accepted, others⟩
        · right
          refine ⟨group :: landed, other, others, before, reference, after, rfl, isOther, ?_,
            accepts, refused⟩
          rw [List.flatMap_cons]
          exact List.forall_mem_append.mpr ⟨accepted, landedAccept⟩
      · exact Or.inr ⟨[], group, rest, before, reference, after, rfl, isGroup,
          List.forall_mem_nil _, accepts, refused⟩

/-- Landing groups submits their refs up to the first one that is refused. -/
theorem lands_landAll (path : String) (groups : List Group) (world : World) :
    let done := observe (landAll (observed path) groups) world
    ∃ submitted, done.after.review.submits = world.review.submits ++ submitted ∧
      Lands world.review groups submitted (tried done) done.answer := by
  rcases accepts_or_refused_in world.review groups with
    accepts | ⟨landed, group, others, before, reference, after, rfl, isGroup, landedAccept,
      accepts, refused⟩
  · have lands := landAll_append path groups [] world accepts
    rw [List.append_nil] at lands
    refine ⟨groups.flatMap (·.references), ?_, ?_⟩
    · rw [lands]
      rfl
    · have all := Lands.all accepts
      rw [length_flatMap_references] at all
      rw [lands, tried, List.filterMap_append, filterMap_submitted?_landingCalls]
      simp only [landAll, observe_pure, List.filterMap_nil, List.append_nil]
      exact all
  · have lands := landAll_append path landed (group :: others) world landedAccept
    rw [landAll_of_refused path isGroup others (landedOn world landed) accepts refused] at lands
    refine ⟨landed.flatMap (·.references) ++ before, ?_, ?_⟩
    · rw [lands]
      simp [landedOn]
    · have stopped : Lands world.review (landed ++ group :: others) _ _ _ :=
        Lands.refused landed rfl isGroup (List.forall_mem_append.mpr ⟨landedAccept, accepts⟩)
          refused
      simpa [tried, lands, filterMap_submitted?_landingCalls, submitted?, Except.map] using stopped

/-- The second part of a set is refused, so the first one lands alone, and the next group is not
tried. -/
example :
    let change (number : UInt64) : Change := { number, patchset := 1 }
    let world : World := { review := { failSubmitsTo := ["refs/changes/02/2/1"] } }
    let done :=
      observe (landAll (observed "log") [⟨[change 1, change 2, change 3]⟩, ⟨[change 4]⟩]) world
    done.after.review.submits = ["refs/changes/01/1/1"] ∧
      tried done = [["refs/changes/01/1/1", "refs/changes/02/2/1", "refs/changes/03/3/1"]] :=
  ⟨rfl, rfl⟩

section
variable {review : ReviewState} {groups : List Group} {submitted : List String}
  {tried : List (List String)} {answer : Except Failure Nat}

theorem Lands.isPrefix (lands : Lands review groups submitted tried answer) :
    submitted <+: groups.flatMap (·.references) := by
  cases lands with
  | all => exact List.prefix_refl _
  | refused landed isGroups isGroup =>
      rw [isGroups, List.flatMap_append, List.flatMap_cons, isGroup, List.append_assoc]
      exact List.prefix_append_right_inj _ |>.mpr (List.prefix_append _ _)

/-- All refs are submitted where landing succeeds, and nowhere else. -/
theorem Lands.complete_iff (lands : Lands review groups submitted tried answer) :
    submitted = groups.flatMap (·.references) ↔ ∃ count, answer = .ok count := by
  cases lands with
  | all => simp
  | refused landed isGroups isGroup => simp [isGroups, isGroup]

theorem Lands.counted (lands : Lands review groups submitted tried answer) :
    ∀ count, answer = .ok count → count = submitted.length := by
  cases lands with
  | all =>
      intro count isCount
      exact (Except.ok.inj isCount).symm
  | refused =>
      intro count isCount
      cases isCount

end

/-! ## Rounds that compare -/

/-- A round gets to compare the open changes with what the last one saw: the last build is no
failure, there is a build server, a record that is not empty is loaded, and the query is
answered. -/
structure Compares (settings : Settings) (world : World) : Prop where
  running : ¬ Red settings world
  dispatches : settings.dispatchEnabled = true
  remembers : ∃ seen, SeenLog.load world.log.read = .ok seen ∧ seen ≠ ∅
  answered : ∃ changes, (world.review.query settings.review.query).1 = .ok changes

/-- A round gets to submit what is due: it compares, and the log can be written after it. -/
structure GetsToLand (settings : Settings) (world : World) : Prop where
  compares : Compares settings world
  written : (world.log.replace (recordBytes world.review.changes)).1 = .ok ()

/-- A round stops early without a build server, and without a record to compare with. -/
theorem stopReason?_eq_none_iff {settings : Settings} {seen : Patchsets} :
    stopReason? settings seen = none ↔ settings.dispatchEnabled = true ∧ seen ≠ ∅ := by
  rw [ne_eq, ← Std.ExtTreeMap.isEmpty_iff, Bool.not_eq_true]
  cases enabled : settings.dispatchEnabled <;> cases recorded : seen.isEmpty <;>
    simp [stopReason?, enabled, recorded]

/-- A round reports the number of changes that it landed. -/
theorem lands_landThenFinish (path : String) (changes : List Change) (groups : List GroupReport)
    (reportedSets : Nat) (world : World) :
    let done := observe (landThenFinish (observed path) changes groups reportedSets) world
    ∃ submitted, done.after.review.submits = world.review.submits ++ submitted ∧
      Lands world.review (landable changes) submitted (tried done)
        (done.answer.map (·.submitted)) := by
  obtain ⟨submitted, submits, lands⟩ := lands_landAll path (landable changes) world
  refine ⟨submitted, ?_⟩
  rw [landThenFinish, observe_bind]
  cases landed : (observe (landAll (observed path) (landable changes)) world).answer with
  | error failure =>
      rw [landed] at lands
      refine ⟨submits, ?_⟩
      simp only [tried, observe_pure, List.append_nil]
      exact lands
  | ok count =>
      rw [landed] at lands
      refine ⟨submits, ?_⟩
      -- The round ends with an event, which is no call that submits.
      simp only [tried, finish, observe_bind, observe_emit, observe_pure, List.append_nil,
        List.filterMap_append]
      rw [List.filterMap_cons_none rfl, List.filterMap_nil, List.append_nil]
      exact lands

section
variable (path : String) {settings : Settings} {seen : Patchsets} (changes : List Change)
  (world : World)

/-- Where the log can be written, a round goes on after it, and no call submits before. -/
theorem observe_saveThen_of_written (next : JournalT WorldM (Except Failure Report))
    (written : (world.log.replace (recordBytes changes)).1 = .ok ()) :
    observe (saveThen (observed path) (SeenLog.record changes) next) world =
      let later := observe next { world with log := (world.log.replace (recordBytes changes)).2 }
      ⟨later.answer, .replace (recordBytes changes) :: later.calls, later.after⟩ := by
  simp only [observe_saveThen, written]

/-- A round that compares first goes through what is new, and submits nothing meanwhile. -/
theorem observe_proceed_of_handled (compares : stopReason? settings seen = none) :
    ∃ calls after reports reportedSets, (handling True True).Within world after ∧
      calls.filterMap submitted? = [] ∧
      observe (proceed settings (observed path) seen changes) world =
        let ended :=
          observe
            (saveThen (observed path) (SeenLog.record changes)
              (landThenFinish (observed path) changes reports reportedSets))
            after
        ⟨ended.answer, calls ++ ended.calls, ended.after⟩ := by
  let fresh := (Grouping.ofChanges changes).fresh seen
  let reported := observe (reportAllRejected (observed path) fresh.rejected) world
  let handled := observe (handleGroups settings (observed path) fresh.groups) reported.after
  refine ⟨reported.calls ++ handled.calls, handled.after, handled.answer, reported.answer,
    handling_within_proceed path settings world fresh, ?_, ?_⟩
  · apply filterMap_submitted?_of_handling
    exact List.forall_mem_append.mpr
      ⟨(handling_governs_reportAllRejected fresh.rejected world).2,
        (handling_governs_handleGroups settings fresh.groups _).2⟩
  · rw [observe_proceed_of_compares path changes world compares]
    simp only [List.append_assoc]
    rfl

/-- A round that compares lands what is due. -/
theorem lands_proceed (compares : stopReason? settings seen = none)
    (written : (world.log.replace (recordBytes changes)).1 = .ok ()) :
    let done := observe (proceed settings (observed path) seen changes) world
    ∃ submitted, done.after.review.submits = world.review.submits ++ submitted ∧
      Lands world.review (due changes) submitted (tried done) (done.answer.map (·.submitted)) := by
  intro done
  obtain ⟨calls, after, reports, reportedSets, within, quiet, course⟩ :=
    observe_proceed_of_handled path changes world compares
  obtain ⟨posts, queued, started, added, cancelledQueued, stopped, events, isAfter⟩ := within
  have logKept : after.log = world.log := by rw [isAfter]
  let landed := observe (landThenFinish (observed path) changes reports reportedSets)
    { after with log := (after.log.replace (recordBytes changes)).2 }
  have isDone : done =
      ⟨landed.answer, calls ++ .replace (recordBytes changes) :: landed.calls, landed.after⟩ := by
    rw [observe_saveThen_of_written path changes after _ (logKept ▸ written)] at course
    exact course
  have isTried : tried done = tried landed := by
    rw [isDone, tried, List.filterMap_append, quiet]
    rfl
  obtain ⟨submitted, submits, lands⟩ : ∃ submitted,
      landed.after.review.submits = after.review.submits ++ submitted ∧
        Lands after.review (landable changes) submitted (tried landed)
          (landed.answer.map (·.submitted)) :=
    lands_landThenFinish path changes reports reportedSets _
  refine ⟨submitted, ?_, ?_⟩
  · rw [isDone, submits, isAfter]
  · rw [isTried, isDone, ← landable_eq_due]
    exact lands.congr (by rw [isAfter])

variable {world} in
/-- What a round that compares was given. -/
theorem Compares.exists_snapshot (compares : Compares settings world) :
    ∃ seen, reading settings world = .snapshot seen world.review.changes ∧
      stopReason? settings seen = none := by
  obtain ⟨running, dispatches, ⟨seen, loaded, recorded⟩, ⟨changes, answered⟩⟩ := compares
  have listed := ReviewState.changes_of_query answered
  refine ⟨seen, ?_, stopReason?_eq_none_iff.mpr ⟨dispatches, recorded⟩⟩
  rw [← listed]
  exact reading_eq_snapshot running loaded answered

/-- A round that gets to land lands what is due. -/
theorem lands_run (gets : GetsToLand settings world) :
    let done := observe (run settings (observed path)) world
    ∃ submitted, done.after.review.submits = world.review.submits ++ submitted ∧
      Lands world.review (due world.review.changes) submitted (tried done)
        (done.answer.map (·.submitted)) := by
  intro done
  obtain ⟨seen, read, goesOn⟩ := gets.compares.exists_snapshot
  obtain ⟨opened, events, allowed, course⟩ := observe_run_of_snapshot path read
  obtain ⟨submitted, submits, lands⟩ := lands_proceed path world.review.changes
    { world with review := (world.review.query settings.review.query).2, events } goesOn
    gets.written
  have quiet := filterMap_submitted?_of_telling allowed
  refine ⟨submitted, ?_, ?_⟩
  · simp only [done, course]
    exact submits
  · simp only [done, course, tried, List.filterMap_append, quiet, List.nil_append]
    exact lands.congr rfl

/-! ## Rounds that do not -/

/-- Nothing is submitted. -/
structure SubmitsNothing (world : World) (done : Observation (Except Failure Report)) : Prop where
  submits : done.after.review.submits = world.review.submits
  tried : tried done = []
  counts : ∀ report, done.answer = .ok report → report.submitted = 0

/-- Looking and telling submits nothing. -/
theorem submitsNothing_of_telling {world : World} {done : Observation (Except Failure Report)}
    (text : String) {queries : List String}
    (within : telling.Within { world with review := { world.review with queries } } done.after)
    (allowed : ∀ call ∈ done.calls, telling.Allows call ∨ call = .query text)
    (counts : ∀ report, done.answer = .ok report → report.submitted = 0) :
    SubmitsNothing world done where
  submits := by
    obtain ⟨events, after⟩ := within
    rw [after]
  tried := filterMap_submitted?_of_telling allowed
  counts := counts

/-- A round that stops early submits nothing. -/
theorem submitsNothing_of_stopReason {reason : StopReason}
    (stops : stopReason? settings seen = some reason) :
    SubmitsNothing world (observe (proceed settings (observed path) seen changes) world) := by
  rw [proceed_of_stopReason (observed path) changes stops, observe_saveThen]
  cases written : (world.log.replace (recordBytes changes)).1 with
  | error cause =>
      simp only [written]
      refine ⟨rfl, rfl, ?_⟩
      intro report finished
      cases finished
  | ok =>
      simp only [written]
      refine ⟨rfl, rfl, ?_⟩
      intro report finished
      cases finished
      rfl

variable {world} in
/-- A round that compares and cannot write the log fails, and submits nothing. -/
theorem submitsNothing_of_unwritten (compares : Compares settings world) {cause : FileError}
    (unwritten : (world.log.replace (recordBytes world.review.changes)).1 = .error cause) :
    let done := observe (run settings (observed path)) world
    done.answer = .error (.file cause) ∧ SubmitsNothing world done := by
  intro done
  obtain ⟨seen, read, goesOn⟩ := compares.exists_snapshot
  obtain ⟨opened, events, allowed, course⟩ := observe_run_of_snapshot path read
  obtain ⟨calls, after, reports, reportedSets, within, quiet, handled⟩ :=
    observe_proceed_of_handled path world.review.changes
      { world with review := (world.review.query settings.review.query).2, events } goesOn
  obtain ⟨posts, queued, started, added, cancelledQueued, stopped, later, isAfter⟩ := within
  have stillUnwritten :
      (after.log.replace (recordBytes world.review.changes)).1 = .error cause := by
    rw [isAfter]
    exact unwritten
  have opening := filterMap_submitted?_of_telling allowed
  simp only [observe_saveThen, stillUnwritten, observe_pure] at handled
  have isDone : done = _ := course
  rw [handled] at isDone
  refine ⟨by rw [isDone], ?_, ?_, ?_⟩
  · rw [isDone, isAfter]
    rfl
  · simp only [isDone, tried, List.filterMap_append, opening, quiet]
    rfl
  · intro report finished
    rw [isDone] at finished
    cases finished

/-- A round that does not get to compare submits nothing. -/
theorem submitsNothing_of_not_compares (unable : ¬ Compares settings world) :
    SubmitsNothing world (observe (run settings (observed path)) world) := by
  by_cases red : Red settings world
  · obtain ⟨answer, within, allowed⟩ := observe_run_of_red path red
    apply submitsNothing_of_telling settings.review.query within
      (fun call member => Or.inl (allowed call member))
    intro report finished
    rw [answer] at finished
    cases finished
    rfl
  cases loaded : SeenLog.load world.log.read with
  | error failure =>
      obtain ⟨answer, within, allowed⟩ := observe_run_of_unreadable path red loaded
      apply submitsNothing_of_telling settings.review.query within
        (fun call member => Or.inl (allowed call member))
      intro report finished
      rw [answer] at finished
      cases finished
  | ok seen =>
      cases answered : (world.review.query settings.review.query).1 with
      | error failure =>
          obtain ⟨answer, within, allowed⟩ := observe_run_of_unanswered path red loaded answered
          apply submitsNothing_of_telling settings.review.query within allowed
          intro report finished
          rw [answer] at finished
          cases finished
      | ok changes =>
          have read := reading_eq_snapshot red loaded answered
          obtain ⟨opened, events, allowed, course⟩ := observe_run_of_snapshot path read
          have stops : stopReason? settings seen ≠ none := by
            intro goesOn
            obtain ⟨dispatches, recorded⟩ := stopReason?_eq_none_iff.mp goesOn
            exact unable ⟨red, dispatches, ⟨seen, loaded, recorded⟩, ⟨changes, answered⟩⟩
          obtain ⟨reason, stops⟩ := Option.ne_none_iff_exists'.mp stops
          obtain ⟨submits, isTried, counts⟩ := submitsNothing_of_stopReason path changes
            { world with review := (world.review.query settings.review.query).2, events } stops
          rw [course]
          refine ⟨submits, ?_, counts⟩
          rw [tried, List.filterMap_append, filterMap_submitted?_of_telling allowed]
          exact isTried

/-- A round that does not get to land submits nothing. -/
theorem submitsNothing_run (unable : ¬ GetsToLand settings world) :
    SubmitsNothing world (observe (run settings (observed path)) world) := by
  by_cases compares : Compares settings world
  · cases written : (world.log.replace (recordBytes world.review.changes)).1 with
    | ok => exact absurd ⟨compares, written⟩ unable
    | error cause => exact (submitsNothing_of_unwritten path compares written).2
  · exact submitsNothing_of_not_compares path world compares

/-- What a round submits of the groups that are due, in all the ways it can go. -/
structure LandsDue (settings : Settings) (done : Observation (Except Failure Report))
    (submitted : List String) : Prop where
  /-- The round was observed as it runs. -/
  runs : (run settings (services path)).run world = (done.answer, done.after)
  submits : done.after.review.submits = world.review.submits ++ submitted
  /-- The refs of the groups that are due are submitted in order. -/
  isPrefix : submitted <+: (due world.review.changes).flatMap (·.references)
  /-- A round that gets to land submits all of them if it succeeds, and only then. -/
  complete_iff : GetsToLand settings world →
    (submitted = (due world.review.changes).flatMap (·.references) ↔
      ∃ report, done.answer = .ok report)
  counted : ∀ report, done.answer = .ok report → report.submitted = submitted.length
  /-- It stops at the first ref that is refused, and what follows is not tried. -/
  lands : GetsToLand settings world →
    Lands world.review (due world.review.changes) submitted (tried done)
      (done.answer.map (·.submitted))
  /-- A round that does not get to land tries to submit nothing. -/
  nothing : ¬ GetsToLand settings world → submitted = [] ∧ tried done = []
  /-- If it compares, it fails, for the log could not be written. -/
  unwritten : Compares settings world → ∀ cause,
    (world.log.replace (recordBytes world.review.changes)).1 = .error cause →
    done.answer = .error (.file cause)
  /-- Nothing of a rejected set, or of a group with a member that is not ready, is submitted. -/
  unbroken : ∃ landed, landed <+: (due world.review.changes).flatMap (·.members) ∧
    submitted = landed.map (·.reference) ∧ ∀ change ∈ landed, Unbroken world.review.changes change

/-- Every round submits so. -/
theorem landsDue_run (settings : Settings) :
    ∃ submitted,
      LandsDue path world settings (observe (run settings (observed path)) world) submitted := by
  have runs := run_eq_of_erasure (Simulation.run (erasure_serves_observed path) settings) world
  have unwritten (compares : Compares settings world) (cause : FileError)
      (failed : (world.log.replace (recordBytes world.review.changes)).1 = .error cause) :
      (observe (run settings (observed path)) world).answer = .error (.file cause) :=
    (submitsNothing_of_unwritten path compares failed).1
  by_cases gets : GetsToLand settings world
  · obtain ⟨submitted, submits, lands⟩ := lands_run path world gets
    refine ⟨submitted, runs, submits, lands.isPrefix, ?_, ?_, fun _ => lands, ?_, unwritten,
      exists_unbroken_of_prefix lands.isPrefix⟩
    · intro _
      rw [lands.complete_iff]
      constructor
      · rintro ⟨count, finished⟩
        cases answered : (observe (run settings (observed path)) world).answer with
        | error failure =>
            rw [answered] at finished
            cases finished
        | ok report => exact ⟨report, rfl⟩
      · rintro ⟨report, finished⟩
        exact ⟨report.submitted, congrArg (Except.map (·.submitted)) finished⟩
    · intro report finished
      exact lands.counted report.submitted (congrArg (Except.map (·.submitted)) finished)
    · exact fun unable => absurd gets unable
  · obtain ⟨submits, isTried, counts⟩ := submitsNothing_run path world gets
    refine ⟨[], runs, ?_, List.nil_prefix, ?_, counts, ?_, fun _ => ⟨rfl, isTried⟩, unwritten,
      exists_unbroken_of_prefix List.nil_prefix⟩
    · rw [submits, List.append_nil]
    · exact fun able => absurd able gets
    · exact fun able => absurd able gets

end

/-- What is due need not land. A round after a failed build succeeds, although the review server
would refuse the change; and where the log cannot be written, nothing lands, although the review
server accepts all of it. -/
theorem due_not_landed :
    let change : Change :=
      { number := 7, patchset := 1, message := "AutoSubmit", submittable := true }
    let settings : Settings := { ci := { host := "ci" } }
    let content := (SeenLog.render (Patchsets.put ∅ ⟨1, 1⟩)).toUTF8
    let red : World :=
      { review := { changes := [change], failSubmitsTo := [change.reference] }
        ci := { lastStatus := { number := 1, result := some "FAILURE" } }
        log := .file content }
    let denied : FileError := .other "Permission denied (os error 13)"
    let locked : World := { review := { changes := [change] }, log := .locked content denied }
    due [change] = [⟨[change]⟩] ∧
      (∃ report after, (run settings (services "log")).run red = (.ok report, after) ∧
        after.review.submits = []) ∧
      ∃ failure after, (run settings (services "log")).run locked = (.error failure, after) ∧
        after.review.submits = [] ∧ locked.review.Accepts [change.reference] := by
  intro change settings content red denied locked
  have runs (world : World) :=
    run_eq_of_erasure (Simulation.run (erasure_serves_observed "log") settings) world
  refine ⟨by decide, ?_, ?_⟩
  · have isRed : Red settings red := by decide
    obtain ⟨answer, ⟨events, after⟩, -⟩ := observe_run_of_red "log" isRed
    refine ⟨_, _, (runs red).trans (congrArg (·, _) answer), ?_⟩
    rw [after]
  · have loaded : SeenLog.load locked.log.read = .ok (Patchsets.put ∅ ⟨1, 1⟩) :=
      SeenLog.load_render _
    have compares : Compares settings locked :=
      ⟨by decide, by decide, ⟨_, loaded, Patchsets.put_ne_empty ∅ ⟨1, 1⟩⟩, ⟨[change], rfl⟩⟩
    have unwritten : (locked.log.replace (recordBytes [change])).1 = .error denied := rfl
    obtain ⟨answer, submits, -, -⟩ := submitsNothing_of_unwritten "log" compares unwritten
    refine ⟨_, _, (runs locked).trans (congrArg (·, _) answer), submits, ?_⟩
    intro reference _
    rfl

end ChangeGate.Round
