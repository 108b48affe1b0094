import ChangeGate.Proofs.Round.Builds

/-!
# A round in which everything lands

Where no ref refuses to be submitted, a round that reads the open changes ends in one way: with the
log replaced, with everything submitted that may land, and with a report on the groups it handled.
-/

namespace ChangeGate.Round

open ChangeGate.Ci ChangeGate.Memory ChangeGate.Review ChangeGate.Service

variable (path : String)

/-- The calls that land a group. -/
def landingCalls (group : Group) : List Call :=
  [.submit group.references, .emit (.groupSubmitted group.label)]

/-- A world in which some groups were submitted. -/
def landedOn (world : World) (groups : List Group) : World :=
  { world with
    review :=
      { world.review with
        submits := world.review.submits ++ groups.flatMap (·.references) }
    events := world.events ++ groups.map fun group => .groupSubmitted group.label }

/-- A group of which no ref refuses lands before those that follow. -/
theorem landAll_cons (group : Group) (rest : List Group) (world : World)
    (accepts : world.review.Accepts group.references) :
    observe (landAll (observed path) (group :: rest)) world =
      let later := observe (landAll (observed path) rest) (landedOn world [group])
      ⟨later.answer.map (group.members.length + ·), landingCalls group ++ later.calls,
        later.after⟩ := by
  rw [landAll, observe_bind, observe_submit, ReviewState.submit_of_accepts _ accepts]
  simp only [observe_bind, observe_emit, landedOn, List.flatMap_singleton, List.map_singleton]
  cases (observe (landAll (observed path) rest) _).answer with
  | error failure => simp [landingCalls, Except.map]
  | ok others => simp [landingCalls, Except.map]

@[simp] theorem landedOn_nil (world : World) : landedOn world [] = world := by
  simp [landedOn]

@[simp] theorem landedOn_append (world : World) (groups others : List Group) :
    landedOn (landedOn world groups) others = landedOn world (groups ++ others) := by
  simp [landedOn]

/-- Groups of which no ref refuses land before those that follow. -/
theorem landAll_append (landed rest : List Group) (world : World)
    (accepts : world.review.Accepts (landed.flatMap (·.references))) :
    observe (landAll (observed path) (landed ++ rest)) world =
      let later := observe (landAll (observed path) rest) (landedOn world landed)
      ⟨later.answer.map ((landed.flatMap (·.members)).length + ·),
        landed.flatMap landingCalls ++ later.calls, later.after⟩ := by
  induction landed generalizing world with
  | nil =>
      rw [List.nil_append, landedOn_nil]
      generalize observe (landAll (observed path) rest) world = later
      obtain ⟨answer, calls, after⟩ := later
      cases answer <;> simp [Except.map]
  | cons group others inductionHypothesis =>
      rw [List.flatMap_cons] at accepts
      obtain ⟨accepted, othersAccepted⟩ := List.forall_mem_append.mp accepts
      rw [List.cons_append, landAll_cons path group _ world accepted]
      rw [inductionHypothesis (landedOn world [group]) othersAccepted, landedOn_append]
      rw [List.singleton_append]
      generalize observe (landAll (observed path) rest) (landedOn world (group :: others)) = later
      obtain ⟨answer, calls, after⟩ := later
      cases answer <;> simp [Except.map, Nat.add_assoc]

/-- Groups of which no ref refuses all land, in order. -/
theorem landAll_of_accepts (groups : List Group) (world : World)
    (accepts : world.review.Accepts (groups.flatMap (·.references))) :
    let landed := observe (landAll (observed path) groups) world
    landed.answer = .ok (groups.flatMap (·.members)).length ∧
      landed.after.review.submits =
        world.review.submits ++ groups.flatMap (·.references) := by
  have lands := landAll_append path groups [] world accepts
  rw [List.append_nil] at lands
  rw [lands]
  exact ⟨rfl, rfl⟩

/-- The first ref that refuses stops its group and the groups that follow. -/
theorem landAll_of_refused {group : Group} {before after : List String} {reference : String}
    (split : group.references = before ++ reference :: after) (others : List Group) (world : World)
    (accepts : world.review.Accepts before)
    (refused : world.review.failSubmitsTo.contains reference = true) :
    observe (landAll (observed path) (group :: others)) world =
      ⟨.error (.review (.refused (.submit reference))), [.submit group.references],
        { world with
          review := { world.review with submits := world.review.submits ++ before } }⟩ := by
  rw [landAll, observe_bind, observe_submit, split, world.review.submit_of_refused accepts refused]
  rfl

/-- Landing what may land ends in a report on the round. -/
theorem landThenFinish_of_accepts (changes : List Change) (groups : List GroupReport)
    (reportedSets : Nat) (world : World)
    (accepts : world.review.Accepts ((landable changes).flatMap (·.references))) :
    let done := observe (landThenFinish (observed path) changes groups reportedSets) world
    let submitted := ((landable changes).flatMap (·.members)).length
    done.answer = .ok { groups, submitted, reportedSets } ∧
      done.after.review.submits =
        world.review.submits ++ (landable changes).flatMap (·.references) := by
  obtain ⟨answer, submits⟩ := landAll_of_accepts path (landable changes) world accepts
  rw [landThenFinish, observe_bind, answer]
  exact ⟨rfl, submits⟩

/-- A round that began on a world ends with this record, these refs submitted and this report,
unless the log cannot be written. -/
structure Ends (world : World) (record : ByteArray) (landed : List String) (report : Report)
    (answer : Except Failure Report) (after : World) : Prop where
  log : after.log = (world.log.replace record).2
  unwritten : ∀ cause, (world.log.replace record).1 = .error cause →
    answer = .error (.file cause) ∧ after.review.submits = world.review.submits
  written : (world.log.replace record).1 = .ok () →
    answer = .ok report ∧ after.review.submits = world.review.submits ++ landed

/-- Only the log and what was submitted before have a say in how a round ends. -/
theorem Ends.congr {before world : World} {record : ByteArray} {landed : List String}
    {report : Report} {answer : Except Failure Report} {after : World}
    (ends : Ends before record landed report answer after) (log : before.log = world.log)
    (submits : before.review.submits = world.review.submits) :
    Ends world record landed report answer after := by
  obtain ⟨logAfter, unwritten, written⟩ := ends
  rw [log] at logAfter unwritten written
  rw [submits] at unwritten written
  exact ⟨logAfter, unwritten, written⟩

section
variable (changes : List Change) (world : World)

/-- A round ends with the record and what follows it. -/
theorem ends_saveThen {next : JournalT WorldM (Except Failure Report)} {landed : List String}
    {report : Report} (governed : landing.Governs next)
    (lands :
      let followed := observe next { world with log := (world.log.replace (recordBytes changes)).2 }
      followed.answer = .ok report ∧
        followed.after.review.submits = world.review.submits ++ landed) :
    let done := observe (saveThen (observed path) (SeenLog.record changes) next) world
    Ends world (recordBytes changes) landed report done.answer done.after := by
  obtain ⟨⟨submits, events, after⟩, -⟩ := saveThen_within path changes next governed world
  refine ⟨by rw [after], ?_, ?_⟩
  · intro cause unwritten
    simp only [observe_saveThen, unwritten]
    exact ⟨rfl, rfl⟩
  · intro written
    simp only [observe_saveThen, written]
    exact lands

variable {settings : Settings} {seen : Patchsets}

/-- A round that stops early submits nothing. -/
theorem ends_of_stopReason {reason : StopReason}
    (stops : stopReason? settings seen = some reason) :
    let done := observe (proceed settings (observed path) seen changes) world
    Ends world (recordBytes changes) [] { stopped := some reason } done.answer done.after := by
  rw [proceed_of_stopReason (observed path) changes stops]
  exact ends_saveThen path changes world (landing_governs_stop reason)
    ⟨rfl, (List.append_nil _).symm⟩

/-- A round that compares reports on what is new and lands what may land. -/
theorem ends_of_compares (compares : stopReason? settings seen = none)
    (accepts : world.review.Accepts ((landable changes).flatMap (·.references))) :
    let fresh := (Grouping.ofChanges changes).fresh seen
    let done := observe (proceed settings (observed path) seen changes) world
    ∃ reportedSets,
      Ends world (recordBytes changes) ((landable changes).flatMap (·.references))
        { groups := fresh.groups.map (reportOn settings world)
          submitted := ((landable changes).flatMap (·.members)).length
          reportedSets }
        done.answer done.after := by
  intro fresh done
  let reported := observe (reportAllRejected (observed path) fresh.rejected) world
  let handled := observe (handleGroups settings (observed path) fresh.groups) reported.after
  obtain ⟨posts, queued, started, added, cancelledQueued, stopped, events, after⟩ :
      (handling True True).Within world handled.after :=
    handling_within_proceed path settings world fresh
  -- Handling leaves alone what decides on writing and submitting.
  have refusals : handled.after.review.failSubmitsTo = world.review.failSubmitsTo := by rw [after]
  have reports := (handleGroups_after_reports path settings fresh world).1
  have ended := ends_saveThen path changes handled.after
    (landing_governs_landThenFinish changes handled.answer reported.answer)
    (landThenFinish_of_accepts path changes handled.answer reported.answer _
      fun reference member => refusals ▸ accepts reference member)
  refine ⟨reported.answer, ?_⟩
  simp only [done, observe_proceed_of_compares path changes world compares, ← reports]
  exact ended.congr (by rw [after]) (by rw [after])

end

end ChangeGate.Round
