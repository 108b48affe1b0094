import ChangeGate.Proofs.Review.Fresh
import ChangeGate.Proofs.Round.Log

/-!
# What a round hands over

A round hands over the groups and rejected sets that are new against the record in its log, if it
gets as far as comparing, and none otherwise. The journal of a round shows one attempt to report
each rejected set it hands over, then one outcome for each group, in order, and no other posts or
outcomes around them.
-/

namespace ChangeGate.Round

open ChangeGate.Ci ChangeGate.Memory ChangeGate.Review ChangeGate.Service

/-- What a round on a world hands over to be reported and handled. -/
def handed (settings : Settings) (world : World) : Grouping :=
  match reading settings world with
  | .snapshot seen changes =>
      if settings.dispatchEnabled then (Grouping.ofChanges changes).fresh seen else ⟨[], []⟩
  | _ => ⟨[], []⟩

/-- A round that does not read the open changes hands over nothing. -/
theorem handed_of_noSnapshot {settings : Settings} {world : World}
    (noSnapshot : ∀ seen changes, reading settings world ≠ .snapshot seen changes) :
    handed settings world = ⟨[], []⟩ := by
  rw [handed]
  cases read : reading settings world with
  | snapshot seen changes => exact absurd read (noSnapshot seen changes)
  | _ => rfl

/-- The call neither posts nor makes an outcome known. -/
def Quiet (call : Call) : Prop :=
  isPost call = false ∧ outcome? call = none

/-- The journal shows what was handed over: an attempt to report each rejected set, then an
outcome for each group, both in order, and nothing of the kind before, between and after. The
report lists the same groups. -/
def HandsOver (settings : Settings) (path : String) (grouping : Grouping)
    (done : Observation (Except Failure Report)) : Prop :=
  ∃ before start after,
    let reported := observe (reportAllRejected (observed path) grouping.rejected) start
    let handled := observe (handleGroups settings (observed path) grouping.groups) reported.after
    done.calls = before ++ reported.calls ++ handled.calls ++ after ∧
    (∀ call ∈ before, Quiet call) ∧
    reported.calls.filter isPost = grouping.rejected.map rejectionPost ∧
    reported.calls.filterMap outcome? = [] ∧
    handled.calls.filterMap outcome? =
      handled.answer.map (fun report => (report.group, report.outcome.state)) ∧
    handled.answer.map (·.group) =
      grouping.groups.map (fun group => (considered settings group).label) ∧
    (∀ call ∈ handled.calls, ∀ rejected, call ≠ rejectionPost rejected) ∧
    (∀ call ∈ after, Quiet call) ∧
    ∀ report, done.answer = .ok report → report.groups = handled.answer

/-! ## Quiet calls -/

theorem quiet_of_telling {call : Call} (allowed : telling.Allows call) : Quiet call := by
  cases call with
  | emit event =>
      cases event with
      | groupOutcome => exact absurd allowed id
      | _ => exact ⟨rfl, rfl⟩
  | post => exact absurd allowed id
  | _ => exact ⟨rfl, rfl⟩

theorem quiet_of_landing {call : Call} (allowed : landing.Allows call) : Quiet call := by
  cases call with
  | emit event =>
      cases event with
      | groupOutcome => exact absurd allowed id
      | _ => exact ⟨rfl, rfl⟩
  | post => exact absurd allowed id
  | _ => exact ⟨rfl, rfl⟩

theorem quiet_of_opening {call : Call} {text : String}
    (allowed : telling.Allows call ∨ call = .query text) : Quiet call := by
  rcases allowed with tells | isQuery
  · exact quiet_of_telling tells
  · rw [isQuery]
    exact ⟨rfl, rfl⟩

theorem quiet_of_ending {changes : List Change} {call : Call}
    (allowed : endingAllows changes call) : Quiet call := by
  rcases allowed with lands | isReplace
  · exact quiet_of_landing lands
  · rw [isReplace]
    exact ⟨rfl, rfl⟩

/-- Reporting and handling show what they are given. -/
theorem handsOver_of_calls {settings : Settings} {path : String} {grouping : Grouping}
    {done : Observation (Except Failure Report)} (before : List Call) (start : World)
    (after : List Call) (quietBefore : ∀ call ∈ before, Quiet call)
    (quietAfter : ∀ call ∈ after, Quiet call)
    (handsOver :
      let reported := observe (reportAllRejected (observed path) grouping.rejected) start
      let handled := observe (handleGroups settings (observed path) grouping.groups) reported.after
      done.calls = before ++ reported.calls ++ handled.calls ++ after ∧
        ∀ report, done.answer = .ok report → report.groups = handled.answer) :
    HandsOver settings path grouping done := by
  let reported := observe (reportAllRejected (observed path) grouping.rejected) start
  obtain ⟨labels, outcomes⟩ := outcomes_handleGroups path settings grouping.groups reported.after
  refine ⟨before, start, after, handsOver.1, quietBefore, ?_, ?_, outcomes, labels, ?_, quietAfter,
    handsOver.2⟩
  · exact posts_reportAllRejected path grouping.rejected start
  · exact filterMap_outcome?_of_governs (handling_governs_reportAllRejected grouping.rejected) start
  · intro call member
    have gated : (handling False True).Allows call :=
      (handling_governs_handleGroups settings grouping.groups reported.after).2 call member
    exact ne_rejectionPost_of_allows gated

/-- A round with a quiet journal and no groups in its report hands over nothing. -/
theorem handsOver_nothing {settings : Settings} {path : String}
    {done : Observation (Except Failure Report)} (quiet : ∀ call ∈ done.calls, Quiet call)
    (noGroups : ∀ report, done.answer = .ok report → report.groups = []) :
    HandsOver settings path ⟨[], []⟩ done := by
  apply handsOver_of_calls done.calls done.after [] quiet (List.forall_mem_nil _)
  refine ⟨?_, noGroups⟩
  simp only [reportAllRejected, handleGroups, observe_pure, List.append_nil]

/-! ## The journal of a round -/

section
variable (path : String) (settings : Settings) (seen : Patchsets) (changes : List Change)
  (world : World)

/-- What comes before the open changes are gone through is no part of what is handed over. -/
theorem handsOver_append {settings : Settings} {path : String} {grouping : Grouping}
    {opened : List Call} {later : Observation (Except Failure Report)}
    (quiet : ∀ call ∈ opened, Quiet call) (handsOver : HandsOver settings path grouping later) :
    HandsOver settings path grouping ⟨later.answer, opened ++ later.calls, later.after⟩ := by
  obtain ⟨before, start, after, calls, quietBefore, rest⟩ := handsOver
  refine ⟨opened ++ before, start, after, ?_, ?_, rest⟩
  · simp only [calls, List.append_assoc]
  · exact List.forall_mem_append.mpr ⟨quiet, quietBefore⟩

/-- What follows the record answers only where the record was written. -/
theorem answer_saveThen_ok {next : JournalT WorldM (Except Failure Report)} {report : Report}
    (finished :
      (observe (saveThen (observed path) (SeenLog.record changes) next) world).answer =
        .ok report) :
    ∃ after, (observe next after).answer = .ok report := by
  simp only [observe_saveThen] at finished
  cases written : (world.log.replace (recordBytes changes)).1 with
  | error cause =>
      rw [written] at finished
      cases finished
  | ok =>
      rw [written] at finished
      exact ⟨_, finished⟩

variable {settings seen}

/-- A round that stops early hands over nothing. -/
theorem handsOver_of_stopReason {reason : StopReason}
    (stops : stopReason? settings seen = some reason) :
    HandsOver settings path ⟨[], []⟩
      (observe (proceed settings (observed path) seen changes) world) := by
  rw [proceed_of_stopReason (observed path) changes stops]
  obtain ⟨-, allowed⟩ := saveThen_within path changes (stop (observed path) reason)
    (landing_governs_stop reason) world
  apply handsOver_nothing fun call member => quiet_of_ending (allowed call member)
  intro report finished
  obtain ⟨after, stopped⟩ := answer_saveThen_ok path changes world finished
  rw [answer_stop] at stopped
  cases stopped
  rfl

/-- A round that compares hands over what is new. -/
theorem handsOver_of_compares (compares : stopReason? settings seen = none) :
    HandsOver settings path ((Grouping.ofChanges changes).fresh seen)
      (observe (proceed settings (observed path) seen changes) world) := by
  rw [observe_proceed_of_compares path changes world compares]
  let fresh := (Grouping.ofChanges changes).fresh seen
  let reported := observe (reportAllRejected (observed path) fresh.rejected) world
  let handled := observe (handleGroups settings (observed path) fresh.groups) reported.after
  let next := landThenFinish (observed path) changes handled.answer reported.answer
  obtain ⟨-, allowed⟩ := saveThen_within path changes next
    (landing_governs_landThenFinish changes _ _) handled.after
  apply handsOver_of_calls [] world _ (List.forall_mem_nil _)
    (fun call member => quiet_of_ending (allowed call member))
  constructor
  · simp only [List.nil_append, List.append_assoc]
    rfl
  · intro report finished
    obtain ⟨after, landed⟩ := answer_saveThen_ok path changes handled.after finished
    exact landThenFinish_ok changes handled.answer reported.answer after landed

/-- A round with a build server hands over what is new. -/
theorem handsOver_proceed (enabled : settings.dispatchEnabled = true) :
    HandsOver settings path ((Grouping.ofChanges changes).fresh seen)
      (observe (proceed settings (observed path) seen changes) world) := by
  cases recorded : seen.isEmpty with
  | true =>
      have stops : stopReason? settings seen = some .noSeenRefs := by
        simp [stopReason?, enabled, recorded]
      have nothing : (Grouping.ofChanges changes).fresh seen = ⟨[], []⟩ := if_pos recorded
      rw [nothing]
      exact handsOver_of_stopReason path changes world stops
  | false =>
      have compares : stopReason? settings seen = none := by
        simp [stopReason?, enabled, recorded]
      exact handsOver_of_compares path changes world compares

variable (settings)

/-- The journal of a round shows what it hands over. -/
theorem handsOver_run :
    HandsOver settings path (handed settings world)
      (observe (run settings (observed path)) world) := by
  rcases snapshot_or_endsEarly path settings world with ⟨seen, changes, read⟩ | ⟨noSnapshot, ends⟩
  · obtain ⟨opened, events, allowed, course⟩ := observe_run_of_snapshot path read
    rw [handed, read, course]
    apply handsOver_append fun call member => quiet_of_opening (allowed call member)
    by_cases enabled : settings.dispatchEnabled = true
    · simp only [enabled, if_true]
      exact handsOver_proceed path changes _ enabled
    · have stops : stopReason? settings seen = some .noCiHost := by
        simp [stopReason?, enabled]
      dsimp only
      rw [if_neg enabled]
      exact handsOver_of_stopReason path changes _ stops
  · rw [handed_of_noSnapshot noSnapshot]
    exact handsOver_nothing (fun call member => quiet_of_opening (ends.calls call member))
      ends.noGroups

end

/-! ## Nothing to hand over -/

/-- The call neither posts, nor starts or cancels a build. -/
def LeavesAlone : Call → Prop
  | .post .. => False
  | .start .. => False
  | .cancelQueued _ => False
  | .stop .. => False
  | _ => True

/-- Posts and builds are as they were. -/
def Untouched (before after : World) : Prop :=
  after.ci = before.ci ∧ after.review.posts = before.review.posts

theorem leavesAlone_of_telling {call : Call} (allowed : telling.Allows call) :
    LeavesAlone call := by
  cases call with
  | lastStatus => trivial
  | read => trivial
  | emit => trivial
  | _ => exact absurd allowed id

theorem leavesAlone_of_ending {changes : List Change} {call : Call}
    (allowed : endingAllows changes call) : LeavesAlone call := by
  rcases allowed with lands | isReplace
  · cases call with
    | submit => trivial
    | emit => trivial
    | _ => exact absurd lands id
  · rw [isReplace]
    trivial

theorem leavesAlone_of_opening {call : Call} {text : String}
    (allowed : telling.Allows call ∨ call = .query text) : LeavesAlone call := by
  rcases allowed with tells | isQuery
  · exact leavesAlone_of_telling tells
  · rw [isQuery]
    trivial

section
variable (path : String) {settings : Settings} {seen : Patchsets} (changes : List Change)
  (world : World)

/-- From the record on, posts and builds are left alone. -/
theorem saveThen_leavesAlone {next : JournalT WorldM (Except Failure Report)}
    (governed : landing.Governs next) :
    let done := observe (saveThen (observed path) (SeenLog.record changes) next) world
    Untouched world done.after ∧ ∀ call ∈ done.calls, LeavesAlone call := by
  obtain ⟨⟨submits, events, after⟩, allowed⟩ := saveThen_within path changes next governed world
  refine ⟨?_, fun call member => leavesAlone_of_ending (allowed call member)⟩
  rw [after]
  exact ⟨rfl, rfl⟩

/-- Where nothing is new, a round goes straight on to the record. -/
theorem proceed_leavesAlone
    (nothing : stopReason? settings seen = none →
      (Grouping.ofChanges changes).fresh seen = ⟨[], []⟩) :
    let done := observe (proceed settings (observed path) seen changes) world
    Untouched world done.after ∧ ∀ call ∈ done.calls, LeavesAlone call := by
  cases stops : stopReason? settings seen with
  | some reason =>
      rw [proceed_of_stopReason (observed path) changes stops]
      exact saveThen_leavesAlone path changes world (landing_governs_stop reason)
  | none =>
      rw [proceed_of_compares (observed path) changes stops, nothing stops]
      exact saveThen_leavesAlone path changes world (landing_governs_landThenFinish changes [] 0)

variable {world}

/-- What is handed over is new among the open changes that were read. -/
theorem exists_snapshot_of_mem_handed {members : List Change}
    (isHanded : members ∈ (handed settings world).memberLists) :
    ∃ seen changes, reading settings world = .snapshot seen changes ∧
      members ∈ ((Grouping.ofChanges changes).fresh seen).memberLists := by
  rw [handed] at isHanded
  cases read : reading settings world with
  | snapshot seen changes =>
      rw [read] at isHanded
      by_cases enabled : settings.dispatchEnabled = true
      · simp only [enabled, if_true] at isHanded
        exact ⟨seen, changes, rfl, isHanded⟩
      · dsimp only at isHanded
        rw [if_neg enabled] at isHanded
        cases isHanded
  | _ =>
      rw [read] at isHanded
      cases isHanded

/-- A round that hands over nothing leaves posts and builds alone. -/
theorem observe_run_of_handed_nothing (nothing : handed settings world = ⟨[], []⟩) :
    let done := observe (run settings (observed path)) world
    Untouched world done.after ∧ ∀ call ∈ done.calls, LeavesAlone call := by
  rcases snapshot_or_endsEarly path settings world with ⟨seen, changes, read⟩ | ⟨-, ends⟩
  · obtain ⟨opened, events, opening, course⟩ := observe_run_of_snapshot path read
    have nothingNew : stopReason? settings seen = none →
        (Grouping.ofChanges changes).fresh seen = ⟨[], []⟩ := by
      intro compares
      have enabled : settings.dispatchEnabled = true := by
        cases enabled : settings.dispatchEnabled with
        | true => rfl
        | false => simp [stopReason?, enabled] at compares
      rw [handed, read] at nothing
      simpa only [enabled, if_true] using nothing
    obtain ⟨untouched, allowed⟩ := proceed_leavesAlone path changes
      { world with review := (world.review.query settings.review.query).2, events } nothingNew
    rw [course]
    refine ⟨untouched, List.forall_mem_append.mpr ⟨?_, allowed⟩⟩
    exact fun call member => leavesAlone_of_opening (opening call member)
  · obtain ⟨queries, events, after⟩ := ends.within
    refine ⟨?_, fun call member => leavesAlone_of_opening (ends.calls call member)⟩
    rw [after]
    exact ⟨rfl, rfl⟩

end

/-! ## Nothing new is lost -/

/-- What a round is to hand over of some open changes, and what it does with it. -/
structure Handover (seen : Patchsets) (changes : List Change) (fresh : Grouping) : Prop where
  /-- A new change is handed over as often as it is listed. -/
  complete : ∀ change : Change, change.reference ≠ "" → change.Unseen seen →
    fresh.members.count change = changes.count change
  /-- Every group handed over has a new member. -/
  newInGroup : ∀ group ∈ fresh.groups,
    ∃ change ∈ group.members, change.reference ≠ "" ∧ change.Unseen seen
  /-- So does every rejected set. -/
  newInRejected : ∀ set ∈ fresh.rejected,
    ∃ change ∈ set.members, change.reference ≠ "" ∧ change.Unseen seen
  /-- The groups with a new member are handed over as they are, in their order. -/
  groups : fresh.groups =
    (Grouping.ofChanges changes).groups.filter fun group =>
      ∃ change ∈ group.members, change.reference ≠ "" ∧ change.Unseen seen
  /-- So are the rejected sets. -/
  rejected : fresh.rejected =
    (Grouping.ofChanges changes).rejected.filter fun set =>
      ∃ change ∈ set.members, change.reference ≠ "" ∧ change.Unseen seen
  /-- A round that gets as far as comparing with this record reports each rejected set once and
  then handles each group once, in order. -/
  handsOver : ∀ settings path world, settings.dispatchEnabled = true →
    ¬ Red settings world → SeenLog.load world.log.read = .ok seen →
    (world.review.query settings.review.query).1 = .ok changes →
    let done := observe (run settings (observed path)) world
    (run settings (services path)).run world = (done.answer, done.after) ∧
      HandsOver settings path fresh done

/-- What is new is handed over once, and nothing is handed over again without something new. -/
theorem handover_fresh (seen : Patchsets) (changes : List Change) (recorded : seen ≠ ∅) :
    Handover seen changes ((Grouping.ofChanges changes).fresh seen) := by
  have fresh := Grouping.fresh_ofChanges recorded changes
  have groups := congrArg Grouping.groups fresh
  have rejected := congrArg Grouping.rejected fresh
  refine ⟨?_, ?_, ?_, groups, rejected, ?_⟩
  · intro change present unseen
    have fetchable := (Change.fetchable_iff change).mpr present
    exact Grouping.count_fresh_ofChanges recorded changes fetchable unseen
  · intro group member
    rw [groups] at member
    exact of_decide_eq_true (List.mem_filter.mp member).2
  · intro set member
    rw [rejected] at member
    exact of_decide_eq_true (List.mem_filter.mp member).2
  · intro settings path world enabled running loaded answered
    have shown := handsOver_run path settings world
    rw [handed, reading_eq_snapshot running loaded answered] at shown
    simp only [enabled, if_true] at shown
    exact ⟨run_eq_of_erasure (Simulation.run (erasure_serves_observed path) settings) world, shown⟩

/-- A change recorded at its first patchset is handed over once when its second one is listed. -/
theorem handover_of_second_patchset :
    let seen : Patchsets := Patchsets.put ∅ ⟨1, 1⟩
    let change : Change := { number := 1, patchset := 2 }
    let fresh := (Grouping.ofChanges [change]).fresh seen
    let settings : Settings := { ci := { host := "ci" } }
    let world : World :=
      { review := { changes := [change] }, log := .file (SeenLog.render seen).toUTF8 }
    seen ≠ ∅ ∧ fresh.members.count change = 1 ∧
      HandsOver settings "log" fresh (observe (run settings (observed "log")) world) := by
  intro seen change fresh settings world
  have recorded : seen ≠ ∅ := Patchsets.put_ne_empty ∅ ⟨1, 1⟩
  have unseen : change.Unseen seen := Change.unseen_put ∅ rfl (by decide)
  have handover := handover_fresh seen [change] recorded
  refine ⟨recorded, ?_, ?_⟩
  · rw [handover.complete change (by decide) unseen]
    exact List.count_singleton_self
  · exact (handover.handsOver settings "log" world (by decide) (by decide)
      (SeenLog.load_render seen) rfl).2

end ChangeGate.Round
