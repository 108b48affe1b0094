import ChangeGate.Proofs.Round.Course
import ChangeGate.Proofs.Round.Gate
import ChangeGate.Proofs.Service.Notes

/-!
# The trace of a round

What the notes of a round can be, whatever the services answer. The predicates follow the programs
of the round one by one, and each program yields notes of its predicate. What a round does to any
particular services is read off its trace.
-/

namespace ChangeGate.Round.Trace

open ChangeGate.Ci ChangeGate.Review ChangeGate.Service

/-! ## Traces -/

/-- Some items are gone through in order. Each has a segment of the trace and a result. -/
inductive Each {α β γ : Type} (Of : α → List γ → β → Prop) :
    List α → List γ → List β → Prop where
  | nil : Each Of [] [] []
  | cons {item : α} {rest : List α} {segment trace : List γ} {result : β} {results : List β}
      (first : Of item segment result) (others : Each Of rest trace results) :
      Each Of (item :: rest) (segment ++ trace) (result :: results)

/-- An entry stands in the segment of one of some items, with the segments of the other items before
and after that one. -/
inductive Located {α β γ : Type} (Of : α → List γ → β → Prop) (items : List α) :
    List γ → γ → List γ → Prop where
  | intro {item : α} {before after : List γ} {entry : γ} {result : β} (member : item ∈ items)
      (holds : Of item (before ++ entry :: after) result) (prior rest : List γ) :
      Located Of items (prior ++ before) entry (after ++ rest)

section
variable {α β γ : Type} {Of : α → List γ → β → Prop} {items : List α} {trace : List γ}
  {results : List β}

theorem Each.mono {Looser : α → List γ → β → Prop} (each : Each Of items trace results)
    (implies : ∀ item segment result, Of item segment result → Looser item segment result) :
    Each Looser items trace results := by
  induction each with
  | nil => exact .nil
  | cons first _ inductionHypothesis => exact .cons (implies _ _ _ first) inductionHypothesis

/-- Items with segments and results of their own are gone through in order. -/
theorem each_flatMap {segment : α → List γ} {result : α → β}
    (holds : ∀ item, Of item (segment item) (result item)) (items : List α) :
    Each Of items (items.flatMap segment) (items.map result) := by
  induction items with
  | nil => exact .nil
  | cons item rest inductionHypothesis => exact .cons (holds item) inductionHypothesis

/-- Every result is that of an item, whose segment is in the trace. -/
theorem Each.exists_of_mem_results (each : Each Of items trace results) {result : β}
    (member : result ∈ results) :
    ∃ item segment, Of item segment result ∧ ∀ entry ∈ segment, entry ∈ trace := by
  induction each with
  | nil => cases member
  | cons first _ inductionHypothesis =>
      rcases List.mem_cons.mp member with rfl | isLater
      · exact ⟨_, _, first, fun _ inSegment => List.mem_append_left _ inSegment⟩
      · obtain ⟨item, segment, holds, inRest⟩ := inductionHypothesis isLater
        exact ⟨item, segment, holds, fun entry inSegment =>
          List.mem_append_right _ (inRest entry inSegment)⟩

theorem Located.cons {earlier later : List γ} {entry : γ}
    (located : Located Of items earlier entry later) (item : α) (segment : List γ) :
    Located Of (item :: items) (segment ++ earlier) entry later := by
  obtain ⟨member, holds, prior, rest⟩ := located
  rw [← List.append_assoc]
  exact .intro (List.mem_cons_of_mem _ member) holds _ rest

/-- Every entry of a trace stands in the segment of an item. -/
theorem Each.located (each : Each Of items trace results) {earlier later : List γ} {entry : γ}
    (isTrace : trace = earlier ++ entry :: later) : Located Of items earlier entry later := by
  induction each generalizing earlier with
  | nil => simp at isTrace
  | @cons item items segment trace result results first others inductionHypothesis =>
      rcases List.append_eq_append_iff.mp isTrace with ⟨middle, rfl, isRest⟩ | ⟨part, rfl, isRest⟩
      · exact (inductionHypothesis isRest).cons item segment
      · cases part with
        | nil =>
            rw [List.append_nil] at first
            have isTrace : trace = [] ++ entry :: later := isRest.symm
            have located := (inductionHypothesis isTrace).cons item earlier
            rwa [List.append_nil] at located
        | cons head after =>
            obtain ⟨rfl, rfl⟩ := List.cons.inj isRest
            exact .intro List.mem_cons_self first [] trace

theorem Each.exists_of_mem (each : Each Of items trace results) {entry : γ}
    (member : entry ∈ trace) :
    ∃ item ∈ items, ∃ segment result, Of item segment result ∧ entry ∈ segment := by
  obtain ⟨earlier, later, isTrace⟩ := List.append_of_mem member
  obtain ⟨isItem, holds, -, -⟩ := each.located isTrace
  exact ⟨_, isItem, _, _, holds, by simp⟩

end

/-- A listed build that may be cancelled, with the note of an attempt to. -/
structure Item where
  refs : String
  cancel : Except Failure Unit → Note

def Item.queued (build : QueuedBuild) : Item :=
  ⟨build.refs, fun answer => ⟨.cancelQueued build.id, answer⟩⟩

def Item.started (job : String) (build : StartedBuild) : Item :=
  ⟨build.refs, fun answer => ⟨.stop job build.number, answer⟩⟩

/-- A build is looked at, and cancelled if it is stale for these patchsets. -/
inductive BuildCleared (current : Patchsets) (place : BuildPlace) (item : Item) :
    List Note → Cleared → Prop where
  | unnamed (absent : item.refs.isEmpty = true) : BuildCleared current place item [] {}
  | unreadable {cause : RefError} (present : item.refs.isEmpty = false)
      (unreadable : isStale item.refs current = .error cause) :
      BuildCleared current place item [] { failures := [.ref cause] }
  | kept (present : item.refs.isEmpty = false) (kept : isStale item.refs current = .ok false) :
      BuildCleared current place item [] {}
  | refused {failure : Failure} (present : item.refs.isEmpty = false)
      (stale : isStale item.refs current = .ok true) :
      BuildCleared current place item [item.cancel (.error failure)] { failures := [failure] }
  | cancelled (present : item.refs.isEmpty = false)
      (stale : isStale item.refs current = .ok true) :
      BuildCleared current place item
        [item.cancel (.ok ()), .tell (.buildCancelled item.refs place)] { cancelled := 1 }

/-- The builds of a listing are looked at in order. Without a listing there are none. -/
inductive PlaceCleared (current : Patchsets) (place : BuildPlace) :
    Except Failure (List Item) → List Note → Cleared → Prop where
  | unlisted (failure : Failure) :
      PlaceCleared current place (.error failure) [] { failures := [failure] }
  | listed {items : List Item} {notes : List Note} {parts : List Cleared}
      (each : Each (BuildCleared current place) items notes parts) :
      PlaceCleared current place (.ok items) notes (parts.foldr Cleared.append {})

/-- The builds of a queue. -/
def queuedItems (queue : Except Failure (List QueuedBuild)) : Except Failure (List Item) :=
  queue.map fun builds => builds.map Item.queued

/-- The builds of a job that still run. -/
def startedItems (job : String) (started : Except Failure (List StartedBuild)) :
    Except Failure (List Item) :=
  started.map fun builds => (builds.filter (·.building)).map (Item.started job)

/-- The outcome of an attempt. -/
def attempted (attempt : Attempt) (success : Outcome) : Except Failure Unit → Outcome
  | .ok () => success
  | .error failure => .errored attempt failure

/-- A group gets a message on its refs. -/
def Posted (group : Group) (message : String) (verified : Bool) (attempt : Attempt)
    (reason : SkipReason) (notes : List Note) (outcome : Outcome) : Prop :=
  ∃ answer, outcome = attempted attempt (.skipped reason) answer ∧
    notes = ⟨.post message group.references verified, answer⟩ :: outcome.failureEvents.map .tell

/-- Both places are listed and looked at, the queue first. -/
inductive StaleCleared (job : String) (current : Patchsets) : List Note → Cleared → Prop where
  | intro {queue : Except Failure (List QueuedBuild)}
      {started : Except Failure (List StartedBuild)} {cancels stops : List Note}
      {inQueue running : Cleared}
      (queueCleared : PlaceCleared current .queue (queuedItems queue) cancels inQueue)
      (runningCleared : PlaceCleared current .running (startedItems job started) stops running) :
      StaleCleared job current
        ((⟨.queued job, queue⟩ :: cancels) ++ (⟨.started job, started⟩ :: stops))
        (inQueue.append running)

/-- What went wrong while clearing is made known. -/
def complaints (failures : List Failure) : List Note :=
  failures.map fun failure => .tell (.recoverableError .cancelStale failure)

/-- Complaints are events. -/
theorem complaints_eq (failures : List Failure) :
    complaints failures =
      (failures.map (Event.recoverableError .cancelStale)).map Note.tell := by
  rw [complaints, List.map_map]
  rfl

/-- A group has its way cleared and its build started. -/
def Started (job : String) (group : Group) (params : BuildParams) (tests : List String)
    (notes : List Note) (outcome : Outcome) : Prop :=
  ∃ clearing cleared answer, StaleCleared job group.patchsets clearing cleared ∧
    outcome = attempted .startBuild (.dispatched tests) answer ∧
    notes = clearing ++ (complaints cleared.failures
      ++ ⟨.start job params, answer⟩ :: outcome.failureEvents.map .tell)

/-- A verdict on a group is carried out. -/
def Carried (job : String) (link : BuildParams → String) (group : Group) :
    Verdict → List Note → Outcome → Prop
  | .empty => fun notes outcome => notes = [] ∧ outcome = .skipped .emptyGroup
  | .optedOut => Posted group optedOutMessage true .acknowledge .optedOut
  | .noTests => Posted group noTestsMessage true .acknowledge .noTests
  | .askPerson params => Posted group (manualMessage (link params)) false .postLink .untrustedOwner
  | .build params tests => Started job group params tests

/-- A group is handled and reported on. -/
def Handled (settings : Settings) (link : BuildParams → String) (group : Group)
    (notes : List Note) (report : GroupReport) : Prop :=
  let known := considered settings group
  ∃ carried, Carried settings.ci.job link known (verdict settings known) carried report.outcome ∧
    notes = carried ++ [.tell (.groupOutcome known.label report.outcome.state)] ∧
    report = ⟨known.label, known.members.length, report.outcome⟩

/-- A rejected set is reported, and the report is posted or refused. -/
inductive Reported (rejected : RejectedSet) : List Note → Bool → Prop where
  | posted :
      Reported rejected [⟨.post (rejectedMessage rejected) [rejected.change.reference] false, .ok ()⟩]
        true
  | refused (failure : Failure) :
      Reported rejected
        [⟨.post (rejectedMessage rejected) [rejected.change.reference] false, .error failure⟩,
          .tell (.recoverableError .reportRejected failure)]
        false

/-- Groups land in order, up to the first one that is refused. -/
inductive Landed : List Group → List Note → Except Failure Nat → Prop where
  | nil : Landed [] [] (.ok 0)
  | refused (group : Group) (rest : List Group) (failure : Failure) :
      Landed (group :: rest) [⟨.submit group.references, .error failure⟩] (.error failure)
  | landed {group : Group} {rest : List Group} {notes : List Note} {answer : Except Failure Nat}
      (others : Landed rest notes answer) :
      Landed (group :: rest)
        (⟨.submit group.references, .ok ()⟩ :: .tell (.groupSubmitted group.label) :: notes)
        (answer.map (group.members.length + ·))

/-- The last build is looked at, if there is a build server. -/
inductive Looked (settings : Settings) : List Note → Bool → Prop where
  | disabled (disabled : settings.dispatchEnabled = false) : Looked settings [] false
  | answered (enabled : settings.dispatchEnabled = true) (status : BuildStatus) :
      Looked settings [⟨.lastStatus settings.ci.job, .ok status⟩] status.isFailure
  | unanswered (enabled : settings.dispatchEnabled = true) (failure : Failure) :
      Looked settings
        [⟨.lastStatus settings.ci.job, .error failure⟩,
          .tell (.recoverableError .readStatus failure)]
        false

/-- The log is replaced by a record, and what may land does. -/
inductive Concluded (changes : List Change) (groups : List GroupReport) (reportedSets : Nat) :
    List Note → Except Failure Report → Prop where
  | unwritten (cause : FileError) :
      Concluded changes groups reportedSets [⟨.replace (recordBytes changes), .error cause⟩]
        (.error (.file cause))
  | unlanded {notes : List Note} {failure : Failure}
      (landed : Landed (landable changes) notes (.error failure)) :
      Concluded changes groups reportedSets (⟨.replace (recordBytes changes), .ok ()⟩ :: notes)
        (.error failure)
  | finished {notes : List Note} {submitted : Nat}
      (landed : Landed (landable changes) notes (.ok submitted)) :
      Concluded changes groups reportedSets
        (⟨.replace (recordBytes changes), .ok ()⟩ :: notes
          ++ [.tell (Report.finishedEvent { groups, submitted, reportedSets })])
        (.ok { groups, submitted, reportedSets })

/-- A round stops early. -/
def stopped (reason : StopReason) : List Note :=
  [.tell (.runSkipped reason), .tell (Report.finishedEvent { stopped := some reason })]

/-- A round goes on with the open changes and the record of what was seen. -/
inductive Proceeded (settings : Settings) (link : BuildParams → String) (seen : Patchsets)
    (changes : List Change) : List Note → Except Failure Report → Prop where
  | unwritten {reason : StopReason} (stops : stopReason? settings seen = some reason)
      (cause : FileError) :
      Proceeded settings link seen changes [⟨.replace (recordBytes changes), .error cause⟩]
        (.error (.file cause))
  | stopped {reason : StopReason} (stops : stopReason? settings seen = some reason) :
      Proceeded settings link seen changes
        (⟨.replace (recordBytes changes), .ok ()⟩ :: Trace.stopped reason)
        (.ok { stopped := some reason })
  | compared {reports handling ending : List Note} {posted : List Bool}
      {groups : List GroupReport} {answer : Except Failure Report}
      (compares : stopReason? settings seen = none)
      (reported : Each Reported ((Grouping.ofChanges changes).fresh seen).rejected reports posted)
      (handled :
        Each (Handled settings link) ((Grouping.ofChanges changes).fresh seen).groups handling
          groups)
      (concluded : Concluded changes groups (posted.countP id) ending answer) :
      Proceeded settings link seen changes (reports ++ handling ++ ending) answer

/-- A round compares the open changes with the log, as far as both can be read. -/
inductive Compared (settings : Settings) (link : BuildParams → String) :
    List Note → Except Failure Report → Prop where
  | unreadable {content : Except FileError ByteArray} {failure : Failure}
      (unreadable : SeenLog.load content = .error failure) :
      Compared settings link [⟨.read, content⟩] (.error failure)
  | unanswered {content : Except FileError ByteArray} {seen : Patchsets}
      (loaded : SeenLog.load content = .ok seen) (failure : Failure) :
      Compared settings link
        [⟨.read, content⟩, ⟨.query settings.review.query, .error failure⟩] (.error failure)
  | proceeded {content : Except FileError ByteArray} {seen : Patchsets} {changes : List Change}
      {notes : List Note} {answer : Except Failure Report}
      (loaded : SeenLog.load content = .ok seen)
      (proceeded : Proceeded settings link seen changes notes answer) :
      Compared settings link
        (⟨.read, content⟩ :: ⟨.query settings.review.query, .ok changes⟩ :: notes) answer

/-- A round runs. -/
inductive Ran (settings : Settings) (path : String) (link : BuildParams → String) :
    List Note → Except Failure Report → Prop where
  | red {looked : List Note} (failed : Looked settings looked true) :
      Ran settings path link
        (.tell (.runStarted settings.review.query path) :: looked ++ stopped .lastBuildFailed)
        (.ok { stopped := some .lastBuildFailed })
  | compared {looked notes : List Note} {answer : Except Failure Report}
      (running : Looked settings looked false) (compared : Compared settings link notes answer) :
      Ran settings path link
        (.tell (.runStarted settings.review.query path) :: looked ++ notes) answer

/-! ## Programs -/

section
variable {σ : Type} (services : Services (StateM σ))

theorem yields_loadSeen :
    Yields services.noted.loadSeen fun notes answer =>
      ∃ content, notes = [⟨.read, content⟩] ∧ answer = SeenLog.load content :=
  .call .read fun content => .pure ⟨content, rfl, rfl⟩

theorem yields_saveSeen (changes : List Change) :
    Yields (services.noted.saveSeen (SeenLog.record changes)) fun notes answer =>
      ∃ written, notes = [⟨.replace (recordBytes changes), written⟩] ∧
        answer = written.mapError Failure.file := by
  apply Yields.call (.replace (recordBytes changes))
  intro written
  cases written with
  | error cause => exact .pure ⟨_, rfl, rfl⟩
  | ok => exact .pure ⟨_, rfl, rfl⟩

theorem yields_clearBuild (current : Patchsets) (place : BuildPlace) (item : Item)
    {cancel : NotesT (StateM σ) (Except Failure Unit)}
    (cancels : Yields cancel fun notes answer => notes = [item.cancel answer]) :
    Yields (clearBuild services.noted current place item.refs cancel)
      (BuildCleared current place item) := by
  simp only [clearBuild]
  cases absent : item.refs.isEmpty with
  | true => exact .pure (.unnamed absent)
  | false =>
      cases verdict : isStale item.refs current with
      | error cause => exact .pure (.unreadable absent verdict)
      | ok stale =>
          cases stale with
          | false => exact .pure (.kept absent verdict)
          | true =>
              apply Yields.bind cancels
              rintro _ answer rfl
              cases answer with
              | error failure => exact .pure (.refused absent verdict)
              | ok => exact .call (.emit _) fun _ => .pure (.cancelled absent verdict)

theorem yields_clearEach {Build : Type} (current : Patchsets) (place : BuildPlace)
    (item : Build → Item) {cancel : Build → NotesT (StateM σ) (Except Failure Unit)}
    (cancels : ∀ build,
      Yields (cancel build) fun notes answer => notes = [(item build).cancel answer])
    (builds : List Build) :
    Yields (clearEach services.noted current place (fun build => (item build).refs) cancel builds)
      fun notes cleared => ∃ parts,
        Each (BuildCleared current place) (builds.map item) notes parts ∧
          cleared = parts.foldr Cleared.append {} := by
  induction builds with
  | nil => exact .pure ⟨[], .nil, rfl⟩
  | cons build rest inductionHypothesis =>
      apply Yields.bind (yields_clearBuild services current place (item build) (cancels build))
      intro segment cleared first
      apply Yields.bind inductionHypothesis
      rintro notes _ ⟨parts, others, rfl⟩
      refine .pure ⟨cleared :: parts, ?_, rfl⟩
      rw [List.append_nil]
      exact .cons first others

theorem yields_clearQueued (current : Patchsets) (builds : List QueuedBuild) :
    Yields (clearQueued services.noted current builds) fun notes cleared =>
      ∃ parts, Each (BuildCleared current .queue) (builds.map Item.queued) notes parts ∧
        cleared = parts.foldr Cleared.append {} := by
  rw [clearQueued_eq]
  exact yields_clearEach services current .queue .queued (fun _ => .note services _) builds

theorem yields_clearStarted (job : String) (current : Patchsets) (builds : List StartedBuild) :
    Yields (clearStarted services.noted job current builds) fun notes cleared =>
      ∃ parts, Each (BuildCleared current .running) (builds.map (Item.started job)) notes parts ∧
        cleared = parts.foldr Cleared.append {} := by
  rw [clearStarted_eq]
  exact yields_clearEach services current .running (.started job) (fun _ => .note services _) builds

theorem yields_clearQueue (job : String) (current : Patchsets) :
    Yields (clearQueue services.noted job current) fun notes cleared =>
      ∃ queue cancels, notes = ⟨.queued job, queue⟩ :: cancels ∧
        PlaceCleared current .queue (queuedItems queue) cancels cleared := by
  apply Yields.call (.queued job)
  intro queue
  cases queue with
  | error failure => exact .pure ⟨_, [], rfl, .unlisted failure⟩
  | ok builds =>
      apply (yields_clearQueued services current builds).mono
      rintro cancels _ ⟨parts, each, rfl⟩
      exact ⟨_, cancels, rfl, .listed each⟩

theorem yields_clearRunning (job : String) (current : Patchsets) :
    Yields (clearRunning services.noted job current) fun notes cleared =>
      ∃ started stops, notes = ⟨.started job, started⟩ :: stops ∧
        PlaceCleared current .running (startedItems job started) stops cleared := by
  apply Yields.call (.started job)
  intro started
  cases started with
  | error failure => exact .pure ⟨_, [], rfl, .unlisted failure⟩
  | ok builds =>
      apply (yields_clearStarted services job current (builds.filter (·.building))).mono
      rintro stops _ ⟨parts, each, rfl⟩
      exact ⟨_, stops, rfl, .listed each⟩

theorem yields_clearStale (job : String) (current : Patchsets) :
    Yields (clearStale services.noted job current) (StaleCleared job current) := by
  apply Yields.bind (yields_clearQueue services job current)
  rintro _ inQueue ⟨queue, cancels, rfl, queueCleared⟩
  apply Yields.bind (yields_clearRunning services job current)
  rintro _ running ⟨started, stops, rfl, runningCleared⟩
  apply Yields.pure
  rw [List.append_nil]
  exact .intro queueCleared runningCleared

theorem yields_emitFailures (failures : List Failure) :
    Yields (emitFailures services.noted failures) fun notes _ => notes = complaints failures := by
  induction failures with
  | nil => exact .pure rfl
  | cons failure rest inductionHypothesis =>
      apply Yields.call (.emit _)
      intro _
      apply inductionHypothesis.mono
      rintro notes _ rfl
      rfl

theorem yields_failAttempt (attempt : Attempt) (failure : Failure) :
    Yields (failAttempt services.noted attempt failure) fun notes outcome =>
      outcome = .errored attempt failure ∧ notes = outcome.failureEvents.map .tell :=
  .call (.emit _) fun _ => .pure ⟨rfl, rfl⟩

theorem yields_skipWithPost (group : Group) (message : String) (verified : Bool)
    (attempt : Attempt) (reason : SkipReason) :
    Yields (skipWithPost services.noted group message verified attempt reason)
      (Posted group message verified attempt reason) := by
  apply Yields.call (.post message group.references verified)
  intro answer
  cases answer with
  | ok => exact .pure ⟨_, rfl, rfl⟩
  | error failure =>
      apply (yields_failAttempt services attempt failure).mono
      rintro _ _ ⟨rfl, rfl⟩
      exact ⟨_, rfl, rfl⟩

theorem yields_startBuild (job : String) (group : Group) (params : BuildParams)
    (tests : List String) :
    Yields (startBuild services.noted job group params tests)
      (Started job group params tests) := by
  apply Yields.bind (yields_clearStale services job group.patchsets)
  intro clearing cleared isCleared
  apply Yields.bind (yields_emitFailures services cleared.failures)
  rintro _ _ rfl
  apply Yields.call (.start job params)
  intro answer
  cases answer with
  | ok => exact .pure ⟨clearing, cleared, .ok (), isCleared, rfl, rfl⟩
  | error failure =>
      apply (yields_failAttempt services .startBuild failure).mono
      rintro _ _ ⟨rfl, rfl⟩
      exact ⟨clearing, cleared, .error failure, isCleared, rfl, rfl⟩

theorem yields_carryOut (job : String) (group : Group) (verdict : Verdict) :
    Yields (carryOut services.noted job group verdict)
      (Carried job (services.ci.manualLink job) group verdict) := by
  cases verdict with
  | empty => exact .pure ⟨rfl, rfl⟩
  | optedOut => exact yields_skipWithPost services group _ _ _ _
  | noTests => exact yields_skipWithPost services group _ _ _ _
  | askPerson params => exact yields_skipWithPost services group _ _ _ _
  | build params tests => exact yields_startBuild services job group params tests

theorem yields_handleGroup (settings : Settings) (group : Group) :
    Yields (handleGroup settings services.noted group)
      (Handled settings (services.ci.manualLink settings.ci.job) group) := by
  apply Yields.bind (yields_carryOut services settings.ci.job _ _)
  intro carried outcome isCarried
  exact .call (.emit _) fun _ => .pure ⟨carried, isCarried, rfl, rfl⟩

theorem yields_handleGroups (settings : Settings) (groups : List Group) :
    Yields (handleGroups settings services.noted groups)
      (Each (Handled settings (services.ci.manualLink settings.ci.job)) groups) := by
  induction groups with
  | nil => exact .pure .nil
  | cons group rest inductionHypothesis =>
      apply Yields.bind (yields_handleGroup services settings group)
      intro segment report first
      apply Yields.bind inductionHypothesis
      intro notes reports others
      apply Yields.pure
      rw [List.append_nil]
      exact .cons first others

theorem yields_reportRejected (rejected : RejectedSet) :
    Yields (reportRejected services.noted rejected) (Reported rejected) := by
  apply Yields.call (.post _ _ _)
  intro answer
  cases answer with
  | ok => exact .pure .posted
  | error failure => exact .call (.emit _) fun _ => .pure (.refused failure)

theorem yields_reportAllRejected (rejected : List RejectedSet) :
    Yields (reportAllRejected services.noted rejected) fun notes count =>
      ∃ posted, Each Reported rejected notes posted ∧ count = posted.countP id := by
  induction rejected with
  | nil => exact .pure ⟨[], .nil, rfl⟩
  | cons first rest inductionHypothesis =>
      apply Yields.bind (yields_reportRejected services first)
      intro segment isPosted reported
      apply Yields.bind inductionHypothesis
      rintro notes _ ⟨posted, others, rfl⟩
      refine .pure ⟨isPosted :: posted, ?_, ?_⟩
      · rw [List.append_nil]
        exact .cons reported others
      · cases isPosted with
        | true => simp
        | false => simp

theorem yields_landAll (groups : List Group) :
    Yields (landAll services.noted groups) (Landed groups) := by
  induction groups with
  | nil => exact .pure .nil
  | cons group rest inductionHypothesis =>
      apply Yields.call (.submit group.references)
      intro answer
      cases answer with
      | error failure => exact .pure (.refused group rest failure)
      | ok =>
          apply Yields.call (.emit _)
          intro _
          apply Yields.bind inductionHypothesis
          intro notes answer others
          have landed : Landed (group :: rest) _ _ := .landed others
          cases answer with
          | error failure =>
              apply Yields.pure
              rw [List.append_nil]
              exact landed
          | ok count =>
              apply Yields.pure
              rw [List.append_nil]
              exact landed

theorem yields_stop (reason : StopReason) :
    Yields (stop services.noted reason) fun notes answer =>
      notes = stopped reason ∧ answer = .ok { stopped := some reason } :=
  .call (.emit _) fun _ => .call (.emit _) fun _ => .pure ⟨rfl, rfl⟩

theorem yields_lastBuildFailed (settings : Settings) :
    Yields (lastBuildFailed settings services.noted) (Looked settings) := by
  rw [lastBuildFailed]
  cases enabled : settings.dispatchEnabled with
  | false => exact .pure (.disabled enabled)
  | true =>
      apply Yields.call (.lastStatus settings.ci.job)
      intro answer
      cases answer with
      | ok status => exact .pure (.answered enabled status)
      | error failure => exact .call (.emit _) fun _ => .pure (.unanswered enabled failure)

theorem yields_landThenFinish (changes : List Change) (groups : List GroupReport)
    (reportedSets : Nat) :
    Yields (saveThen services.noted (SeenLog.record changes)
        (landThenFinish services.noted changes groups reportedSets))
      (Concluded changes groups reportedSets) := by
  apply Yields.bind (yields_saveSeen services changes)
  rintro _ _ ⟨written, rfl, rfl⟩
  cases written with
  | error cause => exact .pure (.unwritten cause)
  | ok =>
      apply Yields.bind (yields_landAll services (landable changes))
      intro notes answer landed
      cases answer with
      | error failure =>
          apply Yields.pure
          rw [List.append_nil]
          exact .unlanded landed
      | ok submitted => exact .call (.emit _) fun _ => .pure (.finished landed)

theorem yields_proceed (settings : Settings) (seen : Patchsets) (changes : List Change) :
    Yields (proceed settings services.noted seen changes)
      (Proceeded settings (services.ci.manualLink settings.ci.job) seen changes) := by
  cases stops : stopReason? settings seen with
  | some reason =>
      rw [proceed_of_stopReason services.noted changes stops]
      apply Yields.bind (yields_saveSeen services changes)
      rintro _ _ ⟨written, rfl, rfl⟩
      cases written with
      | error cause => exact .pure (.unwritten stops cause)
      | ok =>
          apply (yields_stop services reason).mono
          rintro _ _ ⟨rfl, rfl⟩
          exact .stopped stops
  | none =>
      rw [proceed_of_compares services.noted changes stops]
      apply Yields.bind (yields_reportAllRejected services _)
      rintro reports _ ⟨posted, reported, rfl⟩
      apply Yields.bind (yields_handleGroups services settings _)
      intro handling groups handled
      apply (yields_landThenFinish services changes groups (posted.countP id)).mono
      intro ending answer concluded
      rw [← List.append_assoc]
      exact .compared stops reported handled concluded

theorem yields_compareWithSeen (settings : Settings) :
    Yields (compareWithSeen settings services.noted)
      (Compared settings (services.ci.manualLink settings.ci.job)) := by
  apply Yields.bind (yields_loadSeen services)
  rintro _ _ ⟨content, rfl, rfl⟩
  cases loaded : SeenLog.load content with
  | error failure => exact .pure (.unreadable loaded)
  | ok seen =>
      apply Yields.call (.query settings.review.query)
      intro answer
      cases answer with
      | error failure => exact .pure (.unanswered loaded failure)
      | ok changes =>
          apply (yields_proceed services settings seen changes).mono
          intro notes answer proceeded
          exact .proceeded loaded proceeded

/-- A round leaves a trace of its kind, whatever the services answer. -/
theorem yields_run (settings : Settings) :
    Yields (run settings services.noted)
      (Ran settings services.log.path (services.ci.manualLink settings.ci.job)) := by
  apply Yields.call (.emit _)
  intro _
  apply Yields.bind (yields_lastBuildFailed services settings)
  intro looked failed isLooked
  cases failed with
  | true =>
      apply (yields_stop services .lastBuildFailed).mono
      rintro _ _ ⟨rfl, rfl⟩
      exact .red isLooked
  | false =>
      apply (yields_compareWithSeen services settings).mono
      intro notes answer compared
      exact .compared isLooked compared

end

end ChangeGate.Round.Trace
