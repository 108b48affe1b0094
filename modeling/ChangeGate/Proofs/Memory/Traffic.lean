import ChangeGate.Proofs.Memory.Requests
import ChangeGate.Proofs.Round.Trace

/-!
# The traffic of a round

The exchanges of a round with its servers, part by part as the round has them. A round opens by
asking how the last build ended and which changes are open. Where it goes on, it reports on sets,
handles each new group on its own, and lands what may land.
-/

namespace ChangeGate.Memory

open ChangeGate.Ci ChangeGate.Http ChangeGate.Review ChangeGate.Round ChangeGate.Service
open ChangeGate.Round.Trace

/-! ## Parts of a list -/

section
variable {α : Type} {first last rest before after : List α} {entry : α}

/-- An entry that the first part of a list does not have stands in the rest. -/
theorem exists_split_right (isSplit : first ++ rest = before ++ entry :: after)
    (notFirst : entry ∉ first) :
    ∃ earlier, before = first ++ earlier ∧ rest = earlier ++ entry :: after := by
  rcases List.append_eq_append_iff.mp isSplit with ⟨earlier, isBefore, isRest⟩ | ⟨part, isFirst, isRest⟩
  · exact ⟨earlier, isBefore, isRest⟩
  · cases part with
    | nil => exact ⟨[], by simpa using isFirst.symm, isRest.symm⟩
    | cons head others =>
        obtain ⟨rfl, -⟩ := List.cons.inj isRest
        exact absurd (by simp [isFirst]) notFirst

/-- An entry that the last part of a list does not have stands before it. -/
theorem exists_split_left (isSplit : first ++ last = before ++ entry :: after)
    (notLast : entry ∉ last) :
    ∃ later, first = before ++ entry :: later ∧ after = later ++ last := by
  rcases List.append_eq_append_iff.mp isSplit with ⟨part, -, isLast⟩ | ⟨part, isFirst, isRest⟩
  · exact absurd (by simp [isLast]) notLast
  · cases part with
    | nil =>
        obtain rfl : entry :: after = last := isRest
        exact absurd List.mem_cons_self notLast
    | cons head later =>
        obtain ⟨rfl, isAfter⟩ := List.cons.inj isRest
        exact ⟨later, isFirst, isAfter⟩

end

/-! ## Calls in a row -/

/-- Where calls are made item by item, so are their exchanges. -/
theorem each_of_makes {connection : Connection} {α β : Type} {Of : α → List Note → β → Prop}
    {Asks : α → List Exchange → β → Prop} {items : List α} {notes : List Note} {results : List β}
    {exchanges : List Exchange} (each : Each Of items notes results)
    (makes : connection.Makes notes exchanges)
    (asks : ∀ item notes exchanges result, Of item notes result →
      connection.Makes notes exchanges → Asks item exchanges result) :
    Each Asks items exchanges results := by
  induction each generalizing exchanges with
  | nil =>
      cases makes
      exact .nil
  | cons first _ inductionHypothesis =>
      obtain ⟨segment, others, makesFirst, makesOthers, rfl⟩ := makes.of_append
      exact .cons (asks _ _ _ _ first makesFirst) (inductionHypothesis makesOthers)

/-! ## Messages -/

namespace EachAsked

variable {request : ChangeRef → Request} {references : List String} {exchanges : List Exchange}
  {answer : Except Failure Unit}

theorem exists_ref (asked : EachAsked request references exchanges answer) :
    ∀ exchange ∈ exchanges, ∃ ref, exchange.request = request ref := by
  induction asked with
  | done => simp
  | unreadable => simp
  | refused _ _ asks => simpa using ⟨_, asks⟩
  | accepted _ asks _ _ inductionHypothesis => simpa using ⟨⟨_, asks⟩, inductionHypothesis⟩

/-- All succeed if the call does. -/
theorem succeeded (asked : EachAsked request references exchanges (.ok ())) :
    ∀ exchange ∈ exchanges, exchange.succeeded = true := by
  generalize granted : Except.ok () = answer at asked
  induction asked with
  | done => simp
  | unreadable => cases granted
  | refused => cases granted
  | accepted _ _ accepted _ inductionHypothesis =>
      simpa [Exchange.succeeded_iff, accepted] using inductionHypothesis granted

/-- One that has another after it succeeded. -/
theorem pairwise (asked : EachAsked request references exchanges answer) :
    exchanges.Pairwise fun first _ => first.succeeded = true := by
  induction asked with
  | done => exact .nil
  | unreadable => exact .nil
  | refused => exact List.pairwise_singleton ..
  | accepted _ _ accepted _ inductionHypothesis =>
      exact .cons (fun _ _ => (Exchange.succeeded_iff _).mpr ⟨_, accepted⟩) inductionHypothesis

end EachAsked

/-! ## Clearing the way for a build -/

/-- What the build server lists in reply; nothing, if the reply is no listing. -/
def Exchange.listed {α : Type} (exchange : Exchange)
    (read : String → Except ClientError (List α)) : List α :=
  (exchange.answer.bind read).toOption.getD []

/-- A build has refs, and these make it stale. -/
def isStaleFor (current : Patchsets) (refs : String) : Bool :=
  !refs.isEmpty && (isStale refs current).toOption.getD false

/-- The requests for a group whose build is started: the queue is listed and cleared, then the
builds are, and then the build is started. -/
inductive Dispatches (server : Server) (job : String) (current : Patchsets) (params : BuildParams) :
    List Exchange → Exchange → Prop where
  | intro {queue builds start : Exchange} {cancels stops : List Exchange}
      (asksQueue : queue.request = server.queue)
      (cancelsStale : cancels.map (·.request) =
        ((queue.listed (parseQueue · job)).filter (isStaleFor current ·.refs)).map
          (server.cancel ·.id))
      (asksBuilds : builds.request = server.builds job)
      (stopsStale : stops.map (·.request) =
        (((builds.listed parseBuilds).filter (·.building)).filter (isStaleFor current ·.refs)).map
          (server.stop job ·.number))
      (starts : start.request = server.start job params) :
      Dispatches server job current params ((queue :: cancels) ++ (builds :: stops) ++ [start]) start

section
variable {connection : Connection} {server : Server} (isCi : connection.ci = some server)

/-- The stale builds of a listing are the ones that are asked to be cancelled, in order. -/
theorem requests_of_each {β : Type} {current : Patchsets} {place : BuildPlace} {toItem : β → Item}
    {request : β → Request}
    (asks : ∀ build answer exchanges, connection.Makes [(toItem build).cancel answer] exchanges →
      exchanges.map (·.request) = [request build])
    {builds : List β} {notes : List Note} {parts : List Cleared} {exchanges : List Exchange}
    (each : Each (BuildCleared current place) (builds.map toItem) notes parts)
    (makes : connection.Makes notes exchanges) :
    exchanges.map (·.request) =
      (builds.filter fun build => isStaleFor current (toItem build).refs).map request := by
  induction builds generalizing notes parts exchanges with
  | nil =>
      cases each
      cases makes
      rfl
  | cons build rest inductionHypothesis =>
      cases each with
      | cons first others =>
          obtain ⟨segment, later, makesFirst, makesOthers, rfl⟩ := makes.of_append
          rw [List.map_append, inductionHypothesis others makesOthers]
          cases first with
          | unnamed absent =>
              cases makesFirst
              simp [isStaleFor, absent]
          | unreadable present unreadable =>
              cases makesFirst
              simp [isStaleFor, unreadable, Except.toOption]
          | kept present kept =>
              cases makesFirst
              simp [isStaleFor, kept, Except.toOption]
          | refused present stale =>
              rw [asks build _ segment makesFirst]
              simp [isStaleFor, present, stale, Except.toOption]
          | cancelled present stale =>
              have makesCancel : connection.Makes [_] segment := .of_append_events [_] makesFirst
              rw [asks build _ segment makesCancel]
              simp [isStaleFor, present, stale, Except.toOption]

/-- Where the listing of a place is read, its stale builds are asked to be cancelled. -/
theorem requests_of_placeCleared {β : Type} {current : Patchsets} {place : BuildPlace}
    (toItem : β → Item) (request : β → Request)
    (asks : ∀ build answer exchanges, connection.Makes [(toItem build).cancel answer] exchanges →
      exchanges.map (·.request) = [request build])
    {listing : Except ClientError (List β)} (kept : List β → List β) (keeps : kept [] = [])
    {notes : List Note} {cleared : Cleared} {exchanges : List Exchange}
    (isCleared : PlaceCleared current place
      ((listing.mapError ciFailure).map fun builds => (kept builds).map toItem) notes cleared)
    (makes : connection.Makes notes exchanges) :
    exchanges.map (·.request) =
      ((kept (listing.toOption.getD [])).filter
        fun build => isStaleFor current (toItem build).refs).map request := by
  cases listing with
  | error cause =>
      cases isCleared
      cases makes
      simp [Except.toOption, keeps]
  | ok builds =>
      cases isCleared with
      | listed each => exact requests_of_each asks each makes

include isCi in
/-- A call to the build server takes one exchange. -/
theorem exists_of_ciAsked {α : Type} {request : Server → Request}
    {read : String → Except ClientError α} {exchanges : List Exchange} {answer : Except Failure α}
    (asked : CiAsked connection.ci request read exchanges answer) :
    ∃ exchange : Exchange, exchanges = [exchange] ∧ exchange.request = request server ∧
      answer = (exchange.answer.bind read).mapError ciFailure := by
  rw [isCi] at asked
  exact asked

include isCi in
/-- A single call to the build server makes a single request. -/
theorem requests_of_ciAsked {α : Type} {request : Server → Request}
    {read : String → Except ClientError α} {call : Call} {answer : call.Answer}
    {exchanges : List Exchange} (makes : connection.Makes [⟨call, answer⟩] exchanges)
    {result : Except Failure α}
    (asked : ∀ first, connection.Takes call first answer →
      CiAsked connection.ci request read first result) :
    exchanges.map (·.request) = [request server] := by
  cases makes with
  | @cons _ _ _ first _ takes makesNothing =>
      cases makesNothing
      obtain ⟨exchange, rfl, asks, -⟩ := exists_of_ciAsked isCi (asked first takes)
      simp [asks]

include isCi in
/-- Starting the build of a group takes the requests that clear its way, and one that starts it. -/
theorem dispatches_of_started {job : String} {group : Group} {params : BuildParams}
    {tests : List String} {notes : List Note} {outcome : Outcome} {exchanges : List Exchange}
    (started : Started job group params tests notes outcome)
    (makes : connection.Makes notes exchanges) :
    ∃ start, Dispatches server job group.patchsets params exchanges start ∧
      outcome = attempted .startBuild (.dispatched tests)
        ((start.answer.bind readNothing).mapError ciFailure) := by
  obtain ⟨_, cleared, answer, ⟨queueCleared, runningCleared⟩, rfl, rfl⟩ := started
  rw [complaints_eq] at makes
  obtain ⟨_, _, makesClearing, makesRest, rfl⟩ := makes.of_append
  obtain ⟨_, _, makesQueue, makesRunning, rfl⟩ := makesClearing.of_append
  obtain ⟨_, _, makesComplaints, makesStart, rfl⟩ := makesRest.of_append
  cases makesQueue with
  | @cons _ _ _ _ cancels takesQueue makesCancels =>
  cases makesRunning with
  | @cons _ _ _ _ stops takesBuilds makesStops =>
  cases makesStart with
  | cons takesStart makesTold =>
  obtain ⟨queue, rfl, asksQueue, rfl⟩ := exists_of_ciAsked isCi takesQueue
  obtain ⟨builds, rfl, asksBuilds, rfl⟩ := exists_of_ciAsked isCi takesBuilds
  obtain ⟨start, rfl, starts, rfl⟩ := exists_of_ciAsked isCi takesStart
  obtain rfl := makesComplaints.of_events
  obtain rfl := makesTold.of_events
  have cancelsStale := requests_of_placeCleared Item.queued (server.cancel ·.id)
    (fun build answer exchanges makes => requests_of_ciAsked isCi makes fun _ takes => takes)
    id rfl queueCleared makesCancels
  have stopsStale := requests_of_placeCleared (Item.started job) (server.stop job ·.number)
    (fun build answer exchanges makes => requests_of_ciAsked isCi makes fun _ takes => takes)
    (fun builds => builds.filter (·.building)) rfl runningCleared makesStops
  refine ⟨start, ?_, rfl⟩
  have sent := Dispatches.intro asksQueue cancelsStale asksBuilds stopsStale starts
  simpa using sent

end

/-! ## Groups and the landing -/

/-- The requests for a new group, by its verdict, and the report on it. A group that does not pass
gets messages at most. -/
inductive GroupAsked (settings : Settings) (connection : Connection) (server : Server)
    (group : Group) : List Exchange → GroupReport → Prop where
  | held {exchanges : List Exchange} {report : GroupReport}
      (holds : ∀ params tests, verdict settings (considered settings group) ≠ .build params tests)
      (posts : ∀ exchange ∈ exchanges, ∃ message verified ref,
        exchange.request = connection.review.review message verified ref)
      (linked : ∀ params, verdict settings (considered settings group) = .askPerson params →
        ∀ exchange ∈ exchanges, ∃ ref, exchange.request = connection.review.review
          (manualMessage (manualUrl server.address settings.ci.job params).text) false ref)
      (undispatched : ∀ tests, report.outcome ≠ .dispatched tests) :
      GroupAsked settings connection server group exchanges report
  | passed {params : BuildParams} {tests : List String} {exchanges : List Exchange}
      {start : Exchange} {report : GroupReport}
      (passes : verdict settings (considered settings group) = .build params tests)
      (dispatches : Dispatches server settings.ci.job (considered settings group).patchsets params
        exchanges start)
      (granted : start.succeeded = true → report.outcome = .dispatched tests)
      (refused : start.succeeded = false →
        ∃ failure, report.outcome = .errored .startBuild failure) :
      GroupAsked settings connection server group exchanges report

section
variable {connection : Connection} {server : Server}

theorem exists_ref_of_posted {group : Group} {message : String} {verified : Bool}
    {attempt : Attempt} {reason : SkipReason} {notes : List Note} {outcome : Outcome}
    {exchanges : List Exchange} (posted : Posted group message verified attempt reason notes outcome)
    (makes : connection.Makes notes exchanges) :
    (∀ exchange ∈ exchanges, ∃ ref,
      exchange.request = connection.review.review message verified ref) ∧
      ∀ tests, outcome ≠ .dispatched tests := by
  obtain ⟨answer, rfl, rfl⟩ := posted
  cases makes with
  | cons takes makesTold =>
      obtain rfl := makesTold.of_events
      rw [List.append_nil]
      refine ⟨EachAsked.exists_ref takes, fun tests => ?_⟩
      cases answer with
      | ok => exact Outcome.noConfusion
      | error failure => exact Outcome.noConfusion

theorem groupAsked_of_handled (isCi : connection.ci = some server) {settings : Settings}
    {link : BuildParams → String}
    (links : ∀ params, link params = (manualUrl server.address settings.ci.job params).text)
    {group : Group} {notes : List Note} {report : GroupReport} {exchanges : List Exchange}
    (handled : Handled settings link group notes report)
    (makes : connection.Makes notes exchanges) :
    GroupAsked settings connection server group exchanges report := by
  obtain ⟨carried, isCarried, rfl, isReport⟩ := handled
  have makesCarried : connection.Makes carried exchanges := .of_append_events [_] makes
  cases isVerdict : verdict settings (considered settings group) with
  | empty =>
      rw [isVerdict] at isCarried
      obtain ⟨rfl, outcome⟩ := isCarried
      cases makesCarried
      exact .held (by simp [isVerdict]) (by simp) (by simp) (by simp [outcome])
  | optedOut =>
      rw [isVerdict] at isCarried
      obtain ⟨posts, undispatched⟩ := exists_ref_of_posted isCarried makesCarried
      exact .held (by simp [isVerdict]) (fun exchange member => ⟨_, _, posts exchange member⟩)
        (by simp [isVerdict]) undispatched
  | noTests =>
      rw [isVerdict] at isCarried
      obtain ⟨posts, undispatched⟩ := exists_ref_of_posted isCarried makesCarried
      exact .held (by simp [isVerdict]) (fun exchange member => ⟨_, _, posts exchange member⟩)
        (by simp [isVerdict]) undispatched
  | askPerson params =>
      rw [isVerdict] at isCarried
      obtain ⟨posts, undispatched⟩ := exists_ref_of_posted isCarried makesCarried
      refine .held (by simp [isVerdict]) (fun exchange member => ⟨_, _, posts exchange member⟩) ?_
        undispatched
      intro other same
      cases isVerdict.symm.trans same
      rw [← links]
      exact posts
  | build params tests =>
      rw [isVerdict] at isCarried
      obtain ⟨start, dispatches, outcome⟩ := dispatches_of_started isCi isCarried makesCarried
      apply GroupAsked.passed isVerdict dispatches
      · intro granted
        obtain ⟨body, answer⟩ := (Exchange.succeeded_iff start).mp granted
        rw [outcome, answer]
        rfl
      · intro refused
        cases answer : start.answer with
        | ok body =>
            rw [(Exchange.succeeded_iff start).mpr ⟨body, answer⟩] at refused
            cases refused
        | error cause =>
            rw [outcome, answer]
            exact ⟨_, rfl⟩

theorem exists_ref_of_reported {rejected : RejectedSet} {notes : List Note} {posted : Bool}
    {exchanges : List Exchange} (reported : Reported rejected notes posted)
    (makes : connection.Makes notes exchanges) :
    ∀ exchange ∈ exchanges, ∃ ref,
      exchange.request = connection.review.review (rejectedMessage rejected) false ref := by
  cases reported with
  | posted =>
      cases makes with
      | cons takes makesNothing =>
          cases makesNothing
          simpa using EachAsked.exists_ref takes
  | refused failure =>
      cases makes with
      | cons takes makesTold =>
          obtain rfl := Connection.Makes.of_events [_] makesTold
          simpa using EachAsked.exists_ref takes

/-- Submits, each made only if the ones before it succeeded. -/
structure Lands (connection : Connection) (landing : List Exchange) : Prop where
  submits : ∀ exchange ∈ landing, ∃ ref, exchange.request = connection.review.submit ref
  pairwise : landing.Pairwise fun first _ => first.succeeded = true

theorem lands_of_landed {groups : List Group} {notes : List Note} {answer : Except Failure Nat}
    {exchanges : List Exchange} (landed : Landed groups notes answer)
    (makes : connection.Makes notes exchanges) : Lands connection exchanges := by
  induction landed generalizing exchanges with
  | nil =>
      cases makes
      exact ⟨by simp, .nil⟩
  | refused group rest failure =>
      cases makes with
      | cons takes makesNothing =>
          cases makesNothing
          rw [List.append_nil]
          exact ⟨EachAsked.exists_ref takes, EachAsked.pairwise takes⟩
  | @landed group rest notes answer _ inductionHypothesis =>
      cases makes with
      | @cons _ _ _ first _ takes makesRest =>
          have makesOthers : connection.Makes notes _ := .of_events_append [_] makesRest
          obtain ⟨submits, pairwise⟩ := inductionHypothesis makesOthers
          constructor
          · intro exchange member
            rcases List.mem_append.mp member with isFirst | isLater
            · exact EachAsked.exists_ref takes exchange isFirst
            · exact submits exchange isLater
          · apply List.pairwise_append.mpr
            exact ⟨EachAsked.pairwise takes, pairwise, fun exchange member _ _ =>
              EachAsked.succeeded takes exchange member⟩

end

/-! ## The round -/

/-- The exchanges of a round with a build server, and the reports on the new groups. The log that
the round reads is given. -/
inductive Conversation (settings : Settings) (connection : Connection) (server : Server)
    (log : Except FileError ByteArray) : List Exchange → List GroupReport → Prop where
  /-- The last build failed, or the log cannot be read. -/
  | opened {status : Exchange} (asksStatus : status.request = server.lastStatus settings.ci.job) :
      Conversation settings connection server log [status] []
  /-- There is nothing to compare, or nothing to compare it with. -/
  | asked {status query : Exchange}
      (asksStatus : status.request = server.lastStatus settings.ci.job)
      (asksQuery : query.request = connection.review.query settings.review.query)
      (ends : ∀ seen changes, SeenLog.load log = .ok seen →
        query.answer.bind connection.reading = .ok changes → seen.isEmpty = true) :
      Conversation settings connection server log [status, query] []
  | compared {status query : Exchange} {reports handling landing : List Exchange}
      {seen : Patchsets} {changes : List Change} {groups : List GroupReport}
      (asksStatus : status.request = server.lastStatus settings.ci.job)
      (asksQuery : query.request = connection.review.query settings.review.query)
      (loaded : SeenLog.load log = .ok seen) (recorded : seen.isEmpty = false)
      (listed : query.answer.bind connection.reading = .ok changes)
      (reported : ∀ exchange ∈ reports, ∃ rejected ref,
        exchange.request = connection.review.review (rejectedMessage rejected) false ref)
      (handled : Each (GroupAsked settings connection server)
        ((Grouping.ofChanges changes).fresh seen).groups handling groups)
      (lands : Lands connection landing) :
      Conversation settings connection server log
        (status :: query :: (reports ++ handling ++ landing)) groups

/-- A round tells of the reports on its new groups: each is in an event, and all are in its own
report. -/
structure Tells (groups : List GroupReport) (notes : List Note) (answer : Except Failure Report) :
    Prop where
  outcomes : ∀ report ∈ groups,
    Note.tell (.groupOutcome report.group report.outcome.state) ∈ notes
  reported : ∀ report, answer = .ok report → report.groups = groups

theorem Tells.nothing {notes : List Note} {answer : Except Failure Report}
    (reported : ∀ report, answer = .ok report → report.groups = []) : Tells [] notes answer :=
  ⟨by simp, reported⟩

theorem Tells.append {groups : List GroupReport} {notes : List Note}
    {answer : Except Failure Report} (tells : Tells groups notes answer) (earlier : List Note) :
    Tells groups (earlier ++ notes) answer :=
  ⟨fun report member => List.mem_append_right earlier (tells.outcomes report member),
    tells.reported⟩

section
variable {connection : Connection} {server : Server} {settings : Settings}

theorem status_of_looked (isCi : connection.ci = some server)
    (enabled : settings.dispatchEnabled = true) {notes : List Note} {failed : Bool}
    {exchanges : List Exchange} (looked : Looked settings notes failed)
    (makes : connection.Makes notes exchanges) :
    ∃ status : Exchange, exchanges = [status] ∧
      status.request = server.lastStatus settings.ci.job := by
  cases looked with
  | disabled disabled => simp [disabled] at enabled
  | answered _ status =>
      cases makes with
      | cons takes makesNothing =>
          cases makesNothing
          obtain ⟨exchange, rfl, asks, -⟩ := exists_of_ciAsked isCi takes
          exact ⟨exchange, rfl, asks⟩
  | unanswered _ failure =>
      cases makes with
      | cons takes makesTold =>
          obtain rfl := Connection.Makes.of_events [_] makesTold
          obtain ⟨exchange, rfl, asks, -⟩ := exists_of_ciAsked isCi takes
          exact ⟨exchange, rfl, asks⟩

/-- Nothing is written before the log is read. -/
theorem keeps_of_looked {notes : List Note} {failed : Bool}
    (looked : Looked settings notes failed) :
    ∀ note ∈ notes, ∀ written, note.call ≠ .replace written := by
  cases looked with
  | disabled => simp
  | answered => simp
  | unanswered => simp

theorem lands_of_concluded {changes : List Change} {groups : List GroupReport}
    {reportedSets : Nat} {notes : List Note} {answer : Except Failure Report}
    {exchanges : List Exchange} (concluded : Concluded changes groups reportedSets notes answer)
    (makes : connection.Makes notes exchanges) :
    Lands connection exchanges ∧ ∀ report, answer = .ok report → report.groups = groups := by
  cases concluded with
  | unwritten cause =>
      cases makes with
      | cons takes makesNothing =>
          cases makesNothing
          obtain rfl : _ = [] := takes
          exact ⟨⟨by simp, .nil⟩, by simp⟩
  | unlanded landed =>
      cases makes with
      | cons takes makesLanding =>
          obtain rfl : _ = [] := takes
          exact ⟨lands_of_landed landed makesLanding, by simp⟩
  | finished landed =>
      cases makes with
      | cons takes makesRest =>
          obtain rfl : _ = [] := takes
          have makesLanding := Connection.Makes.of_append_events [_] makesRest
          refine ⟨lands_of_landed landed makesLanding, ?_⟩
          rintro report ⟨⟩
          rfl

/-- The exchanges after the log was read and the open changes were asked for. -/
theorem conversation_of_proceeded (isCi : connection.ci = some server)
    (enabled : settings.dispatchEnabled = true) {link : BuildParams → String}
    (links : ∀ params, link params = (manualUrl server.address settings.ci.job params).text)
    {log : Except FileError ByteArray} {seen : Patchsets} {changes : List Change}
    {notes : List Note} {answer : Except Failure Report} {status query : Exchange}
    {exchanges : List Exchange} (loaded : SeenLog.load log = .ok seen)
    (proceeded : Proceeded settings link seen changes notes answer)
    (asksStatus : status.request = server.lastStatus settings.ci.job)
    (asksQuery : query.request = connection.review.query settings.review.query)
    (listed : query.answer.bind connection.reading = .ok changes)
    (makes : connection.Makes notes exchanges) :
    ∃ groups, Conversation settings connection server log (status :: query :: exchanges) groups ∧
      Tells groups notes answer := by
  have recorded : ∀ stop?, stopReason? settings seen = stop? → seen.isEmpty = stop?.isSome := by
    rintro _ rfl
    rw [stopReason?, enabled]
    cases seen.isEmpty with
    | true => rfl
    | false => rfl
  have asked : ∀ reason, stopReason? settings seen = some reason →
      Conversation settings connection server log [status, query] [] := by
    intro reason stops
    refine .asked asksStatus asksQuery ?_
    intro other _ loadedOther _
    cases loaded.symm.trans loadedOther
    exact recorded (some reason) stops
  cases proceeded with
  | unwritten stops cause =>
      cases makes with
      | cons takes makesNothing =>
          cases makesNothing
          obtain rfl : _ = [] := takes
          exact ⟨[], asked _ stops, .nothing (by simp)⟩
  | @stopped reason stops =>
      cases makes with
      | cons takes makesTold =>
          obtain rfl : _ = [] := takes
          obtain rfl := Connection.Makes.of_events [_, _] makesTold
          refine ⟨[], asked _ stops, .nothing ?_⟩
          rintro report ⟨⟩
          rfl
  | compared compares reported handled concluded =>
      obtain ⟨_, landing, makesFirst, makesEnding, rfl⟩ := makes.of_append
      obtain ⟨reports, handling, makesReports, makesHandling, rfl⟩ := makesFirst.of_append
      obtain ⟨lands, sameGroups⟩ := lands_of_concluded concluded makesEnding
      refine ⟨_, .compared asksStatus asksQuery loaded (recorded none compares) listed ?_ ?_ lands,
        ?_, sameGroups⟩
      · have each := each_of_makes reported makesReports fun _ _ _ _ reported makes =>
          exists_ref_of_reported reported makes
        intro exchange member
        obtain ⟨rejected, -, segment, posted, posts, isPosted⟩ := each.exists_of_mem member
        exact ⟨rejected, posts exchange isPosted⟩
      · exact each_of_makes handled makesHandling fun _ _ _ _ handled makes =>
          groupAsked_of_handled isCi links handled makes
      · intro report member
        obtain ⟨group, segment, ⟨carried, -, rfl, isReport⟩, inHandling⟩ :=
          handled.exists_of_mem_results member
        have isTold := inHandling _ (List.mem_append_right carried List.mem_cons_self)
        rw [isReport] at isTold ⊢
        simp [isTold]

/-- The review server is asked for the open changes once, and has listed those that the call
returns. -/
theorem query_of_takes {text : String} {exchanges : List Exchange}
    {answer : Except Failure (List Change)}
    (takes : connection.Takes (.query text) exchanges answer) :
    ∃ query : Exchange, exchanges = [query] ∧ query.request = connection.review.query text ∧
      ∀ changes, query.answer.bind connection.reading = .ok changes ↔ answer = .ok changes := by
  obtain ⟨query, rfl, asksQuery, rfl⟩ := takes
  refine ⟨query, rfl, asksQuery, ?_⟩
  intro changes
  dsimp only
  cases query.answer.bind connection.reading with
  | error cause => simp [Except.mapError]
  | ok listed => simp [Except.mapError]

/-- The exchanges after the last build was asked for. -/
theorem conversation_of_compared (isCi : connection.ci = some server)
    (enabled : settings.dispatchEnabled = true) {link : BuildParams → String}
    (links : ∀ params, link params = (manualUrl server.address settings.ci.job params).text)
    {log : Except FileError ByteArray} {notes : List Note} {answer : Except Failure Report}
    {status : Exchange} {exchanges : List Exchange}
    (compared : Compared settings link notes answer)
    (asksStatus : status.request = server.lastStatus settings.ci.job)
    (makes : connection.Makes notes exchanges)
    (reads : ∀ content later, notes = ⟨.read, content⟩ :: later → content = log) :
    ∃ groups, Conversation settings connection server log (status :: exchanges) groups ∧
      Tells groups notes answer := by
  cases compared with
  | unreadable unreadable =>
      cases makes with
      | cons takes makesNothing =>
          cases makesNothing
          obtain rfl : _ = [] := takes
          exact ⟨[], .opened asksStatus, .nothing (by simp)⟩
  | unanswered loaded failure =>
      cases makes with
      | cons takesRead makesQuery =>
      cases makesQuery with
      | cons takes makesNothing =>
          cases makesNothing
          obtain rfl : _ = [] := takesRead
          obtain ⟨query, rfl, asksQuery, answered⟩ := query_of_takes takes
          exact ⟨[], .asked asksStatus asksQuery (by simp [answered]), .nothing (by simp)⟩
  | @proceeded content seen changes notes answer loaded proceeded =>
      obtain rfl := reads content _ rfl
      cases makes with
      | cons takesRead makesQuery =>
      cases makesQuery with
      | cons takes makesRest =>
          obtain rfl : _ = [] := takesRead
          obtain ⟨query, rfl, asksQuery, answered⟩ := query_of_takes takes
          obtain ⟨groups, conversation, tells⟩ := conversation_of_proceeded isCi enabled links loaded
            proceeded asksStatus asksQuery ((answered changes).mpr rfl) makesRest
          exact ⟨groups, conversation, tells.append [_, _]⟩

/-- The exchanges of a round with a build server. -/
theorem conversation_of_ran (isCi : connection.ci = some server)
    (enabled : settings.dispatchEnabled = true) {path : String} {link : BuildParams → String}
    (links : ∀ params, link params = (manualUrl server.address settings.ci.job params).text)
    {log : Except FileError ByteArray} {notes : List Note} {answer : Except Failure Report}
    {exchanges : List Exchange} (ran : Ran settings path link notes answer)
    (makes : connection.Makes notes exchanges)
    (reads : ∀ earlier content later, notes = earlier ++ ⟨.read, content⟩ :: later →
      (∀ note ∈ earlier, ∀ written, note.call ≠ .replace written) → content = log) :
    ∃ groups, Conversation settings connection server log exchanges groups ∧
      Tells groups notes answer := by
  cases ran with
  | @red looked failed =>
      have makesOpening := Connection.Makes.of_append_events [_, _] makes
      have makesLooked : connection.Makes looked exchanges := .of_events_append [_] makesOpening
      obtain ⟨status, rfl, asksStatus⟩ := status_of_looked isCi enabled failed makesLooked
      refine ⟨[], .opened asksStatus, .nothing ?_⟩
      rintro report ⟨⟩
      rfl
  | @compared looked notes answer running compared =>
      obtain ⟨opening, others, makesOpening, makesOthers, rfl⟩ := makes.of_append
      have makesLooked : connection.Makes looked opening := .of_events_append [_] makesOpening
      obtain ⟨status, rfl, asksStatus⟩ := status_of_looked isCi enabled running makesLooked
      have readsFirst : ∀ content later, notes = ⟨.read, content⟩ :: later → content = log := by
        rintro content later rfl
        apply reads _ content later rfl
        simpa using keeps_of_looked running
      obtain ⟨groups, conversation, tells⟩ :=
        conversation_of_compared isCi enabled links compared asksStatus makesOthers readsFirst
      exact ⟨groups, conversation, tells.append _⟩

end

/-- The exchanges of a round on a machine: those of its calls, which follow each other on the wire.
Noting the calls does not change the round. -/
structure Traffic (settings : Settings) (services : Services MachineM) (before : Machine)
    (connection : Connection) (exchanges : List Exchange) : Prop where
  follows : connection.Follows settings
  serves : services = connection.services settings
  noted : (run settings services).run before =
    ((follow (run settings services.noted) before).answer,
      (follow (run settings services.noted) before).after)
  makes : connection.Makes (follow (run settings services.noted) before).notes exchanges
  passes : Passes before.wire exchanges (follow (run settings services.noted) before).after.wire
  recorded : before.wire.connected = true →
    (follow (run settings services.noted) before).after.wire.requests =
      before.wire.requests ++ (exchanges.map (·.request)).filter (isWeb ·.url)

section
variable {settings : Settings} {services : Services MachineM}

/-- Where clients can be made, every round has exchanges. -/
theorem exists_traffic {reading : ListingReader}
    (made : Machine.services settings reading = .ok services) (before : Machine) :
    ∃ connection exchanges, connection.reading = reading ∧
      Traffic settings services before connection exchanges := by
  obtain ⟨connection, follows, reads, rfl⟩ := Connection.exists_of_services made
  obtain ⟨exchanges, makes, passes⟩ := Connection.makes_of_replays follows
    (replays_run (connection.services settings) settings before)
  exact ⟨connection, exchanges, reads, follows, rfl, run_eq_follow _ settings before, makes, passes,
    passes.requests_eq⟩

/-- A link to start a build by hand is the address to start it at, with its parameters. -/
theorem Connection.manualLink_services {connection : Connection} {server : Server}
    (isCi : connection.ci = some server) (settings : Settings) (params : BuildParams) :
    (connection.services settings).ci.manualLink settings.ci.job params =
      (manualUrl server.address settings.ci.job params).text := by
  simp only [Connection.services, remoteCi, isCi, Option.map_some]

/-- Where there is a build server, the exchanges of a round are a conversation over the log that was
there before it. -/
theorem exists_conversation (enabled : settings.dispatchEnabled = true) {before : Machine}
    {connection : Connection}
    {exchanges : List Exchange}
    (traffic : Traffic settings services before connection exchanges) :
    ∃ server groups, connection.ci = some server ∧
      Conversation settings connection server (before.files.read services.log.path) exchanges
        groups ∧
      Tells groups (follow (run settings services.noted) before).notes
        (follow (run settings services.noted) before).answer := by
  obtain ⟨follows, rfl, -, makes, -, -⟩ := traffic
  obtain ⟨server, isCi⟩ := Option.isSome_iff_exists.mp (follows.isSome_ci.trans enabled)
  have links := Connection.manualLink_services isCi settings
  have ran := (yields_run (connection.services settings) settings).tells before
  have reads : ∀ earlier content later,
      (follow (run settings (connection.services settings).noted) before).notes =
        earlier ++ ⟨.read, content⟩ :: later →
      (∀ note ∈ earlier, ∀ written, note.call ≠ .replace written) →
      content = before.files.read (connection.services settings).log.path := by
    intro earlier content later isNotes keeps
    have replays := replays_run (connection.services settings) settings before
    dsimp only at replays
    rw [isNotes] at replays
    exact Connection.read_of_replays follows replays keeps
  obtain ⟨groups, conversation, tells⟩ := conversation_of_ran isCi enabled links ran makes reads
  exact ⟨server, groups, isCi, conversation, tells⟩

end

end ChangeGate.Memory
