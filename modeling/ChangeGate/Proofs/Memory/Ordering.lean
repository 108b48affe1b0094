import ChangeGate.Proofs.Memory.Traffic
import ChangeGate.Proofs.Round.Messages

/-!
# The order of a round's requests

A round over HTTP asks in a fixed order and carries on where it can. Nothing is sent out before the
log and the open changes are known, a group that passes has its build started whatever became of the
requests before, and what may land does so at the end, up to the first refusal.
-/

namespace ChangeGate.Ci

/-- An answer is not read because of what it says. -/
theorem readAnswer_ne_notConfigured {α : Type} (name : String) (decode : Json.Value → Option α)
    (body what : String) : readAnswer name decode body ≠ .error (.notConfigured what) := by
  rw [readAnswer]
  split
  · simp
  · simp

theorem parseQueue_ne_notConfigured (job body what : String) :
    parseQueue body job ≠ .error (.notConfigured what) := by
  have plain := readAnswer_ne_notConfigured "a build queue" queueOfDocument body what
  rw [parseQueue]
  cases read : readAnswer "a build queue" queueOfDocument body with
  | error cause => simpa [read, Except.map] using plain
  | ok items => simp [Except.map]

end ChangeGate.Ci

namespace ChangeGate.Service

/-- Why a call failed, if it did. -/
def failed? {α : Type} : Except Failure α → Option Failure
  | .ok _ => none
  | .error failure => some failure

/-- Why the call of a note failed at a server, if it did. -/
def Note.failed? : Note → Option Failure
  | ⟨.query _, answer⟩ => Service.failed? answer
  | ⟨.post .., answer⟩ => Service.failed? answer
  | ⟨.submit _, answer⟩ => Service.failed? answer
  | ⟨.queued _, answer⟩ => Service.failed? answer
  | ⟨.started _, answer⟩ => Service.failed? answer
  | ⟨.cancelQueued _, answer⟩ => Service.failed? answer
  | ⟨.stop .., answer⟩ => Service.failed? answer
  | ⟨.start .., answer⟩ => Service.failed? answer
  | ⟨.lastStatus _, answer⟩ => Service.failed? answer
  | ⟨.read, _⟩ => none
  | ⟨.replace _, _⟩ => none
  | ⟨.emit _, _⟩ => none

end ChangeGate.Service

namespace ChangeGate.Memory

open ChangeGate.Ci ChangeGate.Http ChangeGate.Review ChangeGate.Round ChangeGate.Service
open ChangeGate.Round.Trace

/-! ## No call without a server -/

/-- A client always has a server to ask. -/
theorem Exchange.answer_ne_notConfigured (exchange : Exchange) (what : String) :
    exchange.answer ≠ .error (.notConfigured what) := by
  rw [Exchange.answer]
  cases exchange.reply with
  | error detail => simp
  | ok response =>
      simp only [Client.answer]
      split
      · simp
      · simp

theorem Exchange.bind_answer_ne_notConfigured {α : Type} (exchange : Exchange)
    {read : String → Except ClientError α}
    (reads : ∀ body what, read body ≠ .error (.notConfigured what)) (what : String) :
    exchange.answer.bind read ≠ .error (.notConfigured what) := by
  have plain := exchange.answer_ne_notConfigured what
  cases answer : exchange.answer with
  | error cause => simpa [answer, Except.bind] using plain
  | ok body => exact reads body what

theorem EachAsked.failed?_ne_ciFailure {request : ChangeRef → Request} {references : List String}
    {exchanges : List Exchange} {answer : Except Failure Unit}
    (asked : EachAsked request references exchanges answer) (cause : ClientError) :
    failed? answer ≠ some (ciFailure cause) := by
  induction asked with
  | done => simp [failed?]
  | unreadable => simp [failed?, ciFailure]
  | refused => simp [failed?, ciFailure, reviewFailure]
  | accepted _ _ _ _ inductionHypothesis => exact inductionHypothesis

section
variable {connection : Connection} {server : Server} (isCi : connection.ci = some server)
include isCi

theorem failed?_ne_notConfigured_of_ciAsked {α : Type} {request : Server → Request}
    {read : String → Except ClientError α} {exchanges : List Exchange} {answer : Except Failure α}
    (asked : CiAsked connection.ci request read exchanges answer)
    (reads : ∀ body what, read body ≠ .error (.notConfigured what)) (what : String) :
    failed? answer ≠ some (ciFailure (.notConfigured what)) := by
  obtain ⟨exchange, rfl, -, rfl⟩ := exists_of_ciAsked isCi asked
  have plain := exchange.bind_answer_ne_notConfigured reads what
  cases answer : exchange.answer.bind read with
  | error cause => simpa [answer, failed?, Except.mapError, ciFailure] using plain
  | ok result => simp [failed?, Except.mapError]

/-- Where there is a build server, no call fails for want of one. -/
theorem failed?_ne_notConfigured {call : Call} {answer : call.Answer} {exchanges : List Exchange}
    (takes : connection.Takes call exchanges answer) (what : String) :
    Note.failed? ⟨call, answer⟩ ≠ some (ciFailure (.notConfigured what)) := by
  cases call with
  | query text =>
      obtain ⟨exchange, -, -, rfl⟩ := takes
      simp only [Note.failed?]
      cases exchange.answer.bind connection.reading with
      | error cause => simp [failed?, Except.mapError, ciFailure, reviewFailure]
      | ok changes => simp [failed?, Except.mapError]
  | post message references verified => exact EachAsked.failed?_ne_ciFailure takes _
  | submit references => exact EachAsked.failed?_ne_ciFailure takes _
  | queued job =>
      exact failed?_ne_notConfigured_of_ciAsked isCi takes (parseQueue_ne_notConfigured job) what
  | started job =>
      exact failed?_ne_notConfigured_of_ciAsked isCi takes (readAnswer_ne_notConfigured _ _) what
  | lastStatus job =>
      exact failed?_ne_notConfigured_of_ciAsked isCi takes (readAnswer_ne_notConfigured _ _) what
  | cancelQueued id =>
      exact failed?_ne_notConfigured_of_ciAsked isCi takes (by simp [readNothing]) what
  | stop job number =>
      exact failed?_ne_notConfigured_of_ciAsked isCi takes (by simp [readNothing]) what
  | start job params =>
      exact failed?_ne_notConfigured_of_ciAsked isCi takes (by simp [readNothing]) what
  | read => simp [Note.failed?]
  | replace content => simp [Note.failed?]
  | emit event => simp [Note.failed?]

end

/-! ## Kinds of requests in the traffic -/

section
variable {settings : Settings} {connection : Connection} {server : Server}

/-- Before its last request, that of the build, a group that passes makes no such request. -/
theorem Dispatches.isPostTo_eq_false {segment job : String} {current : Patchsets}
    {params : BuildParams} {exchanges : List Exchange} {start : Exchange}
    (dispatches : Dispatches server job current params exchanges start)
    (notCancel : segment ≠ "cancelItem") (notStop : segment ≠ "stop") :
    ∃ clearing, exchanges = clearing ++ [start] ∧
      ∀ exchange ∈ clearing, isPostTo segment exchange.request = false := by
  cases dispatches with
  | @intro queue builds _ cancels stops asksQueue cancelsStale asksBuilds stopsStale starts =>
      refine ⟨_, rfl, ?_⟩
      have inCancels : ∀ exchange ∈ cancels, isPostTo segment exchange.request = false := by
        intro exchange member
        have isRequest := List.mem_map_of_mem (f := (·.request)) member
        rw [cancelsStale] at isRequest
        obtain ⟨build, -, isCancel⟩ := List.mem_map.mp isRequest
        simpa [← isCancel] using notCancel.symm
      have inStops : ∀ exchange ∈ stops, isPostTo segment exchange.request = false := by
        intro exchange member
        have isRequest := List.mem_map_of_mem (f := (·.request)) member
        rw [stopsStale] at isRequest
        obtain ⟨build, -, isStop⟩ := List.mem_map.mp isRequest
        simpa [← isStop] using notStop.symm
      simp only [List.forall_mem_append, List.forall_mem_cons]
      exact ⟨⟨by simp [asksQueue], inCancels⟩, by simp [asksBuilds], inStops⟩

theorem Dispatches.request_start {job : String} {current : Patchsets} {params : BuildParams}
    {exchanges : List Exchange} {start : Exchange}
    (dispatches : Dispatches server job current params exchanges start) :
    start.request = server.start job params := by
  cases dispatches with
  | intro _ _ _ _ starts => exact starts

/-- No group makes a request to submit. -/
theorem GroupAsked.isSubmit_eq_false {group : Group} {exchanges : List Exchange}
    {report : GroupReport} (asked : GroupAsked settings connection server group exchanges report) :
    ∀ exchange ∈ exchanges, isSubmit exchange.request = false := by
  cases asked with
  | held _ posts =>
      intro exchange member
      obtain ⟨message, verified, ref, isPost⟩ := posts exchange member
      simp [isPost, isSubmit]
  | passed _ dispatches =>
      have starts := dispatches.request_start
      obtain ⟨clearing, rfl, clears⟩ :=
        dispatches.isPostTo_eq_false (by decide : "submit" ≠ "cancelItem") (by decide)
      simp only [List.forall_mem_append, List.forall_mem_singleton]
      exact ⟨clears, by simp [starts, isSubmit]⟩

end

/-! ## The order of a round -/

/-- The requests that start builds among those for a new group. A group that passes has one, its
last, and is dispatched if that one is granted. No other group has any. -/
inductive BuildAsked (settings : Settings) (server : Server) (group : Group) :
    List Exchange → GroupReport → Prop where
  | none {exchanges : List Exchange} {report : GroupReport}
      (holds : ∀ params tests, verdict settings (considered settings group) ≠ .build params tests)
      (startsNone : ∀ exchange ∈ exchanges, isStart exchange.request = false)
      (undispatched : ∀ tests, report.outcome ≠ .dispatched tests) :
      BuildAsked settings server group exchanges report
  | one {params : BuildParams} {tests : List String} {clearing : List Exchange} {start : Exchange}
      {report : GroupReport}
      (passes : verdict settings (considered settings group) = .build params tests)
      (clears : ∀ exchange ∈ clearing, isStart exchange.request = false)
      (starts : start.request = server.start settings.ci.job params)
      (granted : start.succeeded = true → report.outcome = .dispatched tests)
      (refused : start.succeeded = false →
        ∃ failure, report.outcome = .errored .startBuild failure) :
      BuildAsked settings server group (clearing ++ [start]) report

/-- A round that reads a log asks its servers in order. -/
structure InOrder (settings : Settings) (connection : Connection) (server : Server)
    (log : Except FileError ByteArray) (notes : List Note) (exchanges : List Exchange)
    (answer : Except Failure Report) : Prop where
  /-- The first request asks how the last build ended. -/
  first : ∃ status rest, exchanges = status :: rest ∧
    status.request = server.lastStatus settings.ci.job
  /-- The second, if there is one, asks for the open changes. -/
  second : ∀ status query rest, exchanges = status :: query :: rest →
    query.request = connection.review.query settings.review.query
  /-- Nothing is asked to be done before the log has told of some change and the open changes are
  known. -/
  informed : ∀ exchange ∈ exchanges, exchange.request.method = .post →
    ∃ seen changes status query rest, SeenLog.load log = .ok seen ∧ seen.isEmpty = false ∧
      exchanges = status :: query :: rest ∧ query.answer.bind connection.reading = .ok changes
  /-- Once they are, each new group has its requests, and every request that starts a build is among
  them. -/
  started : ∀ seen changes status query rest, SeenLog.load log = .ok seen → seen.isEmpty = false →
    exchanges = status :: query :: rest → query.answer.bind connection.reading = .ok changes →
    ∃ reports handling landing groups, rest = reports ++ handling ++ landing ∧
      (∀ exchange ∈ reports ++ landing, isStart exchange.request = false) ∧
      Each (BuildAsked settings server) ((Grouping.ofChanges changes).fresh seen).groups handling
        groups ∧
      Tells groups notes answer
  /-- After a request to submit there are only requests to submit, and none if it failed. -/
  submitted : ∀ earlier submit later, exchanges = earlier ++ submit :: later →
    isSubmit submit.request = true →
    (∀ other ∈ later, isSubmit other.request = true) ∧ (submit.succeeded = false → later = [])
  /-- No call fails for want of a build server. -/
  configured : ∀ note ∈ notes, ∀ what, note.failed? ≠ some (ciFailure (.notConfigured what))
  /-- No message has an empty link to start a build by hand. -/
  linked : ∀ note ∈ notes, ∀ references verified,
    note.call ≠ .post (manualMessage "") references verified

section
variable {settings : Settings} {connection : Connection} {server : Server}

theorem GroupAsked.buildAsked {group : Group} {exchanges : List Exchange} {report : GroupReport}
    (asked : GroupAsked settings connection server group exchanges report) :
    BuildAsked settings server group exchanges report := by
  cases asked with
  | held holds posts linked undispatched =>
      refine .none holds ?_ undispatched
      intro exchange member
      obtain ⟨message, verified, ref, isPost⟩ := posts exchange member
      simp [isPost, isStart]
  | passed passes dispatches granted refused =>
      have starts := dispatches.request_start
      obtain ⟨clearing, rfl, clears⟩ :=
        dispatches.isPostTo_eq_false (by decide : "buildWithParameters" ≠ "cancelItem") (by decide)
      exact .one passes clears starts granted refused

/-- What comes before a landing has no request to submit, and a landing has nothing else. -/
theorem Conversation.exists_landing {log : Except FileError ByteArray} {exchanges : List Exchange}
    {groups : List GroupReport}
    (conversation : Conversation settings connection server log exchanges groups) :
    ∃ before landing, exchanges = before ++ landing ∧
      (∀ exchange ∈ before, isSubmit exchange.request = false) ∧ Lands connection landing := by
  cases conversation with
  | opened asksStatus => exact ⟨[_], [], rfl, by simp [asksStatus, isSubmit], by simp, .nil⟩
  | asked asksStatus asksQuery =>
      exact ⟨[_, _], [], rfl, by simp [asksStatus, asksQuery, isSubmit], by simp, .nil⟩
  | @compared status query reports handling landing _ _ _ asksStatus asksQuery _ _ _ reported
      handled lands =>
      refine ⟨status :: query :: (reports ++ handling), landing, rfl, ?_, lands⟩
      simp only [List.forall_mem_cons, List.forall_mem_append]
      refine ⟨by simp [asksStatus, isSubmit], by simp [asksQuery, isSubmit], ?_, ?_⟩
      · intro exchange member
        obtain ⟨rejected, ref, isReport⟩ := reported exchange member
        simp [isReport, isSubmit]
      · intro exchange member
        obtain ⟨group, -, segment, report, asked, inSegment⟩ := handled.exists_of_mem member
        exact asked.isSubmit_eq_false exchange inSegment

theorem Conversation.first {log : Except FileError ByteArray} {exchanges : List Exchange}
    {groups : List GroupReport}
    (conversation : Conversation settings connection server log exchanges groups) :
    ∃ status rest, exchanges = status :: rest ∧
      status.request = server.lastStatus settings.ci.job := by
  cases conversation with
  | opened asksStatus => exact ⟨_, _, rfl, asksStatus⟩
  | asked asksStatus => exact ⟨_, _, rfl, asksStatus⟩
  | compared asksStatus => exact ⟨_, _, rfl, asksStatus⟩

theorem Conversation.second {log : Except FileError ByteArray} {exchanges : List Exchange}
    {groups : List GroupReport}
    (conversation : Conversation settings connection server log exchanges groups)
    {status query : Exchange} {rest : List Exchange}
    (isList : exchanges = status :: query :: rest) :
    query.request = connection.review.query settings.review.query := by
  cases conversation with
  | opened => simp at isList
  | asked _ asksQuery =>
      obtain ⟨-, rfl, -⟩ := by simpa only [List.cons.injEq] using isList
      exact asksQuery
  | compared _ asksQuery =>
      obtain ⟨-, rfl, -⟩ := by simpa only [List.cons.injEq] using isList
      exact asksQuery

theorem Conversation.informed {log : Except FileError ByteArray} {exchanges : List Exchange}
    {groups : List GroupReport}
    (conversation : Conversation settings connection server log exchanges groups) :
    ∀ exchange ∈ exchanges, exchange.request.method = .post →
      ∃ seen changes status query rest, SeenLog.load log = .ok seen ∧ seen.isEmpty = false ∧
        exchanges = status :: query :: rest ∧
          query.answer.bind connection.reading = .ok changes := by
  have asksOnly : ∀ {exchange : Exchange} {asked : Server} {url : Url},
      exchange.request = asked.request .get url none → exchange.request.method ≠ .post := by
    intro exchange asked url asks
    rw [asks]
    exact Method.noConfusion
  cases conversation with
  | opened asksStatus =>
      intro exchange member isPost
      obtain rfl := List.mem_singleton.mp member
      exact absurd isPost (asksOnly asksStatus)
  | asked asksStatus asksQuery =>
      intro exchange member isPost
      rcases List.mem_cons.mp member with rfl | isQuery
      · exact absurd isPost (asksOnly asksStatus)
      · obtain rfl := List.mem_singleton.mp isQuery
        exact absurd isPost (asksOnly asksQuery)
  | compared _ _ loaded recorded listed =>
      intro _ _ _
      exact ⟨_, _, _, _, _, loaded, recorded, rfl, listed⟩

theorem Conversation.started {log : Except FileError ByteArray} {exchanges : List Exchange}
    {groups : List GroupReport}
    (conversation : Conversation settings connection server log exchanges groups)
    {seen : Patchsets} {changes : List Change} {status query : Exchange} {rest : List Exchange}
    (loaded : SeenLog.load log = .ok seen) (recorded : seen.isEmpty = false)
    (isList : exchanges = status :: query :: rest)
    (listed : query.answer.bind connection.reading = .ok changes) :
    ∃ reports handling landing, rest = reports ++ handling ++ landing ∧
      (∀ exchange ∈ reports ++ landing, isStart exchange.request = false) ∧
      Each (BuildAsked settings server) ((Grouping.ofChanges changes).fresh seen).groups handling
        groups := by
  cases conversation with
  | opened => simp at isList
  | asked _ _ ends =>
      simp only [List.cons.injEq] at isList
      obtain ⟨rfl, rfl, -⟩ := isList
      rw [ends seen changes loaded listed] at recorded
      cases recorded
  | @compared _ _ reports handling landing _ _ _ _ _ loaded' _ listed' reported handled lands =>
      simp only [List.cons.injEq] at isList
      obtain ⟨rfl, rfl, rfl⟩ := isList
      cases loaded.symm.trans loaded'
      cases listed.symm.trans listed'
      refine ⟨reports, handling, landing, rfl, ?_, ?_⟩
      · simp only [List.forall_mem_append]
        constructor
        · intro exchange member
          obtain ⟨rejected, ref, isReport⟩ := reported exchange member
          simp [isReport, isStart]
        · intro exchange member
          obtain ⟨ref, isSubmit⟩ := lands.submits exchange member
          simp [isSubmit, isStart]
      · exact handled.mono fun _ _ _ asked => asked.buildAsked

theorem Conversation.submitted {log : Except FileError ByteArray} {exchanges : List Exchange}
    {groups : List GroupReport}
    (conversation : Conversation settings connection server log exchanges groups)
    {earlier later : List Exchange} {submit : Exchange}
    (isSplit : exchanges = earlier ++ submit :: later) (submits : isSubmit submit.request = true) :
    (∀ other ∈ later, isSubmit other.request = true) ∧ (submit.succeeded = false → later = []) := by
  obtain ⟨before, landing, rfl, notBefore, lands⟩ := conversation.exists_landing
  have notSubmit : submit ∉ before := by
    intro member
    rw [notBefore submit member] at submits
    cases submits
  obtain ⟨middle, -, rfl⟩ := exists_split_right isSplit notSubmit
  obtain ⟨-, pairwise, -⟩ := List.pairwise_append.mp lands.pairwise
  constructor
  · intro other member
    obtain ⟨ref, isRequest⟩ := lands.submits other (by simp [member])
    simp [isRequest, isSubmit]
  · intro failed
    cases later with
    | nil => rfl
    | cons next rest =>
        have succeeded := (List.pairwise_cons.mp pairwise).1 next List.mem_cons_self
        rw [succeeded] at failed
        cases failed

end

/-- Every call of a round takes its exchanges. -/
theorem Connection.Makes.exists_takes {connection : Connection} {notes : List Note}
    {exchanges : List Exchange} (makes : connection.Makes notes exchanges) :
    ∀ note ∈ notes, ∃ taken, connection.Takes note.call taken note.answer := by
  induction makes with
  | nil => simp
  | cons takes _ inductionHypothesis =>
      exact List.forall_mem_cons.mpr ⟨⟨_, takes⟩, inductionHypothesis⟩

section
variable {settings : Settings} {services : Services MachineM}

/-- A round with a build server asks in order, whatever its log holds and whatever it is answered,
and however listings are read: so whichever way to fetch a change is taken. -/
theorem inOrder_run (enabled : settings.dispatchEnabled = true) {reading : ListingReader}
    (made : Machine.services settings reading = .ok services) (before : Machine) :
    ∃ connection server exchanges, connection.reading = reading ∧
      Traffic settings services before connection exchanges ∧ connection.ci = some server ∧
      InOrder settings connection server (before.files.read services.log.path)
        (follow (run settings services.noted) before).notes exchanges
        (follow (run settings services.noted) before).answer := by
  obtain ⟨connection, exchanges, reads, traffic⟩ := exists_traffic made before
  obtain ⟨server, groups, isCi, conversation, tells⟩ := exists_conversation enabled traffic
  refine ⟨connection, server, exchanges, reads, traffic, isCi, conversation.first, ?_,
    conversation.informed, ?_, ?_, ?_, ?_⟩
  · intro status query rest isList
    exact conversation.second isList
  · intro seen changes status query rest loaded recorded isList listed
    obtain ⟨reports, handling, landing, isRest, startsNone, each⟩ :=
      conversation.started loaded recorded isList listed
    exact ⟨reports, handling, landing, groups, isRest, startsNone, each, tells⟩
  · intro earlier submit later isSplit submits
    exact conversation.submitted isSplit submits
  · intro note member what
    obtain ⟨taken, takes⟩ := traffic.makes.exists_takes note member
    exact failed?_ne_notConfigured isCi takes what
  · intro note member references verified isPost
    have ran := (yields_run services settings).tells before
    have isMessage := postsOnly_of_ran ran note member _ _ _ isPost
    refine isMessage.ne_manualMessage ?_ rfl
    intro params
    rw [traffic.serves, Connection.manualLink_services isCi]
    exact Url.text_ne_empty _

end

/-- A change is tested and submitted: the build of an earlier patchset that waits is cancelled, and
the one that runs is stopped, while the servers of the round answer, refuse and hang up. -/
theorem inOrder_run_of_unreliable :
    let settings : Settings :=
      { review := { host := "http://review" }
        ci := { host := "https://ci/root", job := "gate" }
        gate := { logFile := "/tmp/gate/seen", trustedDomains := ["x.org"] }
        projects := .ofList [("p", (⟨["unit"]⟩ : ProjectSettings))] }
    let changes :=
      ")]\x7d'\n[\x7b\"project\":\"p\",\"owner\":\x7b\"email\":\"a@x.org\"\x7d," ++
        "\"submittable\":true,\"current_revision\":\"r\",\"revisions\":\x7b\"r\":" ++
        "\x7b\"ref\":\"refs/changes/07/7/2\"," ++
        "\"commit\":\x7b\"message\":\"AutoSubmit\"\x7d\x7d\x7d\x7d]"
    let actions :=
      "\"actions\":[\x7b\"parameters\":[\x7b\"name\":\"REFS\"," ++
        "\"value\":\"refs/changes/07/7/1\"\x7d]\x7d]"
    let queue :=
      "\x7b\"items\":[\x7b\"id\":4,\"task\":\x7b\"name\":\"gate\"\x7d," ++ actions ++ "\x7d]\x7d"
    let builds := "\x7b\"builds\":[\x7b\"number\":5,\"building\":true," ++ actions ++ "\x7d]\x7d"
    let before : Machine :=
      { files := .ofList [("seen", "refs/changes/01/1/1\n".toUTF8)]
        wire :=
          { replies := [.hangUp, .response ⟨200, changes⟩, .response ⟨200, queue⟩,
              .response ⟨404, "gone"⟩, .response ⟨200, builds⟩, .response ⟨200, ""⟩,
              .response ⟨201, ""⟩, .hangUp] } }
    let paths :=
      [["root", "job", "gate", "lastCompletedBuild", "api", "json"], ["a", "changes", ""],
        ["root", "queue", "api", "json"], ["root", "queue", "cancelItem"],
        ["root", "job", "gate", "api", "json"], ["root", "job", "gate", "5", "stop"],
        ["root", "job", "gate", "buildWithParameters"],
        ["a", "changes", "7", "revisions", "2", "submit"]]
    settings.dispatchEnabled = true ∧ ∃ services, Machine.services settings = .ok services ∧
      ((run settings services).run before).2.wire.requests.map (·.url.path) = paths ∧
      ∃ connection server exchanges, connection.reading = parseListing ∧
        Traffic settings services before connection exchanges ∧ connection.ci = some server ∧
        InOrder settings connection server (before.files.read services.log.path)
          (follow (run settings services.noted) before).notes exchanges
          (follow (run settings services.noted) before).answer := by
  intro settings changes actions queue builds before paths
  have enabled : settings.dispatchEnabled = true := by decide +kernel
  have asks : (Machine.services settings).toOption.map (fun services =>
      ((run settings services).run before).2.wire.requests.map (·.url.path)) = some paths := by
    decide +kernel
  cases made : Machine.services settings with
  | error cause =>
      rw [made] at asks
      cases asks
  | ok services =>
      rw [made] at asks
      exact ⟨enabled, services, rfl, Option.some.inj asks, inOrder_run enabled made before⟩

end ChangeGate.Memory
