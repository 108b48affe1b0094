import ChangeGate.Proofs.Ci.Listing
import ChangeGate.Proofs.Memory.Traffic

/-!
# Which builds a round cancels

A round over HTTP takes builds out of the queue and stops running ones only to clear the way for a
group that it starts a build for. Each of them stands in the listing that was asked for last, belongs
to the job, and has refs that make it stale for that group.
-/

namespace ChangeGate.Ci

open ChangeGate.Json ChangeGate.Review

/-- An answer lists a queued build under a job: an item of the document goes by the job, and has the
identifier and the refs of the build. -/
def ListsQueued (body job : String) (build : QueuedBuild) : Prop :=
  ∃ document item, parse? body = some document ∧ item ∈ document.itemsUnder ["items"] "items" ∧
    jobOf item = job ∧ ∀ refs, QueuedAs refs item build

/-- An answer lists a build of a job: an item of the document has the number, the state and the refs
of the build. -/
def ListsStarted (body : String) (build : StartedBuild) : Prop :=
  ∃ document item, parse? body = some document ∧ item ∈ document.itemsUnder ["builds"] "builds" ∧
    ∀ refs, StartedAs refs item build

theorem listsQueued_of_parseQueue {body job : String} {builds : List QueuedBuild}
    (accepted : parseQueue body job = .ok builds) {build : QueuedBuild} (member : build ∈ builds) :
    ListsQueued body job build := by
  rw [parseQueue] at accepted
  cases answered : readAnswer "a build queue" queueOfDocument body with
  | error failure =>
      rw [answered] at accepted
      cases accepted
  | ok entries =>
      rw [answered] at accepted
      cases accepted
      obtain ⟨document, isDocument, read⟩ := document_of_readAnswer answered
      have one := forall₂_of_orDefault_list? (eq_some_of_fields_bind (by decide) read)
      obtain ⟨⟨job, build⟩, isEntry, rfl⟩ := List.mem_map.mp member
      obtain ⟨inEntries, isJob⟩ := List.mem_filter.mp isEntry
      obtain ⟨item, isItem, isRead⟩ := exists_mem_of_forall₂ one inEntries
      obtain rfl := of_decide_eq_true isJob
      exact ⟨document, item, isDocument, isItem, (queuedAs_of_queueItem? isRead "").1,
        fun refs => (queuedAs_of_queueItem? isRead refs).2⟩

theorem listsStarted_of_parseBuilds {body : String} {builds : List StartedBuild}
    (accepted : parseBuilds body = .ok builds) {build : StartedBuild} (member : build ∈ builds) :
    ListsStarted body build := by
  obtain ⟨document, isDocument, read⟩ := document_of_readAnswer accepted
  have one := forall₂_of_orDefault_list? (eq_some_of_fields_bind (by decide) read)
  obtain ⟨item, isItem, isRead⟩ := exists_mem_of_forall₂ one member
  exact ⟨document, item, isDocument, isItem, startedAs_of_startedBuild? isRead⟩

/-- The refs of a build are there, can be read, and make it stale for some patchsets. -/
structure Outdated (refs : String) (current : Patchsets) : Prop where
  present : refs ≠ ""
  superseded : ∃ built, builtPatchsets refs = .ok built ∧ Supersedes current built
  stale : isStale refs current = .ok true

end ChangeGate.Ci

namespace ChangeGate.Memory

open ChangeGate.Ci ChangeGate.Http ChangeGate.Review ChangeGate.Round ChangeGate.Service
open ChangeGate.Round.Trace

/-- A build that is asked to be cancelled is stale. -/
theorem outdated_of_isStaleFor {current : Patchsets} {refs : String}
    (stale : isStaleFor current refs = true) : Outdated refs current := by
  rw [isStaleFor, Bool.and_eq_true] at stale
  obtain ⟨present, verdict⟩ := stale
  cases read : builtPatchsets refs with
  | error cause =>
      rw [isStale, read] at verdict
      cases verdict
  | ok built =>
      rw [isStale, read] at verdict
      have isSuperseded : superseded built current = true := verdict
      refine ⟨by simpa using present, ⟨built, read, superseded_iff.mp isSuperseded⟩, ?_⟩
      rw [isStale, read, ← isSuperseded]
      rfl

/-- What is listed in reply comes from an answer that lists it. -/
theorem Exchange.exists_of_mem_listed {α : Type} {exchange : Exchange}
    {read : String → Except ClientError (List α)} {item : α} (member : item ∈ exchange.listed read) :
    ∃ body items, exchange.answer = .ok body ∧ read body = .ok items ∧ item ∈ items := by
  rw [Exchange.listed] at member
  cases answer : exchange.answer with
  | error cause => simp [answer, Except.bind, Except.toOption] at member
  | ok body =>
      cases accepted : read body with
      | error cause => simp [answer, accepted, Except.bind, Except.toOption] at member
      | ok items =>
          simp only [answer, accepted, Except.bind, Except.toOption, Option.getD_some] at member
          exact ⟨body, items, rfl, accepted, member⟩

/-! ## The requests of a group -/

/-- A request that cancels a build, in the queue or running. -/
def cancels (request : Request) : Bool :=
  isCancel request || isStop request

/-- Builds that are asked to be cancelled for a group: some of those listed, each listed one at most
once and in order, and stale for the group. -/
def CancelsListed {α : Type} (refs : α → String) (request : α → Request) (current : Patchsets)
    (listed : List α) (exchanges : List Exchange) : Prop :=
  ∃ chosen : List α, chosen.Sublist listed ∧ exchanges.map (·.request) = chosen.map request ∧
    ∀ build ∈ chosen, Outdated (refs build) current

/-- The requests that cancel builds among those for a new group. If its build is started, then once
each place is listed some of the builds listed in it are cancelled. Otherwise none are. -/
inductive GroupCancels (settings : Settings) (server : Server) (group : Group) :
    List Exchange → Prop where
  | none {exchanges : List Exchange}
      (holds : ∀ params tests, verdict settings (considered settings group) ≠ .build params tests)
      (cancelsNone : ∀ exchange ∈ exchanges, cancels exchange.request = false) :
      GroupCancels settings server group exchanges
  | some {params : BuildParams} {tests : List String} {queue builds start : Exchange}
      {cancelling stopping : List Exchange}
      (passes : verdict settings (considered settings group) = .build params tests)
      (asksQueue : queue.request = server.queue)
      (cancelsQueued : CancelsListed QueuedBuild.refs (server.cancel ·.id)
        (considered settings group).patchsets (queue.listed (parseQueue · settings.ci.job))
        cancelling)
      (asksBuilds : builds.request = server.builds settings.ci.job)
      (stopsRunning : CancelsListed StartedBuild.refs (server.stop settings.ci.job ·.number)
        (considered settings group).patchsets ((builds.listed parseBuilds).filter (·.building))
        stopping)
      (starts : start.request = server.start settings.ci.job params) :
      GroupCancels settings server group
        ((queue :: cancelling) ++ (builds :: stopping) ++ [start])

section
variable {settings : Settings} {connection : Connection} {server : Server}

theorem cancelsListed_of_map_filter {α : Type} {refs : α → String} {request : α → Request}
    {current : Patchsets} {listed : List α} {exchanges : List Exchange}
    (requests : exchanges.map (·.request) =
      (listed.filter fun build => isStaleFor current (refs build)).map request) :
    CancelsListed refs request current listed exchanges :=
  ⟨_, List.filter_sublist, requests, fun _ member =>
    outdated_of_isStaleFor (List.mem_filter.mp member).2⟩

theorem GroupAsked.groupCancels {group : Group} {exchanges : List Exchange} {report : GroupReport}
    (asked : GroupAsked settings connection server group exchanges report) :
    GroupCancels settings server group exchanges := by
  cases asked with
  | held holds posts =>
      refine .none holds ?_
      intro exchange member
      obtain ⟨message, verified, ref, isPost⟩ := posts exchange member
      simp [isPost, cancels, isCancel, isStop]
  | passed passes dispatches =>
      obtain ⟨asksQueue, cancelsStale, asksBuilds, stopsStale, starts⟩ := dispatches
      exact .some passes asksQueue (cancelsListed_of_map_filter cancelsStale) asksBuilds
        (cancelsListed_of_map_filter stopsStale) starts

end

/-! ## Single requests -/

/-- A build is taken out of the queue. The queue was listed before, last of all in the given answer,
which has the build under the job, and the build is stale for some patchsets. -/
inductive CancelsQueued (server : Server) (job : String) (current : Patchsets) :
    List Exchange → Exchange → Prop where
  | intro {before between : List Exchange} {queue cancel : Exchange} {body : String}
      {build : QueuedBuild} (asksQueue : queue.request = server.queue)
      (latest : ∀ other ∈ between, other.request ≠ server.queue)
      (answered : queue.answer = .ok body) (lists : ListsQueued body job build)
      (cancels : cancel.request = server.cancel build.id) (outdated : Outdated build.refs current) :
      CancelsQueued server job current (before ++ queue :: between) cancel

/-- A running build is stopped. The builds of the job were listed before, last of all in the given
answer, which has the build as one that runs, and the build is stale for some patchsets. -/
inductive StopsRunning (server : Server) (job : String) (current : Patchsets) :
    List Exchange → Exchange → Prop where
  | intro {before between : List Exchange} {builds stop : Exchange} {body : String}
      {build : StartedBuild} (asksBuilds : builds.request = server.builds job)
      (latest : ∀ other ∈ between, other.request ≠ server.builds job)
      (answered : builds.answer = .ok body) (lists : ListsStarted body build)
      (running : build.building = true) (stops : stop.request = server.stop job build.number)
      (outdated : Outdated build.refs current) :
      StopsRunning server job current (before ++ builds :: between) stop

/-- A group passes, and the next build to be started is its own. -/
inductive StartsNext (settings : Settings) (server : Server) (group : Group) :
    List Exchange → Prop where
  | intro {params : BuildParams} {tests : List String} {between rest : List Exchange}
      {start : Exchange}
      (passes : verdict settings (considered settings group) = .build params tests)
      (notBetween : ∀ other ∈ between, isStart other.request = false)
      (starts : start.request = server.start settings.ci.job params) :
      StartsNext settings server group (between ++ start :: rest)

section
variable {server : Server}

/-- A request among those for some builds is the one for a stale build that is listed. -/
theorem CancelsListed.exists_build {α : Type} {refs : α → String} {request : α → Request}
    {current : Patchsets} {listed : List α} {exchanges : List Exchange}
    (cancelling : CancelsListed refs request current listed exchanges) {exchange : Exchange}
    (member : exchange ∈ exchanges) :
    ∃ build ∈ listed, exchange.request = request build ∧ Outdated (refs build) current := by
  obtain ⟨chosen, sublist, requests, outdated⟩ := cancelling
  have isRequest := List.mem_map_of_mem (f := (·.request)) member
  rw [requests] at isRequest
  obtain ⟨build, isChosen, isRequest⟩ := List.mem_map.mp isRequest
  exact ⟨build, sublist.subset isChosen, isRequest.symm, outdated build isChosen⟩

theorem CancelsListed.isPostTo_eq {α : Type} {refs : α → String} {request : α → Request}
    {current : Patchsets} {listed : List α} {exchanges : List Exchange}
    (cancelling : CancelsListed refs request current listed exchanges) (segment : String)
    (kind : Bool) (ofKind : ∀ build, isPostTo segment (request build) = kind) :
    ∀ exchange ∈ exchanges, isPostTo segment exchange.request = kind := by
  intro exchange member
  obtain ⟨build, -, isRequest, -⟩ := cancelling.exists_build member
  rw [isRequest, ofKind]

/-- A request of a kind that stands only between a listing and the last part of some exchanges. -/
theorem exists_split_of_kind {isKind : Request → Bool} {first middle last before after : List Exchange}
    {listing exchange : Exchange}
    (isSplit : before ++ exchange :: after = first ++ (listing :: middle) ++ last)
    (ofKind : isKind exchange.request = true)
    (notFirst : ∀ other ∈ first, isKind other.request = false)
    (notListing : isKind listing.request = false)
    (notLast : ∀ other ∈ last, isKind other.request = false) :
    ∃ earlier later, before = first ++ listing :: earlier ∧
      middle = earlier ++ exchange :: later ∧ after = later ++ last := by
  have outside : ∀ part : List Exchange, (∀ other ∈ part, isKind other.request = false) → exchange ∉ part := by
    intro part none member
    rw [none exchange member] at ofKind
    cases ofKind
  have inFront : ∀ other ∈ first ++ [listing], isKind other.request = false := by
    simpa only [List.forall_mem_append, List.forall_mem_singleton] using ⟨notFirst, notListing⟩
  have isMiddle : (first ++ [listing]) ++ (middle ++ last) = before ++ exchange :: after := by
    simp [isSplit]
  obtain ⟨earlier, rfl, isRest⟩ := exists_split_right isMiddle (outside _ inFront)
  obtain ⟨later, rfl, rfl⟩ := exists_split_left isRest (outside _ notLast)
  exact ⟨earlier, later, by simp, rfl, rfl⟩

/-- A request to take a build out of the queue, among those for a group. -/
theorem GroupCancels.cancelsQueued {settings : Settings} {group : Group}
    {before after : List Exchange} {cancel : Exchange}
    (groupCancels : GroupCancels settings server group (before ++ cancel :: after))
    (isRequest : isCancel cancel.request = true) :
    CancelsQueued server settings.ci.job (considered settings group).patchsets before cancel ∧
      StartsNext settings server group after := by
  generalize isSegment : before ++ cancel :: after = segment at groupCancels
  cases groupCancels with
  | none holds cancelsNone =>
      have none := cancelsNone cancel (by simp [← isSegment])
      simp [cancels, isRequest] at none
  | @some params tests queue builds start cancelling stopping passes asksQueue cancelsQueued
      asksBuilds stopsRunning starts =>
      have notLast : ∀ other ∈ (builds :: stopping) ++ [start], isCancel other.request = false := by
        simp only [List.forall_mem_append, List.forall_mem_cons]
        exact ⟨⟨by simp [asksBuilds, isCancel], stopsRunning.isPostTo_eq _ _ (by simp)⟩,
          by simp [starts, isCancel]⟩
      have isSplit : before ++ cancel :: after =
          [] ++ (queue :: cancelling) ++ ((builds :: stopping) ++ [start]) := by
        simp [isSegment]
      obtain ⟨earlier, later, rfl, rfl, rfl⟩ := exists_split_of_kind isSplit isRequest (by simp)
        (by simp [asksQueue, isCancel]) notLast
      have isCancelled : cancel ∈ earlier ++ cancel :: later := by simp
      obtain ⟨build, isListed, isCancel, outdated⟩ := cancelsQueued.exists_build isCancelled
      obtain ⟨body, listed, answered, accepted, inListed⟩ := Exchange.exists_of_mem_listed isListed
      constructor
      · refine .intro asksQueue ?_ answered (listsQueued_of_parseQueue accepted inListed) isCancel
          outdated
        intro other member same
        have isCancel := cancelsQueued.isPostTo_eq "cancelItem" true (by simp) other (by simp [member])
        simp [same] at isCancel
      · have notStart := cancelsQueued.isPostTo_eq "buildWithParameters" false (by simp)
        have notBetween : ∀ other ∈ later ++ builds :: stopping, isStart other.request = false := by
          simp only [List.forall_mem_append, List.forall_mem_cons]
          exact ⟨fun other member => notStart other (by simp [member]), by simp [asksBuilds, isStart],
            stopsRunning.isPostTo_eq _ _ (by simp)⟩
        have next : StartsNext settings server group ((later ++ builds :: stopping) ++ [start]) :=
          .intro passes notBetween starts
        simpa using next

/-- A request to stop a build, among those for a group. -/
theorem GroupCancels.stopsRunning {settings : Settings} {group : Group}
    {before after : List Exchange} {stop : Exchange}
    (groupCancels : GroupCancels settings server group (before ++ stop :: after))
    (isRequest : isStop stop.request = true) :
    StopsRunning server settings.ci.job (considered settings group).patchsets before stop ∧
      StartsNext settings server group after := by
  generalize isSegment : before ++ stop :: after = segment at groupCancels
  cases groupCancels with
  | none holds cancelsNone =>
      have none := cancelsNone stop (by simp [← isSegment])
      simp [cancels, isRequest] at none
  | @some params tests queue builds start cancelling stopping passes asksQueue cancelsQueued
      asksBuilds stopsRunning starts =>
      have notFirst : ∀ other ∈ queue :: cancelling, isStop other.request = false := by
        simp only [List.forall_mem_cons]
        exact ⟨by simp [asksQueue, isStop], cancelsQueued.isPostTo_eq _ _ (by simp)⟩
      obtain ⟨earlier, later, rfl, rfl, rfl⟩ := exists_split_of_kind isSegment isRequest notFirst
        (by simp [asksBuilds, isStop]) (by simp [starts, isStop])
      have isStopped : stop ∈ earlier ++ stop :: later := by simp
      obtain ⟨build, isRunning, isStop, outdated⟩ := stopsRunning.exists_build isStopped
      obtain ⟨isListed, running⟩ := List.mem_filter.mp isRunning
      obtain ⟨body, listed, answered, accepted, inListed⟩ := Exchange.exists_of_mem_listed isListed
      constructor
      · refine .intro asksBuilds ?_ answered (listsStarted_of_parseBuilds accepted inListed) running
          isStop outdated
        intro other member same
        have isStop := stopsRunning.isPostTo_eq "stop" true (by simp) other (by simp [member])
        simp [same] at isStop
      · have notStart := stopsRunning.isPostTo_eq "buildWithParameters" false (by simp)
        exact .intro passes (fun other member => notStart other (by simp [member])) starts

end

theorem CancelsQueued.prepend {server : Server} {job : String} {current : Patchsets}
    {earlier : List Exchange} {cancel : Exchange}
    (cancelsQueued : CancelsQueued server job current earlier cancel) (first : List Exchange) :
    CancelsQueued server job current (first ++ earlier) cancel := by
  obtain ⟨asksQueue, latest, answered, lists, cancels, outdated⟩ := cancelsQueued
  rw [← List.append_assoc]
  exact .intro asksQueue latest answered lists cancels outdated

theorem StopsRunning.prepend {server : Server} {job : String} {current : Patchsets}
    {earlier : List Exchange} {stop : Exchange}
    (stopsRunning : StopsRunning server job current earlier stop) (first : List Exchange) :
    StopsRunning server job current (first ++ earlier) stop := by
  obtain ⟨asksBuilds, latest, answered, lists, running, stops, outdated⟩ := stopsRunning
  rw [← List.append_assoc]
  exact .intro asksBuilds latest answered lists running stops outdated

theorem StartsNext.append {settings : Settings} {server : Server} {group : Group}
    {later : List Exchange} (next : StartsNext settings server group later)
    (last : List Exchange) : StartsNext settings server group (later ++ last) := by
  obtain ⟨passes, notBetween, starts⟩ := next
  rw [List.append_assoc]
  exact .intro passes notBetween starts

/-! ## The requests of a round -/

/-- A group is new to the log among the changes that the review server listed in some exchange. -/
def IsNew (settings : Settings) (connection : Connection) (log : Except FileError ByteArray)
    (exchanges : List Exchange) (group : Group) : Prop :=
  ∃ seen changes, ∃ query ∈ exchanges, SeenLog.load log = .ok seen ∧
    query.request = connection.review.query settings.review.query ∧
    query.answer.bind connection.reading = .ok changes ∧
    group ∈ ((Grouping.ofChanges changes).fresh seen).groups

/-- A round cancels builds of its own only, which are stale for the group that it starts a build for
next. -/
structure CancelsOwn (settings : Settings) (connection : Connection)
    (log : Except FileError ByteArray) (notes : List Note) (exchanges : List Exchange)
    (answer : Except Failure Report) : Prop where
  /-- A build taken out of the queue was listed there, and is stale for a new group. -/
  queued : ∀ earlier cancel later, exchanges = earlier ++ cancel :: later →
    isCancel cancel.request = true →
    ∃ server group, connection.ci = some server ∧ IsNew settings connection log earlier group ∧
      CancelsQueued server settings.ci.job (considered settings group).patchsets earlier cancel ∧
      StartsNext settings server group later
  /-- A build that is stopped was listed as running, and is stale for a new group. -/
  running : ∀ earlier stop later, exchanges = earlier ++ stop :: later →
    isStop stop.request = true →
    ∃ server group, connection.ci = some server ∧ IsNew settings connection log earlier group ∧
      StopsRunning server settings.ci.job (considered settings group).patchsets earlier stop ∧
      StartsNext settings server group later
  /-- Each group that is reported on has its exchanges, and no build is cancelled outside of them.
  For a group that does not pass none is, and for one that does each listed build is at most once. -/
  grouped : ∃ opening handling landing groups reports, exchanges = opening ++ handling ++ landing ∧
    (∀ exchange ∈ opening ++ landing, cancels exchange.request = false) ∧
    Each (fun group segment _ =>
      ∃ server, connection.ci = some server ∧ GroupCancels settings server group segment)
      groups handling reports ∧
    (∀ group ∈ groups, IsNew settings connection log opening group) ∧ Tells reports notes answer

section
variable {settings : Settings} {connection : Connection} {log : Except FileError ByteArray}

/-- Where a group stands among those of a round, its exchanges stand among those of the round. -/
theorem exists_group_of_split {isKind : Request → Bool} {Of : Group → List Exchange → Prop}
    {opening handling landing earlier later : List Exchange} {exchange : Exchange}
    {groups : List Group} {reports : List GroupReport}
    (each : Each (fun group segment _ => Of group segment) groups handling reports)
    (outside : ∀ other ∈ opening ++ landing, isKind other.request = false)
    (isSplit : opening ++ handling ++ landing = earlier ++ exchange :: later)
    (ofKind : isKind exchange.request = true) :
    ∃ group ∈ groups, ∃ prior before after rest, Of group (before ++ exchange :: after) ∧
      earlier = opening ++ prior ++ before ∧ later = after ++ rest := by
  obtain ⟨notFirst, notLast⟩ := List.forall_mem_append.mp outside
  have apart : ∀ part : List Exchange, (∀ other ∈ part, isKind other.request = false) →
      exchange ∉ part := by
    intro part none member
    rw [none exchange member] at ofKind
    cases ofKind
  obtain ⟨following, isFront, rfl⟩ := exists_split_left isSplit (apart landing notLast)
  obtain ⟨preceding, rfl, isHandling⟩ := exists_split_right isFront (apart opening notFirst)
  obtain ⟨member, holds, prior, rest⟩ := each.located isHandling
  exact ⟨_, member, prior, _, _, rest ++ landing, holds, by simp, by simp⟩

theorem IsNew.mono {exchanges others : List Exchange} {group : Group}
    (isNew : IsNew settings connection log exchanges group) (subset : exchanges ⊆ others) :
    IsNew settings connection log others group := by
  obtain ⟨seen, changes, query, member, rest⟩ := isNew
  exact ⟨seen, changes, query, subset member, rest⟩

/-- What each group does tells what every request does. -/
theorem cancelsOwn_of_groups {notes : List Note} {answer : Except Failure Report}
    {opening handling landing : List Exchange} {groups : List Group} {reports : List GroupReport}
    (cancelsNone : ∀ exchange ∈ opening ++ landing, cancels exchange.request = false)
    (each : Each (fun group segment _ =>
      ∃ server, connection.ci = some server ∧ GroupCancels settings server group segment)
      groups handling reports)
    (areNew : ∀ group ∈ groups, IsNew settings connection log opening group)
    (tells : Tells reports notes answer) :
    CancelsOwn settings connection log notes (opening ++ handling ++ landing) answer := by
  refine ⟨?_, ?_, opening, handling, landing, groups, reports, rfl, cancelsNone, each, areNew, tells⟩
  · intro earlier cancel later isSplit isRequest
    obtain ⟨group, member, prior, before, after, rest, ⟨server, isCi, groupCancels⟩, rfl, rfl⟩ :=
      exists_group_of_split each cancelsNone isSplit (by simp [cancels, isRequest])
    obtain ⟨cancelsQueued, next⟩ := groupCancels.cancelsQueued isRequest
    exact ⟨server, group, isCi, (areNew group member).mono (by simp), cancelsQueued.prepend _,
      next.append rest⟩
  · intro earlier stop later isSplit isRequest
    obtain ⟨group, member, prior, before, after, rest, ⟨server, isCi, groupCancels⟩, rfl, rfl⟩ :=
      exists_group_of_split each cancelsNone isSplit (by simp [cancels, isRequest])
    obtain ⟨stopsRunning, next⟩ := groupCancels.stopsRunning isRequest
    exact ⟨server, group, isCi, (areNew group member).mono (by simp), stopsRunning.prepend _,
      next.append rest⟩

/-- A round with a build server cancels builds of its own only. -/
theorem Conversation.cancelsOwn {server : Server} (isCi : connection.ci = some server)
    {notes : List Note} {exchanges : List Exchange} {groups : List GroupReport}
    {answer : Except Failure Report}
    (conversation : Conversation settings connection server log exchanges groups)
    (tells : Tells groups notes answer) :
    CancelsOwn settings connection log notes exchanges answer := by
  cases conversation with
  | @opened status asksStatus =>
      have parts : CancelsOwn settings connection log notes ([status] ++ [] ++ []) answer :=
        cancelsOwn_of_groups (by simp [asksStatus, cancels, isCancel, isStop]) .nil (by simp) tells
      exact parts
  | @asked status query asksStatus asksQuery =>
      have parts : CancelsOwn settings connection log notes ([status, query] ++ [] ++ []) answer :=
        cancelsOwn_of_groups (by simp [asksStatus, asksQuery, cancels, isCancel, isStop]) .nil
          (by simp) tells
      exact parts
  | @compared status query reports handling landing seen changes groups asksStatus asksQuery loaded
      recorded listed reported handled lands =>
      have cancelsNone : ∀ exchange ∈ (status :: query :: reports) ++ landing,
          cancels exchange.request = false := by
        simp only [List.forall_mem_append, List.forall_mem_cons]
        refine ⟨⟨?_, ?_, ?_⟩, ?_⟩
        · simp [asksStatus, cancels, isCancel, isStop]
        · simp [asksQuery, cancels, isCancel, isStop]
        · intro exchange member
          obtain ⟨rejected, ref, isReport⟩ := reported exchange member
          simp [isReport, cancels, isCancel, isStop]
        · intro exchange member
          obtain ⟨ref, isSubmit⟩ := lands.submits exchange member
          simp [isSubmit, cancels, isCancel, isStop]
      have parts : CancelsOwn settings connection log notes
          ((status :: query :: reports) ++ handling ++ landing) answer :=
        cancelsOwn_of_groups cancelsNone
          (handled.mono fun _ _ _ asked => ⟨server, isCi, asked.groupCancels⟩)
          (fun group member => ⟨seen, changes, query, by simp, loaded, asksQuery, listed, member⟩)
          tells
      exact parts

/-- Without a build server no build is cancelled. -/
theorem cancels_eq_false_of_absent (absent : connection.ci = none) {notes : List Note}
    {exchanges : List Exchange} (makes : connection.Makes notes exchanges) :
    ∀ exchange ∈ exchanges, cancels exchange.request = false := by
  induction makes with
  | nil => simp
  | @cons call answer notes exchanges others takes _ inductionHypothesis =>
      refine List.forall_mem_append.mpr ⟨?_, inductionHypothesis⟩
      cases call with
      | query text =>
          obtain ⟨query, rfl, asksQuery, -⟩ := takes
          simp [asksQuery, cancels, isCancel, isStop]
      | post message references verified =>
          intro exchange member
          obtain ⟨ref, isPost⟩ := EachAsked.exists_ref takes exchange member
          simp [isPost, cancels, isCancel, isStop]
      | submit references =>
          intro exchange member
          obtain ⟨ref, isSubmit⟩ := EachAsked.exists_ref takes exchange member
          simp [isSubmit, cancels, isCancel, isStop]
      | read | replace | emit =>
          obtain rfl : _ = [] := takes
          simp
      | queued | started | cancelQueued | stop | start | lastStatus =>
          simp only [Connection.Takes, absent, CiAsked] at takes
          simp [takes.1]

/-- Without a build server no group is reported on. -/
theorem groups_eq_nil_of_disabled (disabled : settings.dispatchEnabled = false) {path : String}
    {link : BuildParams → String} {notes : List Note} {answer : Except Failure Report}
    (ran : Ran settings path link notes answer) :
    ∀ report, answer = .ok report → report.groups = [] := by
  cases ran with
  | red failed =>
      rintro report ⟨⟩
      rfl
  | compared running compared =>
      cases compared with
      | unreadable => simp
      | unanswered => simp
      | proceeded loaded proceeded =>
          cases proceeded with
          | unwritten => simp
          | stopped =>
              rintro report ⟨⟩
              rfl
          | compared compares => simp [stopReason?, disabled] at compares

end

/-- A round cancels builds of its own only, whatever its settings, its log and the answers that it
gets, and however listings are read. -/
theorem cancelsOwn_run {settings : Settings} {services : Services MachineM}
    {reading : ListingReader} (made : Machine.services settings reading = .ok services)
    (before : Machine) :
    ∃ connection exchanges, connection.reading = reading ∧
      Traffic settings services before connection exchanges ∧
      CancelsOwn settings connection (before.files.read services.log.path)
        (follow (run settings services.noted) before).notes exchanges
        (follow (run settings services.noted) before).answer := by
  obtain ⟨connection, exchanges, reads, traffic⟩ := exists_traffic made before
  refine ⟨connection, exchanges, reads, traffic, ?_⟩
  cases enabled : settings.dispatchEnabled with
  | true =>
      obtain ⟨server, groups, isCi, conversation, tells⟩ := exists_conversation enabled traffic
      exact conversation.cancelsOwn isCi tells
  | false =>
      have absent : connection.ci = none := by
        rw [← Option.not_isSome_iff_eq_none, traffic.follows.isSome_ci, enabled]
        exact Bool.false_ne_true
      have cancelsNone := cancels_eq_false_of_absent absent traffic.makes
      have ran := (yields_run services settings).tells before
      have parts : CancelsOwn settings connection (before.files.read services.log.path)
          (follow (run settings services.noted) before).notes (exchanges ++ [] ++ [])
          (follow (run settings services.noted) before).answer :=
        cancelsOwn_of_groups (by simpa using cancelsNone) .nil (by simp)
          (.nothing (groups_eq_nil_of_disabled enabled ran))
      simpa using parts

/-- A round in which a build of an earlier patchset waits in the queue and is cancelled. -/
theorem cancelsOwn_run_of_queued :
    let settings : Settings :=
      { review := { host := "http://review" }
        ci := { host := "http://ci", job := "gate" }
        gate := { logFile := "/tmp/gate/seen", trustedDomains := ["x.org"] }
        projects := .ofList [("p", (⟨["unit"]⟩ : ProjectSettings))] }
    let changes :=
      ")]\x7d'\n[\x7b\"project\":\"p\",\"owner\":\x7b\"email\":\"a@x.org\"\x7d," ++
        "\"current_revision\":\"r\",\"revisions\":" ++
        "\x7b\"r\":\x7b\"ref\":\"refs/changes/07/7/2\"\x7d\x7d\x7d]"
    let queue :=
      "\x7b\"items\":[\x7b\"id\":4,\"task\":\x7b\"name\":\"gate\"\x7d,\"actions\":" ++
        "[\x7b\"parameters\":[\x7b\"name\":\"REFS\",\"value\":\"refs/changes/07/7/1\"\x7d]\x7d]\x7d]\x7d"
    let before : Machine :=
      { files := .ofList [("seen", "refs/changes/01/1/1\n".toUTF8)]
        wire :=
          { replies := [.hangUp, .response ⟨200, changes⟩, .response ⟨200, queue⟩,
              .response ⟨201, ""⟩, .response ⟨404, "gone"⟩, .response ⟨201, ""⟩] } }
    ∃ services, Machine.services settings = .ok services ∧
      ∃ connection exchanges, connection.reading = parseListing ∧
        Traffic settings services before connection exchanges ∧
        CancelsOwn settings connection (before.files.read services.log.path)
          (follow (run settings services.noted) before).notes exchanges
          (follow (run settings services.noted) before).answer := by
  intro settings changes queue before
  have connects : (Machine.services settings).toOption.isSome = true := by decide +kernel
  cases made : Machine.services settings with
  | error cause =>
      rw [made] at connects
      cases connects
  | ok services => exact ⟨services, rfl, cancelsOwn_run made before⟩

end ChangeGate.Memory
