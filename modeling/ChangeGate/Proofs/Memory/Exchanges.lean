import ChangeGate.Memory.Machine
import ChangeGate.Proofs.Service.Notes

/-!
# Calls over HTTP

The requests that a call makes on a machine, each with its reply, and what the call makes of the
replies. A call to the build server takes one exchange, and one on several refs takes one for each
ref up to the first that fails. The requests of a round follow each other on the wire as its calls
do.
-/

namespace ChangeGate.Memory

open ChangeGate.Ci ChangeGate.Http ChangeGate.Review ChangeGate.Round ChangeGate.Service
  ChangeGate.Text

/-! ## Exchanges -/

/-- A request that a client makes, and what becomes of it. -/
structure Exchange where
  request : Request
  reply : Except String Response

namespace Exchange

/-- The request is answered with success. -/
def succeeded (exchange : Exchange) : Bool :=
  exchange.reply.toOption.any (·.isSuccess)

/-- What a client makes of the reply. -/
def answer (exchange : Exchange) : Except ClientError String :=
  match exchange.reply with
  | .ok response => Client.answer exchange.request response
  | .error detail => .error (.transport detail)

/-- A client has an answer exactly when its request succeeded. -/
theorem succeeded_iff (exchange : Exchange) :
    exchange.succeeded = true ↔ ∃ body, exchange.answer = .ok body := by
  rw [succeeded, answer]
  cases exchange.reply with
  | error detail => simp [Except.toOption]
  | ok response =>
      cases success : response.isSuccess with
      | true => simp [Except.toOption, Client.answer, success]
      | false => simp [Except.toOption, Client.answer, success]

end Exchange

/-- Requests to these addresses can be sent. -/
def isWeb (url : Url) : Bool :=
  url.scheme = "http" || url.scheme = "https"

/-- Exchanges that take place on a wire one after another. A request to no web address never gets
there. -/
inductive Passes : Wire → List Exchange → Wire → Prop where
  | nil (wire : Wire) : Passes wire [] wire
  | sent {wire next last : Wire} {request : Request} {reply : Except String Response}
      {exchanges : List Exchange} (web : isWeb request.url = true)
      (exchanged : wire.exchange request = (reply, next)) (passes : Passes next exchanges last) :
      Passes wire (⟨request, reply⟩ :: exchanges) last
  | unsent {wire last : Wire} {request : Request} {exchanges : List Exchange}
      (notWeb : isWeb request.url = false) (passes : Passes wire exchanges last) :
      Passes wire (⟨request, .error ("no way to reach " ++ request.url.scheme)⟩ :: exchanges) last

namespace Passes

theorem append {first second third : Wire} {exchanges others : List Exchange}
    (passes : Passes first exchanges second) (passesOthers : Passes second others third) :
    Passes first (exchanges ++ others) third := by
  induction passes with
  | nil => exact passesOthers
  | sent web exchanged _ inductionHypothesis =>
      exact .sent web exchanged (inductionHypothesis passesOthers)
  | unsent notWeb _ inductionHypothesis => exact .unsent notWeb (inductionHypothesis passesOthers)

/-- A wire that is not cut records the requests that get to it, in order. -/
theorem requests_eq {wire last : Wire} {exchanges : List Exchange}
    (passes : Passes wire exchanges last) (connected : wire.connected = true) :
    last.requests =
      wire.requests ++ (exchanges.map (·.request)).filter (isWeb ·.url) := by
  induction passes with
  | nil => simp
  | sent web exchanged _ inductionHypothesis =>
      rw [Wire.exchange, if_pos connected] at exchanged
      obtain ⟨-, rfl⟩ := Prod.mk.inj exchanged
      simp [inductionHypothesis connected, web]
  | unsent notWeb _ inductionHypothesis => simp [inductionHypothesis connected, notWeb]

end Passes

/-! ## Clients on a machine -/

/-- The client with some credentials on a machine. -/
def machineClient (credentials : Option Credentials) : Client MachineM :=
  ⟨Machine.transport, credentials⟩

/-- What a client asks for, and as what. -/
def requestTo (credentials : Option Credentials) (method : Method) (url : Url)
    (content : Option Content) : Request :=
  (machineClient credentials).request method url content

section
variable (credentials : Option Credentials) (method : Method) (url : Url)
  (content : Option Content)

@[simp] theorem requestTo_method : (requestTo credentials method url content).method = method := rfl

@[simp] theorem requestTo_scheme :
    (requestTo credentials method url content).url.scheme = url.scheme := by
  simp only [requestTo, Client.request]
  split
  · rfl
  · rfl

@[simp] theorem requestTo_path :
    (requestTo credentials method url content).url.path = url.path := by
  simp only [requestTo, Client.request]
  split
  · rfl
  · rfl

end

/-- On every machine a program makes exchanges, gets an answer that fits them, and leaves the files
as they are. -/
def Conducts {α : Type} (program : MachineM α) (takes : List Exchange → α → Prop) : Prop :=
  ∀ machine, ∃ exchanges answer after, takes exchanges answer ∧
    Passes machine.wire exchanges after.wire ∧ after.files = machine.files ∧
    program.run machine = (answer, after)

/-- A request is made, and its answer is taken for something. -/
def Asked {α : Type} (request : Request) (taken : Except ClientError String → α)
    (exchanges : List Exchange) (answer : α) : Prop :=
  ∃ exchange : Exchange, exchanges = [exchange] ∧ exchange.request = request ∧
    answer = taken exchange.answer

namespace Conducts

variable {α β : Type} {takes : List Exchange → α → Prop}

theorem pure {answer : α} (holds : takes [] answer) : Conducts (pure answer) takes :=
  fun machine => ⟨[], answer, machine, holds, .nil _, rfl, rfl⟩

theorem bind {program : MachineM α} {next : α → MachineM β} {result : List Exchange → β → Prop}
    (first : Conducts program takes)
    (later : ∀ exchanges answer, takes exchanges answer →
      Conducts (next answer) fun others last => result (exchanges ++ others) last) :
    Conducts (program >>= next) result := by
  intro machine
  obtain ⟨exchanges, answer, middle, holds, passes, kept, runs⟩ := first machine
  obtain ⟨others, last, after, holdsLater, passesOthers, keptLater, runsLater⟩ :=
    later exchanges answer holds middle
  refine ⟨exchanges ++ others, last, after, holdsLater, passes.append passesOthers,
    keptLater.trans kept, ?_⟩
  rw [StateT.run_bind, runs]
  exact runsLater

theorem mono {program : MachineM α} {looser : List Exchange → α → Prop}
    (conducts : Conducts program takes)
    (implies : ∀ exchanges answer, takes exchanges answer → looser exchanges answer) :
    Conducts program looser := by
  intro machine
  obtain ⟨exchanges, answer, after, holds, rest⟩ := conducts machine
  exact ⟨exchanges, answer, after, implies _ _ holds, rest⟩

end Conducts

section
variable (credentials : Option Credentials) (method : Method) (url : Url)
  (content : Option Content)

/-- What a client does is one exchange. -/
theorem conducts_exchange :
    Conducts ((machineClient credentials).exchange method url content)
      (Asked (requestTo credentials method url content) id) := by
  intro machine
  let request := requestTo credentials method url content
  have same : isWeb request.url = isWeb url := by simp [isWeb, request]
  rw [Client.exchange]
  cases web : isWeb url with
  | true =>
      let exchanged := machine.wire.exchange request
      refine ⟨[⟨request, exchanged.1⟩], _, { machine with wire := exchanged.2 },
        ⟨_, rfl, rfl, rfl⟩, .sent (same.trans web) rfl (.nil _), rfl, ?_⟩
      rw [isWeb] at web
      rw [if_pos web, StateT.run_bind]
      change StateT.run (match exchanged.1 with | .ok _ => _ | .error _ => _) _ = _
      rw [Exchange.answer]
      cases exchanged.1 with
      | ok response => rfl
      | error detail => rfl
  | false =>
      have unsent := Passes.unsent (same.trans web) (.nil machine.wire)
      rw [requestTo_scheme] at unsent
      refine ⟨_, _, machine, ⟨_, rfl, rfl, rfl⟩, unsent, rfl, ?_⟩
      rw [isWeb] at web
      rw [if_neg (by simp [web])]
      rfl

theorem conducts_readDocument {α : Type} (read : String → Except ClientError α) :
    Conducts (readDocument (machineClient credentials) url read)
      (Asked (requestTo credentials .get url none) (·.bind read)) := by
  apply Conducts.bind (conducts_exchange credentials .get url none)
  rintro _ _ ⟨exchange, rfl, asks, rfl⟩
  exact .pure ⟨exchange, rfl, asks, rfl⟩

/-- Only the success of a request counts. -/
def readNothing (_ : String) : Except ClientError Unit := .ok ()

theorem conducts_post :
    Conducts ((machineClient credentials).post url content)
      (Asked (requestTo credentials .post url content) (·.bind readNothing)) := by
  apply Conducts.bind (conducts_exchange credentials .post url content)
  rintro _ _ ⟨exchange, rfl, asks, rfl⟩
  refine .pure ⟨exchange, rfl, asks, ?_⟩
  cases exchange.answer with
  | error cause => rfl
  | ok body => rfl

end

/-! ## Servers -/

/-- Where a server is and as whom a client asks it. -/
structure Server where
  address : Url
  credentials : Option Credentials

namespace Server

variable (server : Server)

def request : Method → Url → Option Content → Request :=
  requestTo server.credentials

/-- Ask for the changes that a query selects. -/
def query (text : String) : Request :=
  server.request .get (queryUrl server.address text) none

/-- Post a message on a ref. -/
def review (message : String) (verified : Bool) (ref : ChangeRef) : Request :=
  server.request .post (reviewUrl server.address ref)
    (some ⟨"application/json", reviewBody message verified⟩)

/-- Submit a ref. -/
def submit (ref : ChangeRef) : Request :=
  server.request .post (submitUrl server.address ref) none

/-- Ask for the queue. -/
def queue : Request :=
  server.request .get (queueUrl server.address) none

/-- Ask for the builds of a job. -/
def builds (job : String) : Request :=
  server.request .get (buildsUrl server.address job) none

/-- Take a build out of the queue. -/
def cancel (id : UInt64) : Request :=
  server.request .post (cancelUrl server.address id) none

/-- Stop a build of a job. -/
def stop (job : String) (number : UInt64) : Request :=
  server.request .post (stopUrl server.address job number) none

/-- Queue a build of a job. -/
def start (job : String) (params : BuildParams) : Request :=
  server.request .post (startUrl server.address job) (some (startForm params))

/-- Ask how the last completed build of a job ended. -/
def lastStatus (job : String) : Request :=
  server.request .get (lastStatusUrl server.address job) none

end Server

/-- The servers of a round, the review server and the build server if there is one, and how the
listings of the review server are read. -/
structure Connection where
  review : Server
  ci : Option Server
  reading : ListingReader

namespace Connection

/-- A connection is the one that the settings ask for. -/
structure Follows (connection : Connection) (settings : Settings) : Prop where
  review : serverUrl settings.review.host = .ok connection.review.address
  reviewCredentials :
    connection.review.credentials = credentials settings.review.user settings.review.password
  ci : ciUrl? settings.ci.host = .ok (connection.ci.map (·.address))
  ciCredentials :
    ∀ server ∈ connection.ci, server.credentials = credentials settings.ci.user settings.ci.token

/-- There is a build server exactly when the settings name one. -/
theorem Follows.isSome_ci {connection : Connection} {settings : Settings}
    (follows : connection.Follows settings) :
    connection.ci.isSome = settings.dispatchEnabled := by
  have ci := follows.ci
  rw [ciUrl?] at ci
  rw [Settings.dispatchEnabled]
  cases blank : isBlankText settings.ci.host with
  | true =>
      rw [if_pos blank] at ci
      have absent := Except.ok.inj ci
      rw [← Option.isSome_map, ← absent]
      rfl
  | false =>
      rw [if_neg (by simp [blank])] at ci
      cases parsed : serverUrl settings.ci.host with
      | error cause =>
          rw [parsed] at ci
          cases ci
      | ok url =>
          rw [parsed] at ci
          have present := Except.ok.inj ci
          rw [← Option.isSome_map, ← present]
          rfl

/-- The services of a round over its servers. -/
def services (connection : Connection) (settings : Settings) : Services MachineM :=
  let platform := Machine.platform Machine.homeEnvironment
  { review :=
      remoteReview (machineClient connection.review.credentials) connection.review.address
        connection.reading
    ci :=
      remoteCi (machineClient (credentials settings.ci.user settings.ci.token))
        (connection.ci.map (·.address))
    log := platform.logStore (settings.logPath platform.home)
    emit := platform.emit .json }

/-- Where clients can be made, there are servers for them. -/
theorem exists_of_services {settings : Settings} {services : Services MachineM}
    {reading : ListingReader} (made : Machine.services settings reading = .ok services) :
    ∃ connection : Connection, connection.Follows settings ∧ connection.reading = reading ∧
      services = connection.services settings := by
  simp only [Machine.services, connect, reviewOfSettings, ciOfSettings] at made
  cases review : serverUrl settings.review.host with
  | error cause =>
      rw [review] at made
      cases made
  | ok reviewUrl =>
      cases ci : ciUrl? settings.ci.host with
      | error cause =>
          rw [review, ci] at made
          cases made
      | ok ciUrl =>
          rw [review, ci] at made
          let ciServer := ciUrl.map
            (Server.mk · (credentials settings.ci.user settings.ci.token))
          have address : ciServer.map (·.address) = ciUrl := by
            rw [Option.map_map]
            exact Option.map_id_apply
          refine ⟨⟨⟨reviewUrl, _⟩, ciServer, reading⟩, ⟨review, rfl, ?_, ?_⟩, rfl, ?_⟩
          · rw [address, ci]
          · simp [ciServer]
          · rw [Connection.services, address]
            exact (Except.ok.inj made).symm

end Connection

/-! ## What calls take -/

/-- A request is made to the build server and its answer is read. Without a server the call fails. -/
def CiAsked {α : Type} (ci : Option Server) (request : Server → Request)
    (read : String → Except ClientError α) (exchanges : List Exchange)
    (answer : Except Failure α) : Prop :=
  match ci with
  | none => exchanges = [] ∧ answer = .error (ciFailure (.notConfigured "jenkins"))
  | some server =>
      Asked (request server) (fun answer => (answer.bind read).mapError ciFailure) exchanges answer

/-- Requests are made for some refs, in order, up to the first that fails. A ref that cannot be
read fails without a request. -/
inductive EachAsked (request : ChangeRef → Request) :
    List String → List Exchange → Except Failure Unit → Prop where
  | done : EachAsked request [] [] (.ok ())
  | unreadable {reference : String} {cause : RefError} (rest : List String)
      (unreadable : ChangeRef.parse reference = .error cause) :
      EachAsked request (reference :: rest) [] (.error (.ref cause))
  | refused {reference : String} {ref : ChangeRef} {exchange : Exchange} {cause : ClientError}
      (rest : List String) (parsed : ChangeRef.parse reference = .ok ref)
      (asks : exchange.request = request ref) (refused : exchange.answer = .error cause) :
      EachAsked request (reference :: rest) [exchange] (.error (reviewFailure cause))
  | accepted {reference : String} {ref : ChangeRef} {exchange : Exchange} {body : String}
      {rest : List String} {exchanges : List Exchange} {answer : Except Failure Unit}
      (parsed : ChangeRef.parse reference = .ok ref) (asks : exchange.request = request ref)
      (accepted : exchange.answer = .ok body) (others : EachAsked request rest exchanges answer) :
      EachAsked request (reference :: rest) (exchange :: exchanges) answer

namespace Connection

/-- The exchanges that a call takes and what it is answered with. -/
def Takes (connection : Connection) : (call : Call) → List Exchange → call.Answer → Prop
  | .query text =>
      Asked (connection.review.query text) fun answer =>
        (answer.bind connection.reading).mapError reviewFailure
  | .post message references verified =>
      EachAsked (connection.review.review message verified) references
  | .submit references => EachAsked connection.review.submit references
  | .queued job => CiAsked connection.ci Server.queue (parseQueue · job)
  | .started job => CiAsked connection.ci (·.builds job) parseBuilds
  | .cancelQueued id => CiAsked connection.ci (·.cancel id) readNothing
  | .stop job number => CiAsked connection.ci (·.stop job number) readNothing
  | .start job params => CiAsked connection.ci (·.start job params) readNothing
  | .lastStatus job => CiAsked connection.ci (·.lastStatus job) parseStatus
  | .read => fun exchanges _ => exchanges = []
  | .replace _ => fun exchanges _ => exchanges = []
  | .emit _ => fun exchanges _ => exchanges = []

/-- The exchanges that calls take, one call after another. -/
inductive Makes (connection : Connection) : List Note → List Exchange → Prop where
  | nil : Makes connection [] []
  | cons {call : Call} {answer : call.Answer} {notes : List Note}
      {exchanges others : List Exchange} (takes : connection.Takes call exchanges answer)
      (makes : Makes connection notes others) :
      Makes connection (⟨call, answer⟩ :: notes) (exchanges ++ others)

end Connection

/-! ## Running calls -/

theorem conducts_postEach (credentials : Option Credentials) (url : ChangeRef → Url)
    (content : Option Content) (references : List String) :
    Conducts (postEach (machineClient credentials) url content references)
      (EachAsked (fun ref => requestTo credentials .post (url ref) content) references) := by
  induction references with
  | nil => exact .pure .done
  | cons reference rest inductionHypothesis =>
      rw [postEach]
      cases parsed : ChangeRef.parse reference with
      | error cause => exact .pure (.unreadable rest parsed)
      | ok ref =>
          apply Conducts.bind (conducts_post credentials (url ref) content)
          rintro _ _ ⟨exchange, rfl, asks, rfl⟩
          cases answer : exchange.answer with
          | error cause => exact .pure (.refused rest parsed asks answer)
          | ok body =>
              apply inductionHypothesis.mono
              intro exchanges last others
              exact .accepted parsed asks answer others

section
variable {α : Type} {ci : Option Server} {credentials : Option Credentials}
  (known : ∀ server ∈ ci, server.credentials = credentials)
include known

/-- A call to the build server does what it does to the server that there is. -/
theorem conducts_withServer {request : Server → Request} {read : String → Except ClientError α}
    {program : Url → MachineM (Except ClientError α)}
    (conducts : ∀ server : Server, server.credentials = credentials →
      Conducts (program server.address) (Asked (request server) (·.bind read))) :
    Conducts (withServer (ci.map (·.address)) program) (CiAsked ci request read) := by
  cases ci with
  | none => exact .pure ⟨rfl, rfl⟩
  | some server =>
      rw [Option.map_some, withServer.eq_def]
      apply Conducts.bind (conducts server (known server rfl))
      rintro _ _ ⟨exchange, rfl, asks, rfl⟩
      exact .pure ⟨exchange, rfl, asks, rfl⟩

theorem conducts_ciAsked (address : Url → Url) (read : String → Except ClientError α) :
    Conducts
      (withServer (ci.map (·.address)) fun url =>
        readDocument (machineClient credentials) (address url) read)
      (CiAsked ci (fun server => server.request .get (address server.address) none) read) := by
  apply conducts_withServer known
  rintro server rfl
  exact conducts_readDocument server.credentials (address server.address) read

theorem conducts_ciPosted (address : Url → Url) (content : Option Content) :
    Conducts
      (withServer (ci.map (·.address)) fun url =>
        (machineClient credentials).post (address url) content)
      (CiAsked ci (fun server => server.request .post (address server.address) content)
        readNothing) := by
  apply conducts_withServer known
  rintro server rfl
  exact conducts_post server.credentials (address server.address) content

end

theorem conducts_query (server : Server) (reading : ListingReader) (text : String) :
    Conducts ((remoteReview (machineClient server.credentials) server.address reading).query text)
      (Asked (server.query text) fun answer => (answer.bind reading).mapError reviewFailure) := by
  apply Conducts.bind (conducts_exchange server.credentials .get (queryUrl server.address text) none)
  rintro _ _ ⟨exchange, rfl, asks, rfl⟩
  rw [id]
  cases answer : exchange.answer with
  | error cause => exact .pure ⟨exchange, rfl, asks, by rw [answer]; rfl⟩
  | ok body => exact .pure ⟨exchange, rfl, asks, by rw [answer]; rfl⟩

namespace Connection

variable {connection : Connection} {settings : Settings}

/-- What a call does is the exchanges that it takes. Only a write of the log changes the files. -/
theorem conducts_perform (follows : connection.Follows settings) (call : Call)
    (keeps : ∀ content, call ≠ .replace content) :
    Conducts ((connection.services settings).perform call) (connection.Takes call) := by
  cases call with
  | query text => exact conducts_query connection.review connection.reading text
  | post message references verified => exact conducts_postEach _ _ _ references
  | submit references => exact conducts_postEach _ _ _ references
  | queued job => exact conducts_ciAsked follows.ciCredentials queueUrl (parseQueue · job)
  | started job => exact conducts_ciAsked follows.ciCredentials (buildsUrl · job) parseBuilds
  | cancelQueued id => exact conducts_ciPosted follows.ciCredentials (cancelUrl · id) none
  | stop job number => exact conducts_ciPosted follows.ciCredentials (stopUrl · job number) none
  | start job params =>
      exact conducts_ciPosted follows.ciCredentials (startUrl · job) (some (startForm params))
  | lastStatus job => exact conducts_ciAsked follows.ciCredentials (lastStatusUrl · job) parseStatus
  | read => exact fun machine => ⟨[], _, machine, rfl, .nil _, rfl, rfl⟩
  | replace content => exact absurd rfl (keeps content)
  | emit event =>
      exact fun machine =>
        ⟨[], (), { machine with lines := machine.lines ++ [(.json, event)] }, rfl, .nil _, rfl, rfl⟩

/-- The calls of a run make exchanges that follow each other on the wire. -/
theorem makes_of_replays (follows : connection.Follows settings) {before after : Machine}
    {notes : List Note} (replays : Replays (connection.services settings) before notes after) :
    ∃ exchanges, connection.Makes notes exchanges ∧ Passes before.wire exchanges after.wire := by
  induction replays with
  | nil state => exact ⟨[], .nil, .nil _⟩
  | @cons before middle after call answer notes performs _ inductionHypothesis =>
      obtain ⟨others, makes, passesOthers⟩ := inductionHypothesis
      rcases Classical.em (∃ content, call = .replace content) with ⟨content, rfl⟩ | keeps
      · obtain ⟨-, rfl⟩ := Prod.mk.inj performs
        exact ⟨[] ++ others, .cons rfl makes, passesOthers⟩
      · obtain ⟨exchanges, taken, _, takes, passes, -, runs⟩ :=
          conducts_perform follows call (fun content written => keeps ⟨content, written⟩) before
        obtain ⟨rfl, rfl⟩ := Prod.mk.inj (runs.symm.trans performs)
        exact ⟨exchanges ++ others, .cons takes makes, passes.append passesOthers⟩

/-- The log is read as it was before the run, if the run has not written it. -/
theorem read_of_replays (follows : connection.Follows settings) {before after : Machine}
    {notes others : List Note} {content : Except FileError ByteArray}
    (replays :
      Replays (connection.services settings) before (notes ++ ⟨.read, content⟩ :: others) after)
    (keeps : ∀ note ∈ notes, ∀ written, note.call ≠ .replace written) :
    content =
      before.files.read (settings.logPath (Machine.platform Machine.homeEnvironment).home) := by
  induction notes generalizing before with
  | nil =>
      cases replays with
      | cons performs _ =>
          obtain ⟨rfl, -⟩ := Prod.mk.inj performs
          rfl
  | cons note rest inductionHypothesis =>
      cases replays with
      | @cons before middle after call answer notes performs replays =>
          obtain ⟨_, _, _, -, -, kept, runs⟩ :=
            conducts_perform follows call (keeps ⟨call, answer⟩ List.mem_cons_self) before
          obtain ⟨rfl, rfl⟩ := Prod.mk.inj (runs.symm.trans performs)
          rw [inductionHypothesis replays fun note member =>
            keeps note (List.mem_cons_of_mem _ member), kept]

end Connection

namespace Connection.Makes

variable {connection : Connection} {notes others : List Note} {exchanges : List Exchange}

/-- The exchanges of a run come apart where its calls do. -/
theorem of_append (makes : connection.Makes (notes ++ others) exchanges) :
    ∃ first second, connection.Makes notes first ∧ connection.Makes others second ∧
      exchanges = first ++ second := by
  induction notes generalizing exchanges with
  | nil => exact ⟨[], exchanges, .nil, makes, rfl⟩
  | cons note rest inductionHypothesis =>
      cases makes with
      | cons takes makes =>
          obtain ⟨first, second, makesFirst, makesSecond, rfl⟩ := inductionHypothesis makes
          exact ⟨_, second, .cons takes makesFirst, makesSecond, (List.append_assoc ..).symm⟩

/-- Events take no exchanges. -/
theorem of_events (events : List Event)
    (makes : connection.Makes (events.map Note.tell) exchanges) : exchanges = [] := by
  induction events generalizing exchanges with
  | nil =>
      cases makes
      rfl
  | cons event rest inductionHypothesis =>
      cases makes with
      | cons takes makes =>
          obtain rfl := inductionHypothesis makes
          obtain rfl : _ = [] := takes
          rfl

theorem of_append_events (events : List Event)
    (makes : connection.Makes (notes ++ events.map Note.tell) exchanges) :
    connection.Makes notes exchanges := by
  obtain ⟨first, told, makesFirst, makesTold, rfl⟩ := makes.of_append
  rw [makesTold.of_events events, List.append_nil]
  exact makesFirst

theorem of_events_append (events : List Event)
    (makes : connection.Makes (events.map Note.tell ++ notes) exchanges) :
    connection.Makes notes exchanges := by
  obtain ⟨told, others, makesTold, makesOthers, rfl⟩ := makes.of_append
  rw [makesTold.of_events events, List.nil_append]
  exact makesOthers

end Connection.Makes

end ChangeGate.Memory
