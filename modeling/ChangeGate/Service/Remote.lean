import ChangeGate.Ci.Address
import ChangeGate.Ci.Listing
import ChangeGate.Http.Client
import ChangeGate.Json.Printer
import ChangeGate.Review.Address
import ChangeGate.Review.Listing
import ChangeGate.Service.Interface
import ChangeGate.Settings.Basic

/-!
# Servers over HTTP

The review server and the build server as clients reach them. A call on several refs stops at
the first that fails, and a ref that cannot be read fails before anything is sent for it. A
build server without a host refuses every call.
-/

namespace ChangeGate.Service

open ChangeGate.Ci ChangeGate.Http ChangeGate.Json ChangeGate.Review ChangeGate.Round
  ChangeGate.Text

variable {m : Type → Type} [Monad m]

/-- The credentials in the settings of a server: only a user makes them. -/
def credentials (user secret : Option String) : Option Credentials :=
  user.map (⟨·, secret⟩)

/-- A failure at the review server. -/
def reviewFailure (cause : ClientError) : Failure := .review (.client cause)

/-- A failure at the build server. -/
def ciFailure (cause : ClientError) : Failure := .ci (.client cause)

/-! ## The review server -/

/-- The body of a review: the message, and the vote if it is given. -/
def reviewBody (message : String) (verified : Bool) : String :=
  let vote := if verified then [("labels", objectText [("Verified", ['1'])])] else []
  String.ofList (objectText (("message", quote message) :: vote))

/-- Send a request for each of some refs, in order, up to the first that fails. -/
def postEach (client : Client m) (url : ChangeRef → Url) (content : Option Content) :
    List String → m (Except Failure Unit)
  | [] => pure (.ok ())
  | reference :: rest => do
      match ChangeRef.parse reference with
      | .error cause => pure (.error (.ref cause))
      | .ok ref =>
          match ← client.post (url ref) content with
          | .error cause => pure (.error (reviewFailure cause))
          | .ok () => postEach client url content rest

/-- The review server at an address. Its listings are read in the way that is given. -/
def remoteReview (client : Client m) (server : Url) (reading : ListingReader := parseListing) :
    ReviewServer m where
  query text := do
    match ← client.get (queryUrl server text) with
    | .error cause => pure (.error (reviewFailure cause))
    | .ok body => pure ((reading body).mapError reviewFailure)
  post message references verified :=
    postEach client (reviewUrl server) (some ⟨"application/json", reviewBody message verified⟩)
      references
  submit references := postEach client (submitUrl server) none references

/-! ## The build server -/

/-- The form that starts a build with some parameters. -/
def startForm (params : BuildParams) : Content :=
  ⟨"application/x-www-form-urlencoded", String.ofList (Url.encodeForm (paramPairs params))⟩

/-- A call that needs the address of the build server. -/
def withServer {α : Type} (server : Option Url) (call : Url → m (Except ClientError α)) :
    m (Except Failure α) := do
  match server with
  | none => pure (.error (ciFailure (.notConfigured "jenkins")))
  | some server => pure ((← call server).mapError ciFailure)

/-- Ask for a document and read it. -/
def readDocument {α : Type} (client : Client m) (url : Url)
    (read : String → Except ClientError α) : m (Except ClientError α) := do
  pure ((← client.get url).bind read)

/-- The build server at an address, or nowhere. -/
def remoteCi (client : Client m) (server : Option Url) : CiServer m where
  queued job := withServer server fun server =>
    readDocument client (queueUrl server) (parseQueue · job)
  started job := withServer server fun server =>
    readDocument client (buildsUrl server job) parseBuilds
  cancelQueued id := withServer server fun server => client.post (cancelUrl server id) none
  stop job number := withServer server fun server => client.post (stopUrl server job number) none
  start job params := withServer server fun server =>
    client.post (startUrl server job) (some (startForm params))
  lastStatus job := withServer server fun server =>
    readDocument client (lastStatusUrl server job) parseStatus
  manualLink job params :=
    match server with
    | none => ""
    | some server => (manualUrl server job params).text

/-! ## From the settings -/

/-- The server that no client can be made for, and why. -/
inductive ConnectError where
  | review (cause : ClientError)
  | ci (cause : ClientError)
  deriving DecidableEq, Repr, Inhabited

/-- Why no client can be made. -/
def ConnectError.cause : ConnectError → ClientError
  | .review cause => cause
  | .ci cause => cause

/-- The review server of the settings. -/
def reviewOfSettings (settings : ReviewSettings) (transport : Transport m)
    (reading : ListingReader := parseListing) : Except ClientError (ReviewServer m) := do
  let client : Client m := ⟨transport, credentials settings.user settings.password⟩
  pure (remoteReview client (← serverUrl settings.host) reading)

/-- The address of the build server; a blank host is none. -/
def ciUrl? (host : String) : Except ClientError (Option Url) :=
  if isBlankText host then .ok none else (serverUrl host).map some

/-- The build server of the settings. -/
def ciOfSettings (settings : CiSettings) (transport : Transport m) :
    Except ClientError (CiServer m) := do
  let client : Client m := ⟨transport, credentials settings.user settings.token⟩
  pure (remoteCi client (← ciUrl? settings.host))

/-- The services of a round with the settings, over one transport. -/
def connect (settings : Settings) (transport : Transport m) (log : LogStore m)
    (emit : Event → m Unit) (reading : ListingReader := parseListing) :
    Except ConnectError (Services m) := do
  let review ← (reviewOfSettings settings.review transport reading).mapError ConnectError.review
  let ci ← (ciOfSettings settings.ci transport).mapError ConnectError.ci
  pure { review, ci, log, emit }

end ChangeGate.Service
