import ChangeGate.Failure
import ChangeGate.Http.Message
import ChangeGate.Text.Blank
import ChangeGate.Url.Parser
import ChangeGate.Version

/-!
# Clients

A client sends requests to one server and tells its answers from its refusals. Credentials come
from the settings, and from the address itself if it names a user.
-/

namespace ChangeGate.Http

open ChangeGate.Text

/-- The name under which every request is sent. -/
def userAgent : String := programName ++ "/" ++ programVersion

/-- The address of a server from the text in the settings. -/
def serverUrl (host : String) : Except ClientError Url :=
  match Url.parse? (String.ofList (trim host.toList)) with
  | some url => .ok url
  | none => .error (.invalidHost host)

/-- The credentials that an address names. -/
def urlCredentials? (url : Url) : Option Credentials := do
  let user ← Url.textOfBytes? (Url.percentDecode url.username.toList)
  let secret := url.password.bind fun password =>
    (Url.textOfBytes? (Url.percentDecode password.toList)).map String.ofList
  if user.isEmpty && secret.isNone then none else pure ⟨String.ofList user, secret⟩

/-- A client of one server. -/
structure Client (m : Type → Type) where
  transport : Transport m
  credentials : Option Credentials := none

namespace Client

variable {m : Type → Type} [Monad m]

/-- The request of a client. Credentials in its address travel as a header. -/
def request (client : Client m) (method : Method) (url : Url) (content : Option Content) :
    Request :=
  let named := urlCredentials? url
  { method
    url := if named.isSome then { url with username := "", password := none } else url
    headers :=
      ("user-agent", userAgent)
        :: (named.toList ++ client.credentials.toList).map Credentials.header
        ++ content.toList.map fun content => ("content-type", content.type)
    body := (content.map (·.text)).getD "" }

/-- The body of a response that reports success. -/
def answer (request : Request) (response : Response) : Except ClientError String :=
  if response.isSuccess then .ok response.body
  else
    .error (.status request.method.name request.url.text response.status
      (String.ofList (trim response.body.toList)))

/-- Send a request and wait for the body of its response. Only web addresses can be reached. -/
def exchange (client : Client m) (method : Method) (url : Url) (content : Option Content) :
    m (Except ClientError String) := do
  if url.scheme = "http" || url.scheme = "https" then
    let request := client.request method url content
    match ← client.transport request with
    | .ok response => pure (answer request response)
    | .error detail => pure (.error (.transport detail))
  else
    pure (.error (.transport ("no way to reach " ++ url.scheme)))

/-- Ask for a document. -/
def get (client : Client m) (url : Url) : m (Except ClientError String) :=
  client.exchange .get url none

/-- Ask that something be done; the answer says only that it was. -/
def post (client : Client m) (url : Url) (content : Option Content) :
    m (Except ClientError Unit) := do
  pure ((← client.exchange .post url content).map fun _ => ())

end Client

end ChangeGate.Http
