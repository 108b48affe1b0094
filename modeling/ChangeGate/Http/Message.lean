import ChangeGate.Text.Base64
import ChangeGate.Url.Basic

/-!
# Requests and responses

What a client sends to a server and what it gets back. How a request travels is left to a
transport in any monad.
-/

namespace ChangeGate.Http

open ChangeGate.Text

/-- What a request asks for: a document, or that something be done. -/
inductive Method where
  | get
  | post
  deriving DecidableEq, Repr, Inhabited

/-- The name of a method. -/
def Method.name : Method → String
  | .get => "GET"
  | .post => "POST"

/-- What a request carries. -/
structure Content where
  type : String
  text : String
  deriving DecidableEq, Repr, Inhabited

/-- A request with its headers, whose names are in lower case. -/
structure Request where
  method : Method
  url : Url
  headers : List (String × String)
  body : String := ""
  deriving DecidableEq, Repr, Inhabited

/-- A response with the text of its body. -/
structure Response where
  status : Nat
  body : String
  deriving DecidableEq, Repr, Inhabited

/-- A response that reports success. -/
def Response.isSuccess (response : Response) : Bool :=
  200 ≤ response.status && response.status < 300

/-- A way to send a request and to wait for its response. The error says why there is none. -/
abbrev Transport (m : Type → Type) := Request → m (Except String Response)

/-- How a client makes itself known to a server. -/
structure Credentials where
  user : String
  secret : Option String := none
  deriving DecidableEq, Repr, Inhabited

/-- The header that carries credentials. -/
def Credentials.header (credentials : Credentials) : String × String :=
  let pair := credentials.user ++ ":" ++ credentials.secret.getD ""
  ("authorization", "Basic " ++ String.ofList (base64 pair.toUTF8.toList))

end ChangeGate.Http
