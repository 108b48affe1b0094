import ChangeGate.Review.Ref
import ChangeGate.Settings.Validity

/-!
# Failures

Everything that can go wrong in a round, by cause. A failure at one of the two servers keeps
the reason, which is either a refused call or a request that did not get its answer.
-/

namespace ChangeGate

open ChangeGate.Review ChangeGate.Text

/-- Why a request to a server did not get its answer. -/
inductive ClientError where
  /-- The request was not delivered or not answered. -/
  | transport (detail : String)
  /-- The server answered with another status than success. -/
  | status (method url : String) (code : Nat) (body : String)
  /-- The answer is not the document that was asked for. -/
  | badBody (detail : String)
  /-- There is no host for the server. -/
  | notConfigured (server : String)
  /-- The host is no address that paths can be added to. -/
  | invalidHost (host : String)
  deriving DecidableEq, Repr, Inhabited

/-- The wording of a client error. -/
def ClientError.message : ClientError → String
  | .transport detail => "HTTP error: " ++ detail
  | .status method url code body =>
      method ++ " " ++ url ++ " returned " ++ numeral code ++ ": " ++ body
  | .badBody detail => "JSON parsing error: " ++ detail
  | .notConfigured server => server ++ " host not configured"
  | .invalidHost host => "invalid host URL " ++ quoted host

/-- A call that a server refuses. -/
inductive Refusal where
  | query (text : String)
  | post (reference : String)
  | submit (reference : String)
  | cancelQueued (id : UInt64)
  | stop (job : String) (number : UInt64)
  | start (job : String)
  | status (job : String)
  deriving DecidableEq, Repr, Inhabited

/-- The wording of a refusal. -/
def Refusal.message : Refusal → String
  | .query text => "query " ++ quoted text ++ " failed"
  | .post reference => "post to " ++ reference ++ " failed"
  | .submit reference => "submit of " ++ reference ++ " failed"
  | .cancelQueued id => "cancel queued " ++ numeral id.toNat ++ " failed"
  | .stop job number => "stop " ++ job ++ "#" ++ numeral number.toNat ++ " failed"
  | .start job => "add build to " ++ job ++ " failed"
  | .status job => "no status for " ++ job

/-- Why a call to a server failed. -/
inductive ServerError where
  | refused (refusal : Refusal)
  | client (error : ClientError)
  deriving DecidableEq, Repr, Inhabited

/-- The wording of a server error. -/
def ServerError.message : ServerError → String
  | .refused refusal => refusal.message
  | .client error => error.message

/-- Why a file could not be read or written. -/
inductive FileError where
  | notFound
  | isFolder
  | notText
  | other (detail : String)
  deriving DecidableEq, Repr, Inhabited

/-- The wording of a file error. -/
def FileError.message : FileError → String
  | .notFound => "No such file or directory (os error 2)"
  | .isFolder => "Is a directory (os error 21)"
  | .notText => "stream did not contain valid UTF-8"
  | .other detail => detail

/-- Everything that can go wrong in a round. -/
inductive Failure where
  /-- A line of the log is no ref. Lines count from one. -/
  | logLine (line : Nat) (cause : RefError)
  | ref (cause : RefError)
  | review (cause : ServerError)
  | ci (cause : ServerError)
  | settings (cause : SettingsError)
  | settingsFile (detail : String)
  | file (cause : FileError)
  deriving DecidableEq, Repr, Inhabited

/-- The wording of a failure. -/
def Failure.message : Failure → String
  | .logLine line cause => "log parse error at line " ++ numeral line ++ ": " ++ cause.message
  | .ref cause => cause.message
  | .review cause => "review server error: " ++ cause.message
  | .ci cause => "ci server error: " ++ cause.message
  | .settings cause => cause.message
  | .settingsFile detail => "config parse error: " ++ detail
  | .file cause => "io error: " ++ cause.message

end ChangeGate
