import ChangeGate.Settings.Basic
import ChangeGate.Text.Blank

/-!
# Valid settings

What settings must satisfy before a round may use them. The review host is checked first,
then the job, then the time limit.
-/

namespace ChangeGate

open ChangeGate.Text

/-- Why settings cannot be used. -/
inductive SettingsError where
  | noReviewHost
  | noJob
  | noTimeout
  deriving DecidableEq, Repr, Inhabited

/-- The wording of a settings error. -/
def SettingsError.message : SettingsError → String
  | .noReviewHost => "invalid configuration: gerrit.host must be set"
  | .noJob => "invalid configuration: jenkins.job must be set when jenkins.host is"
  | .noTimeout => "invalid configuration: presubmit.request_timeout_secs must be positive"

namespace Settings

/-- Builds are started only when there is a build server. -/
def dispatchEnabled (settings : Settings) : Bool :=
  !isBlankText settings.ci.host

/-- Check settings before use. -/
def validate (settings : Settings) : Except SettingsError Unit :=
  if isBlankText settings.review.host then .error .noReviewHost
  else if settings.dispatchEnabled && isBlankText settings.ci.job then .error .noJob
  else if settings.gate.requestTimeout = 0 then .error .noTimeout
  else .ok ()

end Settings

end ChangeGate
